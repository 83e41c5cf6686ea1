import Resolver.Proofs.Cache.Retention

/-!
# Stores with other hash keys

The hash key of a store decides in which chains its entries are, and so what the links in its arena
are. It does not decide where entries stand: two stores that were used in the same way have the same
entries at the same offsets (`Twins`), whatever their hash keys.

Main statements: storing does the same to such stores (`Twins.exists_set`), a search finds the same
in them unless many entries may share a bucket (`Twins.exists_get`), and so a run keeps the same
entries and counts the same bytes under any hash key (`Clocked.run_hashKey`).

A search finds what it should only in a store that is settled, so what is said of searches is said of
runs in which no memory is refused.
-/

namespace Resolver.Cache

/-- No more than so many entries are newer than the newest one with the key, if there is one. -/
def Recent (count : Nat) (entries : List Entry) (key : Bytes) : Prop :=
  ∀ older e newer, entries = older ++ e :: newer → e.key = key → (∀ x ∈ newer, x.key ≠ key) →
    newer.length ≤ count

/-! ## The same entries at the same offsets -/

/-- Two stores of one size are laid out with the same entries, and as much was written to both. -/
structure Twins (c d : Cache) (old young : List Placed) : Prop where
  left : ∃ filed, Laid c filed old young
  right : ∃ filed, Laid d filed old young
  size_eq : d.size = c.size
  heads_eq : d.heads = c.heads
  motion_eq : d.motion = c.motion

/-- The cursors of a store are told by its sizes and its entries. -/
theorem Laid.cursors {c : Cache} {filed : Nat → Bytes} {old young : List Placed}
    (h : Laid c filed old young) :
    c.writer = c.heads + taken (young.map Placed.entry) ∧
      c.oldest = (old.head?.map Placed.pos).getD c.size ∧
      c.unused = c.oldest + taken (old.map Placed.entry) := by
  refine ⟨h.young_tiled.add_taken.symm, ?_, h.old_tiled.add_taken.symm⟩
  cases old with
  | nil =>
    have hnone := h.old_tiled.eq_nil_iff.1 rfl
    exact hnone.trans (h.unused_eq_size hnone)
  | cons o rest => exact h.oldest_eq

namespace Twins

variable {c d c' d' : Cache} {o : Placed} {old young : List Placed} {length : Nat}

theorem cursors (h : Twins c d old young) :
    d.writer = c.writer ∧ d.oldest = c.oldest ∧ d.unused = c.unused := by
  obtain ⟨filed, hleft⟩ := h.left
  obtain ⟨filed', hright⟩ := h.right
  obtain ⟨hwriter, holdest, hunused⟩ := hleft.cursors
  obtain ⟨hwriter', holdest', hunused'⟩ := hright.cursors
  rw [h.size_eq] at holdest'
  rw [h.heads_eq] at hwriter'
  refine ⟨hwriter'.trans hwriter.symm, holdest'.trans holdest.symm, ?_⟩
  rw [hunused', hunused, holdest', holdest]

theorem live_eq (h : Twins c d old young) : d.live = c.live := by
  obtain ⟨filed, hleft⟩ := h.left
  obtain ⟨filed', hright⟩ := h.right
  exact hright.live_eq.trans hleft.live_eq.symm

theorem stats_eq (h : Twins c d old young) : d.stats = c.stats := by
  obtain ⟨hwriter, holdest, hunused⟩ := h.cursors
  unfold stats used
  rw [h.size_eq, h.heads_eq, h.motion_eq, hwriter, holdest, hunused]

/-! ## Making room -/

/-- Both stores give up the same entry. -/
theorem exists_evictOldest (h : Twins c d (o :: old) young) :
    ∃ c' d', c.evictOldest = .ok c' ∧ d.evictOldest = .ok d' ∧ Twins c' d' old young := by
  obtain ⟨filed, hleft⟩ := h.left
  obtain ⟨filed', hright⟩ := h.right
  obtain ⟨c', hevict, hlaid, halike⟩ := hleft.exists_evictOldest
  obtain ⟨d', hevict', hlaid', halike'⟩ := hright.exists_evictOldest
  obtain ⟨-, -, -, hmotion, -⟩ := evictOldest_ok hevict
  obtain ⟨-, -, -, hmotion', -⟩ := evictOldest_ok hevict'
  exact ⟨c', d', hevict, hevict', {
    left := ⟨_, hlaid⟩
    right := ⟨_, hlaid'⟩
    size_eq := by rw [halike.size_eq, halike'.size_eq, h.size_eq]
    heads_eq := by rw [halike.heads_eq, halike'.heads_eq, h.heads_eq]
    motion_eq := by rw [hmotion, hmotion', h.motion_eq] }⟩

/-- Both stores turn round together. -/
theorem turn (h : Twins c d old young) (hnone : c.oldest = c.unused) (hsome : c.heads < c.writer) :
    Twins c.turn d.turn young [] := by
  obtain ⟨hwriter, holdest, hunused⟩ := h.cursors
  obtain ⟨filed, hleft⟩ := h.left
  obtain ⟨filed', hright⟩ := h.right
  exact {
    left := ⟨filed, hleft.turn hnone hsome⟩
    right := ⟨filed', hright.turn (by rw [holdest, hunused, hnone])
      (by rw [h.heads_eq, hwriter]; exact hsome)⟩
    size_eq := h.size_eq
    heads_eq := h.heads_eq
    motion_eq := h.motion_eq }

/-- Both stores give up the same entries to make room, and there is room in both or in neither. -/
theorem exists_makeRoom (h : Twins c d old young) (length : Nat) :
    ∃ fits c' d' old' young', c.makeRoom length = .ok (fits, c') ∧
      d.makeRoom length = .ok (fits, d') ∧ Twins c' d' old' young' ∧
      (fits = true → c'.writer + length ≤ c'.oldest) := by
  -- the cursors of the two agree, so both take the same branch
  fun_induction Cache.makeRoom c length generalizing d old young with
  | case1 c hfit =>
    obtain ⟨hwriter, holdest, -⟩ := h.cursors
    refine ⟨true, c, d, old, young, rfl, ?_, h, fun _ => hfit⟩
    rw [makeRoom, hwriter, holdest, if_pos hfit]
  | case2 c hfull hnone hempty =>
    obtain ⟨hwriter, holdest, hunused⟩ := h.cursors
    refine ⟨false, c, d, old, young, rfl, ?_, h, fun hfits => absurd hfits Bool.false_ne_true⟩
    rw [makeRoom, hwriter, holdest, hunused, h.heads_eq, if_neg hfull, if_pos hnone, if_pos hempty]
  | case3 c hfull hnone hsome e hevict =>
    obtain ⟨filed, hleft⟩ := h.left
    obtain ⟨o, rest, rfl⟩ := hleft.young_tiled.exists_cons (by omega)
    exact absurd hevict ((hleft.turn hnone (by omega)).evictOldest_ne_error e)
  | case4 c hfull hnone hsome c' hevict ih =>
    obtain ⟨hwriter, holdest, hunused⟩ := h.cursors
    obtain ⟨filed, hleft⟩ := h.left
    obtain ⟨o, rest, rfl⟩ := hleft.young_tiled.exists_cons (by omega)
    obtain ⟨c₁, d₁, hevict₁, hevict', htwins⟩ := (h.turn hnone (by omega)).exists_evictOldest
    obtain rfl := Except.ok.inj (hevict.symm.trans hevict₁)
    rw [← hwriter, ← holdest] at hfull
    rw [← hwriter, ← h.heads_eq] at hsome
    rw [makeRoom_of_younger hfull (by rw [holdest, hunused, hnone]) hsome, hevict']
    exact ih htwins
  | case5 c hfull hsome e hevict =>
    obtain ⟨filed, hleft⟩ := h.left
    obtain ⟨o, rest, rfl⟩ := hleft.old_tiled.exists_cons hsome
    exact absurd hevict (hleft.evictOldest_ne_error e)
  | case6 c hfull hsome c' hevict ih =>
    obtain ⟨hwriter, holdest, hunused⟩ := h.cursors
    obtain ⟨filed, hleft⟩ := h.left
    obtain ⟨o, rest, rfl⟩ := hleft.old_tiled.exists_cons hsome
    obtain ⟨c₁, d₁, hevict₁, hevict', htwins⟩ := h.exists_evictOldest
    obtain rfl := Except.ok.inj (hevict.symm.trans hevict₁)
    rw [← hwriter, ← holdest] at hfull
    rw [← holdest, ← hunused] at hsome
    rw [makeRoom_of_older hfull hsome, hevict']
    exact ih htwins

/-! ## Storing and searching -/

/-- Both stores put an entry in at the same place. -/
theorem exists_push {e : Entry} (h : Twins c d old young) (hlimits : e.WithinLimits)
    (hroom : c.writer + e.length ≤ c.oldest) :
    ∃ c' d', c.push e.expiry e.key e.data = .ok c' ∧ d.push e.expiry e.key e.data = .ok d' ∧
      Twins c' d' old (young ++ [⟨c.writer, e⟩]) := by
  obtain ⟨hwriter, holdest, -⟩ := h.cursors
  obtain ⟨filed, hleft⟩ := h.left
  obtain ⟨filed', hright⟩ := h.right
  obtain ⟨c', hpush, hlaid, halike, hmotion⟩ := hleft.exists_push_update hlimits hroom
  obtain ⟨d', hpush', hlaid', halike', hmotion'⟩ :=
    hright.exists_push_update hlimits (by rw [hwriter, holdest]; exact hroom)
  rw [hwriter] at hlaid'
  exact ⟨c', d', hpush, hpush', {
    left := ⟨_, hlaid⟩
    right := ⟨_, hlaid'⟩
    size_eq := by rw [halike.size_eq, halike'.size_eq, h.size_eq]
    heads_eq := by rw [halike.heads_eq, halike'.heads_eq, h.heads_eq]
    motion_eq := by rw [hmotion, hmotion', h.motion_eq] }⟩

/-- Storing does the same to both stores. -/
theorem exists_set (h : Twins c d old young) (now : Tai64) (key data : Bytes) (ttl : Nat) :
    ∃ c' d' old' young', c.set now key data ttl = .ok c' ∧ d.set now key data ttl = .ok d' ∧
      Twins c' d' old' young' := by
  by_cases hrefused : maxKey < key.length ∨ maxData < data.length ∨ ttl = 0
  · exact ⟨c, d, old, young, set_of_refused now hrefused, set_of_refused now hrefused, h⟩
  obtain ⟨fits, c₁, d₁, old₁, young₁, hroom, hroom', htwins, hfree⟩ :=
    h.exists_makeRoom (key.length + data.length + entryHeader)
  have hset := set_of_makeRoom now hrefused hroom
  have hset' := set_of_makeRoom now hrefused hroom'
  cases fits with
  | false => exact ⟨c₁, d₁, old₁, young₁, hset, hset', htwins⟩
  | true =>
    obtain ⟨hkey, hrest⟩ := not_or.1 hrefused
    have hlimits : (⟨key, data, now.add (min ttl maxTtl)⟩ : Entry).WithinLimits :=
      ⟨Nat.not_lt.1 hkey, Nat.not_lt.1 (not_or.1 hrest).1⟩
    obtain ⟨c', d', hpush, hpush', htwins'⟩ := htwins.exists_push hlimits (hfree rfl)
    exact ⟨c', d', old₁, _, hset.trans hpush, hset'.trans hpush', htwins'⟩

/-- A search finds the same in both stores, if they are settled, unless too many entries are newer than
the one it is for, so that too many may share its bucket. -/
theorem exists_get (h : Twins c d old young) (hc : c.Settled) (hd : d.Settled) (now : Tai64)
    {key : Bytes} (hrecent : Recent maxChain c.entries key) :
    ∃ answer, c.get now key = .ok answer ∧ d.get now key = .ok answer := by
  obtain ⟨answer, hget, hanswer⟩ := Laid.exists_get_of_current hc now key
  obtain ⟨answer', hget', hanswer'⟩ := Laid.exists_get_of_current hd now key
  have hlive : d.old ++ d.young = c.old ++ c.young := h.live_eq
  rw [hlive] at hanswer'
  -- entries that share a bucket are no more than there are
  have hreach : ∀ (p : Placed → Bool) older q newer, c.old ++ c.young = older ++ q :: newer →
      q.entry.key = key → (∀ x ∈ newer, x.entry.key ≠ key) → newer.countP p ≤ maxChain := by
    intro p older q newer hsplit hkey hnewer
    have hentries : c.entries =
        older.map Placed.entry ++ q.entry :: newer.map Placed.entry := by
      unfold entries live
      rw [hsplit, List.map_append, List.map_cons]
    have hlength := hrecent _ _ _ hentries hkey (List.forall_mem_map.2 hnewer)
    rw [List.length_map] at hlength
    exact Nat.le_trans List.countP_le_length hlength
  have hsame : answer = answer' := by
    refine Option.ext fun hit => (hanswer hit).trans (Iff.trans ?_ (hanswer' hit).symm)
    constructor
    · rintro ⟨older, q, newer, hsplit, hkey, hnewer, -, hhit⟩
      exact ⟨older, q, newer, hsplit, hkey, hnewer, hreach _ _ _ _ hsplit hkey hnewer, hhit⟩
    · rintro ⟨older, q, newer, hsplit, hkey, hnewer, -, hhit⟩
      exact ⟨older, q, newer, hsplit, hkey, hnewer, hreach _ _ _ _ hsplit hkey hnewer, hhit⟩
  exact ⟨answer, hget, hsame ▸ hget'⟩

/-- With other hash keys, both stores have the entries they had. -/
theorem rekeyed (h : Twins c d old young) (hashKey : Bytes) :
    Twins { c with hashKey := hashKey } { d with hashKey := hashKey } old young where
  left := by
    obtain ⟨filed, hleft⟩ := h.left
    exact ⟨filed, hleft.rekeyed hashKey⟩
  right := by
    obtain ⟨filed, hright⟩ := h.right
    exact ⟨filed, hright.rekeyed hashKey⟩
  size_eq := h.size_eq
  heads_eq := h.heads_eq
  motion_eq := h.motion_eq

end Twins

/-- New stores are alike whatever their hash keys. -/
theorem twins_blank (capacity : Nat) (hashKey hashKey' : Bytes) (motion : UInt64) :
    Twins (blank capacity hashKey motion) (blank capacity hashKey' motion) [] [] where
  left := ⟨fun _ => hashKey, laid_blank capacity hashKey motion _⟩
  right := ⟨fun _ => hashKey', laid_blank capacity hashKey' motion _⟩
  size_eq := rfl
  heads_eq := rfl
  motion_eq := rfl

/-! ## Runs -/

namespace Clocked

variable {s t : Clocked} {old young : List Placed}

/-- An operation does the same to both stores. -/
theorem exists_perform_twins (h : Twins s.cache t.cache old young) (hnow : t.now = s.now)
    (op : Operation) :
    ∃ answer answer' s' t' old' young', s.perform op = .ok (answer, s') ∧
      t.perform op = .ok (answer', t') ∧ Twins s'.cache t'.cache old' young' ∧
      t'.now = s'.now := by
  cases op with
  | set key data ttl =>
    obtain ⟨c, d, old', young', hset, hset', htwins⟩ := h.exists_set s.now key data ttl
    refine ⟨none, none, ⟨c, s.now⟩, ⟨d, t.now⟩, old', young', ?_, ?_, htwins, hnow⟩
    · rw [perform, hset]
      rfl
    · rw [perform, hnow, hset']
      rfl
  | get key =>
    obtain ⟨filed, hleft⟩ := h.left
    obtain ⟨filed', hright⟩ := h.right
    obtain ⟨answer, hget, -⟩ := hleft.exists_get s.now key
    obtain ⟨answer', hget', -⟩ := hright.exists_get t.now key
    refine ⟨answer, answer', s, t, old, young, ?_, ?_, h, hnow⟩
    · rw [perform, hget]
      rfl
    · rw [perform, hget']
      rfl
  | reinit capacity hashKey granted =>
    cases granted with
    | true =>
      have hblank := twins_blank capacity hashKey hashKey s.cache.motion
      refine ⟨none, none, _, _, [], [], rfl, rfl, ?_, hnow⟩
      show Twins (blank capacity hashKey s.cache.motion) (blank capacity hashKey t.cache.motion)
        [] []
      rw [h.motion_eq]
      exact hblank
    | false => exact ⟨none, none, _, _, old, young, rfl, rfl, h.rekeyed hashKey, hnow⟩
  | clock now => exact ⟨none, none, _, _, old, young, rfl, rfl, h, rfl⟩

/-- Operations do the same to both stores. -/
theorem exists_run_twins (h : Twins s.cache t.cache old young) (hnow : t.now = s.now)
    (ops : List Operation) :
    ∃ answers answers' s' t' old' young', s.run ops = .ok (answers, s') ∧
      t.run ops = .ok (answers', t') ∧ Twins s'.cache t'.cache old' young' ∧
      t'.now = s'.now := by
  induction ops generalizing s t old young with
  | nil => exact ⟨[], [], s, t, old, young, rfl, rfl, h, hnow⟩
  | cons op ops ih =>
    obtain ⟨answer, answer', s₁, t₁, _, _, hperform, hperform', h₁, hnow₁⟩ :=
      exists_perform_twins h hnow op
    obtain ⟨answers, answers', s₂, t₂, old', young', hrun, hrun', h₂, hnow₂⟩ := ih h₁ hnow₁
    refine ⟨answer :: answers, answer' :: answers', s₂, t₂, old', young', ?_, ?_, h₂, hnow₂⟩
    · rw [run, hperform]
      simp only
      rw [hrun]
      rfl
    · rw [run, hperform']
      simp only
      rw [hrun']
      rfl

/-- The hash key does not influence what is kept. The same operations on two new stores of one
capacity succeed in both and leave the same entries at the same offsets and the same counts. As long as
no memory was refused when the stores were to start over, a search is then answered alike for every key
unless more than a hundred entries are newer than the newest one with it. -/
theorem run_hashKey (capacity : Nat) (hashKey hashKey' : Bytes) (now : Tai64)
    (ops : List Operation) :
    ∃ answers answers' s s', (new capacity hashKey now).run ops = .ok (answers, s) ∧
      (new capacity hashKey' now).run ops = .ok (answers', s') ∧ s'.now = s.now ∧
      s'.cache.stats = s.cache.stats ∧ s'.cache.live = s.cache.live ∧
      ((∀ op ∈ ops, op.isRefused = false) →
        ∀ key, Recent maxChain s.cache.entries key →
          ∃ answer, s.cache.get s.now key = .ok answer ∧
            s'.cache.get s'.now key = .ok answer) := by
  obtain ⟨answers, answers', s, s', old, young, hrun, hrun', htwins, hnow⟩ :=
    exists_run_twins (s := new capacity hashKey now) (t := new capacity hashKey' now)
      (twins_blank capacity hashKey hashKey' 0) rfl ops
  refine ⟨answers, answers', s, s', hrun, hrun', hnow, htwins.stats_eq, htwins.live_eq, ?_⟩
  intro hops key hrecent
  rw [hnow]
  exact htwins.exists_get (settled_of_run hrun hops) (settled_of_run hrun' hops) s.now hrecent

end Clocked

end Resolver.Cache
