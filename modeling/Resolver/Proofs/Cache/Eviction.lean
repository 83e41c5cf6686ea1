import Resolver.Proofs.Cache.Layout

/-!
# Making room

Main statements: giving up the oldest entry keeps the layout (`Laid.exists_evictOldest`), so does
turning round (`Laid.turn`), and making room gives up some of the oldest entries and succeeds
exactly if the wanted length is no more than all the space for entries (`Laid.makesRoom`).
-/

namespace Resolver.Cache

/-- Two stores with the same space and the same buckets. -/
structure Alike (c c' : Cache) : Prop where
  size_eq : c'.size = c.size
  heads_eq : c'.heads = c.heads
  hashKey_eq : c'.hashKey = c.hashKey

namespace Alike

variable {c c' c'' : Cache}

theorem refl (c : Cache) : Alike c c :=
  ⟨rfl, rfl, rfl⟩

theorem trans (h : Alike c c') (h' : Alike c' c'') : Alike c c'' :=
  ⟨h'.size_eq.trans h.size_eq, h'.heads_eq.trans h.heads_eq, h'.hashKey_eq.trans h.hashKey_eq⟩

end Alike

/-! ## Giving up the oldest entry -/

/-- What giving up the oldest entry comes to when every access succeeds. -/
theorem evictOldest_eq {c : Cache} {before link keyLength dataLength : Nat} {a : Arena}
    (hbefore : Arena.word c.arena c.oldest = .ok before)
    (hlink : Arena.word c.arena before = .ok link)
    (hset : Arena.setWord c.arena before (link ^^^ c.oldest) = .ok a)
    (hkey : Arena.word a (c.oldest + 4) = .ok keyLength)
    (hdata : Arena.word a (c.oldest + 8) = .ok dataLength)
    (hle : c.oldest + (keyLength + dataLength + entryHeader) ≤ c.unused) :
    c.evictOldest =
      .ok (if c.oldest + (keyLength + dataLength + entryHeader) = c.unused then
        { c with arena := a, oldest := a.size, unused := a.size }
      else
        { c with
          arena := a, oldest := c.oldest + (keyLength + dataLength + entryHeader) }) := by
  obtain ⟨arena, heads, writer, oldest, unused, hashKey, motion⟩ := c
  simp only at hbefore hlink hset hkey hdata hle ⊢
  unfold evictOldest
  simp only [bind, Except.bind, pure, Except.pure, hbefore, hlink, hset, hkey, hdata]
  rw [if_neg (Nat.not_lt.2 hle)]
  split <;> rfl

namespace Laid

variable {c : Cache} {filed : Nat → Bytes} {o : Placed} {old young : List Placed}

/-- The oldest entry stands where the older entries begin. -/
theorem oldest_eq (h : Laid c filed (o :: old) young) : c.oldest = o.pos :=
  h.old_tiled.1.symm

/-- The links that come before the oldest entry in its chain. -/
theorem chainOf_oldest (c : Cache) (filed : Nat → Bytes) (o : Placed) (old young : List Placed) :
    c.chainOf filed (c.home filed o) (o :: old ++ young) =
      c.chainOf filed (c.home filed o) (old ++ young) ++ [o.pos] :=
  chainOf_cons c filed o (old ++ young)

/-- The link of the oldest entry holds the offset of the link before it in its chain. -/
theorem word_oldest (h : Laid c filed (o :: old) young) :
    Arena.word c.arena c.oldest =
      .ok ((c.chainOf filed (c.home filed o) (old ++ young)).getLastD
        (c.home filed o)) := by
  have hchain := h.chained _ (isHead_home h.heads_pos filed o)
  rw [chainOf_oldest] at hchain
  rw [h.oldest_eq]
  exact hchain.word_last

/-- Once the oldest entry is cut off its chain, the others make up the chains. -/
theorem chained_of_cut (h : Laid c filed (o :: old) young) {a : Arena} {before link : Nat}
    (hbefore : before = (c.chainOf filed (c.home filed o) (old ++ young)).getLastD
      (c.home filed o))
    (hlink : Arena.word c.arena before = .ok link)
    (hcut : Arena.word a before = .ok (link ^^^ o.pos))
    (hsame : ∀ head q, c.IsHead head → q ∈ head :: c.chainOf filed head (o :: old ++ young) →
      q ≠ before → Arena.word a q = Arena.word c.arena q)
    (head : Nat) (hhead : c.IsHead head) :
    Arena.Chained a 0 head (c.chainOf filed head (old ++ young)) := by
  have hoHead := isHead_home h.heads_pos filed o
  have hchain := h.chained head hhead
  by_cases heq : c.home filed o = head
  · subst heq
    have hnodup := h.nodup_nodes hhead
    rw [chainOf_oldest] at hchain hnodup
    rw [← List.cons_append] at hnodup
    rw [hbefore] at hlink hcut hsame
    refine hchain.cut (hnodup.sublist (List.sublist_append_left _ _)) hlink hcut ?_
    intro q hq hne
    refine hsame _ q hhead ?_ hne
    rw [chainOf_oldest, ← List.cons_append]
    exact List.mem_append_left _ hq
  · -- the link written belongs to another bucket
    have hskip := chainOf_cons_of_ne heq (old ++ young)
    rw [List.cons_append] at hchain hsame
    rw [hskip] at hchain
    refine hchain.congr fun q hq => hsame head q hhead (by rwa [hskip]) fun hqb => heq ?_
    refine h.head_unique hoHead hhead (q := q) ?_ (by rwa [List.cons_append, hskip])
    rw [chainOf_oldest, ← List.cons_append, hqb, hbefore]
    exact List.mem_append_left _ List.getLastD_mem_cons

/-- Links can be written and the stretch of the older entries made shorter, as long as the entries
stay where they are and the links make up their chains. -/
theorem rearranged (h : Laid c filed old young) {a : Arena} {oldest unused : Nat} {kept : List Placed}
    (hsize : a.size = c.size) (hwriter : c.writer ≤ oldest) (holdest : oldest ≤ unused)
    (hunused : unused ≤ c.size) (hnone : oldest = unused → unused = c.size)
    (hkept : Tiled a unused oldest kept) (hyoung : ∀ p ∈ young, EntryAt a p.pos p.entry)
    (hchained : ∀ head, c.IsHead head →
      Arena.Chained a 0 head (c.chainOf filed head (kept ++ young))) :
    Laid { c with arena := a, oldest := oldest, unused := unused } filed kept young where
  size_le := Nat.le_trans (Nat.le_of_eq hsize) h.size_le
  heads_pos := h.heads_pos
  heads_dvd := h.heads_dvd
  heads_le_writer := h.heads_le_writer
  writer_le_oldest := hwriter
  oldest_le_unused := holdest
  unused_le_size := Nat.le_trans hunused (Nat.le_of_eq hsize.symm)
  unused_eq_size := fun heq => (hnone heq).trans hsize.symm
  old_tiled := hkept
  young_tiled := h.young_tiled.congr fun p hp _ => hyoung p hp
  chained := hchained

/-- Giving up the oldest entry keeps the layout of the others. -/
theorem exists_evictOldest (h : Laid c filed (o :: old) young) :
    ∃ c', c.evictOldest = .ok c' ∧ Laid c' filed old young ∧ Alike c c' := by
  have hoHead := isHead_home h.heads_pos filed o
  have hoMem : o ∈ o :: old ++ young := List.mem_append_left _ List.mem_cons_self
  -- the link to write is that of the node before the oldest entry, which may be the bucket link
  obtain ⟨before, hbefore⟩ : ∃ before, before =
      (c.chainOf filed (c.home filed o) (old ++ young)).getLastD (c.home filed o) := ⟨_, rfl⟩
  have hbNode : before ∈ c.home filed o ::
      c.chainOf filed (c.home filed o) (o :: old ++ young) := by
    rw [chainOf_oldest, ← List.cons_append, hbefore]
    exact List.mem_append_left _ List.getLastD_mem_cons
  obtain ⟨link, hlink⟩ := (h.chained _ hoHead).exists_word hbNode
  have hoNode : o.pos ∈ c.home filed o ::
      c.chainOf filed (c.home filed o) (o :: old ++ young) := by
    rw [chainOf_oldest]
    exact List.mem_cons_of_mem _ (List.mem_append_right _ (List.mem_singleton.2 rfl))
  have hlt : link ^^^ o.pos < 0x100000000 :=
    Arena.xor_lt (Arena.lt_of_word_eq hlink) (h.node_lt hoHead hoNode)
  obtain ⟨a, hset, hsize, hcut, hsame, hentries⟩ := h.setWord hoHead hbNode hlt
  -- the lengths are read after the link was written, but no entry was touched
  have ho := hentries o hoMem
  have hend := (h.old_tiled.mem List.mem_cons_self).2.2
  have hevict := evictOldest_eq (h.word_oldest.trans (by rw [← hbefore])) hlink
    (by rw [h.oldest_eq]; exact hset) (by rw [h.oldest_eq]; exact ho.keyLength_eq)
    (by rw [h.oldest_eq]; exact ho.dataLength_eq) (by rw [h.oldest_eq]; exact hend)
  have hchained := h.chained_of_cut hbefore hlink hcut hsame
  have hold : Tiled a c.unused (o.pos + o.entry.length) old := by
    rw [← h.oldest_eq]
    apply h.old_tiled.2.2.congr
    intro p hp _
    exact hentries p (List.mem_append_left _ (List.mem_cons_of_mem _ hp))
  have hyoung : ∀ p ∈ young, EntryAt a p.pos p.entry :=
    fun p hp => hentries p (List.mem_append_right _ hp)
  have hwriter := h.writer_le_oldest
  have hunused := h.unused_le_size
  rw [h.oldest_eq] at hwriter hevict
  rw [show o.entry.key.length + o.entry.data.length + entryHeader = o.entry.length from rfl]
    at hevict
  by_cases hlast : o.pos + o.entry.length = c.unused
  · -- nothing is left of the older entries, so the space behind them is free as well
    have hnil : old = [] := hold.eq_nil_iff.2 hlast
    rw [if_pos hlast, hsize] at hevict
    refine ⟨_, hevict, ?_, ⟨hsize, rfl, rfl⟩⟩
    exact h.rearranged hsize (by omega) (Nat.le_refl _) (Nat.le_refl _) (fun _ => rfl)
      (hnil ▸ rfl) hyoung hchained
  · rw [if_neg hlast] at hevict
    refine ⟨_, hevict, ?_, ⟨hsize, rfl, rfl⟩⟩
    exact h.rearranged hsize (by omega) hend hunused (fun heq => absurd heq hlast) hold hyoung
      hchained

theorem of_evictOldest {c' : Cache} (h : Laid c filed (o :: old) young)
    (hevict : c.evictOldest = .ok c') : Laid c' filed old young ∧ Alike c c' := by
  obtain ⟨c'', hevict', hlaid⟩ := h.exists_evictOldest
  rw [hevict] at hevict'
  obtain rfl := Except.ok.inj hevict'
  exact hlaid

theorem evictOldest_ne_error (h : Laid c filed (o :: old) young) (e : Damage) :
    c.evictOldest ≠ .error e := by
  intro hevict
  obtain ⟨c', hevict', -⟩ := h.exists_evictOldest
  rw [hevict] at hevict'
  contradiction

/-! ## Turning round -/

/-- Turning round makes the younger entries the older ones. -/
theorem turn (h : Laid c filed old young) (hnone : c.oldest = c.unused) (hsome : c.heads < c.writer) :
    Laid c.turn filed young [] := by
  have hwriter := h.writer_le_oldest
  have hunused := h.unused_le_size
  exact {
    size_le := h.size_le
    heads_pos := h.heads_pos
    heads_dvd := h.heads_dvd
    heads_le_writer := Nat.le_refl _
    writer_le_oldest := Nat.le_refl _
    oldest_le_unused := h.heads_le_writer
    unused_le_size := by
      show c.writer ≤ c.size
      omega
    unused_eq_size := fun heq => absurd heq (Nat.ne_of_lt hsome)
    old_tiled := h.young_tiled
    young_tiled := rfl
    chained := by
      -- no link is written: without older entries the chains were those of the younger ones
      intro head hhead
      have hchain := h.chained head hhead
      rw [h.old_tiled.eq_nil_iff.2 hnone, List.nil_append] at hchain
      rw [List.append_nil]
      exact hchain }

end Laid

/-! ## Making room -/

/-- While there are older entries, making room gives up the oldest and goes on. -/
theorem makeRoom_of_older {c : Cache} {length : Nat} (hfull : ¬ c.writer + length ≤ c.oldest)
    (hsome : c.oldest ≠ c.unused) :
    c.makeRoom length = c.evictOldest.bind fun c' => c'.makeRoom length := by
  rw [makeRoom, if_neg hfull, if_neg hsome]
  split <;> rename_i hevict <;> rw [hevict] <;> rfl

/-- Without older entries, it turns round first. -/
theorem makeRoom_of_younger {c : Cache} {length : Nat} (hfull : ¬ c.writer + length ≤ c.oldest)
    (hnone : c.oldest = c.unused) (hsome : ¬ c.writer ≤ c.heads) :
    c.makeRoom length = c.turn.evictOldest.bind fun c' => c'.makeRoom length := by
  rw [makeRoom, if_neg hfull, if_pos hnone, if_neg hsome]
  split <;> rename_i hevict <;> rw [hevict] <;> rfl

/-- What making room for `length` bytes should come to in a store with the given entries: some of
the oldest are given up and the layout of the others is kept. There is room in the end exactly if
the length is no more than all the space for entries; otherwise every entry is given up. -/
def MakesRoom (c : Cache) (filed : Nat → Bytes) (length : Nat) (entries : List Placed)
    (result : Except Damage (Bool × Cache)) : Prop :=
  ∃ c' old young gone,
    result = .ok (decide (c.heads + length ≤ c.size), c') ∧ Laid c' filed old young ∧ Alike c c' ∧
      entries = gone ++ (old ++ young) ∧
      if c.heads + length ≤ c.size then c'.writer + length ≤ c'.oldest else old ++ young = []

/-- One more entry was given up before. -/
theorem MakesRoom.cons {c c' : Cache} {filed : Nat → Bytes} {length : Nat} {entries : List Placed}
    {result : Except Damage (Bool × Cache)} (h : MakesRoom c' filed length entries result)
    (halike : Alike c c') (o : Placed) : MakesRoom c filed length (o :: entries) result := by
  obtain ⟨c'', old, young, gone, hresult, hlaid, halike', hentries, hend⟩ := h
  rw [halike.heads_eq, halike.size_eq] at hresult hend
  refine ⟨c'', old, young, o :: gone, hresult, hlaid, halike.trans halike', ?_, hend⟩
  rw [hentries, List.cons_append]

/-- Making room gives up the entries it should. -/
theorem Laid.makesRoom {c : Cache} {filed : Nat → Bytes} {old young : List Placed}
    (h : Laid c filed old young) (length : Nat) :
    MakesRoom c filed length (old ++ young) (c.makeRoom length) := by
  fun_induction makeRoom c length generalizing old young with
  | case1 c hfit =>
    have := h.heads_le_writer
    have := h.oldest_le_size
    have hle : c.heads + length ≤ c.size := by omega
    refine ⟨c, old, young, [], ?_, h, .refl c, rfl, ?_⟩
    · rw [decide_eq_true hle]
    · rw [if_pos hle]
      exact hfit
  | case2 c hfit hnone hempty =>
    have := h.heads_le_writer
    have := h.unused_eq_size hnone
    have hle : ¬ c.heads + length ≤ c.size := by omega
    have hyoung : young = [] := h.young_tiled.eq_nil_iff.2 (by omega)
    refine ⟨c, old, young, [], ?_, h, .refl c, rfl, ?_⟩
    · rw [decide_eq_false hle]
    · rw [if_neg hle, h.old_tiled.eq_nil_iff.2 hnone, hyoung]
      rfl
  -- with no older entries left, the writer turns round and the first of the younger ones goes
  | case3 c hfit hnone hsome e hevict =>
    obtain ⟨o, rest, rfl⟩ := h.young_tiled.exists_cons (by omega)
    exact absurd hevict ((h.turn hnone (by omega)).evictOldest_ne_error e)
  | case4 c hfit hnone hsome c' hevict ih =>
    obtain ⟨o, rest, rfl⟩ := h.young_tiled.exists_cons (by omega)
    obtain ⟨hlaid, halike⟩ := (h.turn hnone (by omega)).of_evictOldest hevict
    have hback : Alike c c' := ⟨halike.size_eq, halike.heads_eq, halike.hashKey_eq⟩
    have hroom := (ih hlaid).cons hback o
    rw [List.append_nil] at hroom
    rw [h.old_tiled.eq_nil_iff.2 hnone, List.nil_append]
    exact hroom
  | case5 c hfit hsome e hevict =>
    obtain ⟨o, rest, rfl⟩ := h.old_tiled.exists_cons hsome
    exact absurd hevict (h.evictOldest_ne_error e)
  | case6 c hfit hsome c' hevict ih =>
    obtain ⟨o, rest, rfl⟩ := h.old_tiled.exists_cons hsome
    obtain ⟨hlaid, halike⟩ := h.of_evictOldest hevict
    exact (ih hlaid).cons halike o

end Resolver.Cache
