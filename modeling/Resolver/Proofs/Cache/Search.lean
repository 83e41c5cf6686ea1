import Resolver.Proofs.Cache.Layout

/-!
# Finding an entry

A search walks the chain of a bucket from its newest entry. Main statements: it answers from the
first of the entries within reach that has the key (`search_eq`), which is the newest entry with that
key unless too many newer ones share its bucket (`Laid.exists_get`).
-/

namespace Resolver.Cache

/-- The answer an entry gives: none once it is older than its time to live. -/
def Entry.answer (e : Entry) (now : Tai64) : Option Hit :=
  if e.expiry.seconds < now.seconds then none
  else some ⟨e.data, min (e.expiry.secondsSince now) maxTtl⟩

/-! ## At one entry -/

theorem EntryAt.holds_eq {c : Cache} {pos : Nat} {e : Entry} (h : EntryAt c.arena pos e)
    (key : Bytes) : c.holds pos key = .ok (e.key == key) := by
  unfold holds
  simp only [bind, Except.bind, pure, Except.pure, h.keyLength_eq]
  by_cases hlen : e.key.length = key.length
  · have hkey := h.key_eq
    rw [hlen] at hkey
    rw [if_neg (not_not_intro hlen), hkey]
  · have hne : e.key ≠ key := fun heq => hlen (congrArg List.length heq)
    rw [if_pos hlen, beq_false_of_ne hne]

theorem EntryAt.answer_eq {c : Cache} {pos : Nat} {e : Entry} (h : EntryAt c.arena pos e)
    (now : Tai64) : c.answer now pos e.key.length = .ok (e.answer now) := by
  unfold answer Entry.answer
  simp only [bind, Except.bind, pure, Except.pure, h.expiry_eq, Tai64.unpack_pack]
  split
  · rfl
  · simp only [h.dataLength_eq, h.data_eq]

/-! ## Along a chain -/

/-- A search that has come to the link at `prev` answers from the first of the entries behind it
and within reach that has the key. -/
theorem search_eq {c : Cache} (now : Tai64) (key : Bytes) {ps : List Placed} (steps : Nat)
    {before prev : Nat} (hentries : ∀ p ∈ ps, EntryAt c.arena p.pos p.entry ∧ p.pos ≠ 0)
    (hchain : Arena.Chained c.arena before prev (ps.map Placed.pos)) :
    c.search now key steps prev ((ps.map Placed.pos).headD 0) =
      .ok (((ps.take steps).find? (·.entry.key = key)).bind (·.entry.answer now)) := by
  induction steps generalizing ps before prev with
  | zero => rfl
  | succ steps ih =>
    unfold search
    cases ps with
    | nil => rfl
    | cons p rest =>
      obtain ⟨hp, hne⟩ := hentries p List.mem_cons_self
      have hlinks : Arena.Chained c.arena prev p.pos (rest.map Placed.pos) := hchain.2
      rw [List.map_cons, List.headD_cons, if_neg hne, List.take_succ_cons]
      simp only [bind, Except.bind, hp.holds_eq]
      by_cases hkey : p.entry.key = key
      · rw [if_pos (by simpa using hkey), List.find?_cons_of_pos (by simpa using hkey), ← hkey]
        exact hp.answer_eq now
      · rw [if_neg (by simpa using hkey), List.find?_cons_of_neg (by simpa using hkey),
          hlinks.word_here]
        -- the link without the offset that was come from is the offset to go on to
        have hnext : prev ^^^ (prev ^^^ (rest.map Placed.pos).headD 0) =
            (rest.map Placed.pos).headD 0 := by
          rw [← Nat.xor_assoc, Nat.xor_self, Nat.zero_xor]
        simp only [hnext]
        exact ih (fun q hq => hentries q (List.mem_cons_of_mem _ hq)) hlinks

/-- The first of the elements within reach that pass both tests: it is the first of all that pass
both, unless that is out of reach. -/
theorem find?_take_filter {α : Type} (p q : α → Bool) (l : List α) (n : Nat) :
    ((l.filter p).take n).find? q =
      if (l.takeWhile fun x => !(p x && q x)).countP p < n then l.find? fun x => p x && q x
      else none := by
  induction l generalizing n with
  | nil =>
    rw [List.filter_nil, List.take_nil, List.find?_nil, List.find?_nil, ite_self]
  | cons x l ih =>
    by_cases hp : p x = true
    · rw [List.filter_cons_of_pos hp]
      by_cases hq : q x = true
      · rw [List.takeWhile_cons_of_neg (by simp [hp, hq]),
          List.find?_cons_of_pos (p := fun x => p x && q x) (by simp [hp, hq]), List.countP_nil]
        cases n with
        | zero => rfl
        | succ n => rw [List.take_succ_cons, List.find?_cons_of_pos hq, if_pos (Nat.succ_pos n)]
      · rw [List.takeWhile_cons_of_pos (by simp [hq]),
          List.find?_cons_of_neg (p := fun x => p x && q x) (by simp [hq]),
          List.countP_cons_of_pos hp]
        cases n with
        | zero => rfl
        | succ n =>
          rw [List.take_succ_cons, List.find?_cons_of_neg hq, ih]
          simp only [Nat.add_lt_add_iff_right]
    · rw [List.filter_cons_of_neg hp, ih, List.takeWhile_cons_of_pos (by simp [hp]),
        List.find?_cons_of_neg (p := fun x => p x && q x) (by simp [hp]),
        List.countP_cons_of_neg hp]

/-- The same, with the elements before the one that is found. -/
theorem find?_take_filter_eq_some_iff {α : Type} {p q : α → Bool} {l : List α} {n : Nat} {x : α} :
    ((l.filter p).take n).find? q = some x ↔
      p x = true ∧ q x = true ∧ ∃ front back, l = front ++ x :: back ∧
        (∀ y ∈ front, p y = true → q y = false) ∧ front.countP p < n := by
  have htake : ∀ front back, l = front ++ x :: back →
      (∀ y ∈ front, (!(p y && q y)) = true) → (p x && q x) = true →
      (l.takeWhile fun x => !(p x && q x)) = front := by
    rintro front back rfl hfront hx
    rw [List.takeWhile_append_of_pos hfront, List.takeWhile_cons_of_neg (by simp [hx]),
      List.append_nil]
  have hnone : ∀ y, (!(p y && q y)) = true ↔ (p y = true → q y = false) := by
    intro y
    cases p y <;> simp
  rw [find?_take_filter]
  constructor
  · intro hfind
    split at hfind
    · rename_i hcount
      obtain ⟨hx, front, back, heq, hfront⟩ := List.find?_eq_some_iff_append.1 hfind
      rw [htake front back heq hfront hx] at hcount
      obtain ⟨hpx, hqx⟩ := Bool.and_eq_true_iff.1 hx
      exact ⟨hpx, hqx, front, back, heq, fun y hy => (hnone y).1 (hfront y hy), hcount⟩
    · contradiction
  · rintro ⟨hpx, hqx, front, back, heq, hfront, hcount⟩
    have hx := Bool.and_eq_true_iff.2 ⟨hpx, hqx⟩
    have hfront' := fun y hy => (hnone y).2 (hfront y hy)
    rw [htake front back heq hfront' hx, if_pos hcount]
    exact List.find?_eq_some_iff_append.2 ⟨hx, front, back, heq, hfront'⟩

namespace Laid

variable {c : Cache} {filed : Nat → Bytes} {old young : List Placed}

/-- A search for a key that is not too long answers from the chain of its bucket. -/
theorem get_eq (h : Laid c filed old young) (now : Tai64) {key : Bytes}
    (hkey : key.length ≤ maxKey) :
    c.get now key =
      .ok (((((old ++ young).reverse.filter (c.home filed · = c.bucket key)).take
        (maxChain + 1)).find? (·.entry.key = key)).bind (·.entry.answer now)) := by
  have hchain := h.chained _ (isHead_bucket h.heads_pos key)
  have hentries : ∀ p ∈ (old ++ young).reverse.filter (c.home filed · = c.bucket key),
      EntryAt c.arena p.pos p.entry ∧ p.pos ≠ 0 := by
    intro p hp
    have hmem := h.mem (List.mem_reverse.1 (List.mem_filter.1 hp).1)
    have := h.heads_pos
    exact ⟨hmem.1, by omega⟩
  have hmap : c.chainOf filed (c.bucket key) (old ++ young) =
      ((old ++ young).reverse.filter (c.home filed · = c.bucket key)).map Placed.pos := by
    unfold chainOf
    rw [← List.map_reverse, List.filter_reverse]
  rw [hmap] at hchain
  have hfirst := hchain.word_here
  rw [Nat.zero_xor] at hfirst
  unfold get
  rw [if_neg (Nat.not_lt.2 hkey)]
  simp only [bind, Except.bind, hfirst]
  exact search_eq now key (maxChain + 1) hentries hchain

/-- A search succeeds. It is answered exactly if, of the entries filed in the bucket that the key has
now, the newest with the key has not expired and no more than a hundred are newer. -/
theorem exists_get (h : Laid c filed old young) (now : Tai64) (key : Bytes) :
    ∃ answer, c.get now key = .ok answer ∧ ∀ hit, answer = some hit ↔
      ∃ older p newer, old ++ young = older ++ p :: newer ∧ p.entry.key = key ∧
        c.home filed p = c.bucket key ∧
        (∀ q ∈ newer, c.home filed q = c.bucket key → q.entry.key ≠ key) ∧
        newer.countP (fun q => c.home filed q = c.bucket key) ≤ maxChain ∧
        p.entry.answer now = some hit := by
  by_cases hlong : maxKey < key.length
  · have hget : c.get now key = .ok none := by
      unfold get
      rw [if_pos hlong]
      rfl
    refine ⟨none, hget, ?_⟩
    intro hit
    refine iff_of_false (Option.some_ne_none hit).symm ?_
    -- no entry has a key as long as that
    rintro ⟨older, p, newer, heq, hkey, -⟩
    have hp : p ∈ old ++ young := by
      rw [heq]
      exact List.mem_append_right _ List.mem_cons_self
    have hlimit := (h.mem hp).1.limits.1
    rw [hkey] at hlimit
    omega
  · refine ⟨_, h.get_eq now (Nat.not_lt.1 hlong), ?_⟩
    intro hit
    -- a search goes from the newest entry to the oldest, the list of entries the other way
    rw [Option.bind_eq_some_iff]
    constructor
    · rintro ⟨p, hfind, hanswer⟩
      obtain ⟨hhome, hkey, front, back, heq, hfront, hcount⟩ :=
        find?_take_filter_eq_some_iff.1 hfind
      refine ⟨back.reverse, p, front.reverse, ?_, by simpa using hkey, by simpa using hhome, ?_,
        ?_, hanswer⟩
      · rw [← List.reverse_reverse (old ++ young), heq]
        simp only [List.reverse_append, List.reverse_cons, List.append_assoc,
          List.singleton_append]
      · intro q hq
        simpa using hfront q (List.mem_reverse.1 hq)
      · rw [List.countP_reverse]
        exact Nat.lt_succ_iff.1 hcount
    · rintro ⟨older, p, newer, heq, hkey, hhome, hnewer, hcount, hanswer⟩
      refine ⟨p, find?_take_filter_eq_some_iff.2 ⟨by simpa using hhome, by simpa using hkey,
        newer.reverse, older.reverse, ?_, ?_, ?_⟩, hanswer⟩
      · rw [heq]
        simp only [List.reverse_append, List.reverse_cons, List.append_assoc,
          List.singleton_append]
      · intro q hq
        simpa using hnewer q (List.mem_reverse.1 hq)
      · rw [List.countP_reverse]
        exact Nat.lt_succ_of_le hcount

/-- Where all entries were filed under the hash key that the search goes by, they are all that have
the key. -/
theorem exists_get_of_current (h : Laid c c.current old young) (now : Tai64) (key : Bytes) :
    ∃ answer, c.get now key = .ok answer ∧ ∀ hit, answer = some hit ↔
      ∃ older p newer, old ++ young = older ++ p :: newer ∧ p.entry.key = key ∧
        (∀ q ∈ newer, q.entry.key ≠ key) ∧
        newer.countP (fun q => c.bucket q.entry.key = c.bucket key) ≤ maxChain ∧
        p.entry.answer now = some hit := by
  obtain ⟨answer, hget, hanswer⟩ := h.exists_get now key
  refine ⟨answer, hget, fun hit => (hanswer hit).trans ?_⟩
  simp only [home_current]
  constructor
  · rintro ⟨older, p, newer, heq, hkey, -, hnewer, hcount, hhit⟩
    exact ⟨older, p, newer, heq, hkey,
      fun q hq hqkey => hnewer q hq (congrArg c.bucket hqkey) hqkey, hcount, hhit⟩
  · rintro ⟨older, p, newer, heq, hkey, hnewer, hcount, hhit⟩
    exact ⟨older, p, newer, heq, hkey, congrArg c.bucket hkey, fun q hq _ => hnewer q hq, hcount,
      hhit⟩

end Laid

end Resolver.Cache
