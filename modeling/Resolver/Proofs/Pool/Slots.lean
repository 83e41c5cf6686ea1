import Resolver.Pool
import Resolver.Proofs.Session.Flight

/-!
# Slots of a pool

A step of a pool puts something else into one slot at most, and the index changes with it.

Main statements: what a start comes to (`of_start`), what asking for the socket comes to
(`wanted_cases`), what letting a session go on comes to (`of_get`) and what giving a handle back
comes to (`free_cases`).
-/

namespace Resolver

/-- What the clients of a slot may do after its session went on. -/
def Turnstile.after : Except Failure Progress → Turnstile
  | .ok .pending => .needsWait
  | .ok .done => .answered
  | .error _ => .failed

theorem Turnstile.after_ne_needsGet (outcome : Except Failure Progress) :
    after outcome ≠ .needsGet := by
  rcases outcome with _ | _ | _ <;> exact nofun

theorem Turnstile.of_after_eq_needsWait {outcome : Except Failure Progress}
    (h : after outcome = .needsWait) : outcome = .ok .pending := by
  rcases outcome with _ | _ | _
  · exact nomatch h
  · rfl
  · exact nomatch h

namespace Pool

open Dialogue

variable {p p' : Pool} {i j : Handle} {key key' : PoolKey} {shared : SharedQuery}
  {servers : Servers} {recursive : Bool} {name control : Bytes}
  {qtype : UInt16} {g g' : Generator} {exchanges : List Exchange}

/-! ## One slot -/

theorem slot?_eq_some_iff : p.slot? i = some shared ↔ p.slots[i]? = some (some shared) := by
  unfold slot?
  exact Option.join_eq_some_iff

theorem lt_capacity (h : p.slot? i = some shared) : i < p.capacity :=
  (List.getElem?_eq_some_iff.1 (slot?_eq_some_iff.1 h)).1

theorem slot?_setSlot_self (contents : Option SharedQuery) (h : i < p.capacity) :
    (p.setSlot i contents).slot? i = contents := by
  unfold slot? setSlot
  rw [List.getElem?_set_self h]
  rfl

theorem slot?_setSlot_of_ne {contents : Option SharedQuery} (h : j ≠ i) :
    (p.setSlot i contents).slot? j = p.slot? j := by
  unfold slot? setSlot
  rw [List.getElem?_set_ne h.symm]

theorem capacity_setSlot {contents : Option SharedQuery} :
    (p.setSlot i contents).capacity = p.capacity :=
  List.length_set

/-- The number of slots that hold something. -/
def occupied (p : Pool) : Nat :=
  p.slots.countP Option.isSome

theorem occupied_le_capacity : p.occupied ≤ p.capacity :=
  List.countP_le_length

/-- What is put into a slot counts, what was there before no longer does. -/
theorem occupied_setSlot (contents : Option SharedQuery) (h : i < p.capacity) :
    (p.setSlot i contents).occupied + (if (p.slot? i).isSome then 1 else 0) =
      p.occupied + if contents.isSome then 1 else 0 := by
  have hslot : p.slot? i = p.slots[i] := by
    unfold slot?
    rw [List.getElem?_eq_getElem h]
    rfl
  have hle : (if p.slots[i].isSome then 1 else 0) ≤ p.slots.countP Option.isSome := by
    split
    · exact List.countP_pos_iff.2 ⟨_, List.getElem_mem h, ‹_›⟩
    · exact Nat.zero_le _
  unfold occupied setSlot
  rw [hslot, List.countP_set h]
  omega

/-! ## The index -/

theorem lookup_filter_ne (index : List (PoolKey × Handle)) (key key' : PoolKey) :
    (index.filter (·.1 ≠ key)).lookup key' = if key' = key then none else index.lookup key' := by
  induction index with
  | nil => rw [List.filter_nil, List.lookup_nil, ite_self]
  | cons entry rest ih =>
    by_cases hentry : entry.1 = key
    · rw [List.filter_cons_of_neg (by simpa using hentry), ih]
      split
      · rfl
      · rename_i hne
        rw [List.lookup_cons, beq_false_of_ne (hentry ▸ hne)]
    · rw [List.filter_cons_of_pos (by simpa using hentry), List.lookup_cons, List.lookup_cons, ih]
      cases hkey : key' == entry.1 with
      | false => rfl
      | true =>
        have hne : key' ≠ key := fun heq => hentry ((eq_of_beq hkey).symm.trans heq)
        exact (if_neg hne).symm

/-- A key that is in use once is taken out once. -/
theorem length_filter_ne {index : List (PoolKey × Handle)}
    (hdistinct : index.Pairwise fun a b => a.1 ≠ b.1) (h : index.lookup key = some i) :
    (index.filter (·.1 ≠ key)).length + 1 = index.length := by
  induction index with
  | nil => exact nomatch h
  | cons entry rest ih =>
    obtain ⟨hfresh, hrest⟩ := List.pairwise_cons.1 hdistinct
    rw [List.lookup_cons] at h
    cases hkey : key == entry.1 with
    | true =>
      have heq := eq_of_beq hkey
      -- no other entry has the key, so the rest stays as it is
      have hkept : rest.filter (·.1 ≠ key) = rest :=
        List.filter_eq_self.2 fun other hother => by
          simpa [heq] using (hfresh other hother).symm
      rw [List.filter_cons_of_neg (by simpa using heq.symm), hkept, List.length_cons]
    | false =>
      rw [hkey] at h
      have hne : entry.1 ≠ key := fun heq => by simp [heq] at hkey
      rw [List.filter_cons_of_pos (by simpa using hne), List.length_cons, List.length_cons,
        ih hrest h]

/-! ## Queries that come and go -/

/-- The pool with a query in a free slot. -/
def occupy (p : Pool) (i : Handle) (shared : SharedQuery) : Pool :=
  { p.setSlot i (some shared) with
    index := (shared.key, i) :: p.index.filter (·.1 ≠ shared.key) }

/-- The pool without the query of a slot. -/
def vacate (p : Pool) (i : Handle) (key : PoolKey) : Pool :=
  { p.setSlot i none with index := p.index.filter (·.1 ≠ key) }

theorem slot?_occupy_self (h : i < p.capacity) : (p.occupy i shared).slot? i = some shared :=
  slot?_setSlot_self _ h

theorem slot?_occupy_of_ne (h : j ≠ i) : (p.occupy i shared).slot? j = p.slot? j :=
  slot?_setSlot_of_ne h

theorem find?_occupy :
    (p.occupy i shared).find? key = if key = shared.key then some i else p.find? key := by
  unfold find? occupy
  rw [List.lookup_cons, lookup_filter_ne]
  split
  · rename_i heq
    rw [if_pos (eq_of_beq heq)]
  · rename_i hne
    have hkey : key ≠ shared.key := ne_of_beq_false hne
    rw [if_neg hkey, if_neg hkey]

theorem slot?_vacate_self (h : i < p.capacity) : (p.vacate i key).slot? i = none :=
  slot?_setSlot_self _ h

theorem slot?_vacate_of_ne (h : j ≠ i) : (p.vacate i key).slot? j = p.slot? j :=
  slot?_setSlot_of_ne h

theorem find?_vacate :
    (p.vacate i key').find? key = if key = key' then none else p.find? key :=
  lookup_filter_ne p.index key' key

/-! ## Steps -/

/-- A start is refused and leaves the pool as it is, joins the query that is in flight for its key,
or puts a session that has been started into a free slot. -/
theorem of_start {result : Except PoolError Handle}
    (h : Course (p.start servers recursive name qtype control g) exchanges (result, p', g')) :
    (∃ cause, result = .error cause ∧ p' = p) ∨
      ∃ i key, result = .ok i ∧ key? name qtype control = some key ∧
        ((∃ shared, p.slot? i = some shared ∧ p.find? key = some i ∧
            p' = p.setSlot i (some { shared with refs := shared.refs + 1 })) ∨
          (i < p.capacity ∧ p.slot? i = none ∧ p.sharer? key = none ∧ ∃ session,
            Course ((Session.new p.policy).start servers recursive name qtype g) exchanges
              (.ok (), session, g') ∧
            p' = p.occupy i ⟨key, session, 1, .needsWait⟩)) := by
  unfold start at h
  cases hkey : key? name qtype control with
  | none =>
    rw [hkey] at h
    obtain ⟨rfl, rfl, rfl, rfl⟩ := course_triple_iff.1 h
    exact .inl ⟨_, rfl, rfl⟩
  | some key =>
    rw [hkey] at h
    dsimp only at h
    cases hsharer : p.sharer? key with
    | some found =>
      obtain ⟨i, shared⟩ := found
      rw [hsharer] at h
      obtain ⟨rfl, rfl, rfl, rfl⟩ := course_triple_iff.1 h
      unfold sharer? at hsharer
      obtain ⟨j, hfind, hshared⟩ := Option.bind_eq_some_iff.1 hsharer
      obtain ⟨other, hslot, heq⟩ := Option.bind_eq_some_iff.1 hshared
      obtain ⟨rfl, rfl⟩ := Prod.mk.inj (Option.some.inj heq)
      exact .inr ⟨j, key, rfl, rfl, .inl ⟨other, hslot, hfind, rfl⟩⟩
    | none =>
      rw [hsharer] at h
      dsimp only at h
      cases hfree : p.slots.findIdx? (·.isNone) with
      | none =>
        rw [hfree] at h
        obtain ⟨rfl, rfl, rfl, rfl⟩ := course_triple_iff.1 h
        exact .inl ⟨_, rfl, rfl⟩
      | some i =>
        rw [hfree] at h
        obtain ⟨⟨started, session, g₁⟩, first, last, rfl, hstart, hlast⟩ := course_seq_iff.1 h
        cases started with
        | error cause =>
          obtain ⟨rfl, rfl, rfl, rfl⟩ := course_triple_iff.1 hlast
          exact .inl ⟨_, rfl, rfl⟩
        | ok _ =>
          obtain ⟨rfl, rfl, rfl, rfl⟩ := course_triple_iff.1 hlast
          obtain ⟨hlt, hnone, -⟩ := List.findIdx?_eq_some_iff_getElem.1 hfree
          have hslot : p.slot? i = none := by
            unfold slot?
            rw [List.getElem?_eq_getElem hlt, Option.isNone_iff_eq_none.1 hnone]
            rfl
          rw [List.append_nil]
          exact .inr ⟨i, key, rfl, rfl, .inr ⟨hlt, hslot, hsharer, session, hstart, rfl⟩⟩

/-- Asking for the socket changes at most the turnstile of a slot. -/
theorem wanted_cases (deadline : Instant) :
    (p.wanted i deadline).2.2 = p ∨
      ∃ shared, p.slot? i = some shared ∧ shared.turnstile = .needsWait ∧
        (p.wanted i deadline).2.2 =
          p.setSlot i (some { shared with turnstile := .needsGet }) := by
  unfold wanted
  cases p.slot? i with
  | none => exact .inl rfl
  | some shared =>
    dsimp only
    split
    · exact .inr ⟨shared, rfl, ‹_›, rfl⟩
    · exact .inl rfl

/-- A get changes the session of a slot and its turnstile, and those only after the socket was
handed out. -/
theorem of_get {ready : Bool} {now : Instant} {result : Except PoolError Progress}
    (h : Course (p.get i ready now g) exchanges (result, p', g')) :
    p' = p ∨ ∃ shared, p.slot? i = some shared ∧ shared.turnstile = .needsGet ∧
      ∃ outcome session, Course (shared.session.get ready now g) exchanges (outcome, session, g') ∧
        p' = p.setSlot i
          (some { shared with session := session, turnstile := .after outcome }) := by
  unfold get at h
  cases hslot : p.slot? i with
  | none =>
    rw [hslot] at h
    obtain ⟨-, -, rfl, -⟩ := course_triple_iff.1 h
    exact .inl rfl
  | some shared =>
    rw [hslot] at h
    dsimp only at h
    cases hturnstile : shared.turnstile with
    | needsGet =>
      rw [hturnstile] at h
      obtain ⟨⟨outcome, session, g₁⟩, first, last, rfl, hget, hlast⟩ := course_seq_iff.1 h
      obtain ⟨rfl, -, rfl, rfl⟩ := course_triple_iff.1 hlast
      rw [List.append_nil]
      exact .inr ⟨shared, rfl, hturnstile, outcome, session, hget, rfl⟩
    | failed | needsWait | answered =>
      rw [hturnstile] at h
      obtain ⟨-, -, rfl, -⟩ := course_triple_iff.1 h
      exact .inl rfl

/-- A handle that is given back to a slot in use leaves one handle less there, or an empty slot. -/
theorem free_cases (hslot : p.slot? i = some shared) :
    (shared.refs - 1 = 0 ∧ p.free i = p.vacate i shared.key) ∨
      (shared.refs - 1 ≠ 0 ∧
        p.free i = p.setSlot i (some { shared with refs := shared.refs - 1 })) := by
  unfold free
  rw [hslot]
  dsimp only
  split
  · exact .inl ⟨‹_›, rfl⟩
  · exact .inr ⟨‹_›, rfl⟩

end Pool

end Resolver
