import Resolver.Proofs.Cache.Eviction

/-!
# What making room gives up

Making room is told step by step: when the writer turns round, and which entries are given up.

Main statements: telling it changes nothing (`clear_snd`), and what is told is that the older entries
are given up one after the other from the oldest on, then, if that is not enough, the writer turns
round once and the younger ones follow (`Laid.cleared`).
-/

namespace Resolver.Cache

/-- What happens to the entries of a store. -/
inductive Event
  /-- The writer turns round. -/
  | turned
  /-- The entry at an offset is given up. -/
  | evicted (pos : Nat)
  /-- An entry is written. -/
  | stored (placed : Placed)
  /-- The store starts over with another capacity. -/
  | restarted (capacity : Nat)
  deriving DecidableEq, Repr

/-- Makes room for an entry of `length` bytes and tells what happens. -/
def clear (c : Cache) (length : Nat) : List Event × Except Damage (Bool × Cache) :=
  if c.writer + length ≤ c.oldest then ([], .ok (true, c))
  else if c.oldest = c.unused then
    if c.writer ≤ c.heads then ([], .ok (false, c))
    else
      match _h : c.turn.evictOldest with
      | .error e => ([.turned], .error e)
      | .ok c' =>
        let (events, result) := c'.clear length
        (.turned :: .evicted c.heads :: events, result)
  else
    match _h : c.evictOldest with
    | .error e => ([], .error e)
    | .ok c' =>
      let (events, result) := c'.clear length
      (.evicted c.oldest :: events, result)
termination_by (c.writer - c.heads, c.unused - c.oldest)
decreasing_by
  · obtain ⟨hw, hh, -⟩ := evictOldest_ok _h
    refine Prod.Lex.left _ _ ?_
    simp only [hw, hh, turn]
    omega
  · obtain ⟨hw, hh, -, -, -, hlt⟩ := evictOldest_ok _h
    rw [hw, hh]
    exact Prod.Lex.right _ hlt

/-- To make room and tell about it comes to the same as to make room. -/
theorem clear_snd (c : Cache) (length : Nat) : (c.clear length).2 = c.makeRoom length := by
  fun_induction clear c length with
  | case1 c hfit => rw [makeRoom, if_pos hfit]
  | case2 c hfit hnone hempty => rw [makeRoom, if_neg hfit, if_pos hnone, if_pos hempty]
  | case3 c hfit hnone hsome e hevict =>
    rw [makeRoom_of_younger hfit hnone hsome, hevict]
    rfl
  | case4 c hfit hnone hsome c' hevict events result hclear ih =>
    rw [hclear] at ih
    rw [makeRoom_of_younger hfit hnone hsome, hevict]
    exact ih
  | case5 c hfit hsome e hevict =>
    rw [makeRoom_of_older hfit hsome, hevict]
    rfl
  | case6 c hfit hsome c' hevict events result hclear ih =>
    rw [hclear] at ih
    rw [makeRoom_of_older hfit hsome, hevict]
    exact ih

/-! ## The entries given up -/

/-- Entries are given up one after the other. -/
def evictions (ps : List Placed) : List Event :=
  ps.map fun p => .evicted p.pos

/-- What may be told of making room, and the older and younger entries that are left: some of the older
ones are given up, or all of them and, after the writer has turned round, some of the younger ones. -/
inductive Cleared : (old young : List Placed) → List Event → (old' young' : List Placed) → Prop
  | ahead (gone kept young : List Placed) : Cleared (gone ++ kept) young (evictions gone) kept young
  | around (old : List Placed) {gone : List Placed} (kept : List Placed) (hgone : gone ≠ []) :
      Cleared old (gone ++ kept) (evictions old ++ .turned :: evictions gone) kept []

namespace Cleared

variable {o : Placed} {old young old' young' : List Placed} {events : List Event}

theorem refl (old young : List Placed) : Cleared old young [] old young :=
  .ahead [] old young

/-- One more of the older entries was given up before. -/
theorem cons (h : Cleared old young events old' young') (o : Placed) :
    Cleared (o :: old) young (.evicted o.pos :: events) old' young' := by
  cases h with
  | ahead gone => exact .ahead (o :: gone) old' young
  | around _ _ hgone => exact .around (o :: old) old' hgone

/-- The writer turned round before and the first of the younger entries was given up. It does not turn
round again, there being none written since. -/
theorem turn (h : Cleared old [] events old' young') (o : Placed) :
    Cleared [] (o :: old) (.turned :: .evicted o.pos :: events) old' young' := by
  generalize hyoung : ([] : List Placed) = young at h
  cases h with
  | ahead gone =>
    subst hyoung
    exact .around [] old' (List.cons_ne_nil o gone)
  | around _ _ hgone => exact absurd (List.append_eq_nil_iff.1 hyoung.symm).1 hgone

end Cleared

/-- What making room tells is what becomes of the entries. -/
theorem Laid.cleared {c c' : Cache} {filed : Nat → Bytes} {length : Nat} {fits : Bool}
    {old young : List Placed} (h : Laid c filed old young)
    (hroom : c.makeRoom length = .ok (fits, c')) : Cleared old young (c.clear length).1 c'.old c'.young := by
  rw [← clear_snd] at hroom
  fun_induction clear c length generalizing old young with
  | case1 c hfit =>
    obtain ⟨-, rfl⟩ := Prod.mk.inj (Except.ok.inj hroom)
    rw [h.old_eq, h.young_eq]
    exact .refl old young
  | case2 c hfit hnone hempty =>
    obtain ⟨-, rfl⟩ := Prod.mk.inj (Except.ok.inj hroom)
    rw [h.old_eq, h.young_eq]
    exact .refl old young
  | case3 => contradiction
  | case4 c hfit hnone hsome c₁ hevict events result hclear ih =>
    obtain ⟨o, rest, rfl⟩ := h.young_tiled.exists_cons (by omega)
    obtain ⟨hlaid, -⟩ := (h.turn hnone (by omega)).of_evictOldest hevict
    obtain rfl := h.old_tiled.eq_nil_iff.2 hnone
    rw [hclear] at ih
    rw [show c.heads = o.pos from h.young_tiled.1.symm]
    exact (ih hlaid hroom).turn o
  | case5 => contradiction
  | case6 c hfit hsome c₁ hevict events result hclear ih =>
    obtain ⟨o, rest, rfl⟩ := h.old_tiled.exists_cons hsome
    obtain ⟨hlaid, -⟩ := h.of_evictOldest hevict
    rw [hclear] at ih
    rw [h.oldest_eq]
    exact (ih hlaid hroom).cons o

end Resolver.Cache
