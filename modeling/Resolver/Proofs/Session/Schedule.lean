import Resolver.Session.Servers

/-!
# The order of attempts

A session goes on from the place it has reached, without a list of what is left to try. What it
tries from there is the rest of one list that is known from the start: the rounds ascending and, in
each, the places in use ascending.

Main statements: the targets behind one of a schedule are the schedule from the next place on
(`schedule_append`), and the schedule from the start of a round is the itinerary
(`schedule_eq_itinerary`).
-/

namespace Resolver.Servers

variable {s : Servers} {round slot : Nat} {target : Target} {targets tried rest : List Target}

/-- The places in use, ascending, each behind the address there. -/
def occupied (s : Servers) : List (Ipv4 × Nat) :=
  s.slots.toList.zipIdx.filter (·.1 ≠ .unspecified)

/-- The target that a place is in a round. -/
def Target.ofPlace (round : Nat) (place : Ipv4 × Nat) : Target :=
  ⟨round, place.2, place.1⟩

/-- The targets of a round. -/
def targetsOf (s : Servers) (round : Nat) : List Target :=
  s.occupied.map (Target.ofPlace round)

/-- The targets of the rounds from a first one to the last. -/
def itinerary (s : Servers) (first : Nat) : List Target :=
  (List.range' first (roundCount - first)).flatMap s.targetsOf

/-! ## One round -/

theorem targetsFrom_of_lt (h : slot < maxServers) :
    s.targetsFrom round slot =
      ((s.get? slot).map fun ip => ⟨round, slot, ip⟩).toList ++ s.targetsFrom round (slot + 1) := by
  unfold targetsFrom
  have hlength : maxServers - slot = maxServers - (slot + 1) + 1 := by omega
  rw [hlength, List.range'_succ, List.filterMap_cons]
  cases (s.get? slot).map fun ip => (⟨round, slot, ip⟩ : Target) <;> rfl

theorem targetsFrom_of_le (h : maxServers ≤ slot) : s.targetsFrom round slot = [] := by
  unfold targetsFrom
  rw [Nat.sub_eq_zero_of_le h]
  rfl

theorem round_of_mem_targetsFrom (h : target ∈ s.targetsFrom round slot) :
    target.round = round := by
  unfold targetsFrom at h
  obtain ⟨place, -, hplace⟩ := List.mem_filterMap.1 h
  obtain ⟨ip, -, rfl⟩ := Option.map_eq_some_iff.1 hplace
  rfl

theorem le_of_mem_targetsFrom (h : target ∈ s.targetsFrom round slot) : slot ≤ target.slot := by
  unfold targetsFrom at h
  obtain ⟨place, hplace, htarget⟩ := List.mem_filterMap.1 h
  obtain ⟨ip, -, rfl⟩ := Option.map_eq_some_iff.1 htarget
  exact (List.mem_range'_1.1 hplace).1

/-- The first target from a place on stands there or behind it, and the others follow its place. -/
theorem of_targetsFrom_eq_cons (h : s.targetsFrom round slot = target :: rest) :
    target.round = round ∧ slot ≤ target.slot ∧ rest = s.targetsFrom round (target.slot + 1) := by
  induction hleft : maxServers - slot generalizing slot with
  | zero =>
    rw [targetsFrom_of_le (Nat.le_of_sub_eq_zero hleft)] at h
    contradiction
  | succ left ih =>
    rw [targetsFrom_of_lt (by omega)] at h
    cases hip : s.get? slot with
    | none =>
      rw [hip] at h
      obtain ⟨hround, hslot, hrest⟩ := ih h (by omega)
      exact ⟨hround, Nat.le_of_succ_le hslot, hrest⟩
    | some ip =>
      rw [hip] at h
      obtain ⟨rfl, rfl⟩ := List.cons.inj h
      exact ⟨rfl, Nat.le_refl slot, rfl⟩

/-! ## Several rounds -/

theorem schedule_of_le (h : roundCount ≤ round) : s.schedule round slot = [] := by
  unfold schedule
  rw [if_neg (Nat.not_lt.2 h)]

theorem schedule_of_lt (h : round < roundCount) :
    s.schedule round slot = s.targetsFrom round slot ++ s.schedule (round + 1) 0 := by
  by_cases hnext : round + 1 < roundCount
  · have hlength : roundCount - (round + 1) = roundCount - (round + 1 + 1) + 1 := by omega
    unfold schedule
    rw [if_pos h, if_pos hnext, hlength, List.range'_succ, List.flatMap_cons]
  · rw [schedule_of_le (Nat.not_lt.1 hnext), List.append_nil]
    unfold schedule
    rw [if_pos h, Nat.sub_eq_zero_of_le (Nat.not_lt.1 hnext), List.range'_zero, List.flatMap_nil,
      List.append_nil]

/-- The first target of a schedule is not before the place the schedule begins at, and the others
are the schedule from the place behind it. -/
theorem of_schedule_eq_cons (h : s.schedule round slot = target :: rest) :
    (round < target.round ∨ target.round = round ∧ slot ≤ target.slot) ∧
      rest = s.schedule target.round (target.slot + 1) := by
  induction hleft : roundCount - round generalizing round slot with
  | zero =>
    rw [schedule_of_le (Nat.le_of_sub_eq_zero hleft)] at h
    contradiction
  | succ left ih =>
    have hround : round < roundCount := by omega
    rw [schedule_of_lt hround] at h
    cases htargets : s.targetsFrom round slot with
    | nil =>
      rw [htargets] at h
      obtain ⟨hplace, hrest⟩ := ih h (by omega)
      exact ⟨.inl (by omega), hrest⟩
    | cons first others =>
      rw [htargets] at h
      obtain ⟨rfl, rfl⟩ := List.cons.inj h
      obtain ⟨rfl, hslot, rfl⟩ := of_targetsFrom_eq_cons htargets
      exact ⟨.inr ⟨rfl, hslot⟩, (schedule_of_lt hround).symm⟩

/-- A target of a schedule is not before the place the schedule begins at. -/
theorem le_of_mem_schedule (h : target ∈ s.schedule round slot) :
    round < target.round ∨ target.round = round ∧ slot ≤ target.slot := by
  induction htargets : s.schedule round slot generalizing round slot with
  | nil =>
    rw [htargets] at h
    exact nomatch h
  | cons first others ih =>
    obtain ⟨hplace, hothers⟩ := of_schedule_eq_cons htargets
    rw [htargets] at h
    cases h with
    | head => exact hplace
    | tail _ hmem =>
      rw [hothers] at hmem
      have := ih hmem hothers.symm
      omega

/-- The targets of a schedule ascend, by rounds first. -/
theorem pairwise_schedule : (s.schedule round slot).Pairwise fun a b =>
    a.round < b.round ∨ a.round = b.round ∧ a.slot < b.slot := by
  induction htargets : s.schedule round slot generalizing round slot with
  | nil => exact .nil
  | cons first others ih =>
    obtain ⟨-, hothers⟩ := of_schedule_eq_cons htargets
    refine .cons (fun target hmem => ?_) (ih hothers.symm)
    rw [hothers] at hmem
    have := le_of_mem_schedule hmem
    omega

/-- The targets behind one of a schedule are the schedule from the place behind it. -/
theorem schedule_append (h : s.schedule round slot = tried ++ rest)
    (hlast : tried.getLast? = some target) :
    rest = s.schedule target.round (target.slot + 1) := by
  induction tried generalizing round slot with
  | nil => contradiction
  | cons first others ih =>
    obtain ⟨-, hrest⟩ := of_schedule_eq_cons h
    cases others with
    | nil =>
      obtain rfl := Option.some.inj hlast
      exact hrest
    | cons second others =>
      rw [List.getLast?_cons_cons] at hlast
      exact ih hrest.symm hlast

/-- The targets behind one of a round are those from the place behind it. -/
theorem targetsFrom_append (h : s.targetsFrom round slot = tried ++ rest)
    (hlast : tried.getLast? = some target) :
    target.round = round ∧ rest = s.targetsFrom round (target.slot + 1) := by
  induction tried generalizing slot with
  | nil => contradiction
  | cons first others ih =>
    obtain ⟨hround, -, hrest⟩ := of_targetsFrom_eq_cons h
    cases others with
    | nil =>
      obtain rfl := Option.some.inj hlast
      exact ⟨hround, hrest⟩
    | cons second others =>
      rw [List.getLast?_cons_cons] at hlast
      exact ih hrest.symm hlast

/-! ## The itinerary -/

/-- The places in use from a place on, if the list holds the addresses from there on. -/
theorem filterMap_range'_eq {ips : List Ipv4} {f : Nat → Option Ipv4} (round start : Nat)
    (hf : ∀ i < ips.length, f (start + i) = (ips[i]?).filter (· ≠ .unspecified)) :
    (List.range' start ips.length).filterMap
        (fun slot => (f slot).map fun ip => (⟨round, slot, ip⟩ : Target)) =
      ((ips.zipIdx start).filter (·.1 ≠ .unspecified)).map (Target.ofPlace round) := by
  induction ips generalizing start with
  | nil => rfl
  | cons ip ips ih =>
    have hhead : f start = (some ip).filter (· ≠ .unspecified) := hf 0 (Nat.zero_lt_succ _)
    have htail := ih (start + 1) fun i hi => by
      rw [Nat.add_assoc, Nat.add_comm 1 i]
      exact hf (i + 1) (Nat.succ_lt_succ hi)
    rw [List.length_cons, List.range'_succ, List.filterMap_cons, hhead, List.zipIdx_cons,
      List.filter_cons, htail]
    by_cases hip : ip = .unspecified
    · subst hip
      rfl
    · rw [Option.filter_some, if_pos (decide_eq_true hip), if_pos (decide_eq_true hip)]
      rfl

theorem targetsFrom_zero : s.targetsFrom round 0 = s.targetsOf round := by
  have hlength : s.slots.toList.length = maxServers := Vector.length_toList
  have hget : ∀ i < s.slots.toList.length,
      s.get? (0 + i) = (s.slots.toList[i]?).filter (· ≠ .unspecified) := fun i _ => by
    unfold get?
    rw [Nat.zero_add, Vector.getElem?_toList]
  have hplaces := filterMap_range'_eq round 0 hget
  rw [hlength] at hplaces
  exact hplaces

/-- From the start of a round, what is left to try is the rounds from there on, each with all places
in use. -/
theorem schedule_eq_itinerary : s.schedule round 0 = s.itinerary round := by
  induction hleft : roundCount - round generalizing round with
  | zero =>
    unfold itinerary
    rw [schedule_of_le (Nat.le_of_sub_eq_zero hleft), hleft]
    rfl
  | succ left ih =>
    have hnext : roundCount - (round + 1) = left := by omega
    have hrest := ih hnext
    unfold itinerary at hrest ⊢
    rw [schedule_of_lt (by omega), targetsFrom_zero, hrest, hleft, hnext, List.range'_succ,
      List.flatMap_cons]

theorem length_itinerary :
    (s.itinerary round).length = (roundCount - round) * s.occupied.length := by
  unfold itinerary targetsOf
  simp [List.length_flatMap, List.map_const']

/-- The places in use ascend. -/
theorem pairwise_occupied : s.occupied.Pairwise fun a b => a.2 < b.2 := by
  have hplaces : (s.slots.toList.zipIdx.map Prod.snd).Pairwise (· < ·) := by
    rw [List.zipIdx_map_snd]
    exact List.pairwise_lt_range'
  exact (List.pairwise_map.1 hplaces).filter _

end Resolver.Servers
