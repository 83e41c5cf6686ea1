import Resolver.Proofs.Packet.Compression

/-!
# Names without pointers

There are two readers of names. The one for messages follows pointers and looks at the length after
every label; the one for plain names passes the labels and looks at the length at the root alone.

Main statements: the length of a plain name is what one pass over its labels finds
(`Name.length?_eq_passFrom`), plain names are those that are spelled without a pointer
(`spells_zero_iff`), both readers come to the same wherever no pointer is met
(`nameAt?_of_not_meetsPointer`), and all this is put together in `nameReaders_agree`.
-/

namespace Resolver.Name

/-! ## One pass over a name -/

/-- The position behind a name whose labels are passed from `pos` on. What the labels hold is not
looked at, and only the root asks how long the name has become. -/
def passFrom (bytes : Bytes) (pos : Nat) : Option Nat :=
  match h : bytes[pos]? with
  | none => none
  | some n =>
    if n = 0 then if pos + 1 ≤ maxLength then some (pos + 1) else none
    else if maxLabel < n.toNat then none
    else passFrom bytes (pos + 1 + n.toNat)
termination_by bytes.length - pos
decreasing_by
  have := (List.getElem?_eq_some_iff.1 h).1
  omega

/-- Passing labels comes to the end of what they take, if that is not too far. -/
theorem passFrom_eq (bytes : Bytes) (pos : Nat) :
    passFrom bytes pos =
      ((labelsOf (bytes.drop pos)).map (pos + wireLength ·)).filter (· ≤ maxLength) := by
  fun_induction passFrom bytes pos with
  | case1 pos hnone =>
    rw [List.drop_eq_nil_of_le (List.getElem?_eq_none_iff.1 hnone), labelsOf]
    rfl
  | case2 pos hroom hbyte =>
    rw [Packet.drop_eq_cons hbyte, labelsOf, if_pos rfl, Option.map_some,
      Option.filter_some, wireLength, if_pos (decide_eq_true hroom)]
  | case3 pos hroom hbyte =>
    rw [Packet.drop_eq_cons hbyte, labelsOf, if_pos rfl, Option.map_some,
      Option.filter_some, wireLength, if_neg (mt of_decide_eq_true hroom)]
  | case4 pos n hbyte hzero hlong =>
    rw [Packet.drop_eq_cons hbyte, labelsOf, if_neg hzero, if_pos hlong]
    rfl
  | case5 pos n hbyte hzero hlong ih =>
    rw [ih, Packet.drop_eq_cons hbyte, labelsOf, if_neg hzero, if_neg hlong, List.drop_drop]
    split
    · -- behind a label that is cut off there is nothing to pass
      rename_i hcut
      rw [List.length_take, List.length_drop] at hcut
      rw [List.drop_eq_nil_of_le (by omega), labelsOf]
      rfl
    · rename_i hwhole
      have hlabel : ((bytes.drop (pos + 1)).take n.toNat).length = n.toNat := by
        have := List.length_take_le n.toNat (bytes.drop (pos + 1))
        omega
      rw [Option.map_map]
      congr 2
      funext labels
      rw [Function.comp_apply, wireLength, hlabel]
      omega

/-- The length of a name is what one pass over its labels finds. -/
theorem length?_eq_passFrom (bytes : Bytes) : length? bytes = passFrom bytes 0 := by
  unfold length? labels?
  simp only [passFrom_eq, List.drop_zero, Nat.zero_add, Option.filter_map]
  rfl

/-- A name has the length of its labels. -/
theorem length?_eq_some_iff_begins {bytes : Bytes} {n : Nat} :
    length? bytes = some n ↔ ∃ labels, Begins bytes labels ∧ wireLength labels = n := by
  unfold length?
  simp only [Option.map_eq_some_iff, labels?_eq_some_iff]

end Resolver.Name

namespace Resolver.Packet

variable {packet name : Bytes} {pos jumps after : Nat} {labels : List Bytes}

/-! ## Spelled without a pointer -/

namespace Spells

/-- What is spelled is made of labels that a name can have. -/
theorem wellSized (h : Spells packet pos labels jumps after) : Name.WellSized labels := by
  induction h with
  | root => exact fun label hlabel => nomatch hlabel
  | label hbyte hlow hhigh hinside rest ih =>
    refine Name.wellSized_cons.2 ⟨?_, ih⟩
    rw [List.length_take, List.length_drop]
    unfold Name.maxLabel
    omega
  | pointer hbyte hhigh hlow rest ih => exact ih

/-- Without a pointer, the labels stand one behind the other. -/
theorem stands (h : Spells packet pos labels 0 after) :
    Name.ofLabels labels <+: packet.drop pos ∧ after = pos + Name.wireLength labels := by
  generalize hjumps : 0 = jumps at h
  induction h with
  | root hzero =>
    rw [drop_eq_cons hzero]
    exact ⟨⟨_, rfl⟩, rfl⟩
  | @label pos jumps after n labels hbyte hlow hhigh hinside rest ih =>
    obtain ⟨hstands, hafter⟩ := ih hjumps
    have hlabel : ((packet.drop (pos + 1)).take n.toNat).length = n.toNat := by
      rw [List.length_take, List.length_drop]
      omega
    rw [drop_eq_cons hbyte, Name.ofLabels, Name.wireLength, hlabel, UInt8.ofNat_toNat]
    obtain ⟨tail, htail⟩ := hstands
    refine ⟨⟨tail, ?_⟩, by omega⟩
    rw [List.append_assoc, List.cons_append, htail, ← List.drop_drop (i := n.toNat),
      List.take_append_drop]
  | pointer => exact absurd hjumps (Nat.succ_ne_zero _).symm

end Spells

/-- Labels that stand in a message in plain form are spelled there without a pointer. -/
theorem spells_of_drop_eq {packet rest : Bytes} {labels : List Bytes} {pos : Nat}
    (hsized : Name.WellSized labels) (h : packet.drop pos = Name.ofLabels labels ++ rest) :
    Spells packet pos labels 0 (pos + Name.wireLength labels) := by
  induction labels generalizing pos with
  | nil => exact .root (getElem?_of_drop_eq_cons h).1
  | cons label labels ih =>
    obtain ⟨⟨hlow, hhigh⟩, hsized⟩ := Name.wellSized_cons.1 hsized
    have hbyte := Name.toNat_ofNat_length hhigh
    rw [Name.ofLabels, List.append_assoc, List.cons_append] at h
    obtain ⟨hfirst, hbehind⟩ := getElem?_of_drop_eq_cons h
    have hlabel : (packet.drop (pos + 1)).take (UInt8.ofNat label.length).toNat = label := by
      rw [hbyte, hbehind, List.take_left' rfl]
    have hnext : packet.drop (pos + 1 + (UInt8.ofNat label.length).toNat) =
        Name.ofLabels labels ++ rest := by
      rw [← List.drop_drop, hbyte, hbehind, List.drop_left' rfl]
    have hspells := ih hsized hnext
    have hafter : pos + 1 + (UInt8.ofNat label.length).toNat + Name.wireLength labels =
        pos + Name.wireLength (label :: labels) := by
      rw [hbyte, Name.wireLength]
      omega
    have hinside : pos + 1 + (UInt8.ofNat label.length).toNat ≤ packet.length :=
      Nat.le_trans (Nat.le_of_lt hspells.bounds.1) hspells.bounds.2
    rw [hafter] at hspells
    unfold Name.maxLabel at hhigh
    have hspelled := Spells.label hfirst (by omega) (by omega) hinside hspells
    rw [hlabel] at hspelled
    exact hspelled

/-- Labels are spelled without a pointer where their wire form stands. -/
theorem spells_zero_iff :
    Spells packet pos labels 0 after ↔ Name.WellSized labels ∧
      Name.ofLabels labels <+: packet.drop pos ∧ after = pos + Name.wireLength labels := by
  constructor
  · exact fun h => ⟨h.wellSized, h.stands⟩
  · rintro ⟨hsized, hstands, rfl⟩
    obtain ⟨rest, hrest⟩ := hstands
    exact spells_of_drop_eq hsized hrest.symm

/-! ## Meeting a pointer -/

namespace Reading

/-- The reading comes to a place where a pointer stands. -/
def MeetsPointer (packet : Bytes) (r : Reading) : Prop :=
  ∃ r' n, Relation.ReflTransGen (fun r r' => turn packet r = .goesOn r') r r' ∧
    packet[r'.pos]? = some n ∧ 0xC0 ≤ n

variable {r r' : Reading} {n : UInt8}

/-- A whole label is collected as long as the root still has room behind it. -/
theorem turn_label (hbyte : packet[r.pos]? = some n) (hlow : 1 ≤ n.toNat) (hhigh : n.toNat ≤ 63)
    (hinside : r.pos + 1 + n.toNat ≤ packet.length) :
    r.turn packet =
      if Name.maxLength ≤ r.name.length + 1 + n.toNat then .ended none
      else .goesOn ⟨r.pos + 1 + n.toNat,
        r.name ++ n :: (packet.drop (r.pos + 1)).take n.toNat, r.after?, r.jumps⟩ := by
  have hshort : ¬ (64 : UInt8) ≤ n := UInt8.not_le.2 (UInt8.lt_iff_toNat_lt.2 (by
    show n.toNat < 64
    omega))
  have hplain : ¬ (0xC0 : UInt8) ≤ n := fun h => hshort (UInt8.le_trans (by decide) h)
  have hne : n ≠ 0 := fun heq => by simp [heq] at hlow
  have hcollected : (r.name ++ n :: (packet.drop (r.pos + 1)).take n.toNat).length =
      r.name.length + 1 + n.toNat := by
    rw [List.length_append, List.length_cons, List.length_take, List.length_drop]
    omega
  unfold turn copy?
  rw [hbyte]
  dsimp only
  rw [if_neg hplain, if_neg hshort, if_neg hne, if_pos hinside]
  dsimp only
  rw [hcollected]

/-- Where something is spelled without a pointer, a turn comes to such a place again. -/
theorem exists_spells_of_turn (h : Spells packet r.pos labels 0 after)
    (hturn : r.turn packet = .goesOn r') : ∃ labels after, Spells packet r'.pos labels 0 after := by
  cases h with
  | root hzero =>
    unfold turn at hturn
    rw [hzero] at hturn
    dsimp only at hturn
    rw [if_neg (by decide), if_neg (by decide), if_pos rfl] at hturn
    split at hturn <;> contradiction
  | label hbyte hlow hhigh hinside rest =>
    rw [turn_label hbyte hlow hhigh hinside] at hturn
    split at hturn
    · contradiction
    · obtain rfl := Turn.goesOn.inj hturn
      exact ⟨_, _, rest⟩

/-- Where something is spelled without a pointer, no pointer is met. -/
theorem not_meetsPointer (h : Spells packet r.pos labels 0 after) : ¬ r.MeetsPointer packet := by
  rintro ⟨r', n, hcomes, hbyte, hpointer⟩
  have hspelled : ∃ labels after, Spells packet r'.pos labels 0 after := by
    clear hbyte
    induction hcomes with
    | refl => exact ⟨labels, after, h⟩
    | tail before hturn ih =>
      obtain ⟨labels, after, hspells⟩ := ih
      exact exists_spells_of_turn hspells hturn
  have hhigh : 192 ≤ n.toNat := UInt8.le_iff_toNat_le.1 hpointer
  obtain ⟨labels, after, hspells⟩ := hspelled
  cases hspells with
  | root hzero =>
    obtain rfl := Option.some.inj (hbyte.symm.trans hzero)
    exact absurd hhigh (by decide)
  | label hbyte' _ hlabel =>
    obtain rfl := Option.some.inj (hbyte.symm.trans hbyte')
    omega

end Reading

/-- A reading meets the first pointer of what it reads, if the name has room up to there. -/
theorem Spells.meetsPointer (h : Spells packet pos labels jumps after) (hjumps : jumps ≠ 0)
    {r : Reading} (hpos : r.pos = pos)
    (hlength : r.name.length + Name.wireLength labels ≤ Name.maxLength) :
    r.MeetsPointer packet := by
  induction h generalizing r with
  | root => contradiction
  | @label pos _ _ n labels hbyte hlow hhigh hinside rest ih =>
    subst hpos
    have hlabel : ((packet.drop (r.pos + 1)).take n.toNat).length = n.toNat := by
      rw [List.length_take, List.length_drop]
      omega
    rw [Name.wireLength, hlabel] at hlength
    have hroot := Name.wireLength_pos labels
    have hturn := Reading.turn_label hbyte hlow hhigh hinside
    rw [if_neg (by omega)] at hturn
    obtain ⟨r', byte, hcomes, hmet⟩ := ih (r := ⟨r.pos + 1 + n.toNat,
      r.name ++ n :: (packet.drop (r.pos + 1)).take n.toNat, r.after?, r.jumps⟩) hjumps rfl (by
        rw [List.length_append, List.length_cons, hlabel]
        omega)
    exact ⟨r', byte, .head hturn hcomes, hmet⟩
  | pointer hbyte hhigh =>
    exact ⟨r, _, .refl, hpos ▸ hbyte, UInt8.le_iff_toNat_le.2 hhigh⟩

/-! ## Two readers -/

/-- A name in a message is a whole name in plain wire form. -/
theorem length?_of_nameAt? (h : nameAt? packet pos = some (name, after)) :
    Name.length? name = some name.length := by
  obtain ⟨labels, jumps, hspells, -, rfl, hlength⟩ := nameAt?_eq_some_iff.1 h
  rw [Name.length_ofLabels] at hlength
  exact Name.IsName.length?_eq ⟨labels, hspells.wellSized, hlength, rfl⟩

/-- A plain name is read in a message, and read as it stands. -/
theorem nameAt?_of_begins (h : Name.Begins (packet.drop pos) labels) :
    nameAt? packet pos = some (Name.ofLabels labels, pos + Name.wireLength labels) := by
  refine nameAt?_eq_some_iff.2 ⟨labels, 0, spells_zero_iff.2 ⟨h.sized, h.stands, rfl⟩,
    Nat.zero_le _, rfl, ?_⟩
  rw [Name.length_ofLabels]
  exact h.length_le

/-- A name that stands in a message in plain form is read there. -/
theorem nameAt?_of_isName {packet : Bytes} (pos : Nat) {length : Nat}
    (hinside : pos + length ≤ packet.length)
    (h : Name.IsName ((packet.drop pos).take length)) :
    nameAt? packet pos = some ((packet.drop pos).take length, pos + length) := by
  obtain ⟨labels, hsized, hmax, hname⟩ := h
  have hlength : Name.wireLength labels = length := by
    rw [← Name.length_ofLabels, ← hname, List.length_take, List.length_drop]
    omega
  have hdrop : packet.drop pos = Name.ofLabels labels ++ (packet.drop pos).drop length := by
    rw [← hname, List.take_append_drop]
  have hspells := spells_of_drop_eq hsized hdrop
  rw [hlength] at hspells
  refine nameAt?_eq_some_iff.2 ⟨labels, 0, hspells, Nat.zero_le _, hname, ?_⟩
  rw [hname, Name.length_ofLabels]
  exact hmax

/-- Where no pointer is met, only a plain name is read. -/
theorem begins_of_nameAt? (hmeets : ¬ (Reading.start pos).MeetsPointer packet)
    (h : nameAt? packet pos = some (name, after)) :
    ∃ labels, Name.Begins (packet.drop pos) labels := by
  obtain ⟨labels, jumps, hspells, -, rfl, hlength⟩ := nameAt?_eq_some_iff.1 h
  rw [Name.length_ofLabels] at hlength
  have hplain : jumps = 0 := Decidable.byContradiction fun hjumps =>
    hmeets (hspells.meetsPointer hjumps rfl (by rwa [Reading.start, List.length_nil, Nat.zero_add]))
  subst hplain
  obtain ⟨hsized, hstands, -⟩ := spells_zero_iff.1 hspells
  exact ⟨labels, hsized, hlength, hstands⟩

/-- Where a pointer is met, no plain name stands. -/
theorem length?_of_meetsPointer (hmeets : (Reading.start pos).MeetsPointer packet) :
    Name.length? (packet.drop pos) = none := by
  rw [Option.eq_none_iff_forall_ne_some]
  intro n hlength
  obtain ⟨labels, hbegins, rfl⟩ := Name.length?_eq_some_iff_begins.1 hlength
  exact Reading.not_meetsPointer (r := .start pos)
    (spells_zero_iff.2 ⟨hbegins.sized, hbegins.stands, rfl⟩) hmeets

/-- Where no pointer is met, the name in a message is the plain name that stands there. -/
theorem nameAt?_of_not_meetsPointer (hmeets : ¬ (Reading.start pos).MeetsPointer packet) :
    nameAt? packet pos =
      (Name.length? (packet.drop pos)).map fun n => ((packet.drop pos).take n, pos + n) := by
  cases hlength : Name.length? (packet.drop pos) with
  | some n =>
    obtain ⟨labels, hbegins, rfl⟩ := Name.length?_eq_some_iff_begins.1 hlength
    rw [nameAt?_of_begins hbegins, Option.map_some, hbegins.take_eq]
  | none =>
    rw [Option.map_none, Option.eq_none_iff_forall_ne_some]
    rintro ⟨name, after⟩ hname
    obtain ⟨labels, hbegins⟩ := begins_of_nameAt? hmeets hname
    exact nomatch hlength.symm.trans hbegins.length?_eq

/-- The two readers of names agree. A name that is read in a message is a whole plain name. Where no
pointer is met, a name is read in the message exactly if a plain name stands there, which is then
that name, and the reading ends behind it; where one is met, no plain name stands. So a plain name
is read as it is, whatever stands before and behind it. -/
theorem nameReaders_agree (packet : Bytes) (pos : Nat) :
    (∀ name after, nameAt? packet pos = some (name, after) →
      Name.length? name = some name.length) ∧
    (¬ (Reading.start pos).MeetsPointer packet → ∀ name after,
      nameAt? packet pos = some (name, after) ↔ ∃ n, Name.length? (packet.drop pos) = some n ∧
        name = (packet.drop pos).take n ∧ after = pos + n) ∧
    ((Reading.start pos).MeetsPointer packet → Name.length? (packet.drop pos) = none) ∧
    ∀ before name behind, Name.length? name = some name.length →
      nameAt? (before ++ name ++ behind) before.length =
        some (name, before.length + name.length) := by
  refine ⟨fun name after => length?_of_nameAt?, fun hmeets name after => ?_,
    length?_of_meetsPointer, fun before name behind hname => ?_⟩
  · rw [nameAt?_of_not_meetsPointer hmeets, Option.map_eq_some_iff]
    simp only [Prod.mk.injEq, eq_comm]
  · obtain ⟨labels, hbegins, hlength⟩ := Name.length?_eq_some_iff_begins.1 hname
    have hwhole := hbegins.take_eq
    rw [hlength, List.take_length] at hwhole
    subst hwhole
    rw [Name.length_ofLabels]
    apply nameAt?_of_begins
    rw [List.append_assoc, List.drop_left' rfl]
    exact hbegins.behind behind

/-- A message in which a name stands at 1 and a pointer to it at 4: no pointer is met from the name
on, one is met from the pointer on, and only the reader for messages makes the name of it. -/
theorem nameReaders_agree_behind_pointer :
    ¬ (Reading.start 1).MeetsPointer [9, 1, 97, 0, 0xC0, 1] ∧
      nameAt? ([9] ++ [1, 97, 0] ++ [0xC0, 1]) 1 = some ([1, 97, 0], 4) ∧
      (Reading.start 4).MeetsPointer [9, 1, 97, 0, 0xC0, 1] ∧
      Name.length? (([9, 1, 97, 0, 0xC0, 1] : Bytes).drop 4) = none ∧
      nameAt? [9, 1, 97, 0, 0xC0, 1] 4 = some ([1, 97, 0], 6) ∧ Name.length? [1, 97, 0] = some 3 := by
  have hlength : Name.length? [1, 97, 0] = some 3 := by cbv
  have hname : nameAt? [9, 1, 97, 0, 0xC0, 1] 4 = some ([1, 97, 0], 6) := by cbv
  have hmeets : (Reading.start 4).MeetsPointer [9, 1, 97, 0, 0xC0, 1] :=
    ⟨.start 4, 0xC0, .refl, rfl, by decide⟩
  have hstands : Name.length? (([9, 1, 97, 0, 0xC0, 1] : Bytes).drop 1) = some 3 := by cbv
  refine ⟨fun h => ?_, (nameReaders_agree [] 0).2.2.2 [9] [1, 97, 0] [0xC0, 1] hlength, hmeets,
    (nameReaders_agree _ 4).2.2.1 hmeets, hname, (nameReaders_agree _ 4).1 _ _ hname⟩
  rw [(nameReaders_agree _ 1).2.2.1 h] at hstands
  contradiction

end Resolver.Packet
