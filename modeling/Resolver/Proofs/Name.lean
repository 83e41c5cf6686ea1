import Resolver.Name

/-!
# Names and their labels

A byte string is a name when it is the wire form of labels of 1 to 63 bytes that takes at most 255
bytes. Main statements: the labels in front of a byte string are those whose wire form stands there
(`labelsOf_eq_some_iff`), names are equal when they differ in letter case alone (`equal_iff`), and that
is when their labels do (`lowerBytes_ofLabels_inj`).
-/

namespace Resolver.Name

/-- Labels that a name can have. -/
def WellSized (labels : List Bytes) : Prop :=
  ∀ label ∈ labels, 1 ≤ label.length ∧ label.length ≤ maxLabel

/-- The byte string is one whole name, with nothing behind it. -/
def IsName (name : Bytes) : Prop :=
  ∃ labels, WellSized labels ∧ wireLength labels ≤ maxLength ∧ name = ofLabels labels

theorem wellSized_cons {label : Bytes} {labels : List Bytes} :
    WellSized (label :: labels) ↔
      (1 ≤ label.length ∧ label.length ≤ maxLabel) ∧ WellSized labels :=
  List.forall_mem_cons

/-- The root label takes a byte. -/
theorem wireLength_pos (labels : List Bytes) : 0 < wireLength labels := by
  cases labels with
  | nil => exact Nat.one_pos
  | cons label labels =>
    rw [wireLength]
    omega

/-- The length of a label fits in a byte. -/
theorem toNat_ofNat_length {label : Bytes} (h : label.length ≤ maxLabel) :
    (UInt8.ofNat label.length).toNat = label.length := by
  unfold maxLabel at h
  rw [UInt8.toNat_ofNat', Nat.mod_eq_of_lt (by omega)]

/-! ## Labels in front of a byte string -/

theorem labelsOf_ofLabels {labels : List Bytes} (h : WellSized labels) (rest : Bytes) :
    labelsOf (ofLabels labels ++ rest) = some labels := by
  induction labels with
  | nil =>
    show labelsOf (0 :: rest) = some []
    unfold labelsOf
    exact if_pos rfl
  | cons label labels ih =>
    obtain ⟨⟨hlow, hhigh⟩, hrest⟩ := wellSized_cons.1 h
    have hbyte := toNat_ofNat_length hhigh
    have hne : UInt8.ofNat label.length ≠ 0 := by
      intro hzero
      rw [hzero] at hbyte
      have hzeroNat : (0 : UInt8).toNat = 0 := rfl
      omega
    -- the byte in front is neither the end nor too long for a label, so a label is taken
    rw [ofLabels, List.append_assoc, List.cons_append, labelsOf, if_neg hne, hbyte,
      if_neg (by omega), List.take_left' rfl, List.drop_left' rfl,
      if_neg (Nat.lt_irrefl _), ih hrest]
    rfl

theorem of_labelsOf {bytes : Bytes} {labels : List Bytes} (h : labelsOf bytes = some labels) :
    WellSized labels ∧ ofLabels labels <+: bytes := by
  fun_induction labelsOf bytes generalizing labels with
  | case1 => contradiction
  | case2 rest =>
    obtain rfl := Option.some.inj h
    exact ⟨fun label hlabel => (nomatch hlabel), rest, rfl⟩
  | case3 => contradiction
  | case4 => contradiction
  | case5 n rest hzero hlong hshort ih =>
    obtain ⟨labels, hlabels, rfl⟩ := Option.map_eq_some_iff.1 h
    obtain ⟨hsized, tail, htail⟩ := ih hlabels
    have hlength : (rest.take n.toNat).length = n.toNat := by
      have := List.length_take_le n.toNat rest
      omega
    have hpos : n.toNat ≠ 0 := fun heq => hzero (UInt8.toNat_inj.1 heq)
    refine ⟨wellSized_cons.2 ⟨⟨by omega, by omega⟩, hsized⟩, tail, ?_⟩
    rw [ofLabels, hlength, UInt8.ofNat_toNat, List.append_assoc, List.cons_append, htail,
      List.take_append_drop]

/-- The labels in front of a byte string are those whose wire form stands there. -/
theorem labelsOf_eq_some_iff {bytes : Bytes} {labels : List Bytes} :
    labelsOf bytes = some labels ↔ WellSized labels ∧ ofLabels labels <+: bytes := by
  constructor
  · exact of_labelsOf
  · rintro ⟨hsized, rest, rfl⟩
    exact labelsOf_ofLabels hsized rest

/-! ## Lengths -/

/-- The length of the name in front of a byte string is how many of its bytes are a name. -/
theorem length?_eq_some_iff {bytes : Bytes} {n : Nat} :
    length? bytes = some n ↔ n ≤ bytes.length ∧ IsName (bytes.take n) := by
  unfold length? labels?
  rw [Option.map_eq_some_iff]
  simp only [Option.filter_eq_some_iff, decide_eq_true_eq, labelsOf_eq_some_iff]
  constructor
  · rintro ⟨labels, ⟨⟨hsized, rest, rfl⟩, hlength⟩, rfl⟩
    refine ⟨?_, labels, hsized, hlength, ?_⟩
    · rw [List.length_append, length_ofLabels]
      omega
    · exact List.take_left' (length_ofLabels labels)
  · rintro ⟨hle, labels, hsized, hlength, hname⟩
    refine ⟨labels, ⟨⟨hsized, bytes.drop n, ?_⟩, hlength⟩, ?_⟩
    · rw [← hname, List.take_append_drop]
    · rw [← length_ofLabels, ← hname, List.length_take]
      omega

theorem IsName.length?_eq {name : Bytes} (h : IsName name) : length? name = some name.length := by
  rw [length?_eq_some_iff, List.take_length]
  exact ⟨Nat.le_refl _, h⟩

/-! ## Names in front of a byte string -/

/-- The byte string begins with the name of these labels. -/
structure Begins (bytes : Bytes) (labels : List Bytes) : Prop where
  sized : WellSized labels
  length_le : wireLength labels ≤ maxLength
  stands : ofLabels labels <+: bytes

theorem labels?_eq_some_iff {bytes : Bytes} {labels : List Bytes} :
    labels? bytes = some labels ↔ Begins bytes labels := by
  unfold labels?
  simp only [Option.filter_eq_some_iff, decide_eq_true_eq, labelsOf_eq_some_iff]
  constructor
  · rintro ⟨⟨hsized, hstands⟩, hlength⟩
    exact ⟨hsized, hlength, hstands⟩
  · intro h
    exact ⟨⟨h.sized, h.stands⟩, h.length_le⟩

/-- What is behind a name is not looked at. -/
theorem Begins.behind {bytes : Bytes} {labels : List Bytes}
    (h : Begins bytes labels) (rest : Bytes) : Begins (ofLabels labels ++ rest) labels :=
  ⟨h.sized, h.length_le, List.prefix_append _ _⟩

theorem Begins.length?_eq {bytes : Bytes} {labels : List Bytes}
    (h : Begins bytes labels) :
    length? bytes = some (wireLength labels) := by
  unfold length?
  rw [labels?_eq_some_iff.2 h]
  rfl

/-- As many bytes as the name is long are the name. -/
theorem Begins.take_eq {bytes : Bytes} {labels : List Bytes}
    (h : Begins bytes labels) :
    bytes.take (wireLength labels) = ofLabels labels := by
  obtain ⟨rest, rfl⟩ := h.stands
  exact List.take_left' (length_ofLabels labels)

/-! ## Equality -/

/-- Names are equal when they differ in letter case alone. -/
theorem equal_iff {a b : Bytes} (ha : IsName a) (hb : IsName b) :
    equal a b = true ↔ lowerBytes a = lowerBytes b := by
  unfold equal
  rw [ha.length?_eq, hb.length?_eq]
  simp only [List.take_length, Bool.and_eq_true, beq_iff_eq]
  apply and_iff_right_of_imp
  intro h
  -- lower case has the same length, so equal names in lower case are of one length
  have hlength := congrArg List.length h
  rw [length_lowerBytes, length_lowerBytes] at hlength
  exact hlength

theorem IsName.lower?_eq {name : Bytes} (h : IsName name) : lower? name = some (lowerBytes name) := by
  unfold lower?
  rw [h.length?_eq, Option.map_some, List.take_length]

/-- Folding a name folds its labels and leaves their lengths alone. -/
theorem lowerBytes_ofLabels {labels : List Bytes} (h : WellSized labels) :
    lowerBytes (ofLabels labels) = ofLabels (labels.map lowerBytes) := by
  induction labels with
  | nil => rfl
  | cons label labels ih =>
    obtain ⟨⟨-, hhigh⟩, hrest⟩ := wellSized_cons.1 h
    -- the byte with the length of a label is no letter
    have hbyte : lowerByte (UInt8.ofNat label.length) = UInt8.ofNat label.length := by
      have hlow : (UInt8.ofNat label.length).toNat < 65 := by
        rw [toNat_ofNat_length hhigh]
        unfold maxLabel at hhigh
        omega
      have hletter : ¬ (65 : UInt8) ≤ UInt8.ofNat label.length :=
        fun hle => absurd (UInt8.le_iff_toNat_le.1 hle) (Nat.not_le.2 hlow)
      exact if_neg fun hcapital => hletter hcapital.1
    have happend : lowerBytes (UInt8.ofNat label.length :: label ++ ofLabels labels) =
        lowerByte (UInt8.ofNat label.length) :: lowerBytes label ++ lowerBytes (ofLabels labels) := by
      unfold lowerBytes
      rw [List.map_append, List.map_cons]
    rw [List.map_cons, ofLabels, ofLabels, length_lowerBytes, happend, hbyte, ih hrest]

/-- Labels that a name can have are told apart by its wire form. -/
theorem ofLabels_inj {a b : List Bytes} (ha : WellSized a) (hb : WellSized b) :
    ofLabels a = ofLabels b ↔ a = b := by
  constructor
  · intro h
    have hread := labelsOf_ofLabels ha []
    rw [h, labelsOf_ofLabels hb] at hread
    exact (Option.some.inj hread).symm
  · intro h
    rw [h]

theorem WellSized.lower {labels : List Bytes} (h : WellSized labels) :
    WellSized (labels.map lowerBytes) := by
  intro label hlabel
  obtain ⟨original, horiginal, rfl⟩ := List.mem_map.1 hlabel
  rw [length_lowerBytes]
  exact h original horiginal

/-- Names differ in letter case alone when their labels do. -/
theorem lowerBytes_ofLabels_inj {a b : List Bytes} (ha : WellSized a) (hb : WellSized b) :
    lowerBytes (ofLabels a) = lowerBytes (ofLabels b) ↔ a.map lowerBytes = b.map lowerBytes := by
  rw [lowerBytes_ofLabels ha, lowerBytes_ofLabels hb, ofLabels_inj ha.lower hb.lower]

/-! ## Dotted form -/

/-- A dotted name that is read is the name of its labels. -/
theorem of_ofDotted? {text : String} {name : Bytes} (h : ofDotted? text = some name) :
    WellSized (dottedLabels (Utf8.encode text)) ∧
      wireLength (dottedLabels (Utf8.encode text)) ≤ maxLength ∧
      name = ofLabels (dottedLabels (Utf8.encode text)) := by
  unfold ofDotted? at h
  dsimp only at h
  split at h
  · rename_i hchecks
    rw [Bool.and_eq_true, List.all_eq_true, decide_eq_true_iff] at hchecks
    refine ⟨?_, hchecks.2, (Option.some.inj h).symm⟩
    intro label hlabel
    simpa using hchecks.1 label hlabel
  · contradiction

end Resolver.Name
