import Mathlib.Data.List.Basic
import Resolver.Proofs.Name
import Resolver.Proofs.Text.Utf8

/-!
# Dotted names

A dotted name is text: pieces with dots between them, and a dot at the end if one likes. It is read as the
name whose labels are the pieces as they are written in UTF-8.

Main statements: a text is read exactly when its pieces can be labels and make up no more than a name may
have, and what is read is shown as the text without its final dot; a name whose labels are text without
dots is read back from what is shown for it (`dotted_roundTrip`).
-/

namespace Resolver.Name

variable {text : String} {pieces : List String} {labels : List Bytes} {bytes : Bytes}

/-! ## Pieces between separators -/

theorem splitAtByte_eq_splitOn (separator : UInt8) (bytes : Bytes) :
    splitAtByte separator bytes = bytes.splitOn separator := by
  induction bytes with
  | nil => rfl
  | cons b rest ih =>
    rw [List.splitOn_cons_eq_if_modifyHead, splitAtByte, ih]
    by_cases hb : b = separator
    · simp [hb]
    · rw [if_neg hb, if_neg (by simpa using hb)]
      obtain ⟨first, others, hpieces⟩ :=
        List.exists_cons_of_ne_nil (List.splitOn_ne_nil separator rest)
      rw [hpieces]
      rfl

/-- No separator is left in what stands between them. -/
theorem not_mem_of_mem_splitOn {α : Type} [BEq α] [LawfulBEq α] {a : α} {xs piece : List α}
    (h : piece ∈ xs.splitOn a) : a ∉ piece := by
  induction xs generalizing piece with
  | nil =>
    obtain rfl : piece = [] := by simpa using h
    exact List.not_mem_nil
  | cons x xs ih =>
    rw [List.splitOn_cons_eq_if_modifyHead] at h
    split at h
    · rcases List.mem_cons.1 h with rfl | h
      · exact List.not_mem_nil
      · exact ih h
    · next hx =>
      obtain ⟨first, others, hpieces⟩ := List.exists_cons_of_ne_nil (List.splitOn_ne_nil a xs)
      rw [hpieces, List.modifyHead_cons, List.mem_cons] at h
      rcases h with rfl | h
      · intro hmem
        rcases List.mem_cons.1 hmem with rfl | hmem
        · exact hx (BEq.refl _)
        · exact ih (hpieces ▸ List.mem_cons_self) hmem
      · exact ih (hpieces ▸ List.mem_cons_of_mem _ h)

/-! ## Dots in written text -/

/-- A dot is written as one byte, and no other character has that byte in it. -/
theorem dot_mem_utf8EncodeChar_iff {c : Char} : dot ∈ String.utf8EncodeChar c ↔ c = '.' := by
  rw [Utf8.mem_utf8EncodeChar_iff (by decide), ← Char.toNat_inj]
  rfl

theorem dot_mem_encode_iff : dot ∈ Utf8.encode text ↔ '.' ∈ text.toList := by
  rw [Utf8.encode_eq, List.mem_flatMap]
  simp only [dot_mem_utf8EncodeChar_iff, exists_eq_right]

/-- What is written ends in the byte of a dot when the text ends in a dot. -/
theorem getLast?_encode_push {c : Char} :
    (Utf8.encode (text.push c)).getLast? = some dot ↔ c = '.' := by
  rw [Utf8.encode_push, List.getLast?_append_of_ne_nil _ String.utf8EncodeChar_ne_nil]
  constructor
  · intro hlast
    exact dot_mem_utf8EncodeChar_iff.1 (List.mem_of_getLast? hlast)
  · rintro rfl
    rfl

theorem encode_intercalate (pieces : List String) :
    Utf8.encode (".".intercalate pieces) = [dot].intercalate (pieces.map Utf8.encode) := by
  induction pieces with
  | nil => exact Utf8.encode_eq_nil_iff.2 rfl
  | cons piece pieces ih =>
    cases pieces with
    | nil => simp
    | cons second pieces =>
      have hdot : Utf8.encode "." = [dot] := by
        rw [Utf8.encode_eq]
        rfl
      rw [String.intercalate_cons_cons, Utf8.encode_append, Utf8.encode_append, ih, hdot]
      simp only [List.map_cons, List.intercalate_cons_cons]

/-- A text without its optional final dot. -/
def stem (text : String) : String :=
  if text.toList.getLast? = some '.' then String.ofList text.toList.dropLast else text

theorem stem_push (text : String) : stem (text.push '.') = text := by
  unfold stem
  rw [String.toList_push, if_pos List.getLast?_concat, List.dropLast_concat, String.ofList_toList]

theorem stem_of_ne (h : text.toList.getLast? ≠ some '.') : stem text = text :=
  if_neg h

/-- The final dot of a text is the final byte of its written form. -/
theorem encode_stem (text : String) : Utf8.encode (stem text) = withoutFinalDot (Utf8.encode text) := by
  unfold withoutFinalDot
  rcases List.eq_nil_or_concat text.toList with hnil | ⟨front, c, hlast⟩
  · have htext : text = "" := String.toList_inj.1 hnil
    subst htext
    have hempty : Utf8.encode "" = [] := Utf8.encode_eq_nil_iff.2 rfl
    rw [stem_of_ne (by simp), hempty]
    rfl
  · obtain rfl : text = (String.ofList front).push c := by
      apply String.toList_inj.1
      rw [hlast, String.toList_push, String.toList_ofList, List.concat_eq_append]
    by_cases hc : c = '.'
    · subst hc
      have hdot : String.utf8EncodeChar '.' = [dot] := rfl
      rw [stem_push, if_pos (getLast?_encode_push.2 rfl), Utf8.encode_push, hdot,
        List.dropLast_concat]
    · rw [stem_of_ne (by simpa using hc), if_neg (mt getLast?_encode_push.1 hc)]

/-! ## Reading -/

/-- The pieces are what stands between the dots of a text, a final dot aside, and have the sizes of labels
of a name. -/
structure Spelled (text : String) (pieces : List String) : Prop where
  stem_eq : stem text = ".".intercalate pieces
  plain : ∀ piece ∈ pieces, '.' ∉ piece.toList
  sized : ∀ piece ∈ pieces, 1 ≤ (Utf8.encode piece).length ∧ (Utf8.encode piece).length ≤ maxLabel
  length_le : (ofLabels (pieces.map Utf8.encode)).length ≤ maxLength

theorem Spelled.wellSized (h : Spelled text pieces) : WellSized (pieces.map Utf8.encode) :=
  List.forall_mem_map.2 h.sized

theorem ne_empty_of_sized (h : ∀ piece ∈ pieces, 1 ≤ (Utf8.encode piece).length) :
    ∀ piece ∈ pieces, piece ≠ "" := by
  rintro piece hmem rfl
  have hlength := h "" hmem
  rw [Utf8.encode_eq_nil_iff.2 rfl] at hlength
  exact absurd hlength (by decide)

/-- Pieces that are not empty make up a text that is not, unless there are none. -/
theorem intercalate_eq_empty_iff (h : ∀ piece ∈ pieces, piece ≠ "") :
    ".".intercalate pieces = "" ↔ pieces = [] := by
  cases pieces with
  | nil => simp
  | cons piece pieces =>
    have hpiece := h piece List.mem_cons_self
    cases pieces <;> simp [hpiece]

/-- The labels of a dotted name are its pieces as they are written. -/
theorem dottedLabels_eq (hstem : stem text = ".".intercalate pieces)
    (hplain : ∀ piece ∈ pieces, '.' ∉ piece.toList) (hroot : stem text = "" ↔ pieces = []) :
    dottedLabels (Utf8.encode text) = pieces.map Utf8.encode := by
  unfold dottedLabels
  rw [← encode_stem]
  by_cases hpieces : pieces = []
  · rw [if_pos (Utf8.encode_eq_nil_iff.2 (hroot.2 hpieces)), hpieces]
    rfl
  · have hdots : ∀ label ∈ pieces.map Utf8.encode, dot ∉ label := by
      intro label hlabel
      obtain ⟨piece, hpiece, rfl⟩ := List.mem_map.1 hlabel
      rw [dot_mem_encode_iff]
      exact hplain piece hpiece
    have hstem' : Utf8.encode (stem text) ≠ [] := by
      rw [ne_eq, Utf8.encode_eq_nil_iff, hroot]
      exact hpieces
    rw [if_neg hstem', splitAtByte_eq_splitOn, hstem, encode_intercalate]
    apply List.splitOn_intercalate _ hdots
    simpa using hpieces

/-- Every text is made up of pieces without dots, of none if it is empty. -/
theorem exists_pieces (text : String) : ∃ pieces : List String, text = ".".intercalate pieces ∧
    (∀ piece ∈ pieces, '.' ∉ piece.toList) ∧ (text = "" ↔ pieces = []) := by
  by_cases htext : text = ""
  · exact ⟨[], by simpa using htext, by simp, by simpa using htext⟩
  · refine ⟨(text.toList.splitOn '.').map String.ofList, ?_, ?_, ?_⟩
    · apply String.toList_inj.1
      rw [String.toList_intercalate, List.map_map]
      have hback : String.toList ∘ String.ofList = id := by
        funext cs
        exact String.toList_ofList
      rw [hback, List.map_id]
      exact (List.intercalate_splitOn '.').symm
    · intro piece hpiece
      obtain ⟨cs, hcs, rfl⟩ := List.mem_map.1 hpiece
      rw [String.toList_ofList]
      exact not_mem_of_mem_splitOn hcs
    · simpa using htext

/-- What is read from a dotted name is the name of its pieces, if these are of the sizes of labels. -/
theorem ofDotted?_eq_some_iff : ofDotted? text = some bytes ↔
    ∃ pieces, Spelled text pieces ∧ bytes = ofLabels (pieces.map Utf8.encode) := by
  constructor
  · intro h
    obtain ⟨hsized, hlength, rfl⟩ := of_ofDotted? h
    obtain ⟨pieces, hstem, hplain, hroot⟩ := exists_pieces (stem text)
    rw [dottedLabels_eq hstem hplain hroot] at hsized hlength ⊢
    refine ⟨pieces, ⟨hstem, hplain, List.forall_mem_map.1 hsized, ?_⟩, rfl⟩
    rw [length_ofLabels]
    exact hlength
  · rintro ⟨pieces, h, rfl⟩
    have hroot : stem text = "" ↔ pieces = [] := by
      rw [h.stem_eq]
      apply intercalate_eq_empty_iff
      apply ne_empty_of_sized
      intro piece hpiece
      exact (h.sized piece hpiece).1
    have hlength := h.length_le
    rw [length_ofLabels] at hlength
    unfold ofDotted?
    dsimp only
    rw [dottedLabels_eq h.stem_eq h.plain hroot, if_pos]
    rw [Bool.and_eq_true, List.all_eq_true, decide_eq_true_iff]
    refine ⟨?_, hlength⟩
    intro label hlabel
    simpa using h.wellSized label hlabel

/-! ## Showing -/

/-- The pieces of a name are shown behind the text before them, with dots between. -/
theorem dottedFrom_ofLabels (h : WellSized (pieces.map Utf8.encode)) (text : String) :
    dottedFrom (ofLabels (pieces.map Utf8.encode)) text =
      if text = "" then ".".intercalate pieces else ".".intercalate (text :: pieces) := by
  induction pieces generalizing text with
  | nil =>
    show dottedFrom [0] text = _
    unfold dottedFrom
    rw [if_pos rfl]
    split <;> simp_all
  | cons piece pieces ih =>
    obtain ⟨⟨hlow, hhigh⟩, hsized⟩ := wellSized_cons.1 h
    have hbyte := toNat_ofNat_length hhigh
    have hzero : UInt8.ofNat (Utf8.encode piece).length ≠ 0 := by
      intro heq
      rw [heq] at hbyte
      have hnone : (0 : UInt8).toNat = 0 := rfl
      omega
    have hpiece : piece ≠ "" := by
      rintro rfl
      rw [Utf8.encode_eq_nil_iff.2 rfl] at hlow
      exact absurd hlow (by decide)
    rw [List.map_cons, ofLabels, List.cons_append, dottedFrom, if_neg hzero, hbyte,
      List.take_left' rfl, List.drop_left' rfl, Utf8.decodeLossy_encode, ih hsized]
    -- what is shown so far is not empty any more
    by_cases htext : text = ""
    · subst htext
      simp [hpiece]
    · simp [htext, hpiece, String.push_eq_append, String.append_assoc]

/-- A name whose labels are text is shown as its pieces with dots between them. -/
theorem toDotted_ofLabels (h : WellSized (pieces.map Utf8.encode)) :
    toDotted (ofLabels (pieces.map Utf8.encode)) =
      if pieces = [] then "." else ".".intercalate pieces := by
  have hpieces : ∀ piece ∈ pieces, piece ≠ "" := by
    apply ne_empty_of_sized
    intro piece hpiece
    exact (List.forall_mem_map.1 h piece hpiece).1
  unfold toDotted
  dsimp only
  rw [dottedFrom_ofLabels h, if_pos rfl]
  simp only [String.isEmpty_iff, intercalate_eq_empty_iff hpieces]

/-- A text made up of pieces without dots does not end in one. -/
theorem getLast?_intercalate_ne (hplain : ∀ piece ∈ pieces, '.' ∉ piece.toList)
    (hpieces : ∀ piece ∈ pieces, piece ≠ "") :
    (".".intercalate pieces).toList.getLast? ≠ some '.' := by
  induction pieces with
  | nil => simp
  | cons piece pieces ih =>
    obtain ⟨hdots, hplain⟩ := List.forall_mem_cons.1 hplain
    obtain ⟨-, hothers⟩ := List.forall_mem_cons.1 hpieces
    cases pieces with
    | nil =>
      rw [String.intercalate_singleton]
      intro heq
      exact hdots (List.mem_of_getLast? heq)
    | cons second pieces =>
      have hrest : (".".intercalate (second :: pieces)).toList ≠ [] := by
        intro hnil
        exact absurd ((intercalate_eq_empty_iff hothers).1 (String.toList_inj.1 hnil)) (by simp)
      rw [String.intercalate_cons_cons, String.toList_append, List.getLast?_append_of_ne_nil _ hrest]
      exact ih hplain hothers

/-- A name whose labels are text without dots is spelled by what is shown for it. -/
theorem spelled_toDotted (hsized : WellSized (pieces.map Utf8.encode))
    (hlength : wireLength (pieces.map Utf8.encode) ≤ maxLength)
    (hplain : ∀ piece ∈ pieces, '.' ∉ piece.toList) :
    Spelled (toDotted (ofLabels (pieces.map Utf8.encode))) pieces := by
  have hsizes := List.forall_mem_map.1 hsized
  have hpieces : ∀ piece ∈ pieces, piece ≠ "" := by
    apply ne_empty_of_sized
    intro piece hpiece
    exact (hsizes piece hpiece).1
  refine ⟨?_, hplain, hsizes, ?_⟩
  · rw [toDotted_ofLabels hsized]
    split
    · next hroot =>
      subst hroot
      exact stem_push ""
    · exact stem_of_ne (getLast?_intercalate_ne hplain hpieces)
  · rw [length_ofLabels]
    exact hlength

/-- Labels that are text without dots are pieces as they are written. -/
theorem exists_pieces_of_labels
    (h : ∀ label ∈ labels, ∃ piece, Utf8.encode piece = label ∧ '.' ∉ piece.toList) :
    ∃ pieces : List String, labels = pieces.map Utf8.encode ∧
      ∀ piece ∈ pieces, '.' ∉ piece.toList := by
  induction labels with
  | nil => exact ⟨[], rfl, by simp⟩
  | cons label labels ih =>
    obtain ⟨⟨piece, rfl, hpiece⟩, hlabels⟩ := List.forall_mem_cons.1 h
    obtain ⟨pieces, rfl, hpieces⟩ := ih hlabels
    exact ⟨piece :: pieces, rfl, List.forall_mem_cons.2 ⟨hpiece, hpieces⟩⟩

/-! ## Both ways -/

/-- A dotted name is read exactly when what stands between its dots, a final dot aside, are pieces of 1 to
63 bytes whose name takes at most 255; the empty text has none and names the root. What is read is that
name, whole, and it is shown as the text without its final dot, the root as a dot. A whole name whose
labels are text without dots is read back from what is shown for it. -/
theorem dotted_roundTrip (text : String) (name : Bytes) :
    (ofDotted? text = some name ↔
      ∃ pieces, Spelled text pieces ∧ name = ofLabels (pieces.map Utf8.encode)) ∧
    (ofDotted? text = some name → length? name = some name.length ∧
      toDotted name = if stem text = "" then "." else stem text) ∧
    (length? name = some name.length → ∀ labels, labels? name = some labels →
      (∀ label ∈ labels, ∃ piece, Utf8.encode piece = label ∧ '.' ∉ piece.toList) →
      ofDotted? (toDotted name) = some name) := by
  refine ⟨ofDotted?_eq_some_iff, ?_, ?_⟩
  · intro h
    obtain ⟨pieces, hspelled, rfl⟩ := ofDotted?_eq_some_iff.1 h
    have hname : IsName (ofLabels (pieces.map Utf8.encode)) := by
      refine ⟨_, hspelled.wellSized, ?_, rfl⟩
      rw [← length_ofLabels]
      exact hspelled.length_le
    refine ⟨hname.length?_eq, ?_⟩
    rw [toDotted_ofLabels hspelled.wellSized, hspelled.stem_eq]
    have hroot : ".".intercalate pieces = "" ↔ pieces = [] := by
      apply intercalate_eq_empty_iff
      apply ne_empty_of_sized
      intro piece hpiece
      exact (hspelled.sized piece hpiece).1
    simp only [hroot]
  · intro hlength labels hlabels htext
    have hbegins := labels?_eq_some_iff.1 hlabels
    obtain ⟨pieces, rfl, hplain⟩ := exists_pieces_of_labels htext
    -- the whole byte string is the name in front of it
    have hname : name = ofLabels (pieces.map Utf8.encode) := by
      have hwhole := hbegins.take_eq
      rw [← Option.some_inj.1 (hlength.symm.trans hbegins.length?_eq), List.take_length] at hwhole
      exact hwhole
    rw [hname]
    apply ofDotted?_eq_some_iff.2
    exact ⟨pieces, spelled_toDotted hbegins.sized hbegins.length_le hplain, rfl⟩

end Resolver.Name
