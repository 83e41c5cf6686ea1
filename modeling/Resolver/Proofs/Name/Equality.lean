import Mathlib.Data.List.Forall2
import Resolver.Pool
import Resolver.Proofs.Bytes
import Resolver.Proofs.Name

/-!
# One notion of equality

A reply is checked with `Name.equal`, answers are kept and queries are shared under names in lower case.
Both come to the same, because the byte with the length of a label is below every letter: folding a name
folds the labels and leaves the places where they begin.

Main statement: for byte strings that begin with names, `Name.equal`, equal lower case, equal keys and
labels that differ in the case of letters alone are one and the same, whatever is behind the names; what
begins with no name equals nothing (`Name.equality_agrees`).
-/

namespace Resolver

/-! ## Letters -/

/-- The byte is an ASCII capital. -/
def IsCapital (b : UInt8) : Prop :=
  65 ≤ b.toNat ∧ b.toNat ≤ 90

/-- Two bytes are the same, or one is the capital of the other. -/
def SameLetter (b c : UInt8) : Prop :=
  b = c ∨ IsCapital b ∧ c.toNat = b.toNat + 32 ∨ IsCapital c ∧ b.toNat = c.toNat + 32

theorem toNat_lowerByte (b : UInt8) :
    (lowerByte b).toNat = if 65 ≤ b.toNat ∧ b.toNat ≤ 90 then b.toNat + 32 else b.toNat := by
  have hstep : (32 : UInt8).toNat = 32 := rfl
  have hcapital : (65 ≤ b ∧ b ≤ 90) ↔ 65 ≤ b.toNat ∧ b.toNat ≤ 90 := by
    simp only [UInt8.le_iff_toNat_le]
    rfl
  unfold lowerByte
  simp only [hcapital]
  split
  · rw [UInt8.toNat_add, hstep]
    omega
  · rfl

/-- Folding makes two bytes the same when they are the same letter. -/
theorem lowerByte_eq_iff {b c : UInt8} : lowerByte b = lowerByte c ↔ SameLetter b c := by
  unfold SameLetter IsCapital
  rw [← UInt8.toNat_inj, ← UInt8.toNat_inj, toNat_lowerByte, toNat_lowerByte]
  split <;> split <;> omega

theorem lowerBytes_eq_iff {a b : Bytes} :
    lowerBytes a = lowerBytes b ↔ List.Forall₂ SameLetter a b := by
  unfold lowerBytes
  rw [← List.forall₂_eq_eq_eq, List.forall₂_map_left_iff, List.forall₂_map_right_iff]
  simp only [lowerByte_eq_iff]

namespace Name

variable {a b rest : Bytes} {labels others : List Bytes}

/-! ## Folding -/

/-- As many labels on both sides, and each differs from its partner in the case of letters alone. -/
def SameLabels (labels others : List Bytes) : Prop :=
  List.Forall₂ (List.Forall₂ SameLetter) labels others

theorem map_lowerBytes_eq_iff :
    labels.map lowerBytes = others.map lowerBytes ↔ SameLabels labels others := by
  unfold SameLabels
  rw [← List.forall₂_eq_eq_eq, List.forall₂_map_left_iff, List.forall₂_map_right_iff]
  simp only [lowerBytes_eq_iff]

theorem wireLength_map_lowerBytes (labels : List Bytes) :
    wireLength (labels.map lowerBytes) = wireLength labels := by
  induction labels with
  | nil => rfl
  | cons label labels ih => simp [wireLength, ih]

/-- The lower-case form of a name is the name of its labels in lower case. -/
theorem Begins.lower?_eq (h : Begins a labels) :
    lower? a = some (ofLabels (labels.map lowerBytes)) := by
  unfold lower?
  rw [h.length?_eq, Option.map_some, h.take_eq, lowerBytes_ofLabels h.sized]

/-- Labels in lower case are those of a name. -/
theorem Begins.lower (h : Begins a labels) :
    Begins (ofLabels (labels.map lowerBytes)) (labels.map lowerBytes) where
  sized := h.sized.lower
  length_le := by
    rw [wireLength_map_lowerBytes]
    exact h.length_le
  stands := List.prefix_refl _

theorem Begins.lower?_inj (ha : Begins a labels) (hb : Begins b others) :
    lower? a = lower? b ↔ SameLabels labels others := by
  rw [ha.lower?_eq, hb.lower?_eq, Option.some_inj, ofLabels_inj ha.sized.lower hb.sized.lower,
    map_lowerBytes_eq_iff]

/-! ## Equality and keys -/

/-- Names are equal when their lower-case forms are. -/
theorem Begins.equal_iff_lower? (ha : Begins a labels) (hb : Begins b others) :
    equal a b = true ↔ lower? a = lower? b := by
  have hfold : ∀ {bytes names}, Begins bytes names →
      lower? bytes = some (lowerBytes (ofLabels names)) := by
    intro bytes names h
    rw [h.lower?_eq, lowerBytes_ofLabels h.sized]
  unfold equal
  rw [ha.length?_eq, hb.length?_eq, hfold ha, hfold hb]
  simp only [ha.take_eq, hb.take_eq, Bool.and_eq_true, beq_iff_eq, Option.some_inj]
  apply and_iff_right_of_imp
  intro h
  -- folding keeps the length, so names of different lengths differ in lower case, too
  have hlength := congrArg List.length h
  simpa using hlength

/-- The key of a name is told from that of another by the type and by the labels. -/
theorem Begins.cacheKey?_inj (ha : Begins a labels) (hb : Begins b others) (q r : UInt16) :
    Packet.cacheKey? q a = Packet.cacheKey? r b ↔ q = r ∧ SameLabels labels others := by
  have hlabels := ha.lower?_inj hb
  unfold Packet.cacheKey?
  rw [ha.lower?_eq, hb.lower?_eq, Option.some_inj] at hlabels
  rw [ha.lower?_eq, hb.lower?_eq, Option.map_some, Option.map_some, Option.some_inj, ← hlabels]
  constructor
  · intro h
    obtain ⟨htype, hname⟩ := List.append_inj h (by simp)
    exact ⟨wordBytes_inj.1 htype, hname⟩
  · rintro ⟨rfl, hname⟩
    rw [hname]

/-- Queries are shared under the same key when they ask for the same type, and name and zone have the
same labels. -/
theorem Begins.key?_inj {c d : Bytes} {zone zone' : List Bytes} (ha : Begins a labels)
    (hb : Begins b others) (hc : Begins c zone) (hd : Begins d zone') (q r : UInt16) :
    Pool.key? a q c = Pool.key? b r d ↔
      q = r ∧ SameLabels labels others ∧ SameLabels zone zone' := by
  have hlabels := ha.lower?_inj hb
  have hzones := hc.lower?_inj hd
  unfold Pool.key?
  rw [ha.lower?_eq, hb.lower?_eq, Option.some_inj] at hlabels
  rw [hc.lower?_eq, hd.lower?_eq, Option.some_inj] at hzones
  rw [ha.lower?_eq, hb.lower?_eq, hc.lower?_eq, hd.lower?_eq, ← hlabels, ← hzones]
  simp only [Option.bind_eq_bind, Option.bind_some, Option.pure_def, Option.some_inj,
    PoolKey.mk.injEq]
  tauto

theorem equal_comm (a b : Bytes) : equal a b = equal b a := by
  unfold equal
  cases length? a <;> cases length? b <;> simp [eq_comm, Bool.beq_eq_decide_eq]

/-- Byte strings that begin with the same name equal the same. -/
theorem Begins.equal_congr (ha : Begins a labels) (hb : Begins b labels) (c : Bytes) :
    equal a c = equal b c := by
  unfold equal
  rw [ha.length?_eq, hb.length?_eq]
  cases length? c with
  | none => rfl
  | some length =>
    dsimp only
    rw [ha.take_eq, hb.take_eq]

/-! ## Places -/

/-- Where the labels begin, the root last: the places of the bytes with their lengths. -/
def starts : List Bytes → List Nat
  | [] => [0]
  | label :: labels => 0 :: (starts labels).map (1 + label.length + ·)

theorem starts_map_lowerBytes (labels : List Bytes) :
    starts (labels.map lowerBytes) = starts labels := by
  induction labels with
  | nil => rfl
  | cons label labels ih => simp [starts, ih]

/-- Folding leaves the lengths of labels alone. -/
theorem getElem?_lower_of_mem_starts {p : Nat} (h : WellSized labels) (hp : p ∈ starts labels) :
    (ofLabels (labels.map lowerBytes))[p]? = (ofLabels labels ++ rest)[p]? := by
  induction labels generalizing p with
  | nil =>
    obtain rfl : p = 0 := by simpa [starts] using hp
    rfl
  | cons label labels ih =>
    obtain ⟨-, hsized⟩ := wellSized_cons.1 h
    rw [starts, List.mem_cons, List.mem_map] at hp
    rw [List.map_cons, ofLabels, ofLabels, length_lowerBytes, List.append_assoc]
    rcases hp with rfl | ⟨p, hp, rfl⟩
    · rfl
    · -- behind the label stand the others
      have hfolded : (UInt8.ofNat label.length :: lowerBytes label).length ≤ 1 + label.length + p := by
        simp only [List.length_cons, length_lowerBytes]
        omega
      have hplain : (UInt8.ofNat label.length :: label).length ≤ 1 + label.length + p := by
        simp only [List.length_cons]
        omega
      rw [List.getElem?_append_right hfolded, List.getElem?_append_right hplain]
      simp only [List.length_cons, length_lowerBytes]
      rw [show 1 + label.length + p - (label.length + 1) = p by omega]
      exact ih hsized hp

/-- For byte strings that begin with names it is one and the same to be equal, to have one lower-case
form, and to have labels that differ in the case of letters alone; and with the same type this is to have
one key in the cache and, if the zones agree as well, to share a query. What is behind the root makes no
difference. Folding leaves the places where labels begin as they are, and the lengths that stand there.
What begins with no name equals nothing, and has neither lower-case form nor key. -/
theorem equality_agrees (a b : Bytes) :
    (∀ labels others, Begins a labels → Begins b others →
      (equal a b = true ↔ lower? a = lower? b) ∧
      (lower? a = lower? b ↔ SameLabels labels others) ∧
      (∀ q r, Packet.cacheKey? q a = Packet.cacheKey? r b ↔ q = r ∧ SameLabels labels others) ∧
      ∀ q r c d zone zone', Begins c zone → Begins d zone' →
        (Pool.key? a q c = Pool.key? b r d ↔
          q = r ∧ SameLabels labels others ∧ SameLabels zone zone')) ∧
    (∀ labels, Begins a labels →
      length? a = some (wireLength labels) ∧
      (∀ rest, Begins (ofLabels labels ++ rest) labels ∧
        equal (ofLabels labels ++ rest) b = equal a b ∧
        equal b (ofLabels labels ++ rest) = equal b a ∧
        lower? (ofLabels labels ++ rest) = lower? a ∧
        ∀ q, Packet.cacheKey? q (ofLabels labels ++ rest) = Packet.cacheKey? q a) ∧
      ∃ folded, lower? a = some folded ∧ Begins folded (labels.map lowerBytes) ∧
        starts (labels.map lowerBytes) = starts labels ∧
        ∀ p ∈ starts labels, folded[p]? = a[p]?) ∧
    (length? a = none ↔ ∀ labels, ¬ Begins a labels) ∧
    ((∀ labels, ¬ Begins a labels) →
      equal a b = false ∧ equal b a = false ∧ lower? a = none ∧
      ∀ q, Packet.cacheKey? q a = none) := by
  have hnone : length? a = none ↔ ∀ labels, ¬ Begins a labels := by
    unfold length?
    rw [Option.map_eq_none_iff, Option.eq_none_iff_forall_ne_some]
    simp only [ne_eq, labels?_eq_some_iff]
  refine ⟨?_, ?_, hnone, ?_⟩
  · intro labels others ha hb
    refine ⟨ha.equal_iff_lower? hb, ha.lower?_inj hb, ha.cacheKey?_inj hb, ?_⟩
    intro q r c d zone zone' hc hd
    exact ha.key?_inj hb hc hd q r
  · intro labels ha
    have hlower (rest : Bytes) : lower? (ofLabels labels ++ rest) = lower? a := by
      rw [(ha.behind rest).lower?_eq, ha.lower?_eq]
    refine ⟨ha.length?_eq, ?_, _, ha.lower?_eq, ha.lower, starts_map_lowerBytes labels, ?_⟩
    · intro rest
      refine ⟨ha.behind rest, (ha.behind rest).equal_congr ha b, ?_, hlower rest, ?_⟩
      · rw [equal_comm b, equal_comm b]
        exact (ha.behind rest).equal_congr ha b
      · intro q
        unfold Packet.cacheKey?
        rw [hlower]
    · intro p hp
      obtain ⟨rest, rfl⟩ := ha.stands
      exact getElem?_lower_of_mem_starts ha.sized hp
  · intro hbegins
    have hlength := hnone.2 hbegins
    have hlower : lower? a = none := by
      unfold lower?
      rw [hlength]
      rfl
    have hequal : equal a b = false := by
      unfold equal
      rw [hlength]
    refine ⟨hequal, (equal_comm b a).trans hequal, hlower, ?_⟩
    intro q
    unfold Packet.cacheKey?
    rw [hlower]
    rfl

/-- Two names that differ in the case of letters, with other bytes behind them, have one lower-case
form. -/
example : equal [3, 87, 119, 87, 0, 65] [3, 119, 87, 119, 0] = true ∧
    lower? [3, 87, 119, 87, 0, 65] = some [3, 119, 119, 119, 0] := by
  cbv

end Name

end Resolver
