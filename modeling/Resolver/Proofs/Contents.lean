import Resolver.Block

/-!
# What stands in a block

`Holds b pos bytes` says that `bytes` stand in the block `b` from `pos` on. The layouts of caches
and databases are told in these terms.

Main statements: a run of bytes stands where its parts stand one behind the other
(`holds_append_iff`), written bytes stand where they were written (`holds_of_write?`), and bytes
that do not overlap them stand as before (`holds_write?_iff`).
-/

namespace Resolver.Block

/-- The given bytes stand in the block from `pos` on. -/
def Holds (b : Block) (pos : Nat) (bytes : Bytes) : Prop :=
  b.slice? pos bytes.length = some bytes

/-! ## Byte by byte -/

theorem holds_iff {b : Block} {pos : Nat} {bytes : Bytes} :
    b.Holds pos bytes ↔
      pos + bytes.length ≤ b.size ∧
        ∀ i, i < bytes.length → b.toList[pos + i]? = bytes[i]? := by
  unfold Holds
  rw [slice?_eq]
  by_cases hfit : pos + bytes.length ≤ b.size
  · rw [if_pos hfit, Option.some.injEq]
    constructor
    · intro h
      refine ⟨hfit, ?_⟩
      intro i hi
      have hat : ((b.toList.drop pos).take bytes.length)[i]? = bytes[i]? := by rw [h]
      rwa [List.getElem?_take_of_lt hi, List.getElem?_drop] at hat
    · rintro ⟨-, h⟩
      apply List.ext_getElem?
      intro i
      by_cases hi : i < bytes.length
      · rw [List.getElem?_take_of_lt hi, List.getElem?_drop, h i hi]
      · rw [List.getElem?_eq_none (by simp only [List.length_take]; omega),
          List.getElem?_eq_none (by omega)]
  · rw [if_neg hfit]
    simp only [reduceCtorEq, hfit, false_and]

/-- Bytes that stand in a block lie inside it. -/
theorem Holds.le_size {b : Block} {pos : Nat} {bytes : Bytes} (h : b.Holds pos bytes) :
    pos + bytes.length ≤ b.size :=
  (holds_iff.1 h).1

/-- A slice is the bytes that stand there. -/
theorem Holds.slice?_eq {b : Block} {pos len : Nat} {bytes : Bytes} (h : b.Holds pos bytes)
    (hlen : bytes.length = len) : b.slice? pos len = some bytes := by
  rw [← hlen]
  exact h

theorem slice?_eq_some_iff {b : Block} {pos len : Nat} {bytes : Bytes} :
    b.slice? pos len = some bytes ↔ bytes.length = len ∧ b.Holds pos bytes := by
  constructor
  · intro h
    have hlen : bytes.length = len := by
      rw [Block.slice?_eq] at h
      split at h
      · obtain rfl := Option.some.inj h
        rw [List.length_take, List.length_drop, length_toList]
        omega
      · contradiction
    subst hlen
    exact ⟨rfl, h⟩
  · rintro ⟨hlen, h⟩
    exact h.slice?_eq hlen

/-- A run of bytes stands where its two parts stand one behind the other. -/
theorem holds_append_iff {b : Block} {pos : Nat} {front back : Bytes} :
    b.Holds pos (front ++ back) ↔ b.Holds pos front ∧ b.Holds (pos + front.length) back := by
  simp only [holds_iff, List.length_append]
  constructor
  · rintro ⟨hfit, h⟩
    refine ⟨⟨by omega, ?_⟩, by omega, ?_⟩
    · intro i hi
      rw [h i (by omega), List.getElem?_append_left hi]
    · intro i hi
      rw [Nat.add_assoc, h (front.length + i) (by omega),
        List.getElem?_append_right (by omega), Nat.add_sub_cancel_left]
  · rintro ⟨⟨-, hfront⟩, hfit, hback⟩
    refine ⟨by omega, ?_⟩
    intro i hi
    by_cases hif : i < front.length
    · rw [hfront i hif, List.getElem?_append_left hif]
    · have hat := hback (i - front.length) (by omega)
      rw [show pos + front.length + (i - front.length) = pos + i from by omega] at hat
      rw [hat, List.getElem?_append_right (by omega)]

/-- The bytes a block was made of stand in it at their places. -/
theorem holds_ofList (front bytes back : Bytes) :
    (ofList (front ++ (bytes ++ back))).Holds front.length bytes := by
  have hsize : (ofList (front ++ (bytes ++ back))).size =
      front.length + (bytes.length + back.length) := by
    rw [← length_toList, toList_ofList, List.length_append, List.length_append]
  rw [holds_iff, hsize, toList_ofList]
  refine ⟨by omega, ?_⟩
  intro i hi
  rw [List.getElem?_append_right (by omega), Nat.add_sub_cancel_left,
    List.getElem?_append_left hi]

/-- A block holds the bytes it was made of. -/
theorem holds_ofList_self (bytes : Bytes) : (ofList bytes).Holds 0 bytes := by
  have h := holds_ofList [] bytes []
  rw [List.append_nil] at h
  exact h

/-- Pieces of one length take as many times that length as there are of them. -/
theorem length_flatMap_of_width {α : Type} {width : Nat} {f : α → Bytes} (l : List α)
    (hwidth : ∀ x, (f x).length = width) : (l.flatMap f).length = width * l.length := by
  induction l with
  | nil => rfl
  | cons x l ih =>
    rw [List.flatMap_cons, List.length_append, hwidth, ih, List.length_cons, Nat.mul_succ,
      Nat.add_comm]

/-- Where pieces of one length stand one behind the other, each stands at its multiple of it. -/
theorem Holds.flatMap {α : Type} {b : Block} {pos width i : Nat} {f : α → Bytes} {l : List α} {x : α}
    (h : b.Holds pos (l.flatMap f)) (hwidth : ∀ y, (f y).length = width)
    (hx : l[i]? = some x) : b.Holds (pos + width * i) (f x) := by
  induction l generalizing pos i with
  | nil => exact nomatch hx
  | cons y l ih =>
    rw [List.flatMap_cons, holds_append_iff, hwidth] at h
    cases i with
    | zero =>
      obtain rfl := Option.some.inj hx
      exact h.1
    | succ i =>
      have hrest := ih h.2 hx
      rw [Nat.add_assoc, Nat.add_comm width, ← Nat.mul_succ] at hrest
      exact hrest

/-! ## After a write -/

/-- Bytes can be written wherever there is room for them. -/
theorem exists_write? {b : Block} {pos : Nat} {new : Bytes} (h : pos + new.length ≤ b.size) :
    ∃ b', b.write? pos new = some b' := by
  rw [write?, if_pos h]
  exact ⟨_, rfl⟩

theorem le_size_of_write? {b b' : Block} {pos : Nat} {new : Bytes}
    (h : b.write? pos new = some b') : pos + new.length ≤ b.size := by
  unfold write? at h
  split at h
  · assumption
  · contradiction

theorem getElem?_of_write? {b b' : Block} {pos : Nat} {new : Bytes}
    (h : b.write? pos new = some b') (i : Nat) :
    b'.toList[i]? =
      if pos ≤ i ∧ i < pos + new.length then new[i - pos]? else b.toList[i]? := by
  have hfit := le_size_of_write? h
  have hlen : (b.toList.take pos).length = pos := by
    rw [List.length_take, length_toList]
    omega
  -- the bytes in front of the written ones, these, and those behind them
  rw [toList_of_write? h]
  by_cases hlow : i < pos
  · rw [if_neg (by omega), List.getElem?_append_left (by omega), List.getElem?_take_of_lt hlow]
  · rw [List.getElem?_append_right (by omega), hlen]
    by_cases hhigh : i < pos + new.length
    · rw [if_pos (by omega), List.getElem?_append_left (by omega)]
    · rw [if_neg (by omega), List.getElem?_append_right (by omega), List.getElem?_drop]
      congr 1
      omega

/-- Written bytes stand where they were written. -/
theorem holds_of_write? {b b' : Block} {pos : Nat} {new : Bytes}
    (h : b.write? pos new = some b') : b'.Holds pos new := by
  have hfit := le_size_of_write? h
  rw [holds_iff, size_of_write? h]
  refine ⟨hfit, ?_⟩
  intro i hi
  rw [getElem?_of_write? h, if_pos (by omega), Nat.add_sub_cancel_left]

/-- Bytes that do not overlap the written ones stand as before. -/
theorem holds_write?_iff {b b' : Block} {pos place : Nat} {new bytes : Bytes}
    (h : b.write? pos new = some b')
    (hapart : place + bytes.length ≤ pos ∨ pos + new.length ≤ place) :
    b'.Holds place bytes ↔ b.Holds place bytes := by
  simp only [holds_iff, size_of_write? h]
  refine and_congr_right fun _ => forall_congr' fun i => imp_congr_right fun hi => ?_
  rw [getElem?_of_write? h, if_neg (by omega)]

/-- A slice that does not overlap the written bytes is what it was. -/
theorem slice?_of_write? {b b' : Block} {pos place len : Nat} {new : Bytes}
    (h : b.write? pos new = some b') (hapart : place + len ≤ pos ∨ pos + new.length ≤ place) :
    b'.slice? place len = b.slice? place len := by
  apply Option.ext
  intro bytes
  rw [slice?_eq_some_iff, slice?_eq_some_iff]
  apply and_congr_right
  intro hlen
  rw [holds_write?_iff h (by omega)]

end Resolver.Block
