import Resolver.Text.Utf8

/-!
# Text that is written and read

Main statements: the UTF-8 form of a text is that of its characters one after the other (`encode_eq`),
and the lenient reading gives back every text that was written (`decodeLossy_encode`).
-/

namespace Resolver.Utf8

/-! ## The bytes of a text -/

/-- Behind what was collected come the bytes that are left. -/
theorem toList_loop (bytes : ByteArray) (i : Nat) (seen : Bytes) :
    ByteArray.toList.loop bytes i seen = seen.reverse ++ bytes.data.toList.drop i := by
  fun_induction ByteArray.toList.loop bytes i seen with
  | case1 i seen hlt ih =>
    have hbyte : bytes.data.toList.drop i =
        bytes.get! i :: bytes.data.toList.drop (i + 1) := by
      rw [List.drop_eq_getElem_cons (by simpa using hlt)]
      simp [ByteArray.get!, hlt]
    rw [ih, hbyte, List.reverse_cons, List.append_assoc]
    rfl
  | case2 i seen hge =>
    rw [List.drop_eq_nil_of_le (by simpa using Nat.not_lt.1 hge), List.append_nil]

/-- A text is written character by character. -/
theorem encode_eq (text : String) : encode text = text.toList.flatMap String.utf8EncodeChar := by
  have hbytes : text.toUTF8 = (text.toList.flatMap String.utf8EncodeChar).toByteArray := by
    rw [String.toUTF8_eq_toByteArray, ← String.utf8Encode_toList]
    rfl
  unfold encode
  rw [hbytes, ByteArray.toList, toList_loop]
  simp

theorem encode_append (a b : String) : encode (a ++ b) = encode a ++ encode b := by
  simp only [encode_eq, String.toList_append, List.flatMap_append]

theorem encode_push (text : String) (c : Char) :
    encode (text.push c) = encode text ++ String.utf8EncodeChar c := by
  simp only [encode_eq, String.toList_push, List.flatMap_append, List.flatMap_cons,
    List.flatMap_nil, List.append_nil]

theorem encode_ofList_cons (c : Char) (cs : List Char) :
    encode (String.ofList (c :: cs)) = String.utf8EncodeChar c ++ encode (String.ofList cs) := by
  simp only [encode_eq, String.toList_ofList, List.flatMap_cons]

theorem encode_eq_nil_iff {text : String} : encode text = [] ↔ text = "" := by
  rw [encode_eq, List.flatMap_eq_nil_iff]
  constructor
  · intro h
    apply String.toList_inj.1
    apply List.eq_nil_iff_forall_not_mem.2
    intro c hc
    exact String.utf8EncodeChar_ne_nil (h c hc)
  · rintro rfl
    simp

/-! ## One character -/

section Reading

variable {lead b c d : UInt8}

/-- A byte that continues a character. -/
theorem isContinuation_iff : isContinuation b = true ↔ 0x80 ≤ b.toNat ∧ b.toNat ≤ 0xBF := by
  unfold isContinuation
  simp only [UInt8.le_iff_toNat_le, UInt8.reduceToNat, Bool.and_eq_true, decide_eq_true_eq]

theorem nextScalar_one (rest : Bytes) (hlead : lead.toNat < 0x80) :
    nextScalar lead rest = .good (Char.ofNat lead.toNat) 1 := by
  unfold nextScalar
  simp only [UInt8.lt_iff_toNat_lt, UInt8.reduceToNat]
  rw [if_pos hlead]

theorem nextScalar_two (rest : Bytes) (hlead : 0xC2 ≤ lead.toNat ∧ lead.toNat ≤ 0xDF)
    (hb : 0x80 ≤ b.toNat ∧ b.toNat ≤ 0xBF) :
    nextScalar lead (b :: rest) =
      .good (Char.ofNat (lead.toNat % 32 * 64 + b.toNat % 64)) 2 := by
  unfold nextScalar
  simp only [UInt8.lt_iff_toNat_lt, UInt8.le_iff_toNat_le, UInt8.reduceToNat, Bool.and_eq_true,
    decide_eq_true_eq]
  rw [if_neg (by omega), if_pos hlead, if_pos (isContinuation_iff.2 hb)]
  rfl

theorem nextScalar_three (rest : Bytes) (hlead : 0xE0 ≤ lead.toNat ∧ lead.toNat ≤ 0xEF)
    (hb : isSecondOfThree lead b = true) (hc : 0x80 ≤ c.toNat ∧ c.toNat ≤ 0xBF) :
    nextScalar lead (b :: c :: rest) =
      .good (Char.ofNat ((lead.toNat % 16 * 64 + b.toNat % 64) * 64 + c.toNat % 64)) 3 := by
  unfold nextScalar
  simp only [UInt8.lt_iff_toNat_lt, UInt8.le_iff_toNat_le, UInt8.reduceToNat, Bool.and_eq_true,
    decide_eq_true_eq]
  rw [if_neg (by omega), if_neg (by omega), if_pos hlead, if_pos hb,
    if_pos (isContinuation_iff.2 hc)]
  rfl

theorem nextScalar_four (rest : Bytes) (hlead : 0xF0 ≤ lead.toNat ∧ lead.toNat ≤ 0xF4)
    (hb : isSecondOfFour lead b = true) (hc : 0x80 ≤ c.toNat ∧ c.toNat ≤ 0xBF)
    (hd : 0x80 ≤ d.toNat ∧ d.toNat ≤ 0xBF) :
    nextScalar lead (b :: c :: d :: rest) =
      .good (Char.ofNat
        (((lead.toNat % 8 * 64 + b.toNat % 64) * 64 + c.toNat % 64) * 64 + d.toNat % 64)) 4 := by
  unfold nextScalar
  simp only [UInt8.lt_iff_toNat_lt, UInt8.le_iff_toNat_le, UInt8.reduceToNat, Bool.and_eq_true,
    decide_eq_true_eq]
  rw [if_neg (by omega), if_neg (by omega), if_neg (by omega), if_pos hlead, if_pos hb,
    if_pos (isContinuation_iff.2 hc), if_pos (isContinuation_iff.2 hd)]
  rfl

/-- No overlong form and no surrogate has such a second byte. -/
theorem isSecondOfThree_of (lead b : UInt8) (hb : 0x80 ≤ b.toNat ∧ b.toNat ≤ 0xBF)
    (hlow : lead.toNat = 0xE0 → 0xA0 ≤ b.toNat) (hhigh : lead.toNat = 0xED → b.toNat ≤ 0x9F) :
    isSecondOfThree lead b = true := by
  unfold isSecondOfThree
  simp only [← UInt8.toNat_inj, UInt8.le_iff_toNat_le, UInt8.reduceToNat]
  split
  · simp only [Bool.and_eq_true, decide_eq_true_eq]
    omega
  · split
    · simp only [Bool.and_eq_true, decide_eq_true_eq]
      omega
    · exact isContinuation_iff.2 hb

/-- Nothing overlong and nothing past the last scalar value has such a second byte. -/
theorem isSecondOfFour_of (lead b : UInt8) (hb : 0x80 ≤ b.toNat ∧ b.toNat ≤ 0xBF)
    (hlow : lead.toNat = 0xF0 → 0x90 ≤ b.toNat) (hhigh : lead.toNat = 0xF4 → b.toNat ≤ 0x8F) :
    isSecondOfFour lead b = true := by
  unfold isSecondOfFour
  simp only [← UInt8.toNat_inj, UInt8.le_iff_toNat_le, UInt8.reduceToNat]
  split
  · simp only [Bool.and_eq_true, decide_eq_true_eq]
    omega
  · split
    · simp only [Bool.and_eq_true, decide_eq_true_eq]
      omega
    · exact isContinuation_iff.2 hb

end Reading

/-- A character that was written is read, whatever follows it. -/
theorem exists_nextScalar (c : Char) (rest : Bytes) :
    ∃ lead tail, String.utf8EncodeChar c = lead :: tail ∧
      nextScalar lead (tail ++ rest) = .good c (tail.length + 1) := by
  have hbyte {n : Nat} (h : n < 256) : (UInt8.ofNat n).toNat = n := by
    rw [UInt8.toNat_ofNat', Nat.mod_eq_of_lt h]
  have hchar {n : Nat} (h : n = c.val.toNat) : Char.ofNat n = c := by
    rw [h]
    exact Char.ofNat_toNat c
  have hvalid : c.val.toNat < 0xD800 ∨ 0xDFFF < c.val.toNat ∧ c.val.toNat < 0x110000 := c.valid
  unfold String.utf8EncodeChar
  dsimp only
  split
  · refine ⟨_, [], rfl, ?_⟩
    have hlead := hbyte (n := c.val.toNat) (by omega)
    rw [nextScalar_one _ (by omega), hlead, hchar rfl]
    rfl
  · split
    · have hlead := hbyte (n := c.val.toNat / 64 % 32 + 192) (by omega)
      have hb := hbyte (n := c.val.toNat % 64 + 128) (by omega)
      refine ⟨_, [_], rfl, ?_⟩
      rw [List.cons_append, nextScalar_two _ (by omega) (by omega), hlead, hb, hchar (by omega)]
      rfl
    · split
      · have hlead := hbyte (n := c.val.toNat / 4096 % 16 + 224) (by omega)
        have hb := hbyte (n := c.val.toNat / 64 % 64 + 128) (by omega)
        have hc := hbyte (n := c.val.toNat % 64 + 128) (by omega)
        refine ⟨_, [_, _], rfl, ?_⟩
        have hsecond := isSecondOfThree_of (UInt8.ofNat (c.val.toNat / 4096 % 16 + 224))
          (UInt8.ofNat (c.val.toNat / 64 % 64 + 128)) (by omega) (by omega) (by omega)
        rw [List.cons_append, List.cons_append, nextScalar_three _ (by omega) hsecond (by omega),
          hlead, hb, hc, hchar (by omega)]
        rfl
      · have hlead := hbyte (n := c.val.toNat / 262144 % 8 + 240) (by omega)
        have hb := hbyte (n := c.val.toNat / 4096 % 64 + 128) (by omega)
        have hc := hbyte (n := c.val.toNat / 64 % 64 + 128) (by omega)
        have hd := hbyte (n := c.val.toNat % 64 + 128) (by omega)
        refine ⟨_, [_, _, _], rfl, ?_⟩
        have hsecond := isSecondOfFour_of (UInt8.ofNat (c.val.toNat / 262144 % 8 + 240))
          (UInt8.ofNat (c.val.toNat / 4096 % 64 + 128)) (by omega) (by omega) (by omega)
        rw [List.cons_append, List.cons_append, List.cons_append,
          nextScalar_four _ (by omega) hsecond (by omega) (by omega), hlead, hb, hc, hd,
          hchar (by omega)]
        rfl

/-! ## The lenient reading of what was written -/

theorem lossyFrom_encode (cs seen : List Char) :
    lossyFrom (encode (String.ofList cs)) seen = seen.reverse ++ cs := by
  induction cs generalizing seen with
  | nil =>
    have hnil : encode (String.ofList []) = [] := encode_eq_nil_iff.2 rfl
    rw [hnil, lossyFrom, List.append_nil]
  | cons c cs ih =>
    obtain ⟨lead, tail, hlead, hread⟩ := exists_nextScalar c (encode (String.ofList cs))
    rw [encode_ofList_cons, hlead, List.cons_append, lossyFrom, hread]
    dsimp only
    rw [Nat.add_sub_cancel, List.drop_left' rfl, ih, List.reverse_cons, List.append_assoc]
    rfl

/-- Text that was written is read as it was. -/
theorem decodeLossy_encode (text : String) : decodeLossy (encode text) = text := by
  have h := lossyFrom_encode text.toList []
  rw [String.ofList_toList] at h
  unfold decodeLossy
  rw [h]
  exact String.ofList_toList

/-- A byte below 128 stands in a text for the character it is the code of. -/
theorem mem_utf8EncodeChar_iff {c : Char} {b : UInt8} (hb : b.toNat < 0x80) :
    b ∈ String.utf8EncodeChar c ↔ c.val.toNat = b.toNat := by
  have hbyte (n : Nat) : b = UInt8.ofNat n ↔ b.toNat = n % 256 := by
    rw [← UInt8.toNat_inj, UInt8.toNat_ofNat']
  unfold String.utf8EncodeChar
  dsimp only
  split
  · simp only [List.mem_singleton, hbyte]
    omega
  · split
    · simp only [List.mem_cons, List.not_mem_nil, or_false, hbyte]
      omega
    · split
      · simp only [List.mem_cons, List.not_mem_nil, or_false, hbyte]
        omega
      · simp only [List.mem_cons, List.not_mem_nil, or_false, hbyte]
        omega

end Resolver.Utf8
