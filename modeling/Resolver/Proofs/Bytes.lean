import Resolver.Bytes

/-!
# Numbers written from the bytes they were read from

Main statements: bytes that were read as a number are what the number is written as
(`toLittleEndian_littleEndian`, `toBigEndian_bigEndian`, `wordBytes_wordOf`), and two bytes are read as
the word they were written from (`wordOf_of_wordBytes`).
-/

namespace Resolver

/-- Writing the bytes of a number again gives the same bytes. -/
theorem toLittleEndian_littleEndian (bytes : Bytes) :
    toLittleEndian bytes.length (littleEndian bytes) = bytes := by
  induction bytes with
  | nil => rfl
  | cons b rest ih =>
    have hdiv : (b.toNat + 256 * littleEndian rest) / 256 = littleEndian rest := by
      have := b.toNat_lt
      omega
    have hbyte : UInt8.ofNat (b.toNat + 256 * littleEndian rest) = b := by
      apply UInt8.toNat_inj.1
      have := b.toNat_lt
      rw [UInt8.toNat_ofNat']
      omega
    rw [littleEndian, List.length_cons, toLittleEndian, hdiv, ih, hbyte]

theorem toBigEndian_bigEndian (bytes : Bytes) :
    toBigEndian bytes.length (bigEndian bytes) = bytes := by
  unfold toBigEndian bigEndian
  rw [← List.length_reverse, toLittleEndian_littleEndian, List.reverse_reverse]

/-- A word is written as the two bytes it was read from. -/
theorem wordBytes_wordOf (high low : UInt8) : wordBytes (wordOf high low) = [high, low] := by
  have hvalue : (wordOf high low).toNat = bigEndian [high, low] := by
    have := high.toNat_lt
    have := low.toNat_lt
    unfold wordOf
    rw [UInt16.toNat_ofNat', Nat.mod_eq_of_lt (by omega)]
    show 256 * high.toNat + low.toNat = low.toNat + 256 * (high.toNat + 256 * 0)
    omega
  unfold wordBytes
  rw [hvalue]
  exact toBigEndian_bigEndian [high, low]

/-- A word is written as two bytes. -/
theorem exists_wordBytes (w : UInt16) : ∃ high low, wordBytes w = [high, low] := by
  match wordBytes w, length_wordBytes w with
  | [high, low], _ => exact ⟨high, low, rfl⟩

/-- Different words are written as different bytes. -/
theorem wordBytes_inj {v w : UInt16} : wordBytes v = wordBytes w ↔ v = w := by
  constructor
  · intro h
    have hread : ∀ word : UInt16, bigEndian (wordBytes word) = word.toNat := by
      intro word
      unfold wordBytes
      rw [bigEndian_toBigEndian]
      exact Nat.mod_eq_of_lt word.toNat_lt
    rw [← UInt16.toNat_inj, ← hread v, ← hread w, h]
  · intro h
    rw [h]

/-- Two bytes are read as the word they were written from. -/
theorem wordOf_of_wordBytes {w : UInt16} {high low : UInt8} (h : wordBytes w = [high, low]) :
    wordOf high low = w := by
  rw [← wordBytes_inj, wordBytes_wordOf, h]

end Resolver
