import Resolver.Proofs.Bytes
import Resolver.Proofs.Database.Accesses

/-!
# What a search finds

A search takes its way from numbers in the file, and these may be anything. What it finds is a
record all the same: the lengths and the key were read where they belong.

Main statements: a read that is not all inside the file is an error (`Database.read_of_outside`), and
wherever the data are that a search finds, the key stands in front of them, and the lengths of both
in front of the key (`Finder.isRecord_of_next`).
-/

namespace Resolver

namespace Database

variable {db : Database} {b : Block} {key bytes : Bytes} {pos len first second : Nat}
  {ref : DataRef}

/-! ## Reading -/

/-- Bytes that are read stand in the file. -/
theorem holds_of_read (hfile : db.content = .file b) (hlen : 0 < len)
    (h : db.read pos len = .ok bytes) : bytes.length = len ∧ b.Holds pos bytes := by
  rw [← Block.slice?_eq_some_iff]
  unfold read at h
  rw [hfile] at h
  dsimp only at h
  rw [if_neg (by omega)] at h
  cases hslice : b.slice? pos len with
  | none =>
    rw [hslice] at h
    contradiction
  | some stored =>
    rw [hslice] at h
    rw [Except.ok.inj h]

/-- Bytes that are not all inside the file cannot be read. -/
theorem read_of_outside (hfile : db.content = .file b) (hlen : 0 < len) (hout : b.size < pos + len) :
    db.read pos len = .error (.outside pos (len % 0x100000000)) := by
  have hslice : b.slice? pos len = none := by
    rw [Block.slice?, if_neg (by omega)]
  unfold read
  rw [hfile]
  dsimp only
  rw [if_neg (by omega), hslice]

/-- Data that are not all inside the file are not read. -/
theorem readData_of_outside (hfile : db.content = .file b) (hout : b.size < ref.pos + ref.len) :
    db.readData ref = .error (.outside ref.pos ref.len) := by
  simp only [readData, fileLength?, hfile, if_pos hout]

/-- Eight bytes are what their numbers are written as. -/
theorem pairBytes_pairOf (h : bytes.length = 8) :
    pairBytes (pairOf bytes).1 (pairOf bytes).2 = bytes := by
  have hfront : (bytes.take 4).length = 4 := by
    rw [List.length_take]
    omega
  have hback : (bytes.drop 4).length = 4 := by
    rw [List.length_drop]
    omega
  have hfirst := toLittleEndian_littleEndian (bytes.take 4)
  have hsecond := toLittleEndian_littleEndian (bytes.drop 4)
  rw [hfront] at hfirst
  rw [hback] at hsecond
  unfold pairBytes pairOf
  dsimp only
  rw [hfirst, hsecond, List.take_append_drop]

/-- The numbers of a pair that is read stand in the file. -/
theorem holds_of_readPair (hfile : db.content = .file b)
    (h : db.readPair pos = .ok (first, second)) :
    b.Holds pos (pairBytes first second) ∧ second ≤ maxWord32 := by
  unfold readPair at h
  cases hread : db.read pos 8 with
  | error e =>
    rw [hread] at h
    contradiction
  | ok bytes =>
    rw [hread] at h
    have hpair : pairOf bytes = (first, second) := Except.ok.inj h
    obtain ⟨hlength, hheld⟩ := holds_of_read hfile (by decide) hread
    have hbytes := pairBytes_pairOf hlength
    have hlt := littleEndian_lt (bytes.drop 4)
    have hwidth : Nat.pow 256 (bytes.drop 4).length = maxWord32 + 1 := by
      rw [List.length_drop, hlength]
      rfl
    rw [hpair] at hbytes
    rw [hbytes]
    rw [hwidth] at hlt
    have hsecond : littleEndian (bytes.drop 4) = second := congrArg Prod.snd hpair
    exact ⟨hheld, by omega⟩

/-! ## Keys and records -/

/-- A key that was compared chunk by chunk stands in the file: in one of no more than the greatest
position, no chunk begins anywhere but behind the one before. -/
theorem holds_of_keyAt (hfile : db.content = .file b) (hsize : b.size ≤ maxWord32)
    (hpos : pos ≤ b.size) (h : db.keyAt key pos = .ok true) : b.Holds pos key := by
  fun_induction keyAt db key pos with
  | case1 pos => exact Block.holds_iff.2 ⟨hpos, fun i hi => absurd hi (Nat.not_lt_zero i)⟩
  | case2 key pos hkey e hread => contradiction
  | case3 key pos hkey hread ih =>
    obtain ⟨-, hchunk⟩ := holds_of_read hfile (length_chunk hkey).1 hread
    have hle := hchunk.le_size
    have hmod : (pos + (key.take chunkLength).length) % 0x100000000 =
        pos + (key.take chunkLength).length := by
      unfold maxWord32 at hsize
      exact Nat.mod_eq_of_lt (by omega)
    rw [hmod] at ih h
    rw [← List.take_append_drop chunkLength key, Block.holds_append_iff]
    exact ⟨hchunk, ih hle h⟩
  | case4 key pos hkey stored hread hne => cases h

/-- The data are those of a record: the key stands in front of them, and the lengths of both in
front of the key. -/
def IsRecord (b : Block) (key : Bytes) (ref : DataRef) : Prop :=
  ref.len ≤ maxWord32 ∧
    ∃ pos, ref.pos = pos + 8 + key.length ∧ b.Holds pos (pairBytes key.length ref.len ++ key)

theorem isRecord_of_recordAt (hfile : db.content = .file b) (hsize : b.size ≤ maxWord32)
    (h : db.recordAt key pos = .ok (some ref)) : IsRecord b key ref := by
  unfold recordAt at h
  simp only [bind, Except.bind, pure, Except.pure, throw, throwThe, MonadExceptOf.throw] at h
  cases hread : db.readPair pos with
  | error e =>
    rw [hread] at h
    contradiction
  | ok lengths =>
    obtain ⟨keyLength, dataLength⟩ := lengths
    obtain ⟨hlengths, hdata⟩ := holds_of_readPair hfile hread
    have hle := hlengths.le_size
    rw [length_pairBytes] at hle
    rw [hread] at h
    dsimp only at h
    split at h
    · cases h
    · next hkeyLength =>
      rw [Decidable.not_not] at hkeyLength
      subst hkeyLength
      rw [if_neg (by omega)] at h
      cases hkey : db.keyAt key (pos + 8) with
      | error e =>
        rw [hkey] at h
        contradiction
      | ok same =>
        rw [hkey] at h
        dsimp only at h
        cases same with
        | false => cases h
        | true =>
          have hheld := holds_of_keyAt hfile hsize hle hkey
          have hend := hheld.le_size
          rw [if_pos rfl, if_neg (by omega)] at h
          obtain rfl := Option.some.inj (Except.ok.inj h)
          refine ⟨hdata, pos, rfl, ?_⟩
          rw [Block.holds_append_iff, length_pairBytes]
          exact ⟨hlengths, hheld⟩

end Database

namespace Finder

open Database

variable {f f' : Finder} {db : Database} {b : Block} {key : Bytes} {ref : DataRef}

/-- What a search finds is the record of some slot. -/
theorem recordAt_of_scan (h : f.scan db key = (f', .ok (some ref))) :
    ∃ pos, db.recordAt key pos = .ok (some ref) := by
  fun_induction looks f db key with
  | case1 f hlt f₁ answer hlook =>
    rw [scan_of_lt hlt, hlook] at h
    obtain ⟨rfl, rfl⟩ := Prod.mk.inj h
    cases looked_of_look hlook with
    | found _ hrecord => exact ⟨_, hrecord⟩
  | case2 f hlt f₁ hlook ih =>
    rw [scan_of_lt hlt, hlook] at h
    exact ih h
  | case3 f hend =>
    rw [scan_of_end (Nat.le_of_not_lt hend)] at h
    cases h

theorem isRecord_of_next (hfile : db.content = .file b) (hsize : b.size ≤ maxWord32)
    (h : f.next db key = (f', .ok (some ref))) : IsRecord b key ref := by
  have hscan : ∃ g : Finder, g.scan db key = (f', .ok (some ref)) := by
    unfold next at h
    split at h
    · split at h
      · cases h
      · cases h
      · exact ⟨_, h⟩
    · exact ⟨f, h⟩
  obtain ⟨g, hg⟩ := hscan
  obtain ⟨pos, hrecord⟩ := recordAt_of_scan hg
  exact isRecord_of_recordAt hfile hsize hrecord

end Finder

end Resolver
