import Resolver.Block

/-!
# Arenas

The block of bytes that a cache lives in. Offsets are computed from links and lengths stored in the
block itself; an access that would leave it is reported as damage.
-/

namespace Resolver

/-- A block of bytes with links in it. -/
abbrev Arena := Block

/-- The report of an access that would leave its arena. -/
structure Damage where
  position : Nat
  deriving DecidableEq, Repr

namespace Arena

/-- The `len` bytes from `pos` on. -/
def slice (a : Arena) (pos len : Nat) : Except Damage Bytes :=
  match a.slice? pos len with
  | some bytes => .ok bytes
  | none => .error ⟨pos⟩

/-- Writes bytes from `pos` on. -/
def write (a : Arena) (pos : Nat) (new : Bytes) : Except Damage Arena :=
  match a.write? pos new with
  | some a => .ok a
  | none => .error ⟨pos⟩

/-- The four-byte number at `pos`, least significant byte first. -/
def word (a : Arena) (pos : Nat) : Except Damage Nat :=
  match a.slice? pos 4 with
  | some bytes => .ok (littleEndian bytes)
  | none => .error ⟨pos⟩

/-- Writes a four-byte number at `pos`, least significant byte first. -/
def setWord (a : Arena) (pos value : Nat) : Except Damage Arena :=
  write a pos (toLittleEndian 4 value)

end Arena

end Resolver
