import Resolver.Block
import Resolver.Database.Format

/-!
# Reading a constant database

An open database is read at offsets. What it holds need not be well formed: an access outside the
file is an error that names the offset and the length. A file of up to `2 ^ 32 - 1` bytes that is
not empty is mapped; any other is read by position. A directory can be opened but not read.
-/

namespace Resolver

/-- Why a database could not be read. -/
inductive ReadError
  /-- So many bytes at an offset are not all inside the file. -/
  | outside (pos len : Nat)
  /-- The system refused. -/
  | system (cause : OsError)
  deriving DecidableEq, Repr

/-- The wording of a failed read. -/
def ReadError.message : ReadError → String
  | .outside pos len => s!"malformed database: {len} bytes at offset {pos} lie outside the file"
  | .system cause => s!"database read failed: {cause.message}"

/-- What a path names. -/
inductive Content
  | file (block : Block)
  | directory

/-- An open database. -/
structure Database where
  content : Content
  /-- Whether the file is mapped rather than read by position. -/
  mapped : Bool

namespace Database

/-! ## Access to the file -/

/-- Opens what a path names, mapping it if it can be mapped. -/
def ofContent (content : Content) : Database :=
  match content with
  | .file block => ⟨content, 0 < block.size && block.size ≤ maxWord32⟩
  | .directory => ⟨content, false⟩

/-- Opens what a path names for reads by position. -/
def unmapped (content : Content) : Database :=
  ⟨content, false⟩

/-- The `len` bytes at `pos`. By position, reading no bytes never fails. -/
def read (db : Database) (pos len : Nat) : Except ReadError Bytes :=
  match db.content with
  | .file block =>
    if len = 0 ∧ db.mapped = false then .ok []
    else match block.slice? pos len with
      | some bytes => .ok bytes
      | none => .error (.outside pos (len % 0x100000000))
  | .directory => if len = 0 then .ok [] else .error (.system .isDirectory)

/-- The pair of numbers at `pos`. -/
def readPair (db : Database) (pos : Nat) : Except ReadError (Nat × Nat) :=
  (db.read pos 8).map pairOf

/-- The size of the file; a directory has none. -/
def fileLength? (db : Database) : Option Nat :=
  match db.content with
  | .file block => some block.size
  | .directory => none

/-- Where the data of a record lies. -/
structure DataRef where
  pos : Nat
  len : Nat
  deriving DecidableEq, Repr

/-- The data of a record. That it lies inside the file is checked before anything is read. -/
def readData (db : Database) (ref : DataRef) : Except ReadError Bytes :=
  match db.fileLength? with
  | some size =>
    if size < ref.pos + ref.len then .error (.outside ref.pos ref.len) else db.read ref.pos ref.len
  | none => db.read ref.pos ref.len

/-! ## Slots and records -/

/-- The offset of a slot of the table at `table`. -/
def slotOffset (table slot : Nat) : Except ReadError Nat :=
  if table + 8 * slot ≤ maxWord32 then .ok (table + 8 * slot) else .error (.outside table 8)

/-- The bytes of a key that are compared at a time. -/
def chunkLength : Nat := 32

/-- Whether `key` stands at `pos`, compared chunk by chunk. -/
def keyAt (db : Database) (key : Bytes) (pos : Nat) : Except ReadError Bool :=
  if _h : key = [] then .ok true
  else
    match db.read pos (key.take chunkLength).length with
    | .error e => .error e
    | .ok stored =>
      if stored = key.take chunkLength then
        db.keyAt (key.drop chunkLength) ((pos + (key.take chunkLength).length) % 0x100000000)
      else .ok false
termination_by key.length
decreasing_by
  have := List.length_pos_iff.2 _h
  simp only [chunkLength, List.length_drop]
  omega

/-- The data of the record at `pos`, if its key is `key`. -/
def recordAt (db : Database) (key : Bytes) (pos : Nat) : Except ReadError (Option DataRef) := do
  let (keyLength, dataLength) ← db.readPair pos
  if keyLength ≠ key.length then return none
  if maxWord32 < pos + 8 then throw (.outside pos 8)
  if ← db.keyAt key (pos + 8) then
    if maxWord32 < pos + 8 + keyLength then throw (.outside (pos + 8) keyLength)
    return some ⟨pos + 8 + keyLength, dataLength⟩
  else return none

end Database

/-! ## Searching -/

/-- The state of a search. It looks at the slots of one table in turn, from the first slot of the
key's hash round to the slot before it. -/
structure Finder where
  /-- The slots looked at so far; zero before the search has started. -/
  probes : Nat
  hash : UInt32
  /-- The offset of the next slot. -/
  slot : Nat
  /-- The offset of the table. -/
  table : Nat
  /-- The number of slots in the table. -/
  slots : Nat
  deriving DecidableEq, Repr

namespace Finder

open Database

/-- A search that has not started. -/
def fresh : Finder :=
  ⟨0, 0, 0, 0, 0⟩

/-- Gives up the search under way, so that the next step starts another. -/
def restart (f : Finder) : Finder :=
  { f with probes := 0 }

/-- Looks the table of a key up in the header. The answer says whether the table has slots. -/
def enter (f : Finder) (db : Database) (key : Bytes) : Finder × Except ReadError Bool :=
  let h := Database.hash key
  match db.readPair (8 * tableOf h) with
  | .error e => (f, .error e)
  | .ok (table, slots) =>
    if slots = 0 then (f, .ok false)
    else
      let f := { f with table := table, slots := slots, hash := h }
      match slotOffset table (firstSlot h slots) with
      | .error e => (f, .error e)
      | .ok slot => ({ f with slot := slot }, .ok true)

/-- Moves on to the next slot, which after the last is the first of the table. The answer is an
error when the table would end past the greatest position. -/
def advance (f : Finder) : Finder × Except ReadError Unit :=
  let f := { f with probes := f.probes + 1, slot := (f.slot + 8) % 0x100000000 }
  match slotOffset f.table f.slots with
  | .error e => (f, .error e)
  | .ok tableEnd => (if f.slot = tableEnd then { f with slot := f.table } else f, .ok ())

theorem advance_probes (f : Finder) :
    f.advance.1.probes = f.probes + 1 ∧ f.advance.1.slots = f.slots := by
  simp only [advance]
  split
  · exact ⟨rfl, rfl⟩
  · split <;> exact ⟨rfl, rfl⟩

/-- Looks at the slots that are left for a record with the given key. An empty slot ends the
search. -/
def scan (f : Finder) (db : Database) (key : Bytes) :
    Finder × Except ReadError (Option DataRef) :=
  if f.probes < f.slots then
    match db.readPair f.slot with
    | .error e => (f, .error e)
    | .ok (slotHash, pos) =>
      -- An empty slot: the builder would have put the record here.
      if pos = 0 then (f, .ok none)
      else
        match _h : f.advance with
        | (f', .error e) => (f', .error e)
        | (f', .ok ()) =>
          if slotHash ≠ f.hash.toNat then f'.scan db key
          else
            match db.recordAt key pos with
            | .error e => (f', .error e)
            | .ok (some ref) => (f', .ok (some ref))
            | .ok none => f'.scan db key
  else (f, .ok none)
termination_by f.slots - f.probes
decreasing_by
  all_goals
    have hp := advance_probes f
    rw [_h] at hp
    simp only at hp
    omega

/-- The next record with the given key. A search that has not started is started; one under way
goes on in its table, whatever key it was started for. -/
def next (f : Finder) (db : Database) (key : Bytes) : Finder × Except ReadError (Option DataRef) :=
  if f.probes = 0 then
    match f.enter db key with
    | (f, .error e) => (f, .error e)
    | (f, .ok false) => (f, .ok none)
    | (f, .ok true) => f.scan db key
  else f.scan db key

/-- The first record with the given key. -/
def find (f : Finder) (db : Database) (key : Bytes) : Finder × Except ReadError (Option DataRef) :=
  f.restart.next db key

/-- A hit has used up at least one more slot of the same table. -/
theorem scan_hit {f f' : Finder} {db : Database} {key : Bytes} {ref : DataRef}
    (h : f.scan db key = (f', .ok (some ref))) :
    f.probes < f'.probes ∧ f'.probes ≤ f'.slots ∧ f'.slots = f.slots := by
  fun_induction scan f db key with
  | case1 => simp at h
  | case2 => simp at h
  | case3 => simp at h
  | case4 f hlt _ _ _ _ f1 hadv _ ih =>
    have hp := advance_probes f
    rw [hadv] at hp
    simp only at hp
    have := ih h
    omega
  | case5 => simp at h
  | case6 f hlt _ _ _ _ f1 hadv _ _ _ =>
    have hp := advance_probes f
    rw [hadv] at hp
    simp only at hp
    simp only [Prod.mk.injEq] at h
    obtain ⟨rfl, -⟩ := h
    omega
  | case7 f hlt _ _ _ _ f1 hadv _ _ ih =>
    have hp := advance_probes f
    rw [hadv] at hp
    simp only at hp
    have := ih h
    omega
  | case8 => simp at h

/-- The data of the records that are left in a search under way. -/
def collect (f : Finder) (db : Database) (key : Bytes) : Except ReadError (List Bytes) :=
  match _h : f.scan db key with
  | (_, .error e) => .error e
  | (_, .ok none) => .ok []
  | (f', .ok (some ref)) =>
    match db.readData ref with
    | .error e => .error e
    | .ok data => (f'.collect db key).map (data :: ·)
termination_by f.slots - f.probes
decreasing_by
  have := scan_hit _h
  omega

end Finder

namespace Database

/-- The data of the first record with a key. -/
def get (db : Database) (key : Bytes) : Except ReadError (Option Bytes) :=
  match (Finder.fresh.find db key).2 with
  | .error e => .error e
  | .ok none => .ok none
  | .ok (some ref) => (db.readData ref).map some

/-- The data of every record with a key, in the order the search meets them. -/
def getAll (db : Database) (key : Bytes) : Except ReadError (List Bytes) :=
  match Finder.fresh.enter db key with
  | (_, .error e) => .error e
  | (_, .ok false) => .ok []
  | (f, .ok true) => f.collect db key

end Database

end Resolver
