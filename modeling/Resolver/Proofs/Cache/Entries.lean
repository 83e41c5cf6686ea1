import Resolver.Cache.Basic
import Resolver.Proofs.Cache.Chain

/-!
# Entries in an arena

An entry is told apart from the place it stands at. A stretch of the arena is tiled by entries when
they stand in it one behind the other from its first byte to its last; `between` reads them off.

Main statements: entries that tile a stretch are the ones read off it (`Tiled.between_eq`), do not
overlap (`Tiled.apart`), and stay where they are when nothing is written into them
(`Tiled.congr`).
-/

namespace Resolver.Cache

/-- An answer as a store keeps it. -/
structure Entry where
  key : Bytes
  data : Bytes
  expiry : Tai64
  deriving DecidableEq, Repr

/-- An entry with its offset. -/
structure Placed where
  pos : Nat
  entry : Entry
  deriving DecidableEq, Repr

namespace Entry

/-- The bytes an entry takes. -/
def length (e : Entry) : Nat :=
  e.key.length + e.data.length + entryHeader

/-- The bytes of an entry behind its link. -/
def body (e : Entry) : Bytes :=
  toLittleEndian 4 e.key.length ++ (toLittleEndian 4 e.data.length ++
    (e.expiry.pack ++ (e.key ++ e.data)))

/-- Whether the lengths of key and data are ones that are stored. -/
def WithinLimits (e : Entry) : Prop :=
  e.key.length ≤ maxKey ∧ e.data.length ≤ maxData

theorem header_le_length (e : Entry) : 20 ≤ e.length := by
  unfold length entryHeader
  omega

@[simp]
theorem length_body (e : Entry) : e.body.length = e.length - 4 := by
  unfold body length entryHeader
  simp only [List.length_append, length_toLittleEndian, Tai64.pack, length_toBigEndian]
  omega

end Entry

/-! ## One entry -/

/-- An entry within the limits stands in the arena at `pos`, whatever its link. -/
structure EntryAt (a : Arena) (pos : Nat) (e : Entry) : Prop where
  limits : e.WithinLimits
  body : Block.Holds a (pos + 4) e.body

namespace EntryAt

variable {a : Arena} {pos : Nat} {e : Entry}

/-- The fields of an entry, each at its offset. -/
theorem fields (h : EntryAt a pos e) :
    Block.Holds a (pos + 4) (toLittleEndian 4 e.key.length) ∧
      Block.Holds a (pos + 8) (toLittleEndian 4 e.data.length) ∧
      Block.Holds a (pos + 12) e.expiry.pack ∧
      Block.Holds a (pos + 20) e.key ∧
      Block.Holds a (pos + 20 + e.key.length) e.data := by
  have hbody := h.body
  unfold Entry.body at hbody
  simp only [Block.holds_append_iff, length_toLittleEndian, Tai64.pack, length_toBigEndian,
    Nat.add_assoc, Nat.reduceAdd] at hbody ⊢
  exact hbody

theorem keyLength_eq (h : EntryAt a pos e) : Arena.word a (pos + 4) = .ok e.key.length := by
  have hkey := h.limits.1
  unfold maxKey at hkey
  exact Arena.word_eq_of_holds h.fields.1 (by omega)

theorem dataLength_eq (h : EntryAt a pos e) : Arena.word a (pos + 8) = .ok e.data.length := by
  have hdata := h.limits.2
  unfold maxData at hdata
  exact Arena.word_eq_of_holds h.fields.2.1 (by omega)

theorem expiry_eq (h : EntryAt a pos e) : Arena.slice a (pos + 12) 8 = .ok e.expiry.pack :=
  Arena.slice_eq_of_holds h.fields.2.2.1 (length_toBigEndian 8 _)

theorem key_eq (h : EntryAt a pos e) :
    Arena.slice a (pos + entryHeader) e.key.length = .ok e.key :=
  Arena.slice_eq_of_holds h.fields.2.2.2.1 rfl

theorem data_eq (h : EntryAt a pos e) :
    Arena.slice a (pos + entryHeader + e.key.length) e.data.length = .ok e.data :=
  Arena.slice_eq_of_holds h.fields.2.2.2.2 rfl

/-- An entry stays where it is when nothing behind its link is written to. -/
theorem of_write? {a' : Arena} {place : Nat} {new : Bytes} (h : EntryAt a pos e)
    (hwrite : Block.write? a place new = some a')
    (hapart : pos + e.length ≤ place ∨ place + new.length ≤ pos + 4) : EntryAt a' pos e := by
  refine ⟨h.limits, (Block.holds_write?_iff hwrite ?_).2 h.body⟩
  have := e.header_le_length
  rw [Entry.length_body]
  omega

end EntryAt

/-! ## A stretch of entries -/

/-- The entries stand one behind the other from `pos` to `stop`. -/
def Tiled (a : Arena) (stop : Nat) : Nat → List Placed → Prop
  | pos, [] => pos = stop
  | pos, p :: rest =>
    p.pos = pos ∧ EntryAt a pos p.entry ∧ Tiled a stop (pos + p.entry.length) rest

namespace Tiled

variable {a a' : Arena} {pos stop : Nat} {ps : List Placed}

theorem le (h : Tiled a stop pos ps) : pos ≤ stop := by
  induction ps generalizing pos with
  | nil => exact Nat.le_of_eq h
  | cons p rest ih =>
    have := ih h.2.2
    omega

/-- A stretch has entries exactly if it has bytes. -/
theorem eq_nil_iff (h : Tiled a stop pos ps) : ps = [] ↔ pos = stop := by
  cases ps with
  | nil => exact iff_of_true rfl h
  | cons p rest =>
    have := h.2.2.le
    have := p.entry.header_le_length
    refine iff_of_false (List.cons_ne_nil p rest) ?_
    omega

/-- A stretch with bytes begins with an entry. -/
theorem exists_cons (h : Tiled a stop pos ps) (hne : pos ≠ stop) : ∃ p rest, ps = p :: rest := by
  cases ps with
  | nil => exact absurd h hne
  | cons p rest => exact ⟨p, rest, rfl⟩

/-- Each entry of a stretch stands in it. -/
theorem mem (h : Tiled a stop pos ps) {p : Placed} (hp : p ∈ ps) :
    EntryAt a p.pos p.entry ∧ pos ≤ p.pos ∧ p.pos + p.entry.length ≤ stop := by
  induction ps generalizing pos with
  | nil => contradiction
  | cons q rest ih =>
    obtain ⟨rfl, hentry, hrest⟩ := h
    rcases List.mem_cons.1 hp with rfl | hp
    · exact ⟨hentry, Nat.le_refl _, hrest.le⟩
    · obtain ⟨hat, hlow, hhigh⟩ := ih hrest hp
      exact ⟨hat, by omega, hhigh⟩

/-- Two entries of a stretch do not overlap. -/
theorem apart (h : Tiled a stop pos ps) {p q : Placed} (hp : p ∈ ps) (hq : q ∈ ps) :
    p = q ∨ p.pos + p.entry.length ≤ q.pos ∨ q.pos + q.entry.length ≤ p.pos := by
  induction ps generalizing pos with
  | nil => contradiction
  | cons r rest ih =>
    obtain ⟨rfl, -, hrest⟩ := h
    rcases List.mem_cons.1 hp with hpr | hpr
    · rcases List.mem_cons.1 hq with hqr | hqr
      · exact .inl (hpr.trans hqr.symm)
      · exact .inr (.inl (hpr ▸ (hrest.mem hqr).2.1))
    · rcases List.mem_cons.1 hq with hqr | hqr
      · exact .inr (.inr (hqr ▸ (hrest.mem hpr).2.1))
      · exact ih hrest hpr hqr

/-- The entries of a stretch have offsets of their own. -/
theorem nodup (h : Tiled a stop pos ps) : (ps.map Placed.pos).Nodup := by
  induction ps generalizing pos with
  | nil => exact List.nodup_nil
  | cons p rest ih =>
    obtain ⟨rfl, -, hrest⟩ := h
    rw [List.map_cons, List.nodup_cons]
    refine ⟨?_, ih hrest⟩
    intro hmem
    obtain ⟨q, hq, heq⟩ := List.mem_map.1 hmem
    have hlow := (hrest.mem hq).2.1
    have := p.entry.header_le_length
    omega

/-- A stretch stays tiled while its entries stay where they are. -/
theorem congr (h : Tiled a stop pos ps)
    (hsame : ∀ p ∈ ps, EntryAt a p.pos p.entry → EntryAt a' p.pos p.entry) :
    Tiled a' stop pos ps := by
  induction ps generalizing pos with
  | nil => exact h
  | cons p rest ih =>
    obtain ⟨rfl, hentry, hrest⟩ := h
    exact ⟨rfl, hsame p List.mem_cons_self hentry,
      ih hrest fun q hq => hsame q (List.mem_cons_of_mem _ hq)⟩

/-- One more entry at the end makes the stretch longer. -/
theorem concat (h : Tiled a stop pos ps) {e : Entry} (he : EntryAt a stop e) :
    Tiled a (stop + e.length) pos (ps ++ [⟨stop, e⟩]) := by
  induction ps generalizing pos with
  | nil =>
    obtain rfl := h
    exact ⟨rfl, he, rfl⟩
  | cons p rest ih =>
    obtain ⟨rfl, hentry, hrest⟩ := h
    exact ⟨rfl, hentry, ih hrest⟩

end Tiled

/-! ## Reading entries off -/

/-- The entry that the fields at `pos` make up. -/
def entryAt? (a : Arena) (pos : Nat) : Option Entry := do
  let keyLength ← Block.slice? a (pos + 4) 4
  let dataLength ← Block.slice? a (pos + 8) 4
  let expiry ← Block.slice? a (pos + 12) 8
  let key ← Block.slice? a (pos + entryHeader) (littleEndian keyLength)
  let data ← Block.slice? a (pos + entryHeader + littleEndian keyLength) (littleEndian dataLength)
  return ⟨key, data, Tai64.unpack expiry⟩

/-- The entries that stand one behind the other from `pos` to `stop`. -/
def between (a : Arena) (pos stop : Nat) : List Placed :=
  if pos < stop then
    match entryAt? a pos with
    | some e => ⟨pos, e⟩ :: between a (pos + e.length) stop
    | none => []
  else []
termination_by stop - pos
decreasing_by
  have := e.header_le_length
  omega

theorem EntryAt.entryAt?_eq {a : Arena} {pos : Nat} {e : Entry} (h : EntryAt a pos e) :
    entryAt? a pos = some e := by
  obtain ⟨hkeyLength, hdataLength, hexpiry, hkey, hdata⟩ := h.fields
  obtain ⟨hklimit, hdlimit⟩ := h.limits
  unfold maxKey at hklimit
  unfold maxData at hdlimit
  -- lengths within the limits fit into four bytes
  have hk : littleEndian (toLittleEndian 4 e.key.length) = e.key.length := by
    rw [littleEndian_toLittleEndian]
    exact Nat.mod_eq_of_lt (Nat.lt_of_le_of_lt hklimit (by decide))
  have hd : littleEndian (toLittleEndian 4 e.data.length) = e.data.length := by
    rw [littleEndian_toLittleEndian]
    exact Nat.mod_eq_of_lt (Nat.lt_of_le_of_lt hdlimit (by decide))
  unfold entryAt? entryHeader
  rw [hkeyLength.slice?_eq (length_toLittleEndian 4 _),
    hdataLength.slice?_eq (length_toLittleEndian 4 _), hexpiry.slice?_eq (length_toBigEndian 8 _)]
  simp only [Option.bind_eq_bind, Option.bind_some, Option.pure_def, hk, hd]
  rw [hkey.slice?_eq rfl, hdata.slice?_eq rfl]
  simp only [Option.bind_some, Tai64.unpack_pack]

/-- The entries that tile a stretch are the ones read off it. -/
theorem Tiled.between_eq {a : Arena} {pos stop : Nat} {ps : List Placed}
    (h : Tiled a stop pos ps) : between a pos stop = ps := by
  induction ps generalizing pos with
  | nil =>
    obtain rfl := h
    rw [between, if_neg (Nat.lt_irrefl _)]
  | cons p rest ih =>
    obtain ⟨rfl, hentry, hrest⟩ := h
    have hlt : p.pos < stop := by
      have := hrest.le
      have := p.entry.header_le_length
      omega
    rw [between, if_pos hlt, hentry.entryAt?_eq]
    show p :: between a (p.pos + p.entry.length) stop = p :: rest
    rw [ih hrest]

end Resolver.Cache
