import Resolver.Proofs.Database.Lookup

/-!
# What a search reads

One call of a search reads its pair of the header if it has not started yet, and then looks at one
slot after another. The record of a slot is read only if the hash in the slot is the wanted one, and
the key of a record only as far as it agrees.

Main statements: what a call answers is decided by what it reads (`Finder.next_congr`), a read that
fails gives the answer of its call (`Finder.next_of_failed`), and none of the reads is empty
(`Finder.len_of_mem_accesses`).
-/

namespace Resolver

namespace Database

/-- A stretch of a file that is read at once. -/
structure Access where
  pos : Nat
  len : Nat
  deriving DecidableEq, Repr

variable {db db' : Database} {key : Bytes} {pos : Nat} {a : Access} {e : ReadError}

/-- A pair of numbers is no longer than a chunk of a key. -/
theorem len_pair (pos : Nat) :
    0 < (Access.mk pos 8).len ∧ (Access.mk pos 8).len ≤ chunkLength := by
  show 0 < 8 ∧ 8 ≤ 32
  decide

/-- Two databases hold the same where the accesses go. -/
def SameOn (accesses : List Access) (db db' : Database) : Prop :=
  ∀ a ∈ accesses, db'.read a.pos a.len = db.read a.pos a.len

/-! ## Keys and records -/

/-- What is read to compare a key with the bytes at `pos`: one chunk after another, as long as they
agree. -/
def keyAccesses (db : Database) (key : Bytes) (pos : Nat) : List Access :=
  if _h : key = [] then []
  else
    match db.read pos (key.take chunkLength).length with
    | .error _ => [⟨pos, (key.take chunkLength).length⟩]
    | .ok stored =>
      ⟨pos, (key.take chunkLength).length⟩ ::
        if stored = key.take chunkLength then
          db.keyAccesses (key.drop chunkLength) ((pos + (key.take chunkLength).length) % 0x100000000)
        else []
termination_by key.length
decreasing_by
  have := List.length_pos_iff.2 _h
  simp only [chunkLength, List.length_drop]
  omega

/-- What is read of the record at `pos`: its lengths, and its key if that has the right length. -/
def recordAccesses (db : Database) (key : Bytes) (pos : Nat) : List Access :=
  ⟨pos, 8⟩ ::
    match db.readPair pos with
    | .error _ => []
    | .ok (keyLength, _) =>
      if keyLength = key.length ∧ pos + 8 ≤ maxWord32 then db.keyAccesses key (pos + 8) else []

theorem readPair_congr (h : db'.read pos 8 = db.read pos 8) : db'.readPair pos = db.readPair pos := by
  simp only [readPair, h]

theorem readPair_of_failed (h : db.read pos 8 = .error e) : db.readPair pos = .error e := by
  simp only [readPair, h, Except.map]

/-- What a reader of a record's key answers is decided by what it reads. -/
theorem keyAt_congr (h : SameOn (db.keyAccesses key pos) db db') :
    db'.keyAt key pos = db.keyAt key pos := by
  fun_induction keyAt db key pos with
  | case1 pos =>
    rw [keyAt, dif_pos rfl]
  | case2 key pos hkey e hread =>
    rw [keyAccesses, dif_neg hkey, hread] at h
    have hsame := h _ List.mem_cons_self
    rw [keyAt, dif_neg hkey, hsame, hread]
  | case3 key pos hkey hread ih =>
    rw [keyAccesses, dif_neg hkey, hread] at h
    have hsame := h _ List.mem_cons_self
    have hrest := ih fun a ha => h a (List.mem_cons_of_mem _ (by rwa [if_pos rfl]))
    rw [keyAt, dif_neg hkey, hsame, hread]
    simp only [if_true]
    exact hrest
  | case4 key pos hkey stored hread hne =>
    rw [keyAccesses, dif_neg hkey, hread] at h
    have hsame := h _ List.mem_cons_self
    rw [keyAt, dif_neg hkey, hsame, hread]
    simp only [if_neg hne]

/-- A failed access ends the comparison. -/
theorem keyAt_of_failed (ha : a ∈ db.keyAccesses key pos) (hfailed : db.read a.pos a.len = .error e) :
    db.keyAt key pos = .error e := by
  fun_induction keyAt db key pos with
  | case1 pos =>
    rw [keyAccesses, dif_pos rfl] at ha
    contradiction
  | case2 key pos hkey e' hread =>
    rw [keyAccesses, dif_neg hkey, hread] at ha
    obtain rfl := List.mem_singleton.1 ha
    cases hread.symm.trans hfailed
    rfl
  | case3 key pos hkey hread ih =>
    rw [keyAccesses, dif_neg hkey, hread] at ha
    rcases List.mem_cons.1 ha with rfl | ha
    · cases hread.symm.trans hfailed
    · exact ih (by simpa using ha)
  | case4 key pos hkey stored hread hne =>
    rw [keyAccesses, dif_neg hkey, hread] at ha
    simp only [if_neg hne, List.mem_singleton] at ha
    subst ha
    cases hread.symm.trans hfailed

/-- A chunk of a key is not empty. -/
theorem length_chunk (h : key ≠ []) :
    0 < (key.take chunkLength).length ∧ (key.take chunkLength).length ≤ chunkLength := by
  have := List.length_pos_iff.2 h
  simp only [List.length_take, chunkLength]
  omega

theorem len_of_mem_keyAccesses (ha : a ∈ db.keyAccesses key pos) :
    0 < a.len ∧ a.len ≤ chunkLength := by
  fun_induction keyAt db key pos with
  | case1 pos =>
    rw [keyAccesses, dif_pos rfl] at ha
    contradiction
  | case2 key pos hkey e' hread =>
    rw [keyAccesses, dif_neg hkey, hread] at ha
    obtain rfl := List.mem_singleton.1 ha
    exact length_chunk hkey
  | case3 key pos hkey hread ih =>
    rw [keyAccesses, dif_neg hkey, hread] at ha
    rcases List.mem_cons.1 ha with rfl | ha
    · exact length_chunk hkey
    · exact ih (by simpa using ha)
  | case4 key pos hkey stored hread hne =>
    rw [keyAccesses, dif_neg hkey, hread] at ha
    simp only [if_neg hne, List.mem_singleton] at ha
    subst ha
    exact length_chunk hkey

theorem recordAt_congr (h : SameOn (db.recordAccesses key pos) db db') :
    db'.recordAt key pos = db.recordAt key pos := by
  unfold recordAccesses at h
  have hpair : db'.readPair pos = db.readPair pos := readPair_congr (h _ List.mem_cons_self)
  unfold recordAt
  simp only [bind, Except.bind, hpair]
  cases hread : db.readPair pos with
  | error e => rfl
  | ok lengths =>
    obtain ⟨keyLength, dataLength⟩ := lengths
    rw [hread] at h
    dsimp only at h ⊢
    by_cases hlen : keyLength = key.length
    · by_cases hfits : pos + 8 ≤ maxWord32
      · have hkey : db'.keyAt key (pos + 8) = db.keyAt key (pos + 8) := by
          apply keyAt_congr
          intro a ha
          exact h a (List.mem_cons_of_mem _ (by rwa [if_pos ⟨hlen, hfits⟩]))
        simp only [hkey]
      · simp only [if_pos (Nat.lt_of_not_le hfits)]
        rfl
    · simp only [if_pos hlen]

theorem recordAt_of_failed (ha : a ∈ db.recordAccesses key pos)
    (hfailed : db.read a.pos a.len = .error e) : db.recordAt key pos = .error e := by
  unfold recordAccesses at ha
  unfold recordAt
  simp only [bind, Except.bind]
  rcases List.mem_cons.1 ha with rfl | ha
  · rw [readPair_of_failed hfailed]
  · cases hread : db.readPair pos with
    | error e =>
      rw [hread] at ha
      contradiction
    | ok lengths =>
      obtain ⟨keyLength, dataLength⟩ := lengths
      rw [hread] at ha
      dsimp only at ha ⊢
      split at ha
      · next hboth =>
        rw [if_neg (not_not_intro hboth.1)]
        simp only [pure, Except.pure]
        rw [if_neg (by omega)]
        simp only [keyAt_of_failed ha hfailed]
      · contradiction

theorem len_of_mem_recordAccesses (ha : a ∈ db.recordAccesses key pos) :
    0 < a.len ∧ a.len ≤ chunkLength := by
  unfold recordAccesses at ha
  rcases List.mem_cons.1 ha with rfl | ha
  · exact len_pair _
  · split at ha
    · contradiction
    · split at ha
      · exact len_of_mem_keyAccesses ha
      · contradiction

end Database

namespace Finder

open Database

variable {f f' : Finder} {db db' : Database} {key : Bytes} {a : Access} {e : ReadError}

/-- Looks at one slot. There is an answer unless the search goes on. -/
def look (f : Finder) (db : Database) (key : Bytes) :
    Finder × Option (Except ReadError (Option DataRef)) :=
  match db.readPair f.slot with
  | .error e => (f, some (.error e))
  | .ok (slotHash, pos) =>
    if pos = 0 then (f, some (.ok none))
    else
      match f.advance with
      | (f', .error e) => (f', some (.error e))
      | (f', .ok ()) =>
        if slotHash ≠ f.hash.toNat then (f', none)
        else
          match db.recordAt key pos with
          | .error e => (f', some (.error e))
          | .ok (some ref) => (f', some (.ok (some ref)))
          | .ok none => (f', none)

/-- A search that has slots left looks at the next one, and goes on if that gives no answer. -/
theorem scan_of_lt (h : f.probes < f.slots) :
    f.scan db key =
      match f.look db key with
      | (f', some answer) => (f', answer)
      | (f', none) => f'.scan db key := by
  rw [scan, if_pos h]
  unfold look
  cases hread : db.readPair f.slot with
  | error e => rfl
  | ok slot =>
    obtain ⟨slotHash, pos⟩ := slot
    dsimp only
    by_cases hpos : pos = 0
    · rw [if_pos hpos, if_pos hpos]
    · rw [if_neg hpos, if_neg hpos]
      split <;> rename_i heq <;> rw [heq]
      dsimp only
      split
      · rfl
      · cases db.recordAt key pos with
        | error e => rfl
        | ok found => cases found <;> rfl

/-- What is read to look at one slot: the slot, and its record if the hash is the wanted one. -/
def lookAccesses (f : Finder) (db : Database) (key : Bytes) : List Access :=
  ⟨f.slot, 8⟩ ::
    match db.readPair f.slot with
    | .error _ => []
    | .ok (slotHash, pos) =>
      if pos ≠ 0 ∧ f.advance.2.isOk ∧ slotHash = f.hash.toNat then db.recordAccesses key pos
      else []

theorem look_congr (h : SameOn (f.lookAccesses db key) db db') :
    f.look db' key = f.look db key := by
  unfold lookAccesses at h
  have hpair : db'.readPair f.slot = db.readPair f.slot := readPair_congr (h _ List.mem_cons_self)
  unfold look
  rw [hpair]
  cases hread : db.readPair f.slot with
  | error e => rfl
  | ok slot =>
    obtain ⟨slotHash, pos⟩ := slot
    rw [hread] at h
    dsimp only at h ⊢
    by_cases hpos : pos = 0
    · rw [if_pos hpos, if_pos hpos]
    · rw [if_neg hpos, if_neg hpos]
      rcases hadvance : f.advance with ⟨f', e | _⟩
      · rfl
      · dsimp only
        by_cases hhash : slotHash = f.hash.toNat
        · rw [hadvance, if_pos ⟨hpos, rfl, hhash⟩] at h
          have hrecord : db'.recordAt key pos = db.recordAt key pos :=
            recordAt_congr fun a ha => h a (List.mem_cons_of_mem _ ha)
          rw [hrecord]
        · rw [if_pos hhash, if_pos hhash]

theorem look_of_failed (ha : a ∈ f.lookAccesses db key)
    (hfailed : db.read a.pos a.len = .error e) : (f.look db key).2 = some (.error e) := by
  unfold lookAccesses at ha
  unfold look
  rcases List.mem_cons.1 ha with rfl | ha
  · rw [readPair_of_failed hfailed]
  · cases hread : db.readPair f.slot with
    | error e =>
      rw [hread] at ha
      contradiction
    | ok slot =>
      obtain ⟨slotHash, pos⟩ := slot
      rw [hread] at ha
      dsimp only at ha ⊢
      split at ha
      · next hboth =>
        obtain ⟨hpos, hadvance, hhash⟩ := hboth
        rcases hf : f.advance with ⟨f', e | _⟩
        · rw [hf] at hadvance
          contradiction
        rw [if_neg hpos]
        dsimp only
        rw [if_neg (not_not_intro hhash), recordAt_of_failed ha hfailed]
      · contradiction

theorem len_of_mem_lookAccesses (ha : a ∈ f.lookAccesses db key) :
    0 < a.len ∧ a.len ≤ chunkLength := by
  unfold lookAccesses at ha
  rcases List.mem_cons.1 ha with rfl | ha
  · exact len_pair _
  · split at ha
    · contradiction
    · split at ha
      · exact len_of_mem_recordAccesses ha
      · contradiction

/-- What looking at a slot may come to. -/
inductive Looked (f : Finder) (db : Database) (key : Bytes) :
    Finder → Option (Except ReadError (Option DataRef)) → Prop
  | unreadable {e : ReadError} (hread : db.readPair f.slot = .error e) :
      Looked f db key f (some (.error e))
  | empty {slotHash : Nat} (hread : db.readPair f.slot = .ok (slotHash, 0)) :
      Looked f db key f (some (.ok none))
  | overrun {f' : Finder} {e : ReadError} (hadvance : f.advance = (f', .error e)) :
      Looked f db key f' (some (.error e))
  | passed {f' : Finder} (hadvance : f.advance = (f', .ok ())) : Looked f db key f' none
  | damaged {f' : Finder} {pos : Nat} {e : ReadError} (hadvance : f.advance = (f', .ok ()))
      (hrecord : db.recordAt key pos = .error e) : Looked f db key f' (some (.error e))
  | found {f' : Finder} {pos : Nat} {ref : DataRef} (hadvance : f.advance = (f', .ok ()))
      (hrecord : db.recordAt key pos = .ok (some ref)) :
      Looked f db key f' (some (.ok (some ref)))

theorem looked_look (f : Finder) (db : Database) (key : Bytes) :
    Looked f db key (f.look db key).1 (f.look db key).2 := by
  unfold look
  cases hread : db.readPair f.slot with
  | error e => exact .unreadable hread
  | ok slot =>
    obtain ⟨slotHash, pos⟩ := slot
    dsimp only
    by_cases hpos : pos = 0
    · rw [if_pos hpos]
      exact .empty (hpos ▸ hread)
    · rw [if_neg hpos]
      rcases hadvance : f.advance with ⟨f', e | _⟩
      · exact .overrun hadvance
      · dsimp only
        split
        · exact .passed hadvance
        · cases hrecord : db.recordAt key pos with
          | error e => exact .damaged hadvance hrecord
          | ok found =>
            cases found with
            | none => exact .passed hadvance
            | some ref => exact .found hadvance hrecord

theorem looked_of_look {answer : Option (Except ReadError (Option DataRef))}
    (h : f.look db key = (f', answer)) : Looked f db key f' answer := by
  have hlooked := looked_look f db key
  rwa [h] at hlooked

/-- A search that goes on has moved on to the next slot. -/
theorem advance_of_look (h : f.look db key = (f', none)) : f.advance = (f', .ok ()) := by
  cases looked_of_look h with
  | passed hadvance => exact hadvance

/-- The states in which a search looks at a slot, from the given one on until it has an answer. -/
def looks (f : Finder) (db : Database) (key : Bytes) : List Finder :=
  if f.probes < f.slots then
    match _h : f.look db key with
    | (_, some _) => [f]
    | (f', none) => f :: f'.looks db key
  else []
termination_by f.slots - f.probes
decreasing_by
  have hp := advance_probes f
  rw [advance_of_look _h] at hp
  simp only at hp
  omega

theorem scan_congr (h : SameOn ((f.looks db key).flatMap (·.lookAccesses db key)) db db') :
    f.scan db' key = f.scan db key := by
  fun_induction looks f db key with
  | case1 f hlt f' answer hlook =>
    rw [List.flatMap_singleton] at h
    rw [scan_of_lt hlt, scan_of_lt hlt, look_congr h, hlook]
  | case2 f hlt f' hlook ih =>
    rw [List.flatMap_cons] at h
    have hsame : f.look db' key = f.look db key :=
      look_congr fun a ha => h a (List.mem_append_left _ ha)
    rw [scan_of_lt hlt, scan_of_lt hlt, hsame, hlook]
    exact ih fun a ha => h a (List.mem_append_right _ ha)
  | case3 f hend =>
    rw [scan_of_end (Nat.le_of_not_lt hend), scan_of_end (Nat.le_of_not_lt hend)]

theorem scan_of_failed (ha : a ∈ (f.looks db key).flatMap (·.lookAccesses db key))
    (hfailed : db.read a.pos a.len = .error e) : (f.scan db key).2 = .error e := by
  fun_induction looks f db key with
  | case1 f hlt f' answer hlook =>
    rw [List.flatMap_singleton] at ha
    have hfound := look_of_failed ha hfailed
    rw [hlook] at hfound
    rw [scan_of_lt hlt, hlook]
    exact Option.some.inj hfound
  | case2 f hlt f' hlook ih =>
    rw [List.flatMap_cons] at ha
    rw [scan_of_lt hlt, hlook]
    rcases List.mem_append.1 ha with ha | ha
    · have hfound := look_of_failed ha hfailed
      rw [hlook] at hfound
      contradiction
    · exact ih ha
  | case3 f hend => contradiction

/-! ## Calls -/

/-- The states in which one call of a search looks at a slot. -/
def nextLooks (f : Finder) (db : Database) (key : Bytes) : List Finder :=
  if f.probes = 0 then
    match f.enter db key with
    | (f', .ok true) => f'.looks db key
    | _ => []
  else f.looks db key

/-- What one call of a search reads. -/
def accesses (f : Finder) (db : Database) (key : Bytes) : List Access :=
  (if f.probes = 0 then [⟨8 * tableOf (Database.hash key), 8⟩] else []) ++
    (f.nextLooks db key).flatMap (·.lookAccesses db key)

theorem enter_congr
    (h : db'.readPair (8 * tableOf (Database.hash key)) =
      db.readPair (8 * tableOf (Database.hash key))) :
    f.enter db' key = f.enter db key := by
  simp only [enter, h]

theorem enter_of_failed (h : db.readPair (8 * tableOf (Database.hash key)) = .error e) :
    f.enter db key = (f, .error e) := by
  simp only [enter, h]

/-- The answer of a call is decided by what it reads. -/
theorem next_congr (h : SameOn (f.accesses db key) db db') : f.next db' key = f.next db key := by
  unfold accesses nextLooks at h
  unfold next
  by_cases hstart : f.probes = 0
  · simp only [if_pos hstart] at h ⊢
    have henter : f.enter db' key = f.enter db key :=
      enter_congr (readPair_congr (h _ List.mem_cons_self))
    rw [henter]
    rcases hentered : f.enter db key with ⟨f', e | found⟩
    · rfl
    · cases found with
      | false => rfl
      | true =>
        rw [hentered] at h
        exact scan_congr fun a ha => h a (List.mem_cons_of_mem _ ha)
  · simp only [if_neg hstart] at h ⊢
    exact scan_congr h

/-- A read that fails gives the answer of its call. -/
theorem next_of_failed (ha : a ∈ f.accesses db key) (hfailed : db.read a.pos a.len = .error e) :
    (f.next db key).2 = .error e := by
  unfold accesses nextLooks at ha
  unfold next
  by_cases hstart : f.probes = 0
  · simp only [if_pos hstart] at ha ⊢
    rcases List.mem_cons.1 ha with rfl | ha
    · rw [enter_of_failed (readPair_of_failed hfailed)]
    · rcases hentered : f.enter db key with ⟨f', e | found⟩
      · rw [hentered] at ha
        contradiction
      · rw [hentered] at ha
        cases found with
        | false => contradiction
        | true => exact scan_of_failed ha hfailed
  · simp only [if_neg hstart] at ha ⊢
    exact scan_of_failed ha hfailed

/-- No read of a call is empty. -/
theorem len_of_mem_accesses (ha : a ∈ f.accesses db key) : 0 < a.len ∧ a.len ≤ chunkLength := by
  unfold accesses at ha
  rcases List.mem_append.1 ha with ha | ha
  · split at ha
    · obtain rfl := List.mem_singleton.1 ha
      exact len_pair _
    · contradiction
  · obtain ⟨g, -, ha⟩ := List.mem_flatMap.1 ha
    exact len_of_mem_lookAccesses ha

end Finder
end Resolver
