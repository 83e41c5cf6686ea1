import Mathlib
import Resolver.Proofs.Database.Hits

/-!
# Searches in any file

A search for a key is started over and then called again and again with this key. Its table may lie
anywhere and its slots may hold anything, and the state that an error leaves behind is any state.

Main statements: up to its first miss or error, a search looks at the slots of the table in turn, at
each of them once at most (`Finder.slotsSeen_of_hits`); a miss is final (`Finder.next_of_none`); and
gathering the data of all hits comes to an end (`Finder.gathers_getAll`). `Finder.search_of_file`
puts together what holds of every search in every file.
-/

namespace Resolver

namespace Finder

open Database

variable {f f' g : Finder} {db : Database} {key : Bytes} {hash : UInt32} {ref : DataRef}
  {table slots probes n m : Nat}

/-! ## Slots in turn -/

/-- The offset of the slot that is looked at after `i` others. -/
def slotAfter (hash : UInt32) (table slots i : Nat) : Nat :=
  table + 8 * ((firstSlot hash slots + i) % slots)

/-- A search that looks at all slots comes to each of them once. -/
theorem slotAfter_inj {i j : Nat} (hi : i < slots) (hj : j < slots)
    (h : slotAfter hash table slots i = slotAfter hash table slots j) : i = j := by
  have hfirst : firstSlot hash slots < slots := Nat.mod_lt _ (by omega)
  have hround : ∀ k < slots, (firstSlot hash slots + k) % slots =
      if firstSlot hash slots + k < slots then firstSlot hash slots + k
      else firstSlot hash slots + k - slots := by
    intro k hk
    split
    · next hlt => exact Nat.mod_eq_of_lt hlt
    · next hge => rw [Nat.mod_eq_sub_mod (by omega), Nat.mod_eq_of_lt (by omega)]
  unfold slotAfter at h
  rw [hround i hi, hround j hj] at h
  split at h <;> split at h <;> omega

theorem nodup_slotAfter (hash : UInt32) (table : Nat) (h : n ≤ slots) :
    ((List.range n).map (slotAfter hash table slots)).Nodup := by
  unfold List.Nodup
  rw [List.pairwise_map]
  refine List.nodup_range.imp_of_mem fun hi hj hne heq => hne ?_
  rw [List.mem_range] at hi hj
  exact slotAfter_inj (by omega) (by omega) heq

/-- A table that ends past the greatest position lets no search move on. -/
theorem of_advance_after (hslots : 0 < slots)
    (h : (after hash table slots probes).advance = (f', .ok ())) :
    f' = after hash table slots (probes + 1) := by
  by_cases hfits : table + 8 * slots ≤ maxWord32
  · rw [advance_after hash probes hslots hfits] at h
    exact (Prod.mk.inj h).1.symm
  · unfold advance slotOffset after at h
    dsimp only at h
    rw [if_neg hfits] at h
    cases h

/-- A search looks at the slots that are left in turn, and has looked at all up to the hit when there
is one. -/
theorem looks_after (hash : UInt32) (table : Nat) (db : Database) (key : Bytes) (hslots : 0 < slots)
    (hprobes : probes ≤ slots) :
    ∃ n, probes + n ≤ slots ∧
      ((after hash table slots probes).looks db key).map Finder.slot =
        (List.range' probes n).map (slotAfter hash table slots) ∧
      ∀ f' ref, (after hash table slots probes).scan db key = (f', .ok (some ref)) →
        0 < n ∧ f' = after hash table slots (probes + n) := by
  generalize hf : after hash table slots probes = f
  fun_induction looks f db key generalizing probes with
  | case1 f hlt f₁ answer hlook =>
    subst hf
    refine ⟨1, hlt, rfl, ?_⟩
    intro f' ref hscan
    rw [scan_of_lt hlt, hlook] at hscan
    obtain ⟨rfl, rfl⟩ := Prod.mk.inj hscan
    cases looked_of_look hlook with
    | found hadvance _ => exact ⟨Nat.one_pos, of_advance_after hslots hadvance⟩
  | case2 f hlt f₁ hlook ih =>
    subst hf
    have hmoved : f₁ = after hash table slots (probes + 1) :=
      of_advance_after hslots (advance_of_look hlook)
    have hnext : probes + 1 ≤ slots := hlt
    obtain ⟨n, hn, hseen, hhit⟩ := ih hnext hmoved.symm
    refine ⟨n + 1, by omega, ?_, ?_⟩
    · rw [List.map_cons, hseen, List.range'_succ, List.map_cons]
      rfl
    · intro f' ref hscan
      rw [scan_of_lt hlt, hlook] at hscan
      obtain ⟨-, hf'⟩ := hhit f' ref hscan
      refine ⟨Nat.succ_pos n, ?_⟩
      rw [hf', Nat.add_assoc, Nat.add_comm 1]
  | case3 f hend =>
    refine ⟨0, hprobes, rfl, ?_⟩
    intro f' ref hscan
    rw [scan_of_end (Nat.le_of_not_lt hend)] at hscan
    cases hscan

end Finder

/-! ## The first call -/

namespace Database

/-- The position and the number of slots that the header has for the table of a key, if they can be
read. -/
def header (db : Database) (key : Bytes) : Nat × Nat :=
  match db.readPair (8 * tableOf (hash key)) with
  | .ok pair => pair
  | .error _ => (0, 0)

/-- The number of slots that the header has for a key. -/
def slotCount (db : Database) (key : Bytes) : Nat :=
  (db.header key).2

end Database

namespace Finder

open Database

variable {f f' g : Finder} {db : Database} {key : Bytes} {ref : DataRef} {n m : Nat}

/-- A search that got its pair of the header stays as it is if there are no slots, and has its table
and its first slot otherwise. -/
theorem of_enter {found : Bool} (h : f.enter db key = (g, .ok found)) :
    (found = false ∧ g = f) ∨ ∃ table slots slot, found = true ∧ slots ≠ 0 ∧
      db.readPair (8 * tableOf (Database.hash key)) = .ok (table, slots) ∧
      slotOffset table (firstSlot (Database.hash key) slots) = .ok slot ∧
      g = ⟨f.probes, Database.hash key, slot, table, slots⟩ := by
  unfold enter at h
  dsimp only at h
  cases hread : db.readPair (8 * tableOf (Database.hash key)) with
  | error e =>
    rw [hread] at h
    cases h
  | ok pair =>
    obtain ⟨table, slots⟩ := pair
    rw [hread] at h
    dsimp only at h
    by_cases hslots : slots = 0
    · rw [if_pos hslots] at h
      cases h
      exact .inl ⟨rfl, rfl⟩
    · rw [if_neg hslots] at h
      cases hoffset : slotOffset table (firstSlot (Database.hash key) slots) with
      | error e =>
        rw [hoffset] at h
        cases h
      | ok slot =>
        rw [hoffset] at h
        cases h
        exact .inr ⟨table, slots, slot, rfl, hslots, rfl, hoffset, rfl⟩

/-- A search that has its table begins at the slot of its hash. -/
theorem enter_eq (hprobes : f.probes = 0) (h : f.enter db key = (g, .ok true)) :
    0 < db.slotCount key ∧
      g = after (Database.hash key) (db.header key).1 (db.slotCount key) 0 := by
  rcases of_enter h with ⟨hfound, -⟩ | ⟨table, slots, slot, -, hslots, hread, hoffset, rfl⟩
  · contradiction
  have hpos : 0 < slots := Nat.pos_of_ne_zero hslots
  have hfirst : firstSlot (Database.hash key) slots < slots := Nat.mod_lt _ hpos
  have hslot : slot = table + 8 * firstSlot (Database.hash key) slots := by
    unfold slotOffset at hoffset
    split at hoffset
    · exact (Except.ok.inj hoffset).symm
    · contradiction
  unfold slotCount header
  rw [hread]
  refine ⟨hpos, ?_⟩
  rw [hslot, hprobes, after, Nat.add_zero, Nat.mod_eq_of_lt hfirst]

/-- Finding its table again leaves a search where it is. -/
theorem enter_again (h : f.enter db key = (g, .ok true)) : g.enter db key = (g, .ok true) := by
  rcases of_enter h with ⟨hfound, -⟩ | ⟨table, slots, slot, -, hslots, hread, hoffset, rfl⟩
  · contradiction
  unfold enter
  simp only [hread, if_neg hslots, hoffset]

theorem enter_of_false (h : f.enter db key = (g, .ok false)) : g = f := by
  rcases of_enter h with ⟨-, hsame⟩ | ⟨_, _, _, hfound, -⟩
  · exact hsame
  · contradiction

/-! ## Misses -/

/-- A search that missed stays where it is: at an empty slot or at the end. -/
theorem scan_of_none (h : f.scan db key = (g, .ok none)) :
    g.scan db key = (g, .ok none) ∧ (g.probes = 0 → g = f) := by
  fun_induction looks f db key with
  | case1 f hlt f₁ answer hlook =>
    have hscan := h
    rw [scan_of_lt hlt, hlook] at h
    obtain ⟨rfl, rfl⟩ := Prod.mk.inj h
    cases looked_of_look hlook with
    | empty _ => exact ⟨hscan, fun _ => rfl⟩
  | case2 f hlt f₁ hlook ih =>
    rw [scan_of_lt hlt, hlook] at h
    obtain ⟨hagain, hstart⟩ := ih h
    refine ⟨hagain, fun hprobes => ?_⟩
    -- the search has looked at a slot, so it is not where it was
    have hmoved := (advance_probes f).1
    rw [advance_of_look hlook, ← hstart hprobes, hprobes] at hmoved
    contradiction
  | case3 f hend =>
    have hscan := h
    rw [scan_of_end (Nat.le_of_not_lt hend)] at h
    obtain ⟨rfl, -⟩ := Prod.mk.inj h
    exact ⟨hscan, fun _ => rfl⟩

/-- A miss is final: another call for the key is another miss, and leaves the search as it is. -/
theorem next_of_none (h : f.next db key = (g, .ok none)) : g.next db key = (g, .ok none) := by
  unfold next at h
  by_cases hprobes : f.probes = 0
  · rw [if_pos hprobes] at h
    rcases hentered : f.enter db key with ⟨f₁, e | found⟩
    · rw [hentered] at h
      cases h
    rw [hentered] at h
    cases found with
    | false =>
      obtain ⟨rfl, -⟩ := Prod.mk.inj h
      obtain rfl := enter_of_false hentered
      rw [next, if_pos hprobes, hentered]
    | true =>
      obtain ⟨hagain, hstart⟩ := scan_of_none h
      rw [next]
      by_cases hg : g.probes = 0
      · obtain rfl := hstart hg
        rw [if_pos hg, enter_again hentered]
        exact hagain
      · rw [if_neg hg]
        exact hagain
  · rw [if_neg hprobes] at h
    obtain ⟨hagain, hstart⟩ := scan_of_none h
    have hg : g.probes ≠ 0 := by
      intro hg
      rw [hstart hg] at hg
      exact hprobes hg
    rw [next, if_neg hg]
    exact hagain

/-! ## Call after call -/

/-- A search before call number `n` for a key, counted from zero. Whatever it was used for, it is
started over first. -/
def before (f : Finder) (db : Database) (key : Bytes) : Nat → Finder
  | 0 => f.restart
  | n + 1 => ((f.before db key n).next db key).1

/-- The answer to call number `n`. -/
def answer (f : Finder) (db : Database) (key : Bytes) (n : Nat) :
    Except ReadError (Option DataRef) :=
  ((f.before db key n).next db key).2

/-- The offsets of the slots that call number `n` looks at. -/
def slotsSeen (f : Finder) (db : Database) (key : Bytes) (n : Nat) : List Nat :=
  ((f.before db key n).nextLooks db key).map Finder.slot

theorem next_before (f : Finder) (db : Database) (key : Bytes) (n : Nat) :
    (f.before db key n).next db key = (f.before db key (n + 1), f.answer db key n) := rfl

/-- A search that has looked at the first `m` slots and goes on at the next one. -/
def OnTrack (db : Database) (key : Bytes) (m : Nat) (f : Finder) : Prop :=
  m = 0 ∧ f.probes = 0 ∨
    0 < m ∧ m ≤ db.slotCount key ∧
      f = after (Database.hash key) (db.header key).1 (db.slotCount key) m

/-- A search that looks at the slots that are left is on track behind those it looked at if it comes
to a hit. -/
theorem onTrack_of_scan (hslots : 0 < db.slotCount key) (hm : m ≤ db.slotCount key)
    (hf : f = after (Database.hash key) (db.header key).1 (db.slotCount key) m) :
    ∃ n, m + n ≤ db.slotCount key ∧
      (f.looks db key).map Finder.slot =
        (List.range' m n).map
          (slotAfter (Database.hash key) (db.header key).1 (db.slotCount key)) ∧
      ∀ f' ref, f.scan db key = (f', .ok (some ref)) → 0 < n ∧ OnTrack db key (m + n) f' := by
  subst hf
  obtain ⟨n, hn, hseen, hhit⟩ :=
    looks_after (Database.hash key) (db.header key).1 db key hslots hm
  refine ⟨n, hn, hseen, fun f' ref hscan => ?_⟩
  obtain ⟨hpos, hf'⟩ := hhit f' ref hscan
  exact ⟨hpos, .inr ⟨by omega, hn, hf'⟩⟩

/-- One call looks at some slots in turn, and is on track behind them if it is a hit. -/
theorem OnTrack.step (h : OnTrack db key m f) (hm : m ≤ db.slotCount key) :
    ∃ n, m + n ≤ db.slotCount key ∧
      (f.nextLooks db key).map Finder.slot =
        (List.range' m n).map
          (slotAfter (Database.hash key) (db.header key).1 (db.slotCount key)) ∧
      ∀ f' ref, f.next db key = (f', .ok (some ref)) → 0 < n ∧ OnTrack db key (m + n) f' := by
  unfold nextLooks next
  rcases h with ⟨rfl, hprobes⟩ | ⟨hpos, -, hf⟩
  · rw [if_pos hprobes, if_pos hprobes]
    rcases hentered : f.enter db key with ⟨f₁, e | found⟩
    · exact ⟨0, hm, rfl, fun f' ref hnext => by cases hnext⟩
    cases found with
    | false => exact ⟨0, hm, rfl, fun f' ref hnext => by cases hnext⟩
    | true =>
      obtain ⟨hslots, hf₁⟩ := enter_eq hprobes hentered
      exact onTrack_of_scan hslots hm hf₁
  · have hprobes : f.probes ≠ 0 := by
      rw [hf]
      exact Nat.ne_of_gt hpos
    rw [if_neg hprobes, if_neg hprobes]
    exact onTrack_of_scan (Nat.lt_of_lt_of_le hpos hm) hm hf

/-- The slots of one more call stand behind those of the calls before. -/
theorem flatMap_slotsSeen_succ {slotAt : Nat → Nat} {k : Nat}
    (hseen : (List.range n).flatMap (f.slotsSeen db key) = (List.range m).map slotAt)
    (hcall : f.slotsSeen db key n = (List.range' m k).map slotAt) :
    (List.range (n + 1)).flatMap (f.slotsSeen db key) = (List.range (m + k)).map slotAt := by
  have happend : List.range m ++ List.range' m k = List.range (m + k) := by
    rw [List.range_eq_range', List.range_eq_range', ← List.range'_append_1, Nat.zero_add]
  rw [List.range_succ, List.flatMap_append, List.flatMap_singleton, hseen, hcall,
    ← List.map_append, happend]

/-- While all calls are hits, each is on track where the one before left off. -/
theorem onTrack_before (hhits : ∀ i < n, ∃ ref, f.answer db key i = .ok (some ref)) :
    ∃ m, n ≤ m ∧ m ≤ db.slotCount key ∧ OnTrack db key m (f.before db key n) ∧
      (List.range n).flatMap (f.slotsSeen db key) =
        (List.range m).map
          (slotAfter (Database.hash key) (db.header key).1 (db.slotCount key)) := by
  induction n with
  | zero => exact ⟨0, Nat.le_refl 0, Nat.zero_le _, .inl ⟨rfl, rfl⟩, rfl⟩
  | succ n ih =>
    obtain ⟨m, hnm, hm, htrack, hseen⟩ := ih fun i hi => hhits i (Nat.lt_succ_of_lt hi)
    obtain ⟨ref, hhit⟩ := hhits n (Nat.lt_succ_self n)
    obtain ⟨k, hk, hcall, hnext⟩ := htrack.step hm
    obtain ⟨hpos, htrack'⟩ := hnext _ ref (by rw [next_before, hhit])
    exact ⟨m + k, by omega, hk, htrack', flatMap_slotsSeen_succ hseen hcall⟩

/-- Up to its first miss or error, a search looks at the slots of its table in turn. -/
theorem slotsSeen_of_hits (hhits : ∀ i < n, ∃ ref, f.answer db key i = .ok (some ref)) :
    ∃ m ≤ db.slotCount key,
      (List.range (n + 1)).flatMap (f.slotsSeen db key) =
        (List.range m).map
          (slotAfter (Database.hash key) (db.header key).1 (db.slotCount key)) := by
  obtain ⟨m, -, hm, htrack, hseen⟩ := onTrack_before hhits
  obtain ⟨k, hk, hcall, -⟩ := htrack.step hm
  exact ⟨m + k, hk, flatMap_slotsSeen_succ hseen hcall⟩

/-- Either the first `n` calls are all hits, or one of them is the first that is none. -/
theorem hits_or_exists (f : Finder) (db : Database) (key : Bytes) (n : Nat) :
    (∀ i < n, ∃ ref, f.answer db key i = .ok (some ref)) ∨
      ∃ m < n, (∀ i < m, ∃ ref, f.answer db key i = .ok (some ref)) ∧
        ∀ ref, f.answer db key m ≠ .ok (some ref) := by
  induction n with
  | zero => exact .inl fun i hi => absurd hi (Nat.not_lt_zero i)
  | succ n ih =>
    rcases ih with hhits | ⟨m, hm, hfirst⟩
    · by_cases hhit : ∃ ref, f.answer db key n = .ok (some ref)
      · refine .inl fun i hi => ?_
        rcases Nat.lt_succ_iff_lt_or_eq.1 hi with hi | rfl
        · exact hhits i hi
        · exact hhit
      · exact .inr ⟨n, Nat.lt_succ_self n, hhits, fun ref heq => hhit ⟨ref, heq⟩⟩
    · exact .inr ⟨m, Nat.lt_succ_of_lt hm, hfirst⟩

/-- There are no more hits than slots, so some call is a miss or an error. -/
theorem exists_not_hit (f : Finder) (db : Database) (key : Bytes) :
    ∃ n ≤ db.slotCount key, (∀ i < n, ∃ ref, f.answer db key i = .ok (some ref)) ∧
      ∀ ref, f.answer db key n ≠ .ok (some ref) := by
  rcases hits_or_exists f db key (db.slotCount key + 1) with hhits | ⟨n, hn, hfirst⟩
  · obtain ⟨m, hlt, hle, -⟩ := onTrack_before hhits
    omega
  · exact ⟨n, Nat.le_of_lt_succ hn, hfirst⟩

/-- After a miss there are only misses. -/
theorem answer_of_none (h : f.answer db key n = .ok none) (hle : n ≤ m) :
    f.answer db key m = .ok none := by
  induction hle with
  | refl => exact h
  | @step m hle ih =>
    have hmiss := next_before f db key m
    rw [ih] at hmiss
    have hagain := next_of_none hmiss
    exact congrArg Prod.snd hagain

/-! ## Reads that leave the file -/

/-- A call that would read behind the end of the file answers with the error that names this read. -/
theorem next_of_outside {b : Block} {a : Access} (hfile : db.content = .file b)
    (ha : a ∈ f.accesses db key) (hout : b.size < a.pos + a.len) :
    (f.next db key).2 = .error (.outside a.pos a.len) := by
  obtain ⟨hpos, hle⟩ := len_of_mem_accesses ha
  have hread := read_of_outside hfile hpos hout
  have hmod : a.len % 0x100000000 = a.len := by
    unfold chunkLength at hle
    exact Nat.mod_eq_of_lt (by omega)
  rw [hmod] at hread
  exact next_of_failed ha hread

/-! ## Gathering the data -/

/-- The loop that calls a search again and again for the data of all records with a key: the number
of its calls, and what it comes to. -/
inductive Gathers (db : Database) (key : Bytes) :
    Finder → Nat → Except ReadError (List Bytes) → Prop
  | failed {f f' : Finder} {e : ReadError} (hnext : f.next db key = (f', .error e)) :
      Gathers db key f 1 (.error e)
  | ended {f f' : Finder} (hnext : f.next db key = (f', .ok none)) : Gathers db key f 1 (.ok [])
  | unreadable {f f' : Finder} {ref : DataRef} {e : ReadError}
      (hnext : f.next db key = (f', .ok (some ref))) (hdata : db.readData ref = .error e) :
      Gathers db key f 1 (.error e)
  | more {f f' : Finder} {ref : DataRef} {data : Bytes} {calls : Nat}
      {rest : Except ReadError (List Bytes)} (hnext : f.next db key = (f', .ok (some ref)))
      (hdata : db.readData ref = .ok data) (hrest : Gathers db key f' calls rest) :
      Gathers db key f (calls + 1) (rest.map (data :: ·))

theorem gathers_collect (h : f.next db key = g.scan db key) :
    ∃ calls ≤ g.slots - g.probes + 1, Gathers db key f calls (g.collect db key) := by
  fun_induction collect g db key generalizing f with
  | case1 g g' e hscan => exact ⟨1, by omega, .failed (h.trans hscan)⟩
  | case2 g g' hscan => exact ⟨1, by omega, .ended (h.trans hscan)⟩
  | case3 g g' ref hscan e hdata => exact ⟨1, by omega, .unreadable (h.trans hscan) hdata⟩
  | case4 g g' ref hscan data hdata ih =>
    obtain ⟨hlt, hle, hslots⟩ := scan_hit hscan
    have hgoes : g'.next db key = g'.scan db key := by
      rw [next, if_neg (by omega)]
    obtain ⟨calls, hcalls, hrest⟩ := ih hgoes
    exact ⟨calls + 1, by omega, .more (h.trans hscan) hdata hrest⟩

/-- Gathering the data of all records comes to an end, after no more calls than there are slots and
one more. -/
theorem gathers_getAll (db : Database) (key : Bytes) :
    ∃ calls ≤ db.slotCount key + 1, Gathers db key .fresh calls (db.getAll key) := by
  have hstart : fresh.probes = 0 := rfl
  unfold getAll
  rcases hentered : fresh.enter db key with ⟨g, e | found⟩
  · have hnext : fresh.next db key = (g, .error e) := by
      rw [next, if_pos hstart, hentered]
    exact ⟨1, by omega, .failed hnext⟩
  cases found with
  | false =>
    have hnext : fresh.next db key = (g, .ok none) := by
      rw [next, if_pos hstart, hentered]
    exact ⟨1, by omega, .ended hnext⟩
  | true =>
    have hnext : fresh.next db key = g.scan db key := by
      rw [next, if_pos hstart, hentered]
    obtain ⟨-, hg⟩ := enter_eq rfl hentered
    obtain ⟨calls, hcalls, hgathers⟩ := gathers_collect hnext
    rw [hg] at hcalls
    exact ⟨calls, hcalls, hgathers⟩

/-! ## Any file -/

/-- What a search for a key does in a file of no more than the greatest size. The file may hold
anything, it may be mapped or not, and the search may have been used for anything before.

The data of each hit are those of a record. Up to the first call that is no hit no slot is looked at
twice, so there is such a call, and gathering all data ends. After a miss there are only misses. A
call depends on nothing but its reads, and one that is not all inside the file makes an error of it;
so does reading data that are not. -/
theorem search_of_file {b : Block} (hfile : db.content = .file b) (hsize : b.size ≤ maxWord32)
    (f : Finder) (key : Bytes) :
    (f.find db key).2 = f.answer db key 0 ∧
      (∀ n ref, f.answer db key n = .ok (some ref) → IsRecord b key ref) ∧
      (∀ n, (∀ i < n, ∃ ref, f.answer db key i = .ok (some ref)) →
        ((List.range (n + 1)).flatMap (f.slotsSeen db key)).Nodup ∧
        ((List.range (n + 1)).flatMap (f.slotsSeen db key)).length ≤ db.slotCount key) ∧
      (∃ n ≤ db.slotCount key, (∀ i < n, ∃ ref, f.answer db key i = .ok (some ref)) ∧
        ∀ ref, f.answer db key n ≠ .ok (some ref)) ∧
      (∃ calls ≤ db.slotCount key + 1, Gathers db key .fresh calls (db.getAll key)) ∧
      (∀ n m, f.answer db key n = .ok none → n ≤ m → f.answer db key m = .ok none) ∧
      (∀ n, (∀ db', SameOn ((f.before db key n).accesses db key) db db' →
          ((f.before db key n).next db' key).2 = f.answer db key n) ∧
        ∀ a ∈ (f.before db key n).accesses db key, b.size < a.pos + a.len →
          f.answer db key n = .error (.outside a.pos a.len)) ∧
      ∀ ref, b.size < ref.pos + ref.len →
        db.readData ref = .error (.outside ref.pos ref.len) := by
  refine ⟨rfl, ?_, ?_, exists_not_hit f db key, gathers_getAll db key,
    fun n m => answer_of_none, fun n => ⟨?_, ?_⟩, fun ref => readData_of_outside hfile⟩
  · intro n ref hhit
    exact isRecord_of_next hfile hsize (Prod.ext rfl hhit)
  · intro n hhits
    obtain ⟨m, hm, hseen⟩ := slotsSeen_of_hits hhits
    rw [hseen, List.length_map, List.length_range]
    exact ⟨nodup_slotAfter _ _ hm, hm⟩
  · intro db' hsame
    rw [next_congr hsame]
    rfl
  · intro a ha hout
    exact next_of_outside hfile ha hout

/-- Two slots with the same hash and one with another: a record that claims more data than there are,
one behind the end of the file, and one of another key. A hit, an error and misses. -/
theorem search_of_file_corrupt :
    ∃ (b : Block) (db : Database) (ref : DataRef),
      db = ofContent (.file b) ∧ b.size ≤ maxWord32 ∧
      (fresh.answer db [165] 0 = .ok (some ref) ∧ IsRecord b [165] ref ∧
        db.readData ref = .error (.outside 41 0xFFFFFFF0)) ∧
      (fresh.answer db [165] 1 = .error (.outside 3000 8) ∧
        ((List.range 2).flatMap (fresh.slotsSeen db [165])).Nodup ∧
        ((List.range 2).flatMap (fresh.slotsSeen db [165])).length ≤ 3) ∧
      fresh.answer db [165] 2 = .ok none ∧ ∀ m, 2 ≤ m → fresh.answer db [165] m = .ok none := by
  let b : Block := .ofList (pairBytes 8 3 ++ (pairBytes 177408 32 ++ (pairBytes 177408 3000 ++
    (pairBytes 5 7 ++ (pairBytes 1 0xFFFFFFF0 ++ [165])))))
  let db : Database := ofContent (.file b)
  have hfile : db.content = .file b := rfl
  obtain ⟨-, hrecord, hslots, -, -, hmiss, -, hdata⟩ :=
    search_of_file hfile (by decide) fresh [165]
  have hcount : db.slotCount [165] = 3 := by cbv
  have hfirst : fresh.answer db [165] 0 = .ok (some ⟨41, 0xFFFFFFF0⟩) := by cbv
  have hsecond : fresh.answer db [165] 1 = .error (.outside 3000 8) := by cbv
  have hthird : fresh.answer db [165] 2 = .ok none := by cbv
  have hhits : ∀ i < 1, ∃ ref, fresh.answer db [165] i = .ok (some ref) := by
    intro i hi
    obtain rfl : i = 0 := by omega
    exact ⟨_, hfirst⟩
  have hseen := hslots 1 hhits
  rw [hcount] at hseen
  exact ⟨b, db, ⟨41, 0xFFFFFFF0⟩, rfl, by decide,
    ⟨hfirst, hrecord 0 _ hfirst, hdata _ (by decide)⟩, ⟨hsecond, hseen⟩, hthird,
    fun m hle => hmiss 2 m hthird hle⟩

end Finder

end Resolver
