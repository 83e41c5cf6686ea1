import Resolver.Proofs.Cache.Operations

/-!
# A store as a list of entries

Seen from outside, a store is a list of entries in the order they were stored. Storing drops some of
the oldest and adds one at the end, and a search answers from the newest entry with its key.

A store that is refused memory when it is to start over goes on with its entries but with another hash
key, and then a search may miss entries with its key. So the list has the hash key that each entry was
filed under.

Main statements: every operation on a store that is laid out as it should be succeeds, keeps it so, and
does to the entries read off its arena what it may do to such a list (`Clocked.exists_step`), and as
long as no memory is refused, a search is answered from the newest of all entries with its key
(`Ledger.Steps.isLatest`).
-/

namespace Resolver.Cache

/-- The entries of a store, the oldest first. -/
def entries (c : Cache) : List Entry :=
  c.live.map Placed.entry

/-- An entry with the hash key it was filed under. -/
structure Filed where
  entry : Entry
  hashKey : Bytes

/-- An entry of a store, filed under the hash key told for its offset. -/
def Placed.file (filed : Nat → Bytes) (p : Placed) : Filed :=
  ⟨p.entry, filed p.pos⟩

/-- A store as a list of entries, with the time its clock shows. -/
structure Ledger where
  /-- The size of the arena. -/
  size : Nat
  /-- The bytes of the bucket links. -/
  heads : Nat
  /-- The hash key that searches go by. -/
  hashKey : Bytes
  /-- The entries, the oldest first. -/
  entries : List Filed
  now : Tai64

namespace Ledger

/-- The list of a new store. -/
def new (capacity : Nat) (hashKey : Bytes) (now : Tai64) : Ledger :=
  ⟨sizeFor capacity, headsFor (sizeFor capacity), hashKey, [], now⟩

/-- The bytes there are for entries. -/
def space (l : Ledger) : Nat :=
  l.size - l.heads

/-- The bucket of a key. -/
def bucket (l : Ledger) (key : Bytes) : Nat :=
  bucketOf l.hashKey l.heads key

/-- The bucket that an entry was filed in. -/
def home (l : Ledger) (f : Filed) : Nat :=
  bucketOf f.hashKey l.heads f.entry.key

/-- An entry that a search for a key is answered from: of those filed in the bucket of the key, the
newest one with that key, not yet expired, with no more than a hundred newer ones in the bucket. -/
structure Serves (l : Ledger) (key : Bytes) (f : Filed) : Prop where
  key_eq : f.entry.key = key
  home_eq : l.home f = l.bucket key
  newest : ∃ older newer, l.entries = older ++ f :: newer ∧
    (∀ x ∈ newer, l.home x = l.bucket key → x.entry.key ≠ key) ∧
    newer.countP (fun x => l.home x = l.bucket key) ≤ maxChain
  unexpired : l.now.seconds ≤ f.entry.expiry.seconds

/-- The newest of all entries with a key, not yet expired, with no more than a hundred newer ones whose
keys are in the same bucket. -/
structure IsLatest (l : Ledger) (key : Bytes) (f : Filed) : Prop where
  key_eq : f.entry.key = key
  newest : ∃ older newer, l.entries = older ++ f :: newer ∧ (∀ x ∈ newer, x.entry.key ≠ key) ∧
    newer.countP (fun x => l.bucket x.entry.key = l.bucket key) ≤ maxChain
  unexpired : l.now.seconds ≤ f.entry.expiry.seconds

/-- What an operation may answer and make of the list, when a search is answered from an entry that
`serves` holds of. -/
inductive Step (serves : Ledger → Bytes → Filed → Prop) :
    Ledger → Operation → Option Hit → Ledger → Prop
  /-- What is past the limits changes nothing. -/
  | refuse {l : Ledger} {key data : Bytes} {ttl : Nat}
      (h : maxKey < key.length ∨ maxData < data.length ∨ ttl = 0) :
      Step serves l (.set key data ttl) none l
  /-- What fits drops some of the oldest entries and is added behind the others. -/
  | store {l : Ledger} {key data : Bytes} {ttl : Nat} {dropped kept : List Filed}
      {expiry : Tai64} (hkey : key.length ≤ maxKey) (hdata : data.length ≤ maxData)
      (httl : ttl ≠ 0) (hfits : key.length + data.length + entryHeader ≤ l.space)
      (hentries : l.entries = dropped ++ kept)
      (hexpiry : expiry.seconds.toNat = min (l.now.seconds.toNat + min ttl maxTtl) maxWord64) :
      Step serves l (.set key data ttl) none
        { l with entries := kept ++ [⟨⟨key, data, expiry⟩, l.hashKey⟩] }
  /-- What takes more than all the space drops some of the oldest entries and is not added. -/
  | overflow {l : Ledger} {key data : Bytes} {ttl : Nat} {dropped kept : List Filed}
      (hkey : key.length ≤ maxKey) (hdata : data.length ≤ maxData) (httl : ttl ≠ 0)
      (hlarge : l.space < key.length + data.length + entryHeader)
      (hentries : l.entries = dropped ++ kept) :
      Step serves l (.set key data ttl) none { l with entries := kept }
  /-- A search is answered exactly if there is an entry that serves it. -/
  | get {l : Ledger} {key : Bytes} {answer : Option Hit}
      (h : ∀ hit, answer = some hit ↔ ∃ f, serves l key f ∧
        hit = ⟨f.entry.data, min (f.entry.expiry.seconds.toNat - l.now.seconds.toNat) maxTtl⟩) :
      Step serves l (.get key) answer l
  | reinit {l : Ledger} {capacity : Nat} {hashKey : Bytes} :
      Step serves l (.reinit capacity hashKey true) none (new capacity hashKey l.now)
  /-- Without memory to start over, searches go by the new hash key, and the entries stay. -/
  | rekey {l : Ledger} {capacity : Nat} {hashKey : Bytes} :
      Step serves l (.reinit capacity hashKey false) none { l with hashKey := hashKey }
  | clock {l : Ledger} {now : Tai64} : Step serves l (.clock now) none { l with now := now }

/-- What operations one after the other may answer and make of the list. -/
inductive Steps (serves : Ledger → Bytes → Filed → Prop) :
    Ledger → List Operation → List (Option Hit) → Ledger → Prop
  | done {l : Ledger} : Steps serves l [] [] l
  | step {l l' l'' : Ledger} {op : Operation} {ops : List Operation} {answer : Option Hit}
      {answers : List (Option Hit)} (h : Step serves l op answer l')
      (rest : Steps serves l' ops answers l'') :
      Steps serves l (op :: ops) (answer :: answers) l''

/-! ## Lists filed under one hash key -/

/-- All entries were filed under the hash key that searches go by. -/
def Settled (l : Ledger) : Prop :=
  ∀ f ∈ l.entries, f.hashKey = l.hashKey

variable {l l' : Ledger} {serves : Ledger → Bytes → Filed → Prop} {op : Operation}
  {ops : List Operation} {answer : Option Hit} {answers : List (Option Hit)}

theorem settled_new (capacity : Nat) (hashKey : Bytes) (now : Tai64) :
    (new capacity hashKey now).Settled :=
  fun _ h => nomatch h

theorem Settled.home_eq (h : l.Settled) {f : Filed} (hf : f ∈ l.entries) :
    l.home f = l.bucket f.entry.key := by
  unfold home bucket
  rw [h f hf]

/-- The newest of all entries with a key serves a search if it and the newer ones were filed under the
hash key that the search goes by. -/
theorem serves_of_filed {key : Bytes} {f : Filed} {older newer : List Filed}
    (heq : l.entries = older ++ f :: newer) (hfiled : ∀ x ∈ f :: newer, x.hashKey = l.hashKey)
    (hkey : f.entry.key = key) (hothers : ∀ x ∈ newer, x.entry.key ≠ key)
    (hcount : newer.countP (fun x => l.bucket x.entry.key = l.bucket key) ≤ maxChain)
    (hunexpired : l.now.seconds ≤ f.entry.expiry.seconds) : l.Serves key f where
  key_eq := hkey
  home_eq := by
    unfold home bucket
    rw [hfiled f List.mem_cons_self, hkey]
  newest := by
    refine ⟨older, newer, heq, fun x hx _ => hothers x hx, ?_⟩
    refine Nat.le_trans (Nat.le_of_eq (List.countP_congr fun x hx => ?_)) hcount
    unfold home bucket
    rw [hfiled x (List.mem_cons_of_mem _ hx)]
  unexpired := hunexpired

/-- Then the entries with a key are all in the bucket where a search looks for it. -/
theorem Settled.serves_iff (h : l.Settled) {key : Bytes} {f : Filed} :
    l.Serves key f ↔ l.IsLatest key f := by
  -- the entries from `f` on are entries of the list
  have hmem : ∀ older newer, l.entries = older ++ f :: newer → ∀ x ∈ f :: newer, x ∈ l.entries := by
    intro older newer heq x hx
    rw [heq]
    exact List.mem_append_right _ hx
  constructor
  · rintro ⟨hkey, -, ⟨older, newer, heq, hothers, hcount⟩, hunexpired⟩
    have hhome : ∀ x ∈ newer, l.home x = l.bucket x.entry.key :=
      fun x hx => h.home_eq (hmem older newer heq x (List.mem_cons_of_mem _ hx))
    refine ⟨hkey, ⟨older, newer, heq, fun x hx hxkey => ?_, ?_⟩, hunexpired⟩
    · exact hothers x hx ((hhome x hx).trans (congrArg l.bucket hxkey)) hxkey
    · refine Nat.le_trans (Nat.le_of_eq (List.countP_congr fun x hx => ?_)) hcount
      rw [hhome x hx]
  · rintro ⟨hkey, ⟨older, newer, heq, hothers, hcount⟩, hunexpired⟩
    have hfiled : ∀ x ∈ f :: newer, x.hashKey = l.hashKey :=
      fun x hx => h x (hmem older newer heq x hx)
    exact serves_of_filed heq hfiled hkey hothers hcount hunexpired

/-- Unless memory is refused, entries stay filed under the hash key that searches go by. -/
theorem Step.settled (h : Step serves l op answer l') (hop : op.isRefused = false)
    (hsettled : l.Settled) : l'.Settled := by
  cases h with
  | refuse => exact hsettled
  | store _ _ _ _ hentries =>
    refine List.forall_mem_append.2 ⟨fun f hf => hsettled f ?_, List.forall_mem_singleton.2 rfl⟩
    rw [hentries]
    exact List.mem_append_right _ hf
  | overflow _ _ _ _ hentries =>
    intro f hf
    refine hsettled f ?_
    rw [hentries]
    exact List.mem_append_right _ hf
  | get => exact hsettled
  | reinit => exact settled_new _ _ _
  | rekey => contradiction
  | clock => exact hsettled

/-- A step of a settled list answers a search from the newest of all entries with the key. -/
theorem Step.isLatest (h : Step Serves l op answer l') (hsettled : l.Settled) :
    Step IsLatest l op answer l' := by
  cases h with
  | refuse hrefused => exact .refuse hrefused
  | store hkey hdata httl hfits hentries hexpiry => exact .store hkey hdata httl hfits hentries hexpiry
  | overflow hkey hdata httl hlarge hentries => exact .overflow hkey hdata httl hlarge hentries
  | get hanswer =>
    refine .get fun hit => (hanswer hit).trans ?_
    simp only [hsettled.serves_iff]
  | reinit => exact .reinit
  | rekey => exact .rekey
  | clock => exact .clock

theorem Steps.settled (h : Steps serves l ops answers l')
    (hops : ∀ op ∈ ops, op.isRefused = false) (hsettled : l.Settled) : l'.Settled := by
  induction h with
  | done => exact hsettled
  | step hstep _ ih =>
    obtain ⟨hop, hrest⟩ := List.forall_mem_cons.1 hops
    exact ih hrest (hstep.settled hop hsettled)

/-- As long as no memory is refused, searches are answered from the newest of all entries with their
keys. -/
theorem Steps.isLatest (h : Steps Serves l ops answers l')
    (hops : ∀ op ∈ ops, op.isRefused = false) (hsettled : l.Settled) :
    Steps IsLatest l ops answers l' := by
  induction h with
  | done => exact .done
  | step hstep _ ih =>
    obtain ⟨hop, hrest⟩ := List.forall_mem_cons.1 hops
    exact .step (hstep.isLatest hsettled) (ih hrest (hstep.settled hop hsettled))

end Ledger

/-! ## The list of a store -/

/-- The list that a store stands for, with its entries filed under the hash keys told. -/
def Clocked.ledger (s : Clocked) (filed : Nat → Bytes) : Ledger :=
  ⟨s.cache.size, s.cache.heads, s.cache.hashKey, s.cache.live.map (Placed.file filed), s.now⟩

theorem Entry.answer_eq_some_iff {e : Entry} {now : Tai64} {hit : Hit} :
    e.answer now = some hit ↔ now.seconds ≤ e.expiry.seconds ∧
      hit = ⟨e.data, min (e.expiry.seconds.toNat - now.seconds.toNat) maxTtl⟩ := by
  unfold Entry.answer
  by_cases hexpired : e.expiry.seconds < now.seconds
  · rw [if_pos hexpired]
    exact iff_of_false (fun h => nomatch h) fun h => UInt64.not_le.2 hexpired h.1
  · rw [if_neg hexpired, Option.some.injEq, eq_comm]
    exact (and_iff_right (UInt64.not_lt.1 hexpired)).symm

namespace Clocked

variable {s : Clocked} {filed : Nat → Bytes}

/-- If its list is settled, so is the store. -/
theorem settled_of_ledger (h : s.cache.WellFormed filed) (hsettled : (s.ledger filed).Settled) :
    s.cache.Settled := by
  refine Laid.refiled h fun p hp => ?_
  exact (hsettled _ (List.mem_map_of_mem hp)).symm

/-- The entries that serve a search are those that the store answers it from. -/
theorem serves_iff {key : Bytes} {hit : Hit} :
    (∃ older p newer, s.cache.live = older ++ p :: newer ∧ p.entry.key = key ∧
        s.cache.home filed p = s.cache.bucket key ∧
        (∀ q ∈ newer, s.cache.home filed q = s.cache.bucket key → q.entry.key ≠ key) ∧
        newer.countP (fun q => s.cache.home filed q = s.cache.bucket key) ≤ maxChain ∧
        p.entry.answer s.now = some hit) ↔
      ∃ f, (s.ledger filed).Serves key f ∧ hit =
        ⟨f.entry.data, min (f.entry.expiry.seconds.toNat - s.now.seconds.toNat) maxTtl⟩ := by
  have hentries : (s.ledger filed).entries = s.cache.live.map (Placed.file filed) := rfl
  constructor
  · rintro ⟨older, p, newer, heq, hkey, hhome, hnewer, hcount, hanswer⟩
    obtain ⟨hunexpired, hhit⟩ := Entry.answer_eq_some_iff.1 hanswer
    refine ⟨p.file filed, ⟨hkey, hhome, ⟨older.map (Placed.file filed),
      newer.map (Placed.file filed), ?_, ?_, ?_⟩, hunexpired⟩, hhit⟩
    · rw [hentries, heq, List.map_append, List.map_cons]
    · exact List.forall_mem_map.2 hnewer
    · rw [List.countP_map]
      exact hcount
  · rintro ⟨f, ⟨hkey, hhome, ⟨older, newer, heq, hnewer, hcount⟩, hunexpired⟩, hhit⟩
    rw [hentries, List.map_eq_append_iff] at heq
    obtain ⟨placedOlder, rest, hlive, -, hrest⟩ := heq
    obtain ⟨p, placedNewer, rfl, rfl, rfl⟩ := List.map_eq_cons_iff.1 hrest
    rw [List.countP_map] at hcount
    exact ⟨placedOlder, p, placedNewer, hlive, hkey, hhome, List.forall_mem_map.1 hnewer, hcount,
      Entry.answer_eq_some_iff.2 ⟨hunexpired, hhit⟩⟩

/-! ## Steps -/

theorem ledger_blank (capacity : Nat) (hashKey : Bytes) (motion : UInt64) (now : Tai64)
    (filed : Nat → Bytes) :
    (Clocked.mk (blank capacity hashKey motion) now).ledger filed =
      Ledger.new capacity hashKey now := by
  have hlive : (blank capacity hashKey motion).live = [] :=
    (laid_blank capacity hashKey motion filed).live_eq
  unfold ledger Ledger.new size
  rw [hlive]
  congr 1
  exact Block.size_zeros _

/-- What is stored is added to the list behind some or all of the entries that were there. -/
theorem exists_set_step (h : s.cache.WellFormed filed) {key data : Bytes} {ttl : Nat}
    (hkey : key.length ≤ maxKey) (hdata : data.length ≤ maxData) (httl : ttl ≠ 0) :
    ∃ c' filed', s.cache.set s.now key data ttl = .ok c' ∧ c'.WellFormed filed' ∧
      Ledger.Step Ledger.Serves (s.ledger filed) (.set key data ttl) none
        ((Clocked.mk c' s.now).ledger filed') := by
  obtain ⟨c', filed', old, young, gone, kept, hset, hlaid, halike, hlive, hkept, hnew⟩ :=
    Laid.exists_set h s.now key data ttl hkey hdata httl
  refine ⟨c', filed', hset, hlaid.wellFormed, ?_⟩
  have hentries : (s.ledger filed).entries =
      gone.map (Placed.file filed) ++ kept.map (Placed.file filed) := by
    show (s.cache.old ++ s.cache.young).map (Placed.file filed) = _
    rw [hlive, List.map_append]
  have hsame : kept.map (Placed.file filed') = kept.map (Placed.file filed) := by
    refine List.map_congr_left fun p hp => ?_
    unfold Placed.file
    rw [hkept p hp]
  have hledger : (Clocked.mk c' s.now).ledger filed' =
      { s.ledger filed with entries := (old ++ young).map (Placed.file filed') } := by
    unfold ledger
    rw [hlaid.live_eq, halike.size_eq, halike.heads_eq, halike.hashKey_eq]
  have hheads := Laid.heads_le_size h
  rw [hledger]
  split at hnew
  · obtain ⟨pos, hpos, hnew⟩ := hnew
    rw [hnew, List.map_append, hsame, List.map_singleton, Placed.file, hpos]
    refine .store hkey hdata httl ?_ hentries (Tai64.toNat_seconds_clamp _)
    show _ ≤ s.cache.size - s.cache.heads
    omega
  · rw [hnew]
    refine .overflow hkey hdata httl ?_ (List.append_nil _).symm
    show s.cache.size - s.cache.heads < _
    omega

/-- Every operation on a store that is laid out as it should be is a step of its list. -/
theorem exists_step (h : s.cache.WellFormed filed) (op : Operation) :
    ∃ answer s' filed', s.perform op = .ok (answer, s') ∧ s'.cache.WellFormed filed' ∧
      Ledger.Step Ledger.Serves (s.ledger filed) op answer (s'.ledger filed') := by
  cases op with
  | set key data ttl =>
    by_cases hrefused : maxKey < key.length ∨ maxData < data.length ∨ ttl = 0
    · refine ⟨none, s, filed, ?_, h, .refuse hrefused⟩
      rw [perform, set_of_refused s.now hrefused]
      rfl
    · rw [not_or, not_or, Nat.not_lt, Nat.not_lt] at hrefused
      obtain ⟨hkey, hdata, httl⟩ := hrefused
      obtain ⟨c', filed', hset, hlaid, hstep⟩ := exists_set_step h hkey hdata httl
      refine ⟨none, { s with cache := c' }, filed', ?_, hlaid, hstep⟩
      rw [perform, hset]
      rfl
  | get key =>
    obtain ⟨answer, hget, hanswer⟩ := Laid.exists_get h s.now key
    refine ⟨answer, s, filed, ?_, h, .get fun hit => (hanswer hit).trans serves_iff⟩
    rw [perform, hget]
    rfl
  | reinit capacity hashKey granted =>
    cases granted with
    | true =>
      refine ⟨none, _, filed, rfl, (laid_blank capacity hashKey s.cache.motion filed).wellFormed, ?_⟩
      have hstep : Ledger.Step Ledger.Serves (s.ledger filed) (.reinit capacity hashKey true) none
          (Ledger.new capacity hashKey s.now) := .reinit
      rw [← ledger_blank capacity hashKey s.cache.motion s.now filed] at hstep
      exact hstep
    | false => exact ⟨none, _, filed, rfl, Laid.rekeyed h hashKey, .rekey⟩
  | clock now => exact ⟨none, _, filed, rfl, h, .clock⟩

end Clocked

end Resolver.Cache
