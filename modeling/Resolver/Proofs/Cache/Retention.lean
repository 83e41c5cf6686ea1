import Mathlib
import Resolver.Proofs.Cache.Run

/-!
# How long an entry is kept

Entries are given up in the order they were stored, but not one at a time as the space runs out:
when the writer turns round, the bytes behind it are lost until the older entries are gone. They are
fewer than the entry takes that did not fit.

Main statements: no room is made at the cost of an entry that fits into the space for entries
together with all newer ones, the one to come and another one of the greatest length
(`Kept.makeRoom`), and so a run keeps an entry as long as that much is left to it
(`Clocked.run_retains`).
-/

namespace Resolver.Cache

/-! ## Bytes taken -/

/-- The bytes that an answer takes once it is stored. -/
def storedLength (key data : Bytes) : Nat :=
  key.length + data.length + entryHeader

/-- The bytes that answers, each a key with its data, take together once they are stored. -/
def storedBytes : List (Bytes × Bytes) → Nat
  | [] => 0
  | (key, data) :: rest => storedLength key data + storedBytes rest

theorem storedBytes_append (xs ys : List (Bytes × Bytes)) :
    storedBytes (xs ++ ys) = storedBytes xs + storedBytes ys := by
  induction xs with
  | nil => exact (Nat.zero_add _).symm
  | cons x xs ih =>
    rw [List.cons_append, storedBytes, storedBytes, ih, Nat.add_assoc]

/-- What an entry answers: its key and its data. -/
def Entry.content (e : Entry) : Bytes × Bytes :=
  (e.key, e.data)

/-- The bytes that entries take together. -/
def taken (es : List Entry) : Nat :=
  storedBytes (es.map Entry.content)

@[simp]
theorem taken_cons (e : Entry) (es : List Entry) : taken (e :: es) = e.length + taken es := rfl

@[simp]
theorem taken_append (es es' : List Entry) : taken (es ++ es') = taken es + taken es' := by
  unfold taken
  rw [List.map_append, storedBytes_append]

/-- Entries that stand one behind the other take the bytes between. -/
theorem Tiled.add_taken {a : Arena} {pos stop : Nat} {ps : List Placed} (h : Tiled a stop pos ps) :
    pos + taken (ps.map Placed.entry) = stop := by
  induction ps generalizing pos with
  | nil => exact h
  | cons p rest ih =>
    have hrest := ih h.2.2
    rw [List.map_cons, taken_cons]
    omega

/-- An entry and those behind it take the bytes from its offset on. -/
theorem Tiled.pos_add_taken {a : Arena} {pos stop : Nat} {older later : List Placed} {p : Placed}
    (h : Tiled a stop pos (older ++ p :: later)) :
    p.pos + taken (p.entry :: later.map Placed.entry) = stop := by
  induction older generalizing pos with
  | nil =>
    have hall := h.add_taken
    rw [h.1]
    exact hall
  | cons q older ih => exact ih h.2.2

/-! ## Where an entry stands -/

/-- The entry is among those of a store, with the given newer ones behind it, all filed under one
hash key. Once it is one of the older entries, fewer than `longest` bytes are lost behind the last
of these. -/
inductive Kept (filed : Nat → Bytes) (hashKey : Bytes) (size longest : Nat) (e : Entry)
    (newer : List Entry) (old young : List Placed) : Prop
  | young {older younger : List Placed} {p : Placed} (hyoung : young = older ++ p :: younger)
      (hentry : p.entry = e) (hnewer : younger.map Placed.entry = newer)
      (hfiled : ∀ q ∈ p :: younger, filed q.pos = hashKey)
  | old {older later : List Placed} {p : Placed} (hold : old = older ++ p :: later)
      (hentry : p.entry = e) (hnewer : later.map Placed.entry ++ young.map Placed.entry = newer)
      (hfiled : ∀ q ∈ p :: (later ++ young), filed q.pos = hashKey)
      (hlost : size < p.pos + taken (e :: later.map Placed.entry) + longest)

namespace Kept

variable {c : Cache} {filed : Nat → Bytes} {hashKey : Bytes} {longest length : Nat} {e : Entry}
  {newer : List Entry} {o : Placed} {old young : List Placed}

/-- It is given up last of all that are not newer. -/
theorem exists_placed {size : Nat} (h : Kept filed hashKey size longest e newer old young) :
    ∃ older p later, old ++ young = older ++ p :: later ∧ p.entry = e ∧
      later.map Placed.entry = newer ∧ ∀ q ∈ p :: later, filed q.pos = hashKey := by
  cases h with
  | @young older younger p hyoung hentry hnewer hfiled =>
    refine ⟨old ++ older, p, younger, ?_, hentry, hnewer, hfiled⟩
    rw [hyoung, List.append_assoc]
  | @old older later p hold hentry hnewer hfiled =>
    refine ⟨older, p, later ++ young, ?_, hentry, ?_, hfiled⟩
    · rw [hold, List.append_assoc, List.cons_append]
    · rw [List.map_append, hnewer]

/-- An entry that is added is the newest. -/
theorem concat {size : Nat} (h : Kept filed hashKey size longest e newer old young) (q : Placed) :
    Kept (Function.update filed q.pos hashKey) hashKey size longest e (newer ++ [q.entry]) old
      (young ++ [q]) := by
  have hupdate : ∀ ps : List Placed, (∀ r ∈ ps, filed r.pos = hashKey) →
      ∀ r ∈ ps ++ [q], Function.update filed q.pos hashKey r.pos = hashKey := by
    intro ps hps r hr
    rw [Function.update_apply]
    split
    · rfl
    · rename_i hne
      rcases List.mem_append.1 hr with hr | hr
      · exact hps r hr
      · rw [List.mem_singleton.1 hr] at hne
        contradiction
  cases h with
  | @young older younger p hyoung hentry hnewer hfiled =>
    have hlonger : young ++ [q] = older ++ p :: (younger ++ [q]) := by
      rw [hyoung, List.append_assoc, List.cons_append]
    refine .young hlonger hentry ?_ (hupdate _ hfiled)
    rw [List.map_append, hnewer, List.map_singleton]
  | old hold hentry hnewer hfiled hlost =>
    refine .old hold hentry ?_ ?_ hlost
    · rw [List.map_append, ← List.append_assoc, hnewer, List.map_singleton]
    · rw [← List.append_assoc]
      exact hupdate _ hfiled

/-! ## Making room -/

/-- While there is no room, the oldest entry is another one. -/
theorem evictOldest (h : Kept filed hashKey c.size longest e newer (o :: old) young)
    (hlaid : Laid c filed (o :: old) young) (hfull : c.oldest < c.writer + length)
    (hspace : c.heads + (taken (e :: newer) + length + longest) ≤ c.size) :
    Kept filed hashKey c.size longest e newer old young := by
  cases h with
  | young hyoung hentry hnewer hfiled => exact .young hyoung hentry hnewer hfiled
  | @old older later p hold hentry hnewer hfiled hlost =>
    cases older with
    | nil =>
      -- the free space ends at the entry, so there would be room in front of it
      obtain ⟨rfl, rfl⟩ := List.cons.inj hold
      have hyoung := hlaid.young_tiled.add_taken
      have hpos := hlaid.oldest_eq
      rw [← hnewer] at hspace
      simp only [taken_cons, taken_append] at hspace hlost
      omega
    | cons q older =>
      obtain ⟨-, hold⟩ := List.cons.inj hold
      exact .old hold hentry hnewer hfiled hlost

/-- When the writer turns round for want of room, the first of the younger entries is another one,
and fewer bytes are lost than are wanted. -/
theorem turn (h : Kept filed hashKey c.size longest e newer [] (o :: young))
    (hlaid : Laid c filed [] (o :: young)) (hnone : c.oldest = c.unused)
    (hfull : c.oldest < c.writer + length) (hlength : length ≤ longest)
    (hspace : c.heads + (taken (e :: newer) + length + longest) ≤ c.size) :
    Kept filed hashKey c.size longest e newer young [] := by
  have hend := hlaid.unused_eq_size hnone
  cases h with
  | @young older younger p hyoung hentry hnewer hfiled =>
    have htiled := hlaid.young_tiled
    rw [hyoung] at htiled
    have hbytes := htiled.pos_add_taken
    rw [hentry] at hbytes
    cases older with
    | nil =>
      have hpos : p.pos = c.heads := htiled.1
      rw [hpos, hnewer] at hbytes
      omega
    | cons q older =>
      obtain ⟨-, hyoung⟩ := List.cons.inj hyoung
      refine .old hyoung hentry ?_ ?_ (by omega)
      · rw [List.map_nil, List.append_nil, hnewer]
      · rw [List.append_nil]
        exact hfiled
  | old hold => exact absurd hold.symm (by simp)

/-- Making room spares an entry that fits into the space for entries together with all newer ones,
the one to come and another one of the greatest length. -/
theorem makeRoom (h : Kept filed hashKey c.size longest e newer old young)
    (hlaid : Laid c filed old young) (hlength : length ≤ longest)
    (hspace : c.heads + (taken (e :: newer) + length + longest) ≤ c.size) :
    ∃ c' old' young', c.makeRoom length = .ok (true, c') ∧ Laid c' filed old' young' ∧ Alike c c' ∧
      Kept filed hashKey c'.size longest e newer old' young' ∧ c'.writer + length ≤ c'.oldest := by
  fun_induction Cache.makeRoom c length generalizing old young with
  | case1 c hfit => exact ⟨c, old, young, rfl, hlaid, .refl c, h, hfit⟩
  | case2 c hfit hnone hempty =>
    have := hlaid.heads_le_writer
    have := hlaid.unused_eq_size hnone
    omega
  | case3 c hfit hnone hsome e hevict =>
    obtain ⟨o, rest, rfl⟩ := hlaid.young_tiled.exists_cons (by omega)
    exact absurd hevict ((hlaid.turn hnone (by omega)).evictOldest_ne_error e)
  | case4 c hfit hnone hsome c' hevict ih =>
    obtain ⟨o, rest, rfl⟩ := hlaid.young_tiled.exists_cons (by omega)
    obtain rfl := hlaid.old_tiled.eq_nil_iff.2 hnone
    obtain ⟨hlaid', hevicted⟩ := (hlaid.turn hnone (by omega)).of_evictOldest hevict
    have halike : Alike c c' := ⟨hevicted.size_eq, hevicted.heads_eq, hevicted.hashKey_eq⟩
    have hkept := h.turn hlaid hnone (by omega) hlength hspace
    rw [← halike.size_eq] at hkept hspace
    rw [← halike.heads_eq] at hspace
    obtain ⟨c'', old', young', hroom, hlaid'', halike', hrest⟩ := ih hkept hlaid' hspace
    exact ⟨c'', old', young', hroom, hlaid'', halike.trans halike', hrest⟩
  | case5 c hfit hsome e hevict =>
    obtain ⟨o, rest, rfl⟩ := hlaid.old_tiled.exists_cons hsome
    exact absurd hevict (hlaid.evictOldest_ne_error e)
  | case6 c hfit hsome c' hevict ih =>
    obtain ⟨o, rest, rfl⟩ := hlaid.old_tiled.exists_cons hsome
    obtain ⟨hlaid', halike⟩ := hlaid.of_evictOldest hevict
    have hkept := h.evictOldest hlaid (by omega) hspace
    rw [← halike.size_eq] at hkept hspace
    rw [← halike.heads_eq] at hspace
    obtain ⟨c'', old', young', hroom, hlaid'', halike', hrest⟩ := ih hkept hlaid' hspace
    exact ⟨c'', old', young', hroom, hlaid'', halike.trans halike', hrest⟩

/-! ## Storing -/

/-- What can be stored is written where room was made for it. -/
theorem exists_set_of_makeRoom {c₁ : Cache} {key data : Bytes} {ttl : Nat} (now : Tai64)
    (hkey : key.length ≤ maxKey) (hdata : data.length ≤ maxData) (httl : ttl ≠ 0)
    (hroom : c.makeRoom (storedLength key data) = .ok (true, c₁)) (hlaid : Laid c₁ filed old young)
    (hfree : c₁.writer + storedLength key data ≤ c₁.oldest) :
    ∃ c' p, c.set now key data ttl = .ok c' ∧ p.entry = ⟨key, data, now.add (min ttl maxTtl)⟩ ∧
      Laid c' (Function.update filed p.pos c₁.hashKey) old (young ++ [p]) ∧ Alike c₁ c' := by
  obtain ⟨c', hpush, hlaid', halike, -⟩ := hlaid.exists_push_update
    (e := ⟨key, data, now.add (min ttl maxTtl)⟩) ⟨hkey, hdata⟩ hfree
  refine ⟨c', ⟨c₁.writer, _⟩, ?_, rfl, hlaid', halike⟩
  rw [set_of_makeRoom now (by omega) hroom, if_pos rfl]
  exact hpush

/-- What is no longer than all the space for entries is stored, and is the newest entry then. -/
theorem exists_stored {key data : Bytes} {ttl : Nat} (hlaid : Laid c filed old young)
    (now : Tai64) (longest : Nat) (hkey : key.length ≤ maxKey) (hdata : data.length ≤ maxData)
    (httl : ttl ≠ 0)
    (hspace : c.heads + storedLength key data ≤ c.size) :
    ∃ c' filed' old' young', c.set now key data ttl = .ok c' ∧ Laid c' filed' old' young' ∧
      Alike c c' ∧ Kept filed' c.hashKey c'.size longest ⟨key, data, now.add (min ttl maxTtl)⟩ []
        old' young' := by
  obtain ⟨c₁, old', young', -, hroom, hlaid₁, halike₁, -, hfree⟩ :=
    hlaid.makesRoom (storedLength key data)
  rw [decide_eq_true hspace] at hroom
  rw [if_pos hspace] at hfree
  obtain ⟨c', p, hset, hentry, hlaid', halike'⟩ :=
    exists_set_of_makeRoom now hkey hdata httl hroom hlaid₁ hfree
  refine ⟨c', _, old', _, hset, hlaid', halike₁.trans halike', ?_⟩
  have hnewest : young' ++ [p] = young' ++ p :: [] := rfl
  refine .young hnewest hentry rfl (List.forall_mem_singleton.2 ?_)
  rw [Function.update_self, halike₁.hashKey_eq]

/-- What is stored next spares the entry. -/
theorem set {key data : Bytes} {ttl : Nat}
    (h : Kept filed c.hashKey c.size longest e newer old young) (hlaid : Laid c filed old young)
    (now : Tai64) (hkey : key.length ≤ maxKey) (hdata : data.length ≤ maxData) (httl : ttl ≠ 0)
    (hlength : storedLength key data ≤ longest)
    (hspace : c.heads + (taken (e :: newer) + storedLength key data + longest) ≤ c.size) :
    ∃ c' filed' old' young', c.set now key data ttl = .ok c' ∧ Laid c' filed' old' young' ∧
      Alike c c' ∧ Kept filed' c.hashKey c'.size longest e
        (newer ++ [⟨key, data, now.add (min ttl maxTtl)⟩]) old' young' := by
  obtain ⟨c₁, old', young', hroom, hlaid₁, halike₁, hkept₁, hfree⟩ :=
    h.makeRoom hlaid hlength hspace
  obtain ⟨c', p, hset, hentry, hlaid', halike'⟩ :=
    exists_set_of_makeRoom now hkey hdata httl hroom hlaid₁ hfree
  refine ⟨c', _, old', _, hset, hlaid', halike₁.trans halike', ?_⟩
  rw [← hentry, halike'.size_eq, halike₁.hashKey_eq]
  exact hkept₁.concat p

end Kept

/-! ## Runs -/

/-- Key and data that an operation stores: what is past the limits is not stored. -/
def Operation.stores? : Operation → Option (Bytes × Bytes)
  | .set key data ttl =>
    if key.length ≤ maxKey ∧ data.length ≤ maxData ∧ ttl ≠ 0 then some (key, data) else none
  | .get _ | .reinit _ _ _ | .clock _ => none

/-- What operations store, one after the other. -/
def stored (ops : List Operation) : List (Bytes × Bytes) :=
  ops.filterMap Operation.stores?

/-- Whether the store is to start over. -/
def Operation.isReinit : Operation → Bool
  | .reinit _ _ _ => true
  | .set _ _ _ | .get _ | .clock _ => false

theorem stored_cons (op : Operation) (ops : List Operation) :
    stored (op :: ops) = stored [op] ++ stored ops := by
  unfold stored
  rw [← List.filterMap_append, List.singleton_append]

namespace Clocked

/-- After operations, an entry is kept with what they stored behind it. -/
def Keeping (s : Clocked) (longest : Nat) (e : Entry) (newer : List Entry) (ops : List Operation)
    (s' : Clocked) : Prop :=
  ∃ filed old young newest, Laid s'.cache filed old young ∧ Alike s.cache s'.cache ∧
    Kept filed s.cache.hashKey s'.cache.size longest e (newer ++ newest) old young ∧
    newest.map Entry.content = stored ops

variable {s : Clocked} {filed : Nat → Bytes} {longest : Nat} {e : Entry} {newer : List Entry}
  {old young : List Placed}

/-- One operation spares an entry as long as there is the space for it. -/
theorem exists_keeping_perform {op : Operation} (hlaid : Laid s.cache filed old young)
    (h : Kept filed s.cache.hashKey s.cache.size longest e newer old young)
    (hop : op.isReinit = false)
    (hlongest : ∀ x ∈ stored [op], storedLength x.1 x.2 ≤ longest)
    (hspace : s.cache.heads + (taken (e :: newer) + storedBytes (stored [op]) + longest) ≤
      s.cache.size) :
    ∃ answer s', s.perform op = .ok (answer, s') ∧ s.Keeping longest e newer [op] s' := by
  -- what stores nothing leaves the store as it is
  have hsame : ∀ now, stored [op] = [] → s.Keeping longest e newer [op] ⟨s.cache, now⟩ := by
    intro now hnothing
    refine ⟨filed, old, young, [], hlaid, .refl s.cache, ?_, hnothing.symm⟩
    rw [List.append_nil]
    exact h
  cases op with
  | set key data ttl =>
    by_cases hlimits : key.length ≤ maxKey ∧ data.length ≤ maxData ∧ ttl ≠ 0
    · have hstored : stored [.set key data ttl] = [(key, data)] := by
        simp only [stored, List.filterMap_cons, List.filterMap_nil, Operation.stores?,
          if_pos hlimits]
      obtain ⟨hkey, hdata, httl⟩ := hlimits
      rw [hstored, storedBytes, storedBytes, Nat.add_zero] at hspace
      have hlength := hlongest (key, data) (by rw [hstored]; exact List.mem_singleton.2 rfl)
      obtain ⟨c', filed', old', young', hset, hlaid', halike, hkept⟩ :=
        h.set hlaid s.now hkey hdata httl hlength hspace
      refine ⟨none, ⟨c', s.now⟩, ?_, filed', old', young', [_], hlaid', halike, hkept, ?_⟩
      · rw [perform, hset]
        rfl
      · rw [hstored]
        rfl
    · have hnothing : stored [.set key data ttl] = [] := by
        simp only [stored, List.filterMap_cons, List.filterMap_nil, Operation.stores?,
          if_neg hlimits]
      refine ⟨none, s, ?_, hsame s.now hnothing⟩
      rw [perform, set_of_refused s.now (by omega)]
      rfl
  | get key =>
    obtain ⟨answer, hget, -⟩ := hlaid.exists_get s.now key
    refine ⟨answer, s, ?_, hsame s.now rfl⟩
    rw [perform, hget]
    rfl
  | reinit capacity hashKey granted => cases hop
  | clock now => exact ⟨none, ⟨s.cache, now⟩, rfl, hsame now rfl⟩

/-- A run spares an entry as long as there is the space for it. -/
theorem exists_keeping_run {ops : List Operation} (hlaid : Laid s.cache filed old young)
    (h : Kept filed s.cache.hashKey s.cache.size longest e newer old young)
    (hops : ∀ op ∈ ops, op.isReinit = false)
    (hlongest : ∀ x ∈ stored ops, storedLength x.1 x.2 ≤ longest)
    (hspace : s.cache.heads + (taken (e :: newer) + storedBytes (stored ops) + longest) ≤
      s.cache.size) :
    ∃ answers s', s.run ops = .ok (answers, s') ∧ s.Keeping longest e newer ops s' := by
  -- what an operation stored has its place among the newer entries of the next one
  induction ops generalizing s filed newer old young with
  | nil =>
    refine ⟨[], s, rfl, filed, old, young, [], hlaid, .refl s.cache, ?_, rfl⟩
    rw [List.append_nil]
    exact h
  | cons op ops ih =>
    rw [stored_cons] at hlongest hspace
    rw [storedBytes_append] at hspace
    obtain ⟨answer, s₁, hperform, filed₁, old₁, young₁, newest₁, hlaid₁, halike₁, hkept₁,
        hstored₁⟩ :=
      exists_keeping_perform hlaid h (hops op List.mem_cons_self)
        (fun x hx => hlongest x (List.mem_append_left _ hx)) (by omega)
    have hbytes : taken newest₁ = storedBytes (stored [op]) := congrArg storedBytes hstored₁
    rw [taken_cons] at hspace
    rw [← halike₁.size_eq, ← halike₁.heads_eq] at hspace
    rw [← halike₁.hashKey_eq] at hkept₁
    obtain ⟨answers, s', hrun, filed', old', young', newest, hlaid', halike', hkept', hstored'⟩ :=
      ih hlaid₁ hkept₁ (fun op hop => hops op (List.mem_cons_of_mem _ hop))
        (fun x hx => hlongest x (List.mem_append_right _ hx))
        (by rw [taken_cons, taken_append]; omega)
    refine ⟨answer :: answers, s', ?_, filed', old', young', newest₁ ++ newest, hlaid',
      halike₁.trans halike', ?_, ?_⟩
    · rw [run, hperform]
      simp only
      rw [hrun]
      rfl
    · rw [← List.append_assoc, ← halike₁.hashKey_eq]
      exact hkept'
    · rw [List.map_append, hstored₁, hstored', stored_cons op ops]

/-- A search for the key of an entry is answered from it if it and the newer ones were filed under
the hash key of the store, no newer entry has this key, it has not expired, and no more than a
hundred newer entries share its bucket. -/
theorem get_of_live {older newer : List Placed} {p : Placed} (hlaid : Laid s.cache filed old young)
    (hlive : s.cache.live = older ++ p :: newer)
    (hfiled : ∀ q ∈ p :: newer, filed q.pos = s.cache.hashKey)
    (hkey : ∀ q ∈ newer, q.entry.key ≠ p.entry.key)
    (hcount : newer.countP (fun q => s.cache.bucket q.entry.key = s.cache.bucket p.entry.key) ≤
      maxChain)
    (hunexpired : s.now.seconds ≤ p.entry.expiry.seconds) :
    s.cache.get s.now p.entry.key =
      .ok (some ⟨p.entry.data,
        min (p.entry.expiry.seconds.toNat - s.now.seconds.toNat) maxTtl⟩) := by
  obtain ⟨answer, hget, hanswer⟩ := hlaid.exists_get s.now p.entry.key
  have hentries : (s.ledger filed).entries =
      older.map (Placed.file filed) ++ p.file filed :: newer.map (Placed.file filed) := by
    show s.cache.live.map _ = _
    rw [hlive, List.map_append, List.map_cons]
  have hserves : (s.ledger filed).Serves p.entry.key (p.file filed) := by
    refine Ledger.serves_of_filed hentries ?_ rfl (List.forall_mem_map.2 hkey) ?_ hunexpired
    · rw [← List.map_cons]
      exact List.forall_mem_map.2 hfiled
    · rw [List.countP_map]
      exact hcount
  have hfound := serves_iff.2 ⟨p.file filed, hserves, rfl⟩
  rw [hlaid.live_eq] at hfound
  rw [hget, (hanswer _).2 hfound]
  rfl

/-- What is stored in the course of any run is kept for as long as it fits into the space for
entries together with all that is stored after it and another answer of the greatest length of
these. A search for its key finds it then, unless the key is stored again, the entry has expired, or
more than a hundred newer entries share its bucket.

It does not matter where the writer stands and how often it has turned round. -/
theorem run_retains {capacity : Nat} {hashKey : Bytes} {start : Tai64} {before : List Operation}
    {answers : List (Option Hit)}
    (hrun : (Clocked.new capacity hashKey start).run before = .ok (answers, s))
    (key data : Bytes) (ttl : Nat) (after : List Operation) (longest : Nat)
    (hkey : key.length ≤ maxKey) (hdata : data.length ≤ maxData) (httl : ttl ≠ 0)
    (hafter : ∀ op ∈ after, op.isReinit = false)
    (hlongest : ∀ x ∈ stored after, storedLength x.1 x.2 ≤ longest)
    (hspace : storedLength key data + storedBytes (stored after) + longest ≤
      s.cache.size - s.cache.heads) :
    ∃ answers' s' older newer expiry,
      s.run (.set key data ttl :: after) = .ok (answers', s') ∧
      expiry = s.now.add (min ttl maxTtl) ∧
      s'.cache.entries = older ++ ⟨key, data, expiry⟩ :: newer ∧
      newer.map Entry.content = stored after ∧
      ((∀ x ∈ stored after, x.1 ≠ key) →
        newer.countP (fun x => s'.cache.bucket x.key = s'.cache.bucket key) ≤ maxChain →
        s'.now.seconds ≤ expiry.seconds →
        s'.cache.get s'.now key =
          .ok (some ⟨data, min (expiry.seconds.toNat - s'.now.seconds.toNat) maxTtl⟩)) := by
  obtain ⟨filed, hwell⟩ := exists_wellFormed hrun
  have hlaid : Laid s.cache filed s.cache.old s.cache.young := hwell
  have hheads := hlaid.heads_le_size
  have hlength : 20 ≤ storedLength key data := Nat.le_add_left _ _
  obtain ⟨c₁, filed₁, old₁, young₁, hset, hlaid₁, halike, hkept⟩ :=
    Kept.exists_stored hlaid s.now longest hkey hdata httl (by omega)
  have hfits : c₁.heads + (taken [⟨key, data, s.now.add (min ttl maxTtl)⟩] +
      storedBytes (stored after) + longest) ≤ c₁.size := by
    show c₁.heads + (storedLength key data + 0 + storedBytes (stored after) + longest) ≤ c₁.size
    rw [halike.size_eq, halike.heads_eq]
    omega
  rw [← halike.hashKey_eq] at hkept
  obtain ⟨answers', s', hrun', filed', old', young', newest, hlaid', halike', hkept', hstored⟩ :=
    exists_keeping_run (s := ⟨c₁, s.now⟩) hlaid₁ hkept hafter hlongest hfits
  rw [List.nil_append, ← halike'.hashKey_eq] at hkept'
  obtain ⟨older, p, newer, hlive, hentry, hnewer, hfiled⟩ := hkept'.exists_placed
  rw [← hlaid'.live_eq] at hlive
  refine ⟨none :: answers', s', older.map Placed.entry, newest, _, ?_, rfl, ?_, hstored, ?_⟩
  · rw [run, perform, hset]
    simp only [Except.map]
    rw [hrun']
  · rw [entries, hlive, List.map_append, List.map_cons, hentry, hnewer]
  · intro hothers hcount hunexpired
    rw [← hnewer, List.countP_map] at hcount
    have hget := get_of_live hlaid' hlive hfiled
    rw [hentry] at hget
    refine hget ?_ hcount hunexpired
    intro q hq
    have hq' : q.entry ∈ newest := hnewer ▸ List.mem_map_of_mem hq
    exact hothers (q.entry.key, q.entry.data) (hstored ▸ List.mem_map_of_mem hq')

set_option maxRecDepth 2000 in
/-- Two entries leave so little space behind them that the writer has to turn round for a third. It
is still there when a fourth has been stored. -/
theorem run_retains_turned :
    ∃ (before after : List Operation) (answers answers' : List (Option Hit)) (s s' : Clocked),
      before = [.set [1] (List.replicate 15 7) 60, .set [2] (List.replicate 15 8) 60] ∧
      after = [.set [4] [6, 6, 6] 60] ∧
      (Clocked.new 100 [] ⟨0⟩).run before = .ok (answers, s) ∧ s.cache.writer = 76 ∧
      25 + storedBytes (stored after) + 24 ≤ s.cache.size - s.cache.heads ∧
      s.run (.set [3] [5, 5, 5, 5] 60 :: after) = .ok (answers', s') ∧
      s'.cache.get s'.now [3] = .ok (some ⟨[5, 5, 5, 5], 60⟩) := by
  have hbefore : ((Clocked.new 100 [] ⟨0⟩).run
      [.set [1] (List.replicate 15 7) 60, .set [2] (List.replicate 15 8) 60]).map
      (fun r => (r.2.cache.size, r.2.cache.heads, r.2.cache.writer, r.2.now)) =
        .ok (100, 4, 76, ⟨0⟩) := by cbv
  rcases hrun : (Clocked.new 100 [] ⟨0⟩).run
    [.set [1] (List.replicate 15 7) 60, .set [2] (List.replicate 15 8) 60] with e | ⟨answers, s⟩
  · rw [hrun] at hbefore
    contradiction
  rw [hrun] at hbefore
  obtain ⟨hsize, hheads, hwriter, hnow⟩ : s.cache.size = 100 ∧ s.cache.heads = 4 ∧
      s.cache.writer = 76 ∧ s.now = ⟨0⟩ := by simpa [Except.map] using hbefore
  have hafter : stored [.set [4] [6, 6, 6] 60] = [([4], [6, 6, 6])] := by decide
  have hspace : 25 + storedBytes (stored [.set [4] [6, 6, 6] 60]) + 24 ≤
      s.cache.size - s.cache.heads := by
    rw [hsize, hheads]
    decide
  obtain ⟨answers', s', older, newer, expiry, hrun', hexpiry, -, hnewer, hget⟩ :=
    run_retains hrun [3] [5, 5, 5, 5] 60 [.set [4] [6, 6, 6] 60] 24 (by decide) (by decide)
      (by decide) (by decide) (by rw [hafter]; decide) hspace
  have hnow' : s'.now = ⟨0⟩ := by
    cases hset : s.cache.set s.now [3] [5, 5, 5, 5] 60 with
    | error e => simp [run, perform, hset, Except.map] at hrun'
    | ok c =>
      cases hset' : c.set s.now [4] [6, 6, 6] 60 with
      | error e => simp [run, perform, hset, hset', Except.map] at hrun'
      | ok c' =>
        simp only [run, perform, hset, hset', Except.map, Except.ok.injEq, Prod.mk.injEq] at hrun'
        rw [← hrun'.2, hnow]
  have hcount : newer.length = 1 := by
    rw [← List.length_map, hnewer, hafter]
    rfl
  rw [hnow] at hexpiry
  rw [hexpiry, hnow'] at hget
  refine ⟨_, _, answers, answers', s, s', rfl, rfl, hrun, hwriter, hspace, hrun', ?_⟩
  rw [hnow']
  refine (hget (by rw [hafter]; decide) ?_ (by decide)).trans rfl
  exact Nat.le_trans List.countP_le_length (by rw [hcount]; decide)

end Clocked

end Resolver.Cache
