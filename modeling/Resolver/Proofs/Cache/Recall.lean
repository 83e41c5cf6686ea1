import Resolver.Proofs.Cache.Ledger

/-!
# What a store can recall

Main statements: a settled store holds, in the order they were stored, the keys and data of its newest
entries (`exists_set_pairs`), finds what was just stored (`exists_set_get`), and finds under a key only
the data that were stored last with it (`exists_of_get`).
-/

namespace Resolver.Cache

/-- The keys and data that a store holds, the oldest first. -/
def pairs (c : Cache) : List (Bytes × Bytes) :=
  c.entries.map fun e => (e.key, e.data)

variable {c : Cache}

theorem pairs_new (capacity : Nat) (hashKey : Bytes) : (new capacity hashKey).pairs = [] := by
  unfold pairs entries new
  rw [(laid_blank capacity hashKey 0 fun _ => hashKey).live_eq]
  rfl

theorem settled_new (capacity : Nat) (hashKey : Bytes) : (new capacity hashKey).Settled :=
  (laid_blank capacity hashKey 0 _).wellFormed

/-- Storing keeps a store settled, gives up some of its oldest entries and adds the new one. If it takes
more than all the space, nothing is left. -/
theorem exists_set_settled (h : c.Settled) (now : Tai64) {key data : Bytes} {ttl : Nat}
    (hkey : key.length ≤ maxKey) (hdata : data.length ≤ maxData) (httl : ttl ≠ 0) :
    ∃ c' gone kept, c.set now key data ttl = .ok c' ∧ c'.Settled ∧ c.live = gone ++ kept ∧
      if c.heads + (key.length + data.length + entryHeader) ≤ c.size then
        ∃ pos, c'.live = kept ++ [⟨pos, key, data, now.add (min ttl maxTtl)⟩]
      else c'.live = [] := by
  obtain ⟨c', filed, old, young, gone, kept, hset, hlaid, halike, hlive, hkept, hnew⟩ :=
    Laid.exists_set h now key data ttl hkey hdata httl
  have hsettled : ∀ p ∈ old ++ young, c'.hashKey = filed p.pos := by
    rw [halike.hashKey_eq]
    split at hnew
    · obtain ⟨pos, hpos, hnew⟩ := hnew
      rw [hnew]
      exact List.forall_mem_append.2
        ⟨fun p hp => (hkept p hp).symm, List.forall_mem_singleton.2 hpos.symm⟩
    · rw [hnew]
      exact List.forall_mem_nil _
  refine ⟨c', gone, kept, hset, (hlaid.refiled hsettled).wellFormed, hlive, ?_⟩
  rw [hlaid.live_eq]
  split at hnew
  · rename_i hfits
    obtain ⟨pos, -, hnew⟩ := hnew
    rw [if_pos hfits]
    exact ⟨pos, hnew⟩
  · rename_i hlarge
    rw [if_neg hlarge]
    exact hnew

/-- What is stored is behind what was there before, of which the oldest may be gone. -/
theorem exists_set_pairs (h : c.Settled) (now : Tai64) {key data : Bytes} {ttl : Nat}
    (hkey : key.length ≤ maxKey) (hdata : data.length ≤ maxData) (httl : ttl ≠ 0) :
    ∃ c', c.set now key data ttl = .ok c' ∧ c'.Settled ∧
      c'.pairs <:+ c.pairs ++ [(key, data)] := by
  obtain ⟨c', gone, kept, hset, hsettled, hlive, hnew⟩ :=
    exists_set_settled h now hkey hdata httl
  refine ⟨c', hset, hsettled, ?_⟩
  unfold pairs entries
  split at hnew
  · obtain ⟨pos, hnew⟩ := hnew
    rw [hnew, hlive]
    simp only [List.map_append, List.map_cons, List.map_nil, List.append_assoc]
    exact List.suffix_append _ _
  · rw [hnew]
    exact List.nil_suffix

/-- What is stored is found under its key, as long as it has not expired. -/
theorem exists_set_get (h : c.Settled) (now : Tai64) {key data : Bytes} {ttl : Nat}
    (hkey : key.length ≤ maxKey) (hdata : data.length ≤ maxData) (httl : ttl ≠ 0)
    (hfits : c.heads + (key.length + data.length + entryHeader) ≤ c.size) :
    ∃ c', c.set now key data ttl = .ok c' ∧ ∀ later hit,
      (Entry.mk key data (now.add (min ttl maxTtl))).answer later = some hit →
        c'.get later key = .ok (some hit) := by
  obtain ⟨c', gone, kept, hset, hsettled, -, hnew⟩ := exists_set_settled h now hkey hdata httl
  rw [if_pos hfits] at hnew
  obtain ⟨pos, hlive⟩ := hnew
  refine ⟨c', hset, fun later hit hanswer => ?_⟩
  obtain ⟨answer, hget, hfound⟩ := Laid.exists_get_of_current hsettled later key
  rw [hget, (hfound hit).2 ⟨kept, _, [], hlive, rfl, List.forall_mem_nil _, Nat.zero_le _, hanswer⟩]

/-- What a search finds is what was stored last under the key. -/
theorem exists_of_get (h : c.Settled) {now : Tai64} {key : Bytes} {hit : Hit}
    (hget : c.get now key = .ok (some hit)) :
    ∃ older newer, c.pairs = older ++ (key, hit.data) :: newer ∧
      ∀ pair ∈ newer, pair.1 ≠ key := by
  obtain ⟨answer, hanswer, hfound⟩ := Laid.exists_get_of_current h now key
  obtain rfl := Except.ok.inj (hanswer.symm.trans hget)
  obtain ⟨older, p, newer, hlive, hkey, hnewer, -, hserved⟩ := (hfound hit).1 rfl
  obtain ⟨-, hhit⟩ := Entry.answer_eq_some_iff.1 hserved
  have heq : c.live = older ++ p :: newer := hlive
  refine ⟨older.map fun q => (q.entry.key, q.entry.data),
    newer.map fun q => (q.entry.key, q.entry.data), ?_, ?_⟩
  · unfold pairs entries
    rw [heq, ← hkey, hhit]
    simp only [List.map_append, List.map_cons, List.map_map, Function.comp_def]
  · intro pair hpair
    obtain ⟨q, hq, rfl⟩ := List.mem_map.1 hpair
    exact hnewer q hq

end Resolver.Cache
