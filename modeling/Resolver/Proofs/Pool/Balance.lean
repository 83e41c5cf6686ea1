import Resolver.Proofs.Pool.Run

/-!
# The books of a pool

A pool keeps its slots, an index of their keys and the number of handles on each; the handles that
are really in use are the tickets.

Main statement: whatever the clients do, slots, index, numbers of handles and tickets agree
(`run_balanced`).
-/

namespace Resolver.Pool

open Dialogue

variable {capacity : Nat} {policy : Policy} {p p' : Pool} {i j : Handle} {key : PoolKey}
  {shared shared' : SharedQuery} {t : Ticket} {held held' : List Ticket} {returned : Option Ticket}

/-! ## What agrees -/

/-- The index has the slots in use by their keys, each key once, and a slot has as many handles as
there are tickets for it, at least one, all for its key. -/
structure Balanced (p : Pool) (held : List Ticket) : Prop where
  find?_iff : ∀ key i, p.find? key = some i ↔ ∃ shared, p.slot? i = some shared ∧ shared.key = key
  distinct : p.index.Pairwise fun a b => a.1 ≠ b.1
  inFlight_eq : p.inFlight = p.occupied
  refs_eq : ∀ i, p.refs i = held.countP (·.handle = i)
  refs_pos : ∀ i shared, p.slot? i = some shared → 1 ≤ shared.refs
  denotes : ∀ t ∈ held, ∃ shared, p.slot? t.handle = some shared ∧ t.key? = some shared.key

theorem refs_of_slot? (h : p.slot? i = some shared) : p.refs i = shared.refs := by
  unfold refs
  rw [h]
  rfl

theorem countP_cons_handle (t : Ticket) (held : List Ticket) (i : Handle) :
    (t :: held).countP (·.handle = i) =
      held.countP (·.handle = i) + if t.handle = i then 1 else 0 := by
  rw [List.countP_cons]
  simp only [decide_eq_true_eq]

/-- A ticket given back is one ticket less for its slot. -/
theorem countP_erase_handle (ht : t ∈ held) (i : Handle) :
    held.countP (·.handle = i) =
      (held.erase t).countP (·.handle = i) + if t.handle = i then 1 else 0 := by
  rw [(List.perm_cons_erase ht).countP_eq, countP_cons_handle]

namespace Balanced

/-- A slot is free exactly if there is no ticket for it. -/
theorem slot?_eq_none_iff (hb : Balanced p held) :
    p.slot? i = none ↔ ∀ t ∈ held, t.handle ≠ i := by
  constructor
  · intro hnone t ht heq
    obtain ⟨shared, hslot, -⟩ := hb.denotes t ht
    rw [heq, hnone] at hslot
    exact nomatch hslot
  · intro hfree
    cases hslot : p.slot? i with
    | none => rfl
    | some shared =>
      have hpos := hb.refs_pos i shared hslot
      rw [← refs_of_slot? hslot, hb.refs_eq i] at hpos
      obtain ⟨t, ht, heq⟩ := List.countP_pos_iff.1 hpos
      exact absurd (of_decide_eq_true heq) (hfree t ht)

theorem new : Balanced (Pool.new capacity policy) [] := by
  have hslot : ∀ i, (Pool.new capacity policy).slot? i = none := by
    intro i
    unfold slot? Pool.new
    rw [List.getElem?_replicate]
    split <;> rfl
  refine ⟨fun key i => ⟨nofun, ?_⟩, .nil, ?_, fun i => ?_, fun i shared h => ?_, nofun⟩
  · rintro ⟨shared, h, -⟩
    exact nomatch (hslot i).symm.trans h
  · exact (List.countP_replicate.trans (if_neg nofun)).symm
  · unfold refs
    rw [hslot i]
    rfl
  · exact nomatch (hslot i).symm.trans h

/-- Only one slot changes, and with it the index and the tickets for this slot. -/
theorem frame (hb : Balanced p held) (hslot : ∀ j, j ≠ i → p'.slot? j = p.slot? j)
    (hfind : ∀ key j, j ≠ i → (p'.find? key = some j ↔ p.find? key = some j))
    (hfound : ∀ key, p'.find? key = some i ↔ ∃ shared, p'.slot? i = some shared ∧ shared.key = key)
    (hdistinct : p'.index.Pairwise fun a b => a.1 ≠ b.1) (hinFlight : p'.inFlight = p'.occupied)
    (hcount : ∀ j, j ≠ i → held'.countP (·.handle = j) = held.countP (·.handle = j))
    (hrefs : p'.refs i = held'.countP (·.handle = i))
    (hpos : ∀ shared, p'.slot? i = some shared → 1 ≤ shared.refs)
    (hheld : ∀ t ∈ held', t.handle ≠ i → t ∈ held)
    (hdenotes : ∀ t ∈ held', t.handle = i →
      ∃ shared, p'.slot? i = some shared ∧ t.key? = some shared.key) :
    Balanced p' held' where
  find?_iff key j := by
    by_cases hj : j = i
    · rw [hj]
      exact hfound key
    · rw [hslot j hj, hfind key j hj]
      exact hb.find?_iff key j
  distinct := hdistinct
  inFlight_eq := hinFlight
  refs_eq j := by
    by_cases hj : j = i
    · rw [hj]
      exact hrefs
    · unfold refs
      rw [hslot j hj, hcount j hj]
      exact hb.refs_eq j
  refs_pos j shared h := by
    by_cases hj : j = i
    · exact hpos shared (hj ▸ h)
    · rw [hslot j hj] at h
      exact hb.refs_pos j shared h
  denotes t ht := by
    by_cases hj : t.handle = i
    · rw [hj]
      exact hdenotes t ht hj
    · rw [hslot _ hj]
      exact hb.denotes t (hheld t ht hj)

/-- Something else for the same key is put into a slot, and the tickets for this slot with it. -/
theorem replace (hb : Balanced p held) (hslot : p.slot? i = some shared)
    (hkey : shared'.key = shared.key) (hpos : 1 ≤ shared'.refs)
    (hcount : ∀ j, j ≠ i → held'.countP (·.handle = j) = held.countP (·.handle = j))
    (hrefs : shared'.refs = held'.countP (·.handle = i))
    (hheld : ∀ t ∈ held', t ∈ held ∨ t.handle = i ∧ t.key? = some shared.key) :
    Balanced (p.setSlot i (some shared')) held' := by
  have hself : (p.setSlot i (some shared')).slot? i = some shared' :=
    slot?_setSlot_self _ (lt_capacity hslot)
  refine hb.frame (fun j => slot?_setSlot_of_ne) (fun _ _ _ => Iff.rfl) (fun key => ?_) hb.distinct
    ?_ hcount ((refs_of_slot? hself).trans hrefs) (fun other h => ?_) (fun t ht hne => ?_)
    fun t ht heq => ⟨shared', hself, ?_⟩
  · refine (hb.find?_iff key i).trans ?_
    rw [hself, hslot]
    constructor
    · rintro ⟨other, h, hk⟩
      exact ⟨shared', rfl, by rw [hkey, Option.some.inj h, hk]⟩
    · rintro ⟨other, h, hk⟩
      exact ⟨shared, rfl, by rw [← hkey, Option.some.inj h, hk]⟩
  · have hoccupied := occupied_setSlot (some shared') (lt_capacity hslot)
    rw [hslot] at hoccupied
    exact hb.inFlight_eq.trans (Nat.add_right_cancel hoccupied).symm
  · rw [hself] at h
    exact Option.some.inj h ▸ hpos
  · exact (hheld t ht).resolve_right fun hnew => hne hnew.1
  · rw [hkey]
    rcases hheld t ht with hold | ⟨-, hnew⟩
    · obtain ⟨other, hother, hk⟩ := hb.denotes t hold
      rw [heq, hslot] at hother
      rw [hk, Option.some.inj hother]
    · exact hnew

/-- The handles and the key of a slot stay as they are. -/
theorem replace_same (hb : Balanced p held) (hslot : p.slot? i = some shared)
    (hkey : shared'.key = shared.key) (hrefs : shared'.refs = shared.refs) :
    Balanced (p.setSlot i (some shared')) held := by
  refine hb.replace hslot hkey (hrefs ▸ hb.refs_pos i shared hslot) (fun _ _ => rfl) ?_
    fun t ht => .inl ht
  rw [hrefs, ← refs_of_slot? hslot, hb.refs_eq]

/-- A key that no query is found for is not in the index. -/
theorem find?_of_sharer? (hb : Balanced p held) (h : p.sharer? key = none) :
    p.find? key = none := by
  cases hfind : p.find? key with
  | none => rfl
  | some i =>
    obtain ⟨shared, hslot, -⟩ := (hb.find?_iff key i).1 hfind
    have hsome : p.sharer? key = some (i, shared) :=
      Option.bind_eq_some_iff.2 ⟨i, hfind, Option.bind_eq_some_iff.2 ⟨shared, hslot, rfl⟩⟩
    exact nomatch h.symm.trans hsome

/-- A query for a new key is put into a free slot, with one ticket for it. -/
theorem occupy (hb : Balanced p held) (hlt : i < p.capacity) (hslot : p.slot? i = none)
    (hsharer : p.sharer? shared.key = none) (hrefs : shared.refs = 1) (hhandle : t.handle = i)
    (hkey : t.key? = some shared.key) : Balanced (p.occupy i shared) (t :: held) := by
  have hself : (p.occupy i shared).slot? i = some shared := slot?_occupy_self hlt
  -- the key is new, so nothing is taken out of the index before the new entry goes in
  have hfind := hb.find?_of_sharer? hsharer
  have hnew : ∀ entry ∈ p.index, shared.key ≠ entry.1 := fun entry hentry =>
    bne_iff_ne.1 (List.lookup_eq_none_iff.1 hfind entry hentry)
  have hindex : (p.occupy i shared).index = (shared.key, i) :: p.index :=
    congrArg _ (List.filter_eq_self.2 fun entry hentry => decide_eq_true (hnew entry hentry).symm)
  have hnone : held.countP (·.handle = i) = 0 := List.countP_eq_zero.2 fun t ht =>
    mt of_decide_eq_true (hb.slot?_eq_none_iff.1 hslot t ht)
  have hothers : ∀ key j, j ≠ i →
      ((p.occupy i shared).find? key = some j ↔ p.find? key = some j) := by
    intro key j hj
    rw [find?_occupy]
    split
    · rename_i hk
      rw [hk, hfind]
      exact iff_of_false (fun h => hj (Option.some.inj h).symm) nofun
    · exact Iff.rfl
  have hfound : ∀ key, (p.occupy i shared).find? key = some i ↔
      ∃ other, (p.occupy i shared).slot? i = some other ∧ other.key = key := by
    intro key
    rw [find?_occupy, hself]
    split
    · rename_i hk
      exact iff_of_true rfl ⟨shared, rfl, hk.symm⟩
    · rename_i hk
      refine iff_of_false (fun h => ?_) fun ⟨_, h, hk'⟩ => hk (Option.some.inj h ▸ hk'.symm)
      obtain ⟨_, hslot', -⟩ := (hb.find?_iff key i).1 h
      exact nomatch hslot.symm.trans hslot'
  have hdistinct : (p.occupy i shared).index.Pairwise fun a b => a.1 ≠ b.1 :=
    hindex ▸ List.pairwise_cons.2 ⟨hnew, hb.distinct⟩
  have hinFlight : (p.occupy i shared).inFlight = (p.occupy i shared).occupied := by
    have hoccupied := occupied_setSlot (some shared) hlt
    rw [hslot] at hoccupied
    unfold inFlight
    rw [hindex, List.length_cons]
    exact (congrArg (· + 1) hb.inFlight_eq).trans hoccupied.symm
  refine hb.frame (fun j => slot?_occupy_of_ne) hothers hfound hdistinct hinFlight (fun j hj => ?_)
    ?_ (fun other h => ?_) (fun t' ht' hne => ?_) fun t' ht' heq => ?_
  · rw [countP_cons_handle, hhandle, if_neg hj.symm, Nat.add_zero]
  · rw [refs_of_slot? hself, hrefs, countP_cons_handle, hhandle, hnone, if_pos rfl]
  · rw [hself] at h
    exact Option.some.inj h ▸ Nat.le_of_eq hrefs.symm
  · exact (List.mem_cons.1 ht').resolve_left fun heq => hne (heq ▸ hhandle)
  · rcases List.mem_cons.1 ht' with rfl | hold
    · exact ⟨shared, hself, hkey⟩
    · exact absurd heq (hb.slot?_eq_none_iff.1 hslot t' hold)

/-- The last handle of a slot is given back. -/
theorem vacate (hb : Balanced p held) (ht : t ∈ held) (hslot : p.slot? t.handle = some shared)
    (hrefs : shared.refs = 1) : Balanced (p.vacate t.handle shared.key) (held.erase t) := by
  have hlt := lt_capacity hslot
  have hself : (p.vacate t.handle shared.key).slot? t.handle = none := slot?_vacate_self hlt
  have hfind := (hb.find?_iff shared.key t.handle).2 ⟨shared, hslot, rfl⟩
  -- the ticket given back was the only one for the slot
  have hnone : (held.erase t).countP (·.handle = t.handle) = 0 := by
    have hcount := countP_erase_handle ht t.handle
    rw [← hb.refs_eq, refs_of_slot? hslot, hrefs, if_pos rfl] at hcount
    omega
  have hothers : ∀ key j, j ≠ t.handle →
      ((p.vacate t.handle shared.key).find? key = some j ↔ p.find? key = some j) := by
    intro key j hj
    rw [find?_vacate]
    split
    · rename_i hk
      rw [hk, hfind]
      exact iff_of_false nofun fun h => hj (Option.some.inj h).symm
    · exact Iff.rfl
  have hfound : ∀ key, (p.vacate t.handle shared.key).find? key = some t.handle ↔
      ∃ other, (p.vacate t.handle shared.key).slot? t.handle = some other ∧ other.key = key := by
    intro key
    rw [find?_vacate, hself]
    refine iff_of_false (fun h => ?_) fun ⟨_, h, _⟩ => nomatch h
    split at h
    · exact nomatch h
    · rename_i hk
      obtain ⟨other, hslot', hk'⟩ := (hb.find?_iff key _).1 h
      exact hk (hk'.symm.trans (congrArg _ (Option.some.inj (hslot'.symm.trans hslot))))
  have hinFlight : (p.vacate t.handle shared.key).inFlight =
      (p.vacate t.handle shared.key).occupied := by
    have hoccupied := occupied_setSlot none hlt
    rw [hslot] at hoccupied
    have hlength : _ = p.inFlight := length_filter_ne hb.distinct hfind
    exact Nat.add_right_cancel (hlength.trans (hb.inFlight_eq.trans hoccupied.symm))
  refine hb.frame (fun j => slot?_vacate_of_ne) hothers hfound (hb.distinct.filter _) hinFlight
    (fun j hj => ?_) ?_ (fun other h => nomatch hself.symm.trans h)
    (fun t' ht' _ => List.mem_of_mem_erase ht') fun t' ht' heq => ?_
  · have hcount := countP_erase_handle ht j
    rw [if_neg hj.symm] at hcount
    exact hcount.symm
  · unfold refs
    rw [hself, hnone]
    rfl
  · exact absurd (decide_eq_true heq) (List.countP_eq_zero.1 hnone t' ht')

/-- Whatever a client does next, slots, index and tickets agree again. -/
theorem step (hb : Balanced p held) (h : Step p held returned p' held') : Balanced p' held' := by
  cases h with
  | refuse h =>
    obtain ⟨_, -, rfl⟩ | ⟨_, _, hresult, -⟩ := of_start h
    · exact hb
    · exact nomatch hresult
  | start h =>
    obtain ⟨_, hresult, -⟩ | ⟨i, key, hresult, hkey, hcase⟩ := of_start h
    · exact nomatch hresult
    cases Except.ok.inj hresult
    obtain ⟨shared, hslot, hfind, rfl⟩ | ⟨hlt, hslot, hsharer, session, -, rfl⟩ := hcase
    · obtain ⟨shared', hslot', rfl⟩ := (hb.find?_iff key _).1 hfind
      cases Option.some.inj (hslot.symm.trans hslot')
      refine hb.replace hslot rfl (Nat.succ_pos _) (fun j hj => ?_) ?_ fun t ht => ?_
      · rw [countP_cons_handle, if_neg hj.symm, Nat.add_zero]
      · rw [countP_cons_handle, if_pos rfl, ← hb.refs_eq, refs_of_slot? hslot]
      · rcases List.mem_cons.1 ht with rfl | hold
        · exact .inr ⟨rfl, hkey⟩
        · exact .inl hold
    · exact hb.occupy hlt hslot hsharer rfl rfl hkey
  | @wait t ht deadline =>
    obtain hsame | ⟨shared, hslot, -, hnew⟩ := wanted_cases (p := p) (i := t.handle) deadline
    · rw [hsame]
      exact hb
    · rw [hnew]
      exact hb.replace_same hslot rfl rfl
  | get ht h =>
    obtain rfl | ⟨shared, hslot, -, outcome, session, -, rfl⟩ := of_get h
    · exact hb
    · exact hb.replace_same hslot rfl rfl
  | @free t ht =>
    obtain ⟨shared, hslot, hkey⟩ := hb.denotes t ht
    have hpos := hb.refs_pos _ _ hslot
    obtain ⟨hlast, hnew⟩ | ⟨hmore, hnew⟩ := free_cases hslot
    · rw [hnew]
      exact hb.vacate ht hslot (by omega)
    · rw [hnew]
      refine hb.replace hslot rfl (Nat.pos_of_ne_zero hmore) (fun j hj => ?_) ?_
        fun t' ht' => .inl (List.mem_of_mem_erase ht')
      · have hcount := countP_erase_handle ht j
        rw [if_neg hj.symm] at hcount
        exact hcount.symm
      · have hcount := countP_erase_handle ht t.handle
        rw [if_pos rfl, ← hb.refs_eq, refs_of_slot? hslot] at hcount
        show shared.refs - 1 = _
        omega

/-- A slot becomes free exactly when the last handle for it is given back. -/
theorem released_iff (hb : Balanced p held) (h : Step p held returned p' held')
    (hslot : p.slot? i = some shared) :
    p'.slot? i = none ↔ ∃ t, returned = some t ∧ t.handle = i ∧ ∀ t' ∈ held', t'.handle ≠ i := by
  rw [(hb.step h).slot?_eq_none_iff]
  refine ⟨fun hfree => ?_, fun ⟨_, _, _, hfree⟩ => hfree⟩
  have hpos := hb.refs_pos i shared hslot
  rw [← refs_of_slot? hslot, hb.refs_eq i] at hpos
  -- some ticket was for the slot before, and none is left: only giving one back does that
  obtain ⟨t₀, ht₀, heq⟩ := List.countP_pos_iff.1 hpos
  have hhandle := of_decide_eq_true heq
  cases h with
  | start h => exact absurd hhandle (hfree t₀ (List.mem_cons_of_mem _ ht₀))
  | refuse _ | wait _ _ | get _ _ => exact absurd hhandle (hfree t₀ ht₀)
  | @free t ht =>
    refine ⟨t, rfl, ?_, hfree⟩
    have hcount := countP_erase_handle ht i
    rw [List.countP_eq_zero.2 fun t' ht' => mt of_decide_eq_true (hfree t' ht')] at hcount
    split at hcount
    · assumption
    · omega

end Balanced

/-- After any steps of any clients the books of a pool agree. -/
theorem Run.balanced (run : Run capacity policy p held) :
    Balanced p held ∧ p.capacity = capacity := by
  induction run with
  | new => exact ⟨.new, List.length_replicate⟩
  | step _ h ih => exact ⟨ih.1.step h, h.passes.1.trans ih.2⟩

/-- Whatever clients do with a pool, each with the handles it has, the index maps a key to a slot
exactly if the slot is in use for it; so as many queries are in flight as there are slots in use, at
most as many as there are slots, and no two of them for one key. The handles on a slot are those
given out for it and not given back, at least one, and each of them was asked for with the slot's
key. A slot is released exactly when the last of its handles is given back, and a start that fails
leaves the pool as it was. -/
theorem run_balanced (run : Run capacity policy p held) :
    Balanced p held ∧ p.capacity = capacity ∧ p.inFlight ≤ capacity ∧
      (∀ i j shared shared', p.slot? i = some shared → p.slot? j = some shared' →
        shared.key = shared'.key → i = j) ∧
      (∀ returned p' held', Step p held returned p' held' → ∀ i shared, p.slot? i = some shared →
        (p'.slot? i = none ↔
          ∃ t, returned = some t ∧ t.handle = i ∧ ∀ t' ∈ held', t'.handle ≠ i)) ∧
      ∀ servers recursive name qtype control g exchanges cause p' g',
        Course (p.start servers recursive name qtype control g) exchanges
          (.error cause, p', g') → p' = p := by
  obtain ⟨hb, hcapacity⟩ := run.balanced
  refine ⟨hb, hcapacity, ?_, fun i j shared shared' hi hj hkey => ?_,
    fun returned p' held' h i shared hslot => hb.released_iff h hslot,
    fun servers recursive name qtype control g exchanges cause p' g' h => ?_⟩
  · rw [hb.inFlight_eq, ← hcapacity]
    exact occupied_le_capacity
  · have hfind := (hb.find?_iff shared'.key i).2 ⟨shared, hi, hkey⟩
    rw [(hb.find?_iff shared'.key j).2 ⟨shared', hj, rfl⟩] at hfind
    exact (Option.some.inj hfind).symm
  · obtain ⟨_, -, hsame⟩ | ⟨_, _, hresult, -⟩ := of_start h
    · exact hsame
    · exact nomatch hresult

/-- Two clients ask for one name, in small and in capital letters, and share the only slot; it
stays in use when one of them gives its handle back. -/
theorem run_balanced_shared :
    ∃ p, Run 1 ⟨53, .localhost, #v[0, 0, 0, 0], 0, 0⟩ p
        [⟨[1, 65, 0], 1, [0], 0⟩, ⟨[1, 97, 0], 1, [0], 0⟩] ∧
      Balanced p [⟨[1, 65, 0], 1, [0], 0⟩, ⟨[1, 97, 0], 1, [0], 0⟩] ∧
      p.capacity = 1 ∧ p.inFlight ≤ 1 ∧ p.refs 0 = 2 ∧ (p.free 0).slot? 0 ≠ none := by
  let policy : Policy := ⟨53, .localhost, #v[0, 0, 0, 0], 0, 0⟩
  have hsmall : key? [1, 97, 0] 1 [0] = some ⟨[1, 97, 0], 1, [0]⟩ := by cbv
  have hcapital : key? [1, 65, 0] 1 [0] = some ⟨[1, 97, 0], 1, [0]⟩ := by cbv
  have hlength : Name.length? [1, 97, 0] = some 3 := by cbv
  have hschedule : (Servers.ofList [.localhost]).schedule (Session.firstRound true) 0 =
      ⟨0, 0, .localhost⟩ :: (Servers.ofList [.localhost]).schedule 1 0 := by decide
  have hdeadline : (⟨0⟩ : Instant).add? (policy.udpTimeout 0) = some ⟨0⟩ := by cbv
  obtain ⟨p, hrun, hslot⟩ := exists_run_pair 0 ⟨0, 0, .localhost⟩ 3 ⟨0⟩ (Generator.ofSeed []) hsmall
    hcapital hlength hschedule hdeadline
  obtain ⟨hb, hcapacity, hinFlight, -, hreleased, -⟩ := run_balanced hrun
  refine ⟨p, hrun, hb, hcapacity, hinFlight, hb.refs_eq 0, fun hnone => ?_⟩
  obtain ⟨t, ht, -, hlast⟩ := (hreleased _ _ _ (.free List.mem_cons_self) 0 _ hslot).1 hnone
  exact hlast ⟨[1, 97, 0], 1, [0], 0⟩ (by decide) rfl

end Resolver.Pool
