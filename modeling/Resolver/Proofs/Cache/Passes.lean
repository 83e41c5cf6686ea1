import Resolver.Proofs.Cache.Accounts

/-!
# The passes of making room

Room is made in passes of a loop: each either turns the writer round and gives up the oldest entry,
or gives it up alone, or finds that nothing is left to give up.

Main statements: passes do what making room does and give up one entry each (`Passes.clear_eq`,
`Passes.length_eq`), a store that is laid out as it should be needs one pass for each entry that goes
and at most one more (`Laid.exists_passes`), and so every storing after every run comes to an end
(`Clocked.run_passes`).
-/

namespace Resolver.Cache

/-! ## One pass -/

/-- What one pass comes to. -/
inductive Pass
  /-- There is room, and no pass is needed. -/
  | room
  /-- Nothing is left to give up. -/
  | stuck
  | damaged (e : Damage)
  /-- The pass was made, and what happened in it is told. -/
  | goesOn (events : List Event) (c : Cache)

/-- Gives up the oldest entry. -/
def evictPass (c : Cache) (events : List Event) : Pass :=
  match c.evictOldest with
  | .error e => .damaged e
  | .ok c' => .goesOn (events ++ [.evicted c.oldest]) c'

/-- One pass of making room for an entry of `length` bytes. -/
def pass (c : Cache) (length : Nat) : Pass :=
  if c.writer + length ≤ c.oldest then .room
  else if c.oldest = c.unused then
    if c.writer ≤ c.heads then .stuck
    else c.turn.evictPass [.turned]
  else c.evictPass []

/-- Passes are made one after the other until there is room or nothing is left to give up. What
happens is told pass by pass. -/
inductive Passes (length : Nat) : Cache → List (List Event) → Bool → Cache → Prop
  | room {c : Cache} (h : c.pass length = .room) : Passes length c [] true c
  | stuck {c : Cache} (h : c.pass length = .stuck) : Passes length c [[]] false c
  | next {c c' c'' : Cache} {events : List Event} {passes : List (List Event)} {fits : Bool}
      (h : c.pass length = .goesOn events c') (rest : Passes length c' passes fits c'') :
      Passes length c (events :: passes) fits c''

/-- The offset of the entry that is given up. -/
def Event.evicted? : Event → Option Nat
  | .evicted pos => some pos
  | .turned | .stored _ | .restarted _ => none

variable {c c' : Cache} {length : Nat} {events : List Event} {passes : List (List Event)}
  {fits : Bool} {filed : Nat → Bytes} {old young : List Placed}

theorem pass_of_room (h : c.writer + length ≤ c.oldest) : c.pass length = .room :=
  if_pos h

theorem pass_of_stuck (hfull : ¬ c.writer + length ≤ c.oldest) (hnone : c.oldest = c.unused)
    (hempty : c.writer ≤ c.heads) : c.pass length = .stuck := by
  unfold pass
  rw [if_neg hfull, if_pos hnone, if_pos hempty]

theorem evictPass_of_ok (h : c.evictOldest = .ok c') (events : List Event) :
    c.evictPass events = .goesOn (events ++ [.evicted c.oldest]) c' := by
  unfold evictPass
  rw [h]

/-- While there are older entries, a pass gives up the oldest. -/
theorem pass_of_older (hfull : ¬ c.writer + length ≤ c.oldest) (hsome : c.oldest ≠ c.unused)
    (hevict : c.evictOldest = .ok c') : c.pass length = .goesOn [.evicted c.oldest] c' := by
  unfold pass
  rw [if_neg hfull, if_neg hsome]
  exact evictPass_of_ok hevict []

/-- Without older entries, it turns the writer round first. -/
theorem pass_of_younger (hfull : ¬ c.writer + length ≤ c.oldest) (hnone : c.oldest = c.unused)
    (hsome : ¬ c.writer ≤ c.heads) (hevict : c.turn.evictOldest = .ok c') :
    c.pass length = .goesOn [.turned, .evicted c.heads] c' := by
  unfold pass
  rw [if_neg hfull, if_pos hnone, if_neg hsome]
  exact evictPass_of_ok hevict [.turned]

theorem room_of_pass (h : c.pass length = .room) : c.writer + length ≤ c.oldest := by
  unfold pass evictPass at h
  repeat' split at h
  all_goals first | assumption | contradiction

/-- A pass finds nothing to give up where there is no room and neither part has an entry. -/
theorem of_pass_stuck (h : c.pass length = .stuck) :
    ¬ c.writer + length ≤ c.oldest ∧ c.oldest = c.unused ∧ c.writer ≤ c.heads := by
  unfold pass evictPass at h
  repeat' split at h
  all_goals first | contradiction | exact ⟨‹_›, ‹_›, ‹_›⟩

/-- A pass that is made gives up an older entry or, behind the turn, a younger one. -/
theorem of_pass_goesOn (h : c.pass length = .goesOn events c') :
    ¬ c.writer + length ≤ c.oldest ∧
      (c.oldest ≠ c.unused ∧ c.evictOldest = .ok c' ∧ events = [.evicted c.oldest] ∨
        c.oldest = c.unused ∧ ¬ c.writer ≤ c.heads ∧ c.turn.evictOldest = .ok c' ∧
          events = [.turned, .evicted c.heads]) := by
  unfold pass evictPass at h
  split at h
  · contradiction
  rename_i hfull
  refine ⟨hfull, ?_⟩
  split at h
  · rename_i hnone
    split at h
    · contradiction
    · rename_i hsome
      split at h
      · contradiction
      · rename_i hevict
        obtain ⟨rfl, rfl⟩ := Pass.goesOn.inj h
        exact .inr ⟨hnone, hsome, hevict, rfl⟩
  · rename_i hsome
    split at h
    · contradiction
    · rename_i hevict
      obtain ⟨rfl, rfl⟩ := Pass.goesOn.inj h
      exact .inl ⟨hsome, hevict, rfl⟩

/-! ## Passes and making room -/

/-- Making room begins with a pass and goes on from there. -/
theorem clear_of_pass (h : c.pass length = .goesOn events c') :
    c.clear length = (events ++ (c'.clear length).1, (c'.clear length).2) := by
  obtain ⟨hfull, ⟨hsome, hevict, rfl⟩ | ⟨hnone, hsome, hevict, rfl⟩⟩ := of_pass_goesOn h
  · rw [clear, if_neg hfull, if_neg hsome]
    split <;> rename_i hevict' <;> rw [hevict] at hevict'
    · contradiction
    · obtain rfl := Except.ok.inj hevict'
      rfl
  · rw [clear, if_neg hfull, if_pos hnone, if_neg hsome]
    split <;> rename_i hevict' <;> rw [hevict] at hevict'
    · contradiction
    · obtain rfl := Except.ok.inj hevict'
      rfl

namespace Passes

/-- Passes one after the other make room and tell what making room tells. -/
theorem clear_eq (h : Passes length c passes fits c') :
    c.clear length = (passes.flatten, .ok (fits, c')) := by
  induction h with
  | room h => rw [clear, if_pos (room_of_pass h), List.flatten_nil]
  | stuck h =>
    obtain ⟨hfull, hnone, hempty⟩ := of_pass_stuck h
    rw [clear, if_neg hfull, if_pos hnone, if_pos hempty]
    rfl
  | next h rest ih =>
    rw [clear_of_pass h, ih, List.flatten_cons]

theorem makeRoom_eq (h : Passes length c passes fits c') : c.makeRoom length = .ok (fits, c') := by
  rw [← clear_snd, h.clear_eq]

/-- Each pass gives up one entry, but for the last if it finds none left. -/
theorem length_eq (h : Passes length c passes fits c') :
    passes.length =
      (passes.flatten.filterMap Event.evicted?).length + if fits then 0 else 1 := by
  induction h with
  | room => rfl
  | stuck => rfl
  | next h rest ih =>
    rw [List.length_cons, ih, List.flatten_cons, List.filterMap_append, List.length_append]
    obtain ⟨-, ⟨-, -, rfl⟩ | ⟨-, -, -, rfl⟩⟩ := of_pass_goesOn h
    · exact (Nat.add_comm ..).trans (Nat.add_assoc ..).symm
    · exact (Nat.add_comm ..).trans (Nat.add_assoc ..).symm

/-- Passes end with room, or with a pass that finds nothing to give up. -/
theorem ends (h : Passes length c passes fits c') :
    if fits then c'.writer + length ≤ c'.oldest
    else c'.oldest = c'.unused ∧ c'.writer ≤ c'.heads := by
  induction h with
  | room h => exact room_of_pass h
  | stuck h => exact (of_pass_stuck h).2
  | next h rest ih => exact ih

end Passes

/-! ## What the passes give up -/

/-- Entries that are given up one after the other are told by their offsets. -/
theorem filterMap_evicted?_evictions (ps : List Placed) :
    (evictions ps).filterMap Event.evicted? = ps.map Placed.pos := by
  induction ps with
  | nil => rfl
  | cons p ps ih => exact congrArg (p.pos :: ·) ih

theorem count_turned_evictions (ps : List Placed) : (evictions ps).count .turned = 0 := by
  rw [List.count_eq_zero]
  intro hmem
  obtain ⟨p, -, hp⟩ := List.mem_map.1 hmem
  contradiction

/-- Making room gives up the first of the entries, in their order, and turns the writer round at most
once. -/
theorem Cleared.exists_gone {old' young' : List Placed} (h : Cleared old young events old' young') :
    ∃ gone, old ++ young = gone ++ (old' ++ young') ∧
      events.filterMap Event.evicted? = gone.map Placed.pos ∧ events.count .turned ≤ 1 := by
  cases h with
  | ahead gone kept =>
    refine ⟨gone, List.append_assoc .., filterMap_evicted?_evictions gone, ?_⟩
    rw [count_turned_evictions]
    exact Nat.zero_le 1
  | @around _ gone kept =>
    refine ⟨old ++ gone, by rw [List.append_nil, List.append_assoc], ?_, ?_⟩
    · rw [List.filterMap_append, List.filterMap_cons_none rfl, filterMap_evicted?_evictions,
        filterMap_evicted?_evictions, List.map_append]
    · rw [List.count_append, List.count_cons_self, count_turned_evictions, count_turned_evictions]

/-! ## The passes come to an end -/

namespace Laid

/-- A store that is laid out as it should be has room, or has nothing left to give up and the writer
at the front, or a pass leaves one entry less, the oldest being gone. -/
theorem pass_cases (h : Laid c filed old young) (length : Nat) :
    c.pass length = .room ∨ c.pass length = .stuck ∨
      ∃ events c' o old' young', c.pass length = .goesOn events c' ∧
        Laid c' filed old' young' ∧ old ++ young = o :: (old' ++ young') := by
  by_cases hfit : c.writer + length ≤ c.oldest
  · exact .inl (pass_of_room hfit)
  by_cases hnone : c.oldest = c.unused
  · by_cases hempty : c.writer ≤ c.heads
    · exact .inr (.inl (pass_of_stuck hfit hnone hempty))
    · obtain rfl := h.old_tiled.eq_nil_iff.2 hnone
      obtain ⟨o, rest, rfl⟩ := h.young_tiled.exists_cons (by omega)
      obtain ⟨c', hevict, hlaid, -⟩ := (h.turn hnone (by omega)).exists_evictOldest
      exact .inr (.inr ⟨_, c', o, rest, [], pass_of_younger hfit hnone hempty hevict, hlaid,
        by rw [List.append_nil, List.nil_append]⟩)
  · obtain ⟨o, rest, rfl⟩ := h.old_tiled.exists_cons hnone
    obtain ⟨c', hevict, hlaid, -⟩ := h.exists_evictOldest
    exact .inr (.inr ⟨_, c', o, rest, young, pass_of_older hfit hnone hevict, hlaid, rfl⟩)

/-- So the passes come to an end. -/
theorem exists_passes (h : Laid c filed old young) (length : Nat) :
    ∃ passes fits c', Passes length c passes fits c' := by
  -- a pass leaves one entry less
  induction hcount : (old ++ young).length using Nat.strongRecOn generalizing c filed old young with
  | ind count ih =>
    rcases h.pass_cases length with
      hroom | hstuck | ⟨events, c', o, old', young', hpass, hlaid, hmore⟩
    · exact ⟨[], true, c, .room hroom⟩
    · exact ⟨[[]], false, c, .stuck hstuck⟩
    · have hless : (old' ++ young').length < count := by
        rw [← hcount, hmore, List.length_cons]
        exact Nat.lt_succ_self _
      obtain ⟨passes, fits, c'', hpasses⟩ := ih _ hless hlaid rfl
      exact ⟨events :: passes, fits, c'', .next hpass hpasses⟩

/-- Passes that come to an end give up the first of the entries, one each. -/
theorem of_passes (h : Laid c filed old young) (hpasses : Passes length c passes fits c') :
    ∃ gone, c.live = gone ++ c'.live ∧
      passes.flatten.filterMap Event.evicted? = gone.map Placed.pos ∧
      passes.flatten.count .turned ≤ 1 ∧ passes.length = gone.length + if fits then 0 else 1 := by
  have hcleared := h.cleared hpasses.makeRoom_eq
  rw [hpasses.clear_eq] at hcleared
  obtain ⟨gone, hlive, hgone, hturned⟩ := hcleared.exists_gone
  refine ⟨gone, h.live_eq.trans hlive, hgone, hturned, ?_⟩
  rw [hpasses.length_eq, hgone, List.length_map]

/-- They keep the layout, and without room they leave no entry and the writer at the front. -/
theorem passes_laid (h : Laid c filed old young) (hpasses : Passes length c passes fits c') :
    ∃ old' young', Laid c' filed old' young' ∧
      (fits = false → c'.writer = c'.heads ∧ c'.live = []) := by
  obtain ⟨c'', old', young', gone, hroom, hlaid, -⟩ := h.makesRoom length
  obtain ⟨-, rfl⟩ := Prod.mk.inj (Except.ok.inj (hpasses.makeRoom_eq.symm.trans hroom))
  refine ⟨old', young', hlaid, fun hfits => ?_⟩
  have hends := hpasses.ends
  rw [hfits, if_neg Bool.false_ne_true] at hends
  have hfront : c'.writer = c'.heads := Nat.le_antisymm hends.2 hlaid.heads_le_writer
  refine ⟨hfront, ?_⟩
  rw [hlaid.live_eq, hlaid.old_tiled.eq_nil_iff.2 hends.1,
    hlaid.young_tiled.eq_nil_iff.2 hfront.symm, List.append_nil]

end Laid

/-! ## Storing after every run -/

namespace Clocked

/-- After whatever was done with a new store, storing comes to an end. What is past the limits of
keys, data and times to live is ignored without a pass. For anything else room is made in passes: the
entries they give up are the first of those that stood there before, the oldest first and each once,
and the writer turns round in one of them at most. Each pass gives up one entry, but for one more at
the end if there is none left, so there are at most as many as there were entries and one.

In the end there is room in front of the older entries and the new entry is written behind all that
were kept; or the writer is back at the front, no entry is left, and nothing is written. -/
theorem run_passes (capacity : Nat) (hashKey : Bytes) (now : Tai64) (ops : List Operation) :
    ∃ answers s, (new capacity hashKey now).run ops = .ok (answers, s) ∧
      (s.cache.live.map Placed.pos).Nodup ∧
      ∀ key data ttl,
        if 1000 < key.length ∨ 1000000 < data.length ∨ ttl = 0 then
          s.cache.set s.now key data ttl = .ok s.cache
        else
          ∃ passes fits c gone, Passes (key.length + data.length + 20) s.cache passes fits c ∧
            s.cache.makeRoom (key.length + data.length + 20) = .ok (fits, c) ∧
            s.cache.live = gone ++ c.live ∧
            passes.flatten.filterMap Event.evicted? = gone.map Placed.pos ∧
            passes.flatten.count .turned ≤ 1 ∧
            passes.length = gone.length + (if fits then 0 else 1) ∧
            passes.length ≤ s.cache.live.length + 1 ∧
            if fits then
              c.writer + (key.length + data.length + 20) ≤ c.oldest ∧
              ∃ c', s.cache.set s.now key data ttl = .ok c' ∧
                c'.live = c.live ++ [⟨c.writer, key, data, s.now.add (min ttl 604800)⟩]
            else c.writer = c.heads ∧ c.live = [] ∧ s.cache.set s.now key data ttl = .ok c := by
  obtain ⟨answers, s, filed, hrun, h, -⟩ := exists_run_new capacity hashKey now ops
  refine ⟨answers, s, hrun, Laid.nodup h, fun key data ttl => ?_⟩
  split
  · rename_i hrefused
    exact set_of_refused s.now hrefused
  rename_i hlimits
  obtain ⟨passes, fits, c, hpasses⟩ := Laid.exists_passes h (storedLength key data)
  obtain ⟨gone, hlive, hgone, hturned, hlength⟩ := Laid.of_passes h hpasses
  obtain ⟨old, young, hlaid, hstuck⟩ := Laid.passes_laid h hpasses
  refine ⟨passes, fits, c, gone, hpasses, hpasses.makeRoom_eq, hlive, hgone, hturned,
    hlength, ?_, ?_⟩
  · rw [hlength, hlive, List.length_append]
    split <;> omega
  · have hends := hpasses.ends
    have hset := set_of_makeRoom s.now hlimits hpasses.makeRoom_eq
    cases fits with
    | true =>
      have hwithin : key.length ≤ maxKey ∧ data.length ≤ maxData := by
        unfold maxKey maxData
        omega
      obtain ⟨c', hpush, hlaid', -⟩ := hlaid.exists_push_update
        (e := ⟨key, data, s.now.add (min ttl maxTtl)⟩) hwithin hends
      refine ⟨hends, c', hset.trans hpush, ?_⟩
      rw [hlaid'.live_eq, hlaid.live_eq, List.append_assoc]
      rfl
    | false =>
      obtain ⟨hfront, hnone⟩ := hstuck rfl
      exact ⟨hfront, hnone, hset⟩

end Clocked

end Resolver.Cache
