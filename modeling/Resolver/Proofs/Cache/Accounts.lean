import Mathlib
import Resolver.Proofs.Cache.Clearing
import Resolver.Proofs.Cache.Oversize
import Resolver.Proofs.Cache.Retention

/-!
# Keeping accounts of a store

A store counts the bytes in use from three cursors, and the bytes ever written in a word that is
carried over when it starts over. An account is kept of what happens to the entries in the course of a
run: which are stored and which are given up. A store that is refused memory when it is to start over
goes on with its size and its entries, and so does the account.

Main statement: after every run, what the store tells of itself is what the account comes to, and
storing what fits into the free space gives nothing up (`Clocked.run_balances`).
-/

namespace Resolver.Cache

/-! ## Accounts -/

/-- What has happened to the entries of a store. -/
structure Account where
  /-- The capacity that the store was last given. -/
  capacity : Nat
  /-- Every entry that was ever stored, before the store last started over too. -/
  stored : List Entry
  /-- The entries stored since then and not given up, the oldest first. -/
  live : List Placed

namespace Account

/-- The account of a new store. -/
def opened (capacity : Nat) : Account :=
  ⟨capacity, [], []⟩

/-- Enters one event. -/
def enter (a : Account) : Event → Account
  | .turned => a
  | .evicted pos => { a with live := a.live.filter fun p => p.pos ≠ pos }
  | .stored p => { a with stored := a.stored ++ [p.entry], live := a.live ++ [p] }
  | .restarted capacity => { a with capacity := capacity, live := [] }

/-- Enters events one after the other. -/
def enterAll (a : Account) (events : List Event) : Account :=
  events.foldl enter a

variable {a : Account}

@[simp]
theorem enterAll_nil (a : Account) : a.enterAll [] = a := rfl

@[simp]
theorem enterAll_cons (a : Account) (event : Event) (events : List Event) :
    a.enterAll (event :: events) = (a.enter event).enterAll events := rfl

@[simp]
theorem enterAll_append (a : Account) (events events' : List Event) :
    a.enterAll (events ++ events') = (a.enterAll events).enterAll events' :=
  List.foldl_append

/-- Giving up the first entries leaves the others, since each is at an offset of its own. -/
theorem enterAll_evictions {gone kept : List Placed} (hlive : a.live = gone ++ kept)
    (hnodup : ((gone ++ kept).map Placed.pos).Nodup) :
    a.enterAll (evictions gone) = { a with live := kept } := by
  induction gone generalizing a with
  | nil =>
    rw [List.nil_append] at hlive
    rw [← hlive]
    rfl
  | cons p gone ih =>
    rw [List.cons_append, List.map_cons, List.nodup_cons] at hnodup
    have hothers : ∀ q ∈ gone ++ kept, decide (q.pos ≠ p.pos) = true := by
      intro q hq
      have hne : q.pos ≠ p.pos := fun heq => hnodup.1 (heq ▸ List.mem_map_of_mem hq)
      exact decide_eq_true hne
    have hfirst : (a.enter (.evicted p.pos)).live = gone ++ kept := by
      show a.live.filter _ = _
      rw [hlive, List.cons_append, List.filter_cons_of_neg (by simp), List.filter_eq_self.2 hothers]
    show (a.enter (.evicted p.pos)).enterAll (evictions gone) = _
    rw [ih hfirst hnodup.2]
    rfl

/-- After room was made, the account has the entries that are left. -/
theorem enterAll_of_cleared {old young old' young' : List Placed} {events : List Event}
    (h : Cleared old young events old' young') (hlive : a.live = old ++ young)
    (hnodup : ((old ++ young).map Placed.pos).Nodup) :
    a.enterAll events = { a with live := old' ++ young' } := by
  cases h with
  | ahead =>
    rw [List.append_assoc] at hlive hnodup
    exact enterAll_evictions hlive hnodup
  | around =>
    rw [enterAll_append, enterAll_cons, enterAll_evictions hlive hnodup]
    rw [List.map_append] at hnodup
    show Account.enterAll { a with live := _ } (evictions _) = _
    rw [enterAll_evictions rfl hnodup.of_append_right, List.append_nil]

end Account

/-! ## The events of a run -/

namespace Clocked

/-- What an operation does to the entries. -/
def events (s : Clocked) : Operation → List Event
  | .set key data ttl =>
    if maxKey < key.length ∨ maxData < data.length ∨ ttl = 0 then []
    else
      match s.cache.clear (storedLength key data) with
      | (events, .ok (true, c)) =>
        events ++ [.stored ⟨c.writer, key, data, s.now.add (min ttl maxTtl)⟩]
      | (events, _) => events
  | .reinit capacity _ granted => if granted then [.restarted capacity] else []
  | .get _ | .clock _ => []

/-- What storing does to the entries: what making room does, and then the entry is written if there is
room for it. -/
theorem events_set {s : Clocked} {c₁ : Cache} {key data : Bytes} {ttl : Nat} {fits : Bool}
    (hlimits : ¬ (maxKey < key.length ∨ maxData < data.length ∨ ttl = 0))
    (hroom : s.cache.makeRoom (storedLength key data) = .ok (fits, c₁)) :
    s.events (.set key data ttl) = (s.cache.clear (storedLength key data)).1 ++
      if fits then [.stored ⟨c₁.writer, key, data, s.now.add (min ttl maxTtl)⟩] else [] := by
  have hresult := (clear_snd s.cache (storedLength key data)).trans hroom
  rcases hclear : s.cache.clear (storedLength key data) with ⟨events, result⟩
  rw [hclear] at hresult
  obtain rfl : result = _ := hresult
  rw [Clocked.events, if_neg hlimits, hclear]
  cases fits with
  | true => rfl
  | false => exact (List.append_nil events).symm

/-- What operations one after the other do to the entries. -/
def log (s : Clocked) : List Operation → List Event
  | [] => []
  | op :: ops =>
    s.events op ++
      match s.perform op with
      | .ok (_, s') => s'.log ops
      | .error _ => []

end Clocked

/-! ## Storing -/

namespace Laid

variable {c : Cache} {filed : Nat → Bytes} {old young : List Placed}

/-- The bytes in use are those of the entries. -/
theorem used_eq (h : Laid c filed old young) : c.used = taken (c.live.map Placed.entry) := by
  have hold := h.old_tiled.add_taken
  have hyoung := h.young_tiled.add_taken
  rw [h.live_eq, List.map_append, taken_append]
  unfold used
  omega

/-- The entries leave room for the bucket links. -/
theorem used_add_heads_le (h : Laid c filed old young) : c.used + c.heads ≤ c.size := by
  have := h.heads_le_writer
  have := h.writer_le_oldest
  have := h.oldest_le_unused
  have := h.unused_le_size
  unfold used
  omega

end Laid

/-! ## What is stored -/

/-- The entry that is written. -/
def Event.written? : Event → Option Entry
  | .stored p => some p.entry
  | .turned | .evicted _ | .restarted _ => none

theorem filterMap_written?_evictions (ps : List Placed) :
    (evictions ps).filterMap Event.written? = [] := by
  induction ps with
  | nil => rfl
  | cons p ps ih => exact ih

/-- Making room writes no entry. -/
theorem Cleared.filterMap_written? {old young old' young' : List Placed} {events : List Event}
    (h : Cleared old young events old' young') : events.filterMap Event.written? = [] := by
  cases h with
  | ahead => exact filterMap_written?_evictions _
  | around =>
    rw [List.filterMap_append, filterMap_written?_evictions]
    exact filterMap_written?_evictions _

/-- An operation that stores what is within the limits, and no longer than all the space for entries,
writes an entry; any other is ignored. -/
theorem Clocked.filterMap_events_set {s : Clocked} {filed : Nat → Bytes}
    (h : s.cache.WellFormed filed) (key data : Bytes) (ttl : Nat) :
    (s.events (.set key data ttl)).filterMap Event.written? =
      if maxKey < key.length ∨ maxData < data.length ∨ ttl = 0 ∨
        s.cache.size < s.cache.heads + storedLength key data then []
      else [⟨key, data, s.now.add (min ttl maxTtl)⟩] := by
  by_cases hlimits : maxKey < key.length ∨ maxData < data.length ∨ ttl = 0
  · rw [events, if_pos hlimits, if_pos (by omega)]
    rfl
  · obtain ⟨c₁, old, young, -, hroom, -⟩ := Laid.makesRoom h (storedLength key data)
    rw [events_set hlimits hroom, List.filterMap_append,
      (Laid.cleared h hroom).filterMap_written?, List.nil_append]
    by_cases hfits : s.cache.heads + storedLength key data ≤ s.cache.size
    · have haccepted : ¬ (maxKey < key.length ∨ maxData < data.length ∨ ttl = 0 ∨
          s.cache.size < s.cache.heads + storedLength key data) := by omega
      rw [decide_eq_true hfits, if_neg haccepted]
      rfl
    · have hignored : maxKey < key.length ∨ maxData < data.length ∨ ttl = 0 ∨
          s.cache.size < s.cache.heads + storedLength key data := by omega
      rw [decide_eq_false hfits, if_pos hignored]
      rfl

/-! ## Runs -/

/-- A store is laid out as it should be, and what it tells of itself is what the account comes to. -/
structure Accounted (a : Account) (c : Cache) : Prop where
  wellFormed : ∃ filed, c.WellFormed filed
  live_eq : c.live = a.live
  motion_eq : c.motion = UInt64.ofNat (taken a.stored)
  size_eq : c.size = sizeFor a.capacity
  heads_eq : c.heads = headsFor (sizeFor a.capacity)

namespace Accounted

variable {a : Account} {s : Clocked}

/-- A store that starts over has no entries but goes on counting. -/
theorem blank (capacity : Nat) (hashKey : Bytes) (stored : List Entry) :
    Accounted ⟨capacity, stored, []⟩
      (Cache.blank capacity hashKey (UInt64.ofNat (taken stored))) where
  wellFormed := ⟨fun _ => hashKey, (laid_blank _ _ _ _).wellFormed⟩
  live_eq := (laid_blank _ _ _ fun _ => hashKey).live_eq
  motion_eq := rfl
  size_eq := Block.size_zeros _
  heads_eq := rfl

/-- Storing keeps the account. -/
theorem exists_set (h : Accounted a s.cache) (key data : Bytes) (ttl : Nat) :
    ∃ c', s.cache.set s.now key data ttl = .ok c' ∧
      Accounted (a.enterAll (s.events (.set key data ttl))) c' := by
  by_cases hlimits : maxKey < key.length ∨ maxData < data.length ∨ ttl = 0
  · refine ⟨s.cache, set_of_refused s.now hlimits, ?_⟩
    rw [Clocked.events, if_pos hlimits]
    exact h
  obtain ⟨filed, hwell⟩ := h.wellFormed
  obtain ⟨c₁, old, young, -, hroom, hlaid, halike, -, hfree⟩ :=
    Laid.makesRoom hwell (storedLength key data)
  have hcleared := Laid.cleared hwell hroom
  rw [hlaid.old_eq, hlaid.young_eq] at hcleared
  have hleft := Account.enterAll_of_cleared hcleared h.live_eq.symm hwell.nodup
  have hmotion := (motion_of_makeRoom hroom).trans h.motion_eq
  have hset := set_of_makeRoom s.now hlimits hroom
  rw [Clocked.events_set hlimits hroom, Account.enterAll_append, hleft]
  by_cases hfits : s.cache.heads + storedLength key data ≤ s.cache.size
  · rw [decide_eq_true hfits] at hset ⊢
    rw [if_pos hfits] at hfree
    have hwithin : key.length ≤ maxKey ∧ data.length ≤ maxData := by omega
    obtain ⟨c₂, hpush, hlaid₂, halike₂, hmotion₂⟩ := hlaid.exists_push_update
      (e := ⟨key, data, s.now.add (min ttl maxTtl)⟩) hwithin hfree
    refine ⟨c₂, hset.trans hpush, ?_⟩
    exact {
      wellFormed := ⟨_, hlaid₂.wellFormed⟩
      live_eq := hlaid₂.live_eq.trans (List.append_assoc ..).symm
      motion_eq := by
        rw [hmotion₂, hmotion, ← UInt64.ofNat_add]
        show _ = UInt64.ofNat (taken (a.stored ++ [_]))
        rw [taken_append, taken_cons]
        rfl
      size_eq := (halike₂.size_eq.trans halike.size_eq).trans h.size_eq
      heads_eq := (halike₂.heads_eq.trans halike.heads_eq).trans h.heads_eq }
  · rw [decide_eq_false hfits] at hset ⊢
    refine ⟨c₁, hset, ?_⟩
    exact {
      wellFormed := ⟨filed, hlaid.wellFormed⟩
      live_eq := hlaid.live_eq
      motion_eq := hmotion
      size_eq := halike.size_eq.trans h.size_eq
      heads_eq := halike.heads_eq.trans h.heads_eq }

/-- A store that is refused memory when it is to start over has the entries it had. -/
theorem rekeyed {c : Cache} (h : Accounted a c) (hashKey : Bytes) :
    Accounted a { c with hashKey := hashKey } where
  wellFormed := by
    obtain ⟨filed, hwell⟩ := h.wellFormed
    exact ⟨filed, Laid.rekeyed hwell hashKey⟩
  live_eq := h.live_eq
  motion_eq := h.motion_eq
  size_eq := h.size_eq
  heads_eq := h.heads_eq

/-- Every operation keeps the account. -/
theorem exists_perform (h : Accounted a s.cache) (op : Operation) :
    ∃ answer s', s.perform op = .ok (answer, s') ∧
      Accounted (a.enterAll (s.events op)) s'.cache := by
  cases op with
  | set key data ttl =>
    obtain ⟨c', hset, haccounted⟩ := h.exists_set key data ttl
    refine ⟨none, { s with cache := c' }, ?_, haccounted⟩
    rw [Clocked.perform, hset]
    rfl
  | get key =>
    obtain ⟨filed, hwell⟩ := h.wellFormed
    obtain ⟨answer, hget, -⟩ := Laid.exists_get hwell s.now key
    refine ⟨answer, s, ?_, h⟩
    rw [Clocked.perform, hget]
    rfl
  | reinit capacity hashKey granted =>
    cases granted with
    | true =>
      have hblank := blank capacity hashKey a.stored
      rw [← h.motion_eq] at hblank
      exact ⟨none, _, rfl, hblank⟩
    | false => exact ⟨none, _, rfl, h.rekeyed hashKey⟩
  | clock now => exact ⟨none, _, rfl, h⟩

/-- So does every run. -/
theorem exists_run (h : Accounted a s.cache) (ops : List Operation) :
    ∃ answers s', s.run ops = .ok (answers, s') ∧ Accounted (a.enterAll (s.log ops)) s'.cache := by
  induction ops generalizing s a with
  | nil => exact ⟨[], s, rfl, h⟩
  | cons op ops ih =>
    obtain ⟨answer, s₁, hperform, h₁⟩ := h.exists_perform op
    obtain ⟨answers, s', hrun, h'⟩ := ih h₁
    refine ⟨answer :: answers, s', ?_, ?_⟩
    · rw [Clocked.run, hperform]
      simp only
      rw [hrun]
      rfl
    · rw [Clocked.log, hperform, Account.enterAll_append]
      exact h'

end Accounted

/-! ## Sizes -/

/-- The bytes of bucket links are the least power of two, from 4 on, that is more than a thirty-second
of the arena. -/
theorem isLeast_headsFor (size : Nat) :
    IsLeast {n | (∃ k, n = 2 ^ k) ∧ 4 ≤ n ∧ size < 32 * n} (headsFor size) := by
  have hheads : headsFor size = max 4 (2 ^ ((size / 32).log2 + 1)) := rfl
  have hlog : size / 32 < 2 ^ ((size / 32).log2 + 1) := Nat.lt_log2_self
  rw [hheads]
  constructor
  · refine ⟨?_, Nat.le_max_left _ _, by omega⟩
    rcases Nat.le_total 4 (2 ^ ((size / 32).log2 + 1)) with hle | hle
    · exact ⟨_, Nat.max_eq_right hle⟩
    · exact ⟨2, Nat.max_eq_left hle⟩
  · rintro n ⟨⟨k, rfl⟩, hfour, hmore⟩
    refine Nat.max_le.2 ⟨hfour, ?_⟩
    by_cases hnone : size / 32 = 0
    · rw [hnone]
      exact Nat.le_trans (by decide) hfour
    · have hlt : (size / 32).log2 < k := (Nat.log2_lt hnone).2 (by omega)
      exact Nat.pow_le_pow_right (by decide) hlt

/-- What entries take is the sum of what each takes. -/
theorem taken_eq_sum (es : List Entry) :
    taken es = (es.map fun e => e.key.length + e.data.length + 20).sum := by
  induction es with
  | nil => rfl
  | cons e es ih =>
    rw [taken_cons, ih, List.map_cons, List.sum_cons]
    rfl

namespace Clocked

/-- What fits into the free space is stored without more ado. -/
theorem events_set_of_free {s : Clocked} {key data : Bytes} (ttl : Nat)
    (hfree : s.cache.writer + storedLength key data ≤ s.cache.oldest) :
    s.events (.set key data ttl) = [] ∨ ∃ p, s.events (.set key data ttl) = [.stored p] := by
  by_cases hlimits : maxKey < key.length ∨ maxData < data.length ∨ ttl = 0
  · exact .inl (by rw [events, if_pos hlimits])
  · have hclear : s.cache.clear (storedLength key data) = ([], .ok (true, s.cache)) := by
      rw [clear, if_pos hfree]
    have hroom : s.cache.makeRoom (storedLength key data) = .ok (true, s.cache) := by
      rw [← clear_snd, hclear]
    refine .inr ⟨⟨s.cache.writer, key, data, s.now.add (min ttl maxTtl)⟩, ?_⟩
    rw [events_set hlimits hroom, hclear]
    rfl

/-- After whatever was done with a new store, its statistics agree with the account of what was done,
which is kept from the events of the run. The entries that stand in the store are those that were
written since it last started over and not given up. The bytes in use are what these take, expired
ones and those with a newer one under their key among them, and leave room for the bucket links. The
bytes ever written are, in a word of eight bytes, what all entries take that were ever written. The size
is the capacity that the store was last given, within its limits, and the bucket links take the least
power of two, from 4 on, that is more than a thirty-second of it. To be refused the memory to start over
changes nothing of all this: the capacity that was asked for is not given then, and no entry is given up.

What comes to be stored next is written unless it is ignored, for being past the limits of keys, data and
times to live or larger than all the space for entries; if it fits into the free space, no entry is
given up for it. -/
theorem run_balances (capacity : Nat) (hashKey : Bytes) (now : Tai64) (ops : List Operation) :
    ∃ answers s, (new capacity hashKey now).run ops = .ok (answers, s) ∧
      let a := (Account.opened capacity).enterAll ((new capacity hashKey now).log ops)
      let stats := s.cache.stats
      s.cache.live = a.live ∧
      stats.used = (a.live.map fun p => p.entry.key.length + p.entry.data.length + 20).sum ∧
      stats.used + stats.heads ≤ stats.size ∧
      stats.motion.toNat =
        (a.stored.map fun e => e.key.length + e.data.length + 20).sum % 2 ^ 64 ∧
      stats.size = max 100 (min a.capacity 1000000000) ∧
      IsLeast {n | (∃ k, n = 2 ^ k) ∧ 4 ≤ n ∧ stats.size < 32 * n} stats.heads ∧
      (∀ key data ttl, (s.events (.set key data ttl)).filterMap Event.written? =
        if 1000 < key.length ∨ 1000000 < data.length ∨ ttl = 0 ∨
          stats.size < stats.heads + (key.length + data.length + 20) then []
        else [⟨key, data, s.now.add (min ttl 604800)⟩]) ∧
      ∀ key data ttl, s.cache.writer + (key.length + data.length + 20) ≤ s.cache.oldest →
        (∀ pos, .evicted pos ∉ s.events (.set key data ttl)) ∧
        ∃ c', s.perform (.set key data ttl) = .ok (none, { s with cache := c' }) ∧
          s.cache.live <+: c'.live := by
  obtain ⟨answers, s, hrun, h⟩ :=
    (Accounted.blank capacity hashKey []).exists_run (s := new capacity hashKey now) ops
  obtain ⟨filed, hwell⟩ := h.wellFormed
  have hlaid : Laid s.cache filed s.cache.old s.cache.young := hwell
  refine ⟨answers, s, hrun, h.live_eq, ?_, hlaid.used_add_heads_le, ?_, h.size_eq, ?_,
    filterMap_events_set hwell, ?_⟩
  · show s.cache.used = _
    rw [hlaid.used_eq, taken_eq_sum, List.map_map, h.live_eq]
    rfl
  · show s.cache.motion.toNat = _
    rw [h.motion_eq, UInt64.toNat_ofNat', taken_eq_sum]
    rfl
  · show IsLeast {n | _ ∧ _ ∧ s.cache.size < 32 * n} s.cache.heads
    rw [h.size_eq, h.heads_eq]
    exact isLeast_headsFor _
  · intro key data ttl hfree
    obtain ⟨c', hset, h'⟩ := h.exists_set key data ttl
    have hevents := events_set_of_free ttl hfree
    refine ⟨?_, c', ?_, ?_⟩
    · intro pos hmem
      rcases hevents with hnone | ⟨p, hone⟩
      · rw [hnone] at hmem
        contradiction
      · rw [hone] at hmem
        cases List.mem_singleton.1 hmem
    · rw [perform, hset]
      rfl
    · rw [h.live_eq, h'.live_eq]
      rcases hevents with hnone | ⟨p, hone⟩
      · rw [hnone]
        exact List.prefix_rfl
      · rw [hone]
        exact List.prefix_append _ _

end Clocked

end Resolver.Cache
