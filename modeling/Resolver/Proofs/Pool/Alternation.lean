import Resolver.Proofs.Pool.Outcome

/-!
# Handing out and going on

A client that asks for the socket of its slot is handed it or not, and a client that lets the
session of its slot go on drives it or changes nothing. Both are noted for each slot (`beats`), from
the moment a new query is put into it.

Main statements: whatever the clients do, a slot is handed out and driven in turn, beginning with
the handing out (`Happens.inTime`); if all clients ask in each iteration before they all let their
sessions go on, each slot whose outcome is not known yet is handed out once in every iteration
(`Iterated.countP_handsOut`). Both are put together in `descriptors_alternate`.
-/

namespace Resolver.Pool

open Dialogue

variable {capacity : Nat} {policy : Policy} {p p' p₁ p₂ : Pool} {i j : Handle}
  {shared : SharedQuery} {t : Ticket} {held held' held₁ held₂ : List Ticket}

/-! ## What is noted -/

/-- Whether the session of a handle is to go on: the next client that lets it go on drives it. -/
def drives (p : Pool) (i : Handle) : Bool :=
  (p.slot? i).any (·.turnstile = .needsGet)

/-- What was seen of one call of a client. -/
inductive Event
  /-- A handle was given out, on a query that was new or in flight. -/
  | start (t : Ticket) (isNew : Bool)
  | refuse
  /-- A client asked what to wait for. -/
  | wait (t : Ticket) (request? : Option (Socket × Interest))
  /-- A client let its session go on, or learned how it stands. -/
  | get (t : Ticket) (drove : Bool)
  | free (t : Ticket)
  deriving DecidableEq, Repr

/-- One call of a client, with what is seen of it, the pool and the tickets after it. -/
inductive Happens (p : Pool) (held : List Ticket) : Event → Pool → List Ticket → Prop
  | start {servers : Servers} {recursive : Bool} {name control : Bytes} {qtype : UInt16}
      {g g' : Generator} {exchanges : List Exchange} {i : Handle} {p' : Pool}
      (h : Course (p.start servers recursive name qtype control g) exchanges (.ok i, p', g')) :
      Happens p held (.start ⟨name, qtype, control, i⟩ (p.slot? i).isNone) p'
        (⟨name, qtype, control, i⟩ :: held)
  | refuse {servers : Servers} {recursive : Bool} {name control : Bytes} {qtype : UInt16}
      {g g' : Generator} {exchanges : List Exchange} {cause : PoolError} {p' : Pool}
      (h : Course (p.start servers recursive name qtype control g) exchanges
        (.error cause, p', g')) :
      Happens p held .refuse p' held
  | wait {t : Ticket} (ht : t ∈ held) (deadline : Instant) :
      Happens p held (.wait t (p.wanted t.handle deadline).1) (p.wanted t.handle deadline).2.2 held
  | get {t : Ticket} {ready : Bool} {now : Instant} {g g' : Generator}
      {exchanges : List Exchange} {result : Except PoolError Progress} {p' : Pool} (ht : t ∈ held)
      (h : Course (p.get t.handle ready now g) exchanges (result, p', g')) :
      Happens p held (.get t (p.drives t.handle)) p' held
  | free {t : Ticket} (ht : t ∈ held) :
      Happens p held (.free t) (p.free t.handle) (held.erase t)

/-- Some calls of clients, one after the other. -/
inductive Happen : Pool → List Ticket → List Event → Pool → List Ticket → Prop
  | done (p : Pool) (held : List Ticket) : Happen p held [] p held
  | next {p p₁ p' : Pool} {held held₁ held' : List Ticket} {event : Event} {events : List Event}
      (h : Happens p held event p₁ held₁) (rest : Happen p₁ held₁ events p' held') :
      Happen p held (event :: events) p' held'

/-- A slot was handed out, or its session was driven. -/
inductive Beat
  | handedOut
  | drove
  deriving DecidableEq, Repr

/-- Whether a call hands out a slot. -/
def Event.handsOut (i : Handle) : Event → Bool
  | .wait t request? => t.handle = i && request?.isSome
  | .start _ _ | .refuse | .get _ _ | .free _ => false

/-- What is noted of a slot after one more call; a new query begins with nothing. -/
def Event.note (i : Handle) (log : List Beat) : Event → List Beat
  | .start t isNew => if t.handle = i ∧ isNew = true then [] else log
  | .wait t request? => if t.handle = i ∧ request?.isSome = true then log ++ [.handedOut] else log
  | .get t drove => if t.handle = i ∧ drove = true then log ++ [.drove] else log
  | .refuse | .free _ => log

/-- What was noted of a slot since its query was new. -/
def beats (i : Handle) (events : List Event) : List Beat :=
  events.foldl (Event.note i) []

/-- A slot is handed out and driven in turn, beginning with the handing out. -/
def Alternates (log : List Beat) : Prop :=
  ∀ k beat, log[k]? = some beat → beat = if k % 2 = 0 then .handedOut else .drove

theorem Alternates.concat {log : List Beat} (h : Alternates log) :
    Alternates (log ++ [if log.length % 2 = 0 then .handedOut else .drove]) := by
  intro k beat hbeat
  by_cases hk : k < log.length
  · rw [List.getElem?_append_left hk] at hbeat
    exact h k beat hbeat
  · obtain ⟨hlt, -⟩ := List.getElem?_eq_some_iff.1 hbeat
    rw [List.length_append, List.length_singleton] at hlt
    obtain rfl : k = log.length := by omega
    rw [List.getElem?_concat_length] at hbeat
    exact (Option.some.inj hbeat).symm

/-! ## Calls and runs -/

theorem Happens.exists_step {event : Event} (h : Happens p held event p' held') :
    ∃ returned, Step p held returned p' held' := by
  cases h with
  | start h => exact ⟨_, .start h⟩
  | refuse h => exact ⟨_, .refuse h⟩
  | wait ht deadline => exact ⟨_, .wait ht deadline⟩
  | get ht h => exact ⟨_, .get ht h⟩
  | free ht => exact ⟨_, .free ht⟩

theorem Happens.run {event : Event} (h : Happens p held event p' held')
    (run : Run capacity policy p held) : Run capacity policy p' held' := by
  obtain ⟨returned, hstep⟩ := h.exists_step
  exact .step run hstep

theorem Happen.run {events : List Event} (h : Happen p held events p' held')
    (run : Run capacity policy p held) : Run capacity policy p' held' := by
  induction h with
  | done => exact run
  | next h _ ih => exact ih (h.run run)

theorem Happen.append {events events' : List Event} (h : Happen p held events p₁ held₁)
    (h' : Happen p₁ held₁ events' p' held') : Happen p held (events ++ events') p' held' := by
  induction h with
  | done => exact h'
  | next h _ ih => exact .next h (ih h')

/-! ## One slot -/

theorem drives_eq_true_iff :
    p.drives i = true ↔ ∃ shared, p.slot? i = some shared ∧ shared.turnstile = .needsGet := by
  unfold drives
  rw [Option.any_eq_true]
  simp only [decide_eq_true_eq]

theorem drives_congr (h : p'.slot? i = p.slot? i) : p'.drives i = p.drives i :=
  congrArg (Option.any _) h

theorem drives_of_slot? (h : p.slot? i = some shared) :
    p.drives i = decide (shared.turnstile = .needsGet) := by
  unfold drives
  rw [h]
  rfl

/-- Where the session is not to go on, a client changes nothing and the system is asked nothing. -/
theorem get_of_not_drives (h : p.drives i = false) (ready : Bool) (now : Instant)
    (g : Generator) : ∃ result, p.get i ready now g = .done (result, p, g) := by
  unfold get
  cases hslot : p.slot? i with
  | none => exact ⟨_, rfl⟩
  | some shared =>
    rw [drives_of_slot? hslot] at h
    dsimp only
    cases hturnstile : shared.turnstile with
    | needsGet => exact absurd hturnstile (of_decide_eq_false h)
    | failed | needsWait | answered => exact ⟨_, rfl⟩

/-- Where the session is to go on, it does. -/
theorem get_of_drives (h : p.drives i = true) :
    ∃ shared, p.slot? i = some shared ∧ ∀ ready now g, p.get i ready now g =
      (shared.session.get ready now g).bind fun turn =>
        .done (turn.1.mapError .session, p.settle i shared turn) := by
  obtain ⟨shared, hslot, hturnstile⟩ := drives_eq_true_iff.1 h
  refine ⟨shared, hslot, fun ready now g => ?_⟩
  unfold get
  rw [hslot]
  dsimp only
  rw [hturnstile]
  rfl

/-- After a client let the session of a slot go on, it is not to go on again. -/
theorem drives_of_get {ready : Bool} {now : Instant} {g g' : Generator}
    {exchanges : List Exchange} {result : Except PoolError Progress}
    (h : Course (p.get i ready now g) exchanges (result, p', g')) : p'.drives i = false := by
  cases hdrives : p.drives i with
  | false =>
    obtain ⟨result', hsame⟩ := get_of_not_drives hdrives ready now g
    rw [hsame] at h
    obtain ⟨-, -, rfl, -⟩ := course_triple_iff.1 h
    exact hdrives
  | true =>
    obtain ⟨shared, hslot, hget⟩ := get_of_drives hdrives
    rw [hget, course_bind_iff] at h
    obtain ⟨⟨outcome, session, g₁⟩, first, last, -, -, hlast⟩ := h
    obtain ⟨-, -, rfl, -⟩ := course_triple_iff.1 hlast
    rw [drives_of_slot? (slot?_setSlot_self _ (lt_capacity hslot))]
    exact decide_eq_false (Turnstile.after_ne_needsGet outcome)

theorem slot?_get_of_ne {ready : Bool} {now : Instant} {g g' : Generator}
    {exchanges : List Exchange} {result : Except PoolError Progress} (hne : i ≠ j)
    (h : Course (p.get j ready now g) exchanges (result, p', g')) : p'.slot? i = p.slot? i := by
  obtain rfl | ⟨shared, -, -, outcome, session, -, rfl⟩ := of_get h
  · rfl
  · exact slot?_setSlot_of_ne hne

/-- The socket of a slot is to be handed out, or it is not. -/
theorem exists_needsWait_or (p : Pool) (i : Handle) :
    (∃ shared, p.slot? i = some shared ∧ shared.turnstile = .needsWait) ∨
      ∀ shared, p.slot? i = some shared → shared.turnstile ≠ .needsWait := by
  by_cases hex : ∃ shared, p.slot? i = some shared ∧ shared.turnstile = .needsWait
  · exact .inl hex
  · exact .inr fun shared hslot hturnstile => hex ⟨shared, hslot, hturnstile⟩

/-- A session that waits is handed out to the first client to ask, and is to go on then. -/
theorem wanted_of_waits (hslot : p.slot? i = some shared)
    (hturnstile : shared.turnstile = .needsWait) (hwaits : shared.session.Waits)
    (deadline : Instant) :
    ∃ request, (p.wanted i deadline).1 = some request ∧
      (shared.session.wanted deadline).1 = some request ∧
      (p.wanted i deadline).2.2 = p.setSlot i (some { shared with turnstile := .needsGet }) := by
  obtain ⟨attempt, wire, hstage⟩ := hwaits
  unfold wanted Session.wanted
  rw [hslot]
  dsimp only
  rw [if_pos hturnstile, hstage]
  exact ⟨_, rfl, rfl, rfl⟩

theorem slot?_wanted_of_ne (hne : i ≠ j) (deadline : Instant) :
    (p.wanted j deadline).2.2.slot? i = p.slot? i := by
  obtain hsame | ⟨shared, -, -, hnew⟩ := wanted_cases (p := p) (i := j) deadline
  · rw [hsame]
  · rw [hnew]
    exact slot?_setSlot_of_ne hne

/-! ## In turn -/

theorem drives_new (i : Handle) : (Pool.new capacity policy).drives i = false := by
  unfold drives slot? Pool.new
  rw [List.getElem?_replicate]
  split <;> rfl

/-- A slot was handed out and driven in turn, and its session is to go on if it was handed out
last. -/
structure InTime (p : Pool) (i : Handle) (log : List Beat) : Prop where
  alternates : Alternates log
  drives_eq : (p.slot? i).isSome → p.drives i = decide (log.length % 2 = 1)

namespace InTime

variable {log : List Beat}

/-- A session that is not to go on is in time with nothing noted. -/
theorem nil_iff : InTime p i [] ↔ p.drives i = false := by
  constructor
  · intro h
    cases hslot : p.slot? i with
    | none =>
      unfold drives
      rw [hslot]
      rfl
    | some shared => exact h.drives_eq (by rw [hslot]; rfl)
  · exact fun h => ⟨nofun, fun _ => h⟩

/-- Nothing is noted as long as the turnstile stays as it is. -/
theorem keep (h : InTime p i log) (hsome : (p'.slot? i).isSome → (p.slot? i).isSome)
    (hdrives : (p'.slot? i).isSome → p'.drives i = p.drives i) : InTime p' i log where
  alternates := h.alternates
  drives_eq h' := (hdrives h').trans (h.drives_eq (hsome h'))

/-- Nothing is noted of a slot that stays as it is. -/
theorem same (h : InTime p i log) (hslot : p'.slot? i = p.slot? i) : InTime p' i log :=
  h.keep (fun h' => hslot ▸ h') fun _ => drives_congr hslot

/-- A slot is handed out whose session was not to go on. -/
theorem handOut (h : InTime p i log) (hsome : (p.slot? i).isSome) (hbefore : p.drives i = false)
    (hafter : p'.drives i = true) : InTime p' i (log ++ [.handedOut]) := by
  have heven : log.length % 2 = 0 := by
    have := of_decide_eq_false ((h.drives_eq hsome).symm.trans hbefore)
    omega
  have halternates := h.alternates.concat
  rw [if_pos heven] at halternates
  refine ⟨halternates, fun _ => hafter.trans (decide_eq_true ?_).symm⟩
  rw [List.length_append, List.length_singleton]
  omega

/-- A session that is to go on is driven. -/
theorem drive (h : InTime p i log) (hsome : (p.slot? i).isSome) (hbefore : p.drives i = true)
    (hafter : p'.drives i = false) : InTime p' i (log ++ [.drove]) := by
  have hodd : log.length % 2 = 1 := of_decide_eq_true ((h.drives_eq hsome).symm.trans hbefore)
  have halternates := h.alternates.concat
  rw [if_neg (by omega)] at halternates
  refine ⟨halternates, fun _ => hafter.trans (decide_eq_false ?_).symm⟩
  rw [List.length_append, List.length_singleton]
  omega

/-- A session that is to go on was handed out last. -/
theorem getLast?_eq (h : InTime p i log) (hdrives : p.drives i = true) :
    log.getLast? = some .handedOut := by
  obtain ⟨shared, hslot, -⟩ := drives_eq_true_iff.1 hdrives
  have hodd : log.length % 2 = 1 :=
    of_decide_eq_true ((h.drives_eq (by rw [hslot]; rfl)).symm.trans hdrives)
  obtain ⟨beat, hbeat⟩ : ∃ beat, log[log.length - 1]? = some beat :=
    ⟨_, List.getElem?_eq_getElem (by omega)⟩
  have heq := h.alternates _ beat hbeat
  rw [if_pos (by omega)] at heq
  rw [List.getLast?_eq_getElem?, hbeat, heq]

/-- A query in flight is joined, whose turnstile stays as it is, or a new one begins with nothing. -/
theorem start {servers : Servers} {recursive : Bool} {name control : Bytes} {qtype : UInt16}
    {g g' : Generator} {exchanges : List Exchange} (htime : InTime p i log)
    (h : Course (p.start servers recursive name qtype control g) exchanges (.ok j, p', g')) :
    InTime p' i ((Event.start ⟨name, qtype, control, j⟩ (p.slot? j).isNone).note i log) := by
  obtain ⟨_, hresult, -⟩ | ⟨j', key, hresult, -, hcase⟩ := of_start h
  · exact nomatch hresult
  obtain rfl := Except.ok.inj hresult
  obtain ⟨shared, hslot, -, rfl⟩ | ⟨hlt, hslot, -, session, -, rfl⟩ := hcase
  · have hnote : (Event.start ⟨name, qtype, control, j⟩ (p.slot? j).isNone).note i log = log := by
      rw [hslot]
      exact if_neg fun hnew => nomatch hnew.2
    rw [hnote]
    by_cases hij : i = j
    · subst hij
      refine htime.keep (fun _ => by rw [hslot]; rfl) fun _ => ?_
      rw [drives_of_slot? hslot, drives_of_slot? (slot?_setSlot_self _ (lt_capacity hslot))]
    · exact htime.same (slot?_setSlot_of_ne hij)
  · unfold Event.note
    dsimp only
    rw [hslot]
    by_cases hij : j = i
    · subst hij
      rw [if_pos ⟨rfl, rfl⟩]
      refine ⟨nofun, fun _ => ?_⟩
      rw [drives_of_slot? (slot?_occupy_self hlt)]
      rfl
    · rw [if_neg fun hnew => hij hnew.1]
      exact htime.same (slot?_occupy_of_ne (Ne.symm hij))

/-- A slot that is asked for is handed out, or its turnstile stays as it is. -/
theorem wait (htime : InTime p i log) (hu : p.Underway) (t : Ticket) (deadline : Instant) :
    InTime (p.wanted t.handle deadline).2.2 i
      ((Event.wait t (p.wanted t.handle deadline).1).note i log) := by
  unfold Event.note
  dsimp only
  by_cases hij : t.handle = i
  · subst hij
    obtain ⟨shared, hslot, hturnstile⟩ | hne := exists_needsWait_or p t.handle
    · obtain ⟨request, hrequest, -, hnew⟩ :=
        wanted_of_waits hslot hturnstile (hu _ _ hslot (.inl hturnstile)) deadline
      rw [hrequest, hnew, if_pos ⟨rfl, rfl⟩]
      refine htime.handOut (by rw [hslot]; rfl) ?_ ?_
      · rw [drives_of_slot? hslot, hturnstile]
        rfl
      · rw [drives_of_slot? (slot?_setSlot_self _ (lt_capacity hslot))]
        rfl
    · rw [wanted_of_ne hne, if_neg fun hhanded => nomatch hhanded.2]
      exact htime
  · rw [if_neg fun hhanded => hij hhanded.1]
    exact htime.same (slot?_wanted_of_ne (Ne.symm hij) deadline)

/-- A session is driven that was handed out, or nothing is. -/
theorem get {ready : Bool} {now : Instant} {g g' : Generator} {exchanges : List Exchange}
    {result : Except PoolError Progress} (htime : InTime p i log)
    (h : Course (p.get t.handle ready now g) exchanges (result, p', g')) :
    InTime p' i ((Event.get t (p.drives t.handle)).note i log) := by
  unfold Event.note
  dsimp only
  by_cases hij : t.handle = i
  · subst hij
    cases hdrives : p.drives t.handle with
    | false =>
      obtain ⟨result', hsame⟩ := get_of_not_drives hdrives _ _ _
      rw [hsame] at h
      obtain ⟨-, -, rfl, -⟩ := course_triple_iff.1 h
      rw [if_neg fun hdrove => nomatch hdrove.2]
      exact htime
    | true =>
      obtain ⟨shared, hslot, -⟩ := drives_eq_true_iff.1 hdrives
      rw [if_pos ⟨rfl, rfl⟩]
      exact htime.drive (by rw [hslot]; rfl) hdrives (drives_of_get h)
  · rw [if_neg fun hdrove => hij hdrove.1]
    exact htime.same (slot?_get_of_ne (Ne.symm hij) h)

/-- A client that leaves takes its query with it, or leaves the turnstile as it is. -/
theorem free (htime : InTime p i log) (j : Handle) : InTime (p.free j) i log := by
  cases hslot : p.slot? j with
  | none =>
    have hsame : p.free j = p := by
      unfold Pool.free
      rw [hslot]
    rw [hsame]
    exact htime
  | some shared =>
    by_cases hij : i = j
    · subst hij
      refine htime.keep (fun _ => by rw [hslot]; rfl) fun hsome => ?_
      obtain ⟨-, hnew⟩ | ⟨-, hnew⟩ := free_cases hslot
      · rw [hnew, slot?_vacate_self (lt_capacity hslot)] at hsome
        exact nomatch hsome
      · rw [hnew, drives_of_slot? hslot,
          drives_of_slot? (slot?_setSlot_self _ (lt_capacity hslot))]
    · obtain ⟨-, hnew⟩ | ⟨-, hnew⟩ := free_cases hslot
      · rw [hnew]
        exact htime.same (slot?_vacate_of_ne hij)
      · rw [hnew]
        exact htime.same (slot?_setSlot_of_ne hij)

end InTime

/-- Every call keeps the time of every slot. -/
theorem Happens.inTime {event : Event} {log : List Beat} (h : Happens p held event p' held')
    (hu : p.Underway) (htime : InTime p i log) : InTime p' i (event.note i log) := by
  cases h with
  | start h => exact htime.start h
  | refuse h =>
    obtain ⟨_, -, rfl⟩ | ⟨_, _, hresult, -⟩ := of_start h
    · exact htime
    · exact nomatch hresult
  | wait ht deadline => exact htime.wait hu _ deadline
  | get ht h => exact htime.get h
  | free ht => exact htime.free _

/-- Calls one after the other keep the time of every slot. -/
theorem Happen.inTime {events : List Event} {log : List Beat}
    (h : Happen p held events p' held') (run : Run capacity policy p held)
    (htime : InTime p i log) : InTime p' i (events.foldl (Event.note i) log) := by
  induction h generalizing log with
  | done => exact htime
  | next h _ ih => exact ih (h.run run) (h.inTime run.underway htime)

/-! ## Iterations -/

/-- The client that asks what to wait for. -/
def Event.asker? : Event → Option Ticket
  | .wait t _ => some t
  | .start _ _ | .refuse | .get _ _ | .free _ => none

/-- The client that lets its session go on. -/
def Event.getter? : Event → Option Ticket
  | .get t _ => some t
  | .start _ _ | .refuse | .wait _ _ | .free _ => none

/-- All calls are of one kind, and every client makes one. -/
structure Everyone (caller? : Event → Option Ticket) (held : List Ticket)
    (events : List Event) : Prop where
  only : ∀ event ∈ events, (caller? event).isSome
  all : ∀ t ∈ held, ∃ event ∈ events, caller? event = some t

/-- A pool that was empty once, after iterations of the event loop in each of which every client
asks what to wait for and then every client lets its session go on. Clients come and go only between
iterations. -/
inductive Iterated (capacity : Nat) (policy : Policy) : Pool → List Ticket → Prop
  | new : Iterated capacity policy (Pool.new capacity policy) []
  | between {p p' : Pool} {held held' : List Ticket} {event : Event}
      (before : Iterated capacity policy p held) (h : Happens p held event p' held')
      (hwait : event.asker? = none) (hget : event.getter? = none) :
      Iterated capacity policy p' held'
  | iteration {p p₁ p' : Pool} {held held₁ held' : List Ticket} {asks gets : List Event}
      (before : Iterated capacity policy p held) (hasks : Happen p held asks p₁ held₁)
      (hallAsk : Everyone Event.asker? held asks) (hgets : Happen p₁ held₁ gets p' held')
      (hallGet : Everyone Event.getter? held gets) : Iterated capacity policy p' held'

/-- Clients that call one after the other are everyone if no one is missing. -/
theorem Everyone.of_map {caller? : Event → Option Ticket} {events : List Event}
    {calls : List Ticket} (h : events.map caller? = calls.map some)
    (hall : ∀ t ∈ held, t ∈ calls) : Everyone caller? held events where
  only event hevent := by
    have hmem : caller? event ∈ calls.map some := h ▸ List.mem_map_of_mem hevent
    obtain ⟨t, -, ht⟩ := List.mem_map.1 hmem
    exact Option.isSome_iff_exists.2 ⟨t, ht.symm⟩
  all t ht := by
    have hmem : some t ∈ events.map caller? := h ▸ List.mem_map_of_mem (hall t ht)
    obtain ⟨event, hevent, hcaller⟩ := List.mem_map.1 hmem
    exact ⟨event, hevent, hcaller⟩

/-- Clients can ask in any order. -/
theorem exists_happen_asks (p : Pool) {calls : List Ticket} (h : ∀ t ∈ calls, t ∈ held) :
    ∃ asks p', Happen p held asks p' held ∧ asks.map Event.asker? = calls.map some := by
  induction calls generalizing p with
  | nil => exact ⟨[], p, .done p held, rfl⟩
  | cons t calls ih =>
    obtain ⟨asks, p', hasks, hmap⟩ := ih (p.wanted t.handle ⟨0⟩).2.2
      fun t' ht' => h t' (List.mem_cons_of_mem _ ht')
    exact ⟨_, p', .next (.wait (h t List.mem_cons_self) ⟨0⟩) hasks, congrArg (some t :: ·) hmap⟩

theorem Happens.held_eq {event : Event} (h : Happens p held event p' held')
    (hcall : (event.asker?).isSome ∨ (event.getter?).isSome) : held' = held := by
  cases h with
  | start | refuse | free => exact nomatch hcall
  | wait | get => rfl

theorem Happen.held_eq {events : List Event} (h : Happen p held events p' held')
    (hcalls : ∀ event ∈ events, (event.asker?).isSome ∨ (event.getter?).isSome) :
    held' = held := by
  induction h with
  | done => rfl
  | next h _ ih =>
    rw [ih fun event hevent => hcalls event (List.mem_cons_of_mem _ hevent),
      h.held_eq (hcalls _ List.mem_cons_self)]

/-- While clients ask, a slot that is not to be handed out is not, and stays as it is. -/
theorem Happen.countP_of_ne {asks : List Event} (h : Happen p held asks p' held')
    (hasks : ∀ event ∈ asks, (event.asker?).isSome)
    (hne : ∀ shared, p.slot? i = some shared → shared.turnstile ≠ .needsWait) :
    asks.countP (·.handsOut i) = 0 := by
  induction h with
  | done => rfl
  | @next p p₁ p' held held₁ held' event events h rest ih =>
    have hask := hasks event List.mem_cons_self
    have hlater := fun e he => hasks e (List.mem_cons_of_mem _ he)
    cases h with
    | start | refuse | get | free => exact nomatch hask
    | @wait t ht deadline =>
      by_cases hij : t.handle = i
      · subst hij
        rw [wanted_of_ne hne] at ih ⊢
        rw [List.countP_cons_of_neg (by simp [Event.handsOut])]
        exact ih hlater hne
      · rw [List.countP_cons_of_neg (by simp [Event.handsOut, hij])]
        refine ih hlater ?_
        rw [slot?_wanted_of_ne (Ne.symm hij) deadline]
        exact hne

/-- While clients ask, a slot that is to be handed out is so once, if some client of it asks. -/
theorem Happen.countP_of_needsWait {asks : List Event} (h : Happen p held asks p' held')
    (hasks : ∀ event ∈ asks, (event.asker?).isSome) (run : Run capacity policy p held)
    (hslot : p.slot? i = some shared) (hturnstile : shared.turnstile = .needsWait)
    (hsome : ∃ event ∈ asks, ∃ t, event.asker? = some t ∧ t.handle = i) :
    asks.countP (·.handsOut i) = 1 := by
  induction h with
  | done =>
    obtain ⟨event, hevent, -⟩ := hsome
    exact nomatch hevent
  | @next p p₁ p' held held₁ held' event events h rest ih =>
    have hask := hasks event List.mem_cons_self
    have hlater := fun e he => hasks e (List.mem_cons_of_mem _ he)
    have run₁ := h.run run
    cases h with
    | start | refuse | get | free => exact nomatch hask
    | @wait t ht deadline =>
      by_cases hij : t.handle = i
      · subst hij
        obtain ⟨request, hrequest, -, hnew⟩ :=
          wanted_of_waits hslot hturnstile (run.underway _ _ hslot (.inl hturnstile)) deadline
        have hhanded : Event.handsOut t.handle (.wait t (p.wanted t.handle deadline).1) = true := by
          simp [Event.handsOut, hrequest]
        rw [List.countP_cons_of_pos hhanded, rest.countP_of_ne hlater]
        intro other hother
        rw [hnew, slot?_setSlot_self _ (lt_capacity hslot)] at hother
        exact Option.some.inj hother ▸ nofun
      · rw [List.countP_cons_of_neg (by simp [Event.handsOut, hij])]
        refine ih hlater run₁ ?_ ?_
        · rw [slot?_wanted_of_ne (Ne.symm hij) deadline]
          exact hslot
        · obtain ⟨other, hother, t', hasker, hhandle⟩ := hsome
          rcases List.mem_cons.1 hother with rfl | hother
          · exact absurd (Option.some.inj hasker ▸ hhandle) hij
          · exact ⟨other, hother, t', hasker, hhandle⟩

/-- While clients let sessions go on, a session is not to go on any more if it was not before or a
client of it has done so. -/
theorem Happen.drives_of_gets {gets : List Event} (h : Happen p held gets p' held')
    (hgets : ∀ event ∈ gets, (event.getter?).isSome)
    (hquiet : p.drives i = false ∨ ∃ event ∈ gets, ∃ t, event.getter? = some t ∧ t.handle = i) :
    p'.drives i = false := by
  induction h with
  | done =>
    rcases hquiet with hquiet | ⟨event, hevent, -⟩
    · exact hquiet
    · exact nomatch hevent
  | @next p p₁ p' held held₁ held' event events h rest ih =>
    have hget := hgets event List.mem_cons_self
    have hlater := fun e he => hgets e (List.mem_cons_of_mem _ he)
    cases h with
    | start | refuse | wait | free => exact nomatch hget
    | @get t _ _ _ _ _ _ _ ht h =>
      refine ih hlater ?_
      by_cases hij : t.handle = i
      · subst hij
        exact .inl (drives_of_get h)
      · rw [drives_congr (slot?_get_of_ne (Ne.symm hij) h)]
        rcases hquiet with hquiet | ⟨other, hother, t', hgetter, hhandle⟩
        · exact .inl hquiet
        · rcases List.mem_cons.1 hother with rfl | hother
          · exact absurd (Option.some.inj hgetter ▸ hhandle) hij
          · exact .inr ⟨other, hother, t', hgetter, hhandle⟩

namespace Iterated

theorem exists_happen (h : Iterated capacity policy p held) :
    ∃ events, Happen (Pool.new capacity policy) [] events p held := by
  induction h with
  | new => exact ⟨[], .done _ _⟩
  | between _ h _ _ ih =>
    obtain ⟨events, hbefore⟩ := ih
    exact ⟨_, hbefore.append (.next h (.done _ _))⟩
  | iteration _ hasks _ hgets _ ih =>
    obtain ⟨events, hbefore⟩ := ih
    exact ⟨_, hbefore.append (hasks.append hgets)⟩

theorem run (h : Iterated capacity policy p held) : Run capacity policy p held := by
  obtain ⟨events, hevents⟩ := h.exists_happen
  exact hevents.run .new

/-- A slot in use has a client that makes its call. -/
theorem exists_call {caller? : Event → Option Ticket} {events : List Event}
    (run : Run capacity policy p held) (hall : Everyone caller? held events)
    (hslot : p.slot? i = some shared) :
    ∃ event ∈ events, ∃ t, caller? event = some t ∧ t.handle = i := by
  have hpos := run.balanced.1.refs_pos i shared hslot
  rw [← refs_of_slot? hslot, run.balanced.1.refs_eq i] at hpos
  obtain ⟨t, ht, hhandle⟩ := List.countP_pos_iff.1 hpos
  obtain ⟨event, hevent, hcaller⟩ := hall.all t ht
  exact ⟨event, hevent, t, hcaller, of_decide_eq_true hhandle⟩

/-- Between iterations no session is to go on. -/
theorem rested (h : Iterated capacity policy p held) (i : Handle) : p.drives i = false := by
  induction h with
  | new => exact drives_new i
  | @between p p' held held' event before h hwait hget ih =>
    -- nothing is noted when clients come and go
    have hnote : event.note i [] = [] := by
      cases event with
      | start => exact ite_self _
      | refuse | free => rfl
      | wait => exact nomatch hwait
      | get => exact nomatch hget
    have htime := h.inTime before.run.underway (InTime.nil_iff.2 ih)
    rw [hnote] at htime
    exact InTime.nil_iff.1 htime
  | @iteration p p₁ p' held held₁ held' asks gets before hasks hallAsk hgets hallGet ih =>
    refine hgets.drives_of_gets hallGet.only ?_
    have hheld := hasks.held_eq fun event hevent => .inl (hallAsk.only event hevent)
    cases hslot : p₁.slot? i with
    | none =>
      unfold drives
      rw [hslot]
      exact .inl rfl
    | some shared => exact .inr (exists_call (hasks.run before.run) (hheld ▸ hallGet) hslot)

/-- In an iteration in which all clients ask, a slot is handed out once until its outcome is known,
and not any more then. -/
theorem countP_handsOut {asks : List Event} (h : Iterated capacity policy p held)
    (hasks : Happen p held asks p₁ held₁) (hall : Everyone Event.asker? held asks)
    (hslot : p.slot? i = some shared) :
    (¬ shared.turnstile.Settled → asks.countP (·.handsOut i) = 1) ∧
      (shared.turnstile.Settled → asks.countP (·.handsOut i) = 0) := by
  have hrested := h.rested i
  rw [drives_of_slot? hslot] at hrested
  refine ⟨fun hopen => ?_, fun hsettled => ?_⟩
  · have hturnstile : shared.turnstile = .needsWait := by
      cases hcase : shared.turnstile with
      | needsWait => rfl
      | needsGet => exact absurd hcase (of_decide_eq_false hrested)
      | answered => exact absurd (.inl hcase) hopen
      | failed => exact absurd (.inr hcase) hopen
    exact hasks.countP_of_needsWait hall.only h.run hslot hturnstile (exists_call h.run hall hslot)
  · refine hasks.countP_of_ne hall.only fun other hother => ?_
    obtain rfl := Option.some.inj (hslot.symm.trans hother)
    rcases hsettled with hturnstile | hturnstile <;> rw [hturnstile] <;> exact nofun

end Iterated

/-- Whatever clients do with a new pool, each slot is handed out and driven in turn from the moment
a query is put into it, beginning with the handing out. What is handed out comes from a session that
waits. A client that lets a session go on drives it only if it was handed out last, and changes
nothing otherwise. If in each iteration all clients ask before all of them let their sessions go on,
then in each iteration a slot is handed out to exactly one of its clients as long as its outcome is
not known, and to none once it is, in whatever order they call. -/
theorem descriptors_alternate (capacity : Nat) (policy : Policy) :
    (∀ events p held, Happen (Pool.new capacity policy) [] events p held → ∀ i,
      Alternates (beats i events) ∧
      (p.drives i = true → (beats i events).getLast? = some .handedOut ∧
        ∃ shared, p.slot? i = some shared ∧ ∀ ready now g, p.get i ready now g =
          (shared.session.get ready now g).bind fun turn =>
            .done (turn.1.mapError .session, p.settle i shared turn)) ∧
      (p.drives i = false →
        ∀ ready now g, ∃ result, p.get i ready now g = .done (result, p, g)) ∧
      ∀ deadline request, (p.wanted i deadline).1 = some request →
        ∃ shared, p.slot? i = some shared ∧ shared.session.Waits ∧
          (shared.session.wanted deadline).1 = some request) ∧
    ∀ p held, Iterated capacity policy p held →
      (∃ events, Happen (Pool.new capacity policy) [] events p held) ∧
      ∀ asks p₁ held₁, Happen p held asks p₁ held₁ → Everyone Event.asker? held asks →
        ∀ i shared, p.slot? i = some shared →
          (¬ shared.turnstile.Settled → asks.countP (·.handsOut i) = 1) ∧
          (shared.turnstile.Settled → asks.countP (·.handsOut i) = 0) := by
  refine ⟨fun events p held h i => ?_, fun p held h => ⟨h.exists_happen, ?_⟩⟩
  · have htime : InTime p i (beats i events) :=
      h.inTime .new (InTime.nil_iff.2 (drives_new i))
    refine ⟨htime.alternates, fun hdrives => ⟨htime.getLast?_eq hdrives, get_of_drives hdrives⟩,
      get_of_not_drives, ?_⟩
    intro deadline request hrequest
    obtain ⟨shared, hslot, hturnstile⟩ | hne := exists_needsWait_or p i
    · have hwaits := (h.run .new).underway i shared hslot (.inl hturnstile)
      obtain ⟨request', hwanted, hsession, -⟩ := wanted_of_waits hslot hturnstile hwaits deadline
      obtain rfl := Option.some.inj (hrequest.symm.trans hwanted)
      exact ⟨shared, hslot, hwaits, hsession⟩
    · rw [wanted_of_ne hne] at hrequest
      exact nomatch hrequest
  · exact fun asks p₁ held₁ hasks hall i shared hslot => h.countP_handsOut hasks hall hslot

/-- Two clients of one query ask, in either order: one of them is handed its socket. -/
theorem descriptors_alternate_pair :
    ∃ p first second, Iterated 1 ⟨53, .localhost, #v[1, 1, 1, 1], 0, 0⟩ p [second, first] ∧
      first.handle = 0 ∧ second.handle = 0 ∧ ∀ calls : List Ticket, calls.Perm [first, second] →
      ∃ asks p₁, Happen p [second, first] asks p₁ [second, first] ∧
        asks.map Event.asker? = calls.map some ∧ asks.countP (·.handsOut 0) = 1 := by
  obtain ⟨_, _, p₁, p, _, _, _, _, hstart, hjoin, hslot⟩ := exists_start_two
  have hiterated : Iterated 1 _ p [⟨[1, 65, 0], 1, [0], 0⟩, ⟨[1, 97, 0], 1, [0], 0⟩] :=
    .between (.between .new (.start hstart) rfl rfl) (.start hjoin) rfl rfl
  refine ⟨p, _, _, hiterated, rfl, rfl, fun calls hcalls => ?_⟩
  have hperm := hcalls.trans (.swap ..)
  obtain ⟨asks, p₂, hasks, hmap⟩ := exists_happen_asks p fun t ht => hperm.mem_iff.1 ht
  have hall := Everyone.of_map hmap fun t ht => hperm.mem_iff.2 ht
  have hopen : ¬ Turnstile.Settled .needsWait := by
    rintro (h | h) <;> exact nomatch h
  exact ⟨asks, p₂, hasks, hmap,
    (((descriptors_alternate 1 _).2 p _ hiterated).2 asks p₂ _ hasks hall 0 _ hslot).1 hopen⟩

end Resolver.Pool
