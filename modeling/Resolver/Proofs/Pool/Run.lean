import Resolver.Proofs.Pool.Slots
import Resolver.Proofs.Session.Errand

/-!
# Clients of a pool

Clients start queries, ask for sockets, let sessions go on and give handles back, in any order. A
handle that is given out and not given back yet is kept as a ticket, with what was asked for.

Main statements: what one step does to a slot (`Step.passes`), and that two clients can share one
(`exists_run_pair`).
-/

namespace Resolver.Pool

open Dialogue

variable {capacity : Nat} {policy : Policy} {p p' : Pool} {i j : Handle} {key : PoolKey}
  {shared : SharedQuery} {contents : Option SharedQuery}

/-- A handle that was given out, with what it was asked for. -/
structure Ticket where
  name : Bytes
  qtype : UInt16
  control : Bytes
  handle : Handle
  deriving DecidableEq, Repr

/-- The key of what a ticket was asked for. -/
def Ticket.key? (t : Ticket) : Option PoolKey :=
  Pool.key? t.name t.qtype t.control

variable {t : Ticket} {held held' : List Ticket} {returned : Option Ticket}

/-! ## Runs -/

/-- What one client does next: the handle it gives back, if it does that, and the pool and the
tickets after it. A client uses a handle only as long as it has it. -/
inductive Step (p : Pool) (held : List Ticket) : Option Ticket → Pool → List Ticket → Prop
  | start {servers : Servers} {recursive : Bool} {name control : Bytes} {qtype : UInt16}
      {g g' : Generator} {exchanges : List Exchange} {i : Handle} {p' : Pool}
      (h : Course (p.start servers recursive name qtype control g) exchanges (.ok i, p', g')) :
      Step p held none p' (⟨name, qtype, control, i⟩ :: held)
  | refuse {servers : Servers} {recursive : Bool} {name control : Bytes} {qtype : UInt16}
      {g g' : Generator} {exchanges : List Exchange} {cause : PoolError} {p' : Pool}
      (h : Course (p.start servers recursive name qtype control g) exchanges
        (.error cause, p', g')) :
      Step p held none p' held
  | wait {t : Ticket} (ht : t ∈ held) (deadline : Instant) :
      Step p held none (p.wanted t.handle deadline).2.2 held
  | get {t : Ticket} {ready : Bool} {now : Instant} {g g' : Generator}
      {exchanges : List Exchange} {result : Except PoolError Progress} {p' : Pool} (ht : t ∈ held)
      (h : Course (p.get t.handle ready now g) exchanges (result, p', g')) :
      Step p held none p' held
  | free {t : Ticket} (ht : t ∈ held) : Step p held (some t) (p.free t.handle) (held.erase t)

/-- A pool that was empty once, after some steps of its clients, with the tickets they have. -/
inductive Run (capacity : Nat) (policy : Policy) : Pool → List Ticket → Prop
  | new : Run capacity policy (Pool.new capacity policy) []
  | step {p p' : Pool} {held held' : List Ticket} {returned : Option Ticket}
      (run : Run capacity policy p held) (h : Step p held returned p' held') :
      Run capacity policy p' held'

/-! ## One slot -/

/-- What one step does to one slot. -/
inductive Passes : Option SharedQuery → Option SharedQuery → Prop
  | stays (contents : Option SharedQuery) : Passes contents contents
  | opens {policy : Policy} {servers : Servers} {recursive : Bool} {name : Bytes} {qtype : UInt16}
      {g g' : Generator} {exchanges : List Exchange} {session : Session} (key : PoolKey)
      (h : Course ((Session.new policy).start servers recursive name qtype g) exchanges
        (.ok (), session, g')) :
      Passes none (some ⟨key, session, 1, .needsWait⟩)
  | joins (shared : SharedQuery) :
      Passes (some shared) (some { shared with refs := shared.refs + 1 })
  | waits {shared : SharedQuery} (hturnstile : shared.turnstile = .needsWait) :
      Passes (some shared) (some { shared with turnstile := .needsGet })
  | goesOn {shared : SharedQuery} {ready : Bool} {now : Instant} {g g' : Generator}
      {exchanges : List Exchange} {outcome : Except Failure Progress} {session : Session}
      (hturnstile : shared.turnstile = .needsGet)
      (h : Course (shared.session.get ready now g) exchanges (outcome, session, g')) :
      Passes (some shared) (some { shared with session := session, turnstile := .after outcome })
  | leaves (shared : SharedQuery) :
      Passes (some shared) (some { shared with refs := shared.refs - 1 })
  | closes (shared : SharedQuery) : Passes (some shared) none

/-- Where one slot changes, the others stay as they are. -/
theorem passes_setSlot (hlt : j < p.capacity) (h : Passes (p.slot? j) contents) :
    (p.setSlot j contents).capacity = p.capacity ∧
      ∀ i, Passes (p.slot? i) ((p.setSlot j contents).slot? i) := by
  refine ⟨capacity_setSlot, fun i => ?_⟩
  by_cases hi : i = j
  · rw [hi, slot?_setSlot_self _ hlt]
    exact h
  · rw [slot?_setSlot_of_ne hi]
    exact .stays _

/-- A slot in use changes. -/
theorem passes_replace (hslot : p.slot? j = some shared) (h : Passes (some shared) contents) :
    (p.setSlot j contents).capacity = p.capacity ∧
      ∀ i, Passes (p.slot? i) ((p.setSlot j contents).slot? i) :=
  passes_setSlot (lt_capacity hslot) (hslot ▸ h)

/-- No step changes the number of slots, and each slot changes by one step of its own at most. -/
theorem Step.passes (h : Step p held returned p' held') :
    p'.capacity = p.capacity ∧ ∀ i, Passes (p.slot? i) (p'.slot? i) := by
  have hsame : p.capacity = p.capacity ∧ ∀ i, Passes (p.slot? i) (p.slot? i) :=
    ⟨rfl, fun _ => .stays _⟩
  cases h with
  | refuse h | start h =>
    obtain ⟨_, -, rfl⟩ |
      ⟨j, key, -, -, ⟨shared, hslot, -, rfl⟩ | ⟨hlt, hslot, -, session, hsession, rfl⟩⟩ := of_start h
    · exact hsame
    · exact passes_replace hslot (.joins shared)
    · exact passes_setSlot hlt (hslot ▸ .opens key hsession)
  | @wait t ht deadline =>
    obtain hnew | ⟨shared, hslot, hturnstile, hnew⟩ :=
      wanted_cases (p := p) (i := t.handle) deadline
    · rw [hnew]
      exact hsame
    · rw [hnew]
      exact passes_replace hslot (.waits hturnstile)
  | get ht h =>
    obtain rfl | ⟨shared, hslot, hturnstile, outcome, session, hsession, rfl⟩ := of_get h
    · exact hsame
    · exact passes_replace hslot (.goesOn hturnstile hsession)
  | @free t ht =>
    cases hslot : p.slot? t.handle with
    | none =>
      unfold Pool.free
      rw [hslot]
      exact hsame
    | some shared =>
      obtain ⟨-, hnew⟩ | ⟨-, hnew⟩ := free_cases hslot
      · rw [hnew]
        exact passes_replace hslot (.closes shared)
      · rw [hnew]
        exact passes_replace hslot (.leaves shared)

/-! ## Getting going -/

/-- A query for a new key goes out if there is a free slot and the first server takes it. -/
theorem exists_occupy {servers : Servers} {recursive : Bool} {name control : Bytes}
    {qtype : UInt16} {length : Nat} {rest : List Servers.Target} {deadline : Instant}
    (target : Servers.Target) (socket : Socket) (now : Instant) (g : Generator)
    (hkey : key? name qtype control = some key) (hsharer : p.sharer? key = none)
    (hfree : p.slots.findIdx? (·.isNone) = some i) (hlength : Name.length? name = some length)
    (hschedule : servers.schedule (Session.firstRound recursive) 0 = target :: rest)
    (hdeadline : now.add? (p.policy.udpTimeout target.round) = some deadline) :
    ∃ exchanges g', Course (p.start servers recursive name qtype control g) exchanges
      (.ok i, p.occupy i ⟨key, ⟨p.policy, target.round, target.slot, deadline,
        .waiting ⟨Session.errandQuery recursive name qtype, servers, g.id.1⟩
          (.awaitingDatagram socket)⟩, 1, .needsWait⟩, g') := by
  obtain ⟨exchanges, g', hstart⟩ : ∃ exchanges g',
      Course ((Session.new p.policy).start servers recursive name qtype g) exchanges
        (.ok (), _, g') := Session.exists_start target socket now g hlength hschedule hdeadline
  unfold start
  rw [hkey]
  dsimp only
  rw [hsharer]
  dsimp only
  rw [hfree]
  exact ⟨_, _, course_seq_iff.2 ⟨_, _, _, rfl, hstart, .done _⟩⟩

/-- A query for a key in use joins in, and the system is asked nothing. -/
theorem course_start_of_sharer? {name control : Bytes} {qtype : UInt16} (servers : Servers)
    (recursive : Bool) (g : Generator) (hkey : key? name qtype control = some key)
    (hsharer : p.sharer? key = some (i, shared)) :
    Course (p.start servers recursive name qtype control g) []
      (.ok i, p.setSlot i (some { shared with refs := shared.refs + 1 }), g) := by
  unfold start
  rw [hkey]
  dsimp only
  rw [hsharer]
  exact .done _

/-- Two clients that ask for the same query are given the first slot of a new pool. -/
theorem exists_start_pair {servers : Servers} {recursive : Bool} {name name' control control' : Bytes}
    {qtype : UInt16} {length : Nat} {rest : List Servers.Target} {deadline : Instant}
    (capacity : Nat) (target : Servers.Target) (socket : Socket) (now : Instant) (g : Generator)
    (hkey : key? name qtype control = some key) (hkey' : key? name' qtype control' = some key)
    (hlength : Name.length? name = some length)
    (hschedule : servers.schedule (Session.firstRound recursive) 0 = target :: rest)
    (hdeadline : now.add? (policy.udpTimeout target.round) = some deadline) :
    ∃ exchanges exchanges' p₁ p g₁ g₂,
      Course ((Pool.new (capacity + 1) policy).start servers recursive name qtype control g)
        exchanges (.ok 0, p₁, g₁) ∧
      Course (p₁.start servers recursive name' qtype control' g₁) exchanges' (.ok 0, p, g₂) ∧
      p.slot? 0 = some ⟨key, ⟨policy, target.round, target.slot, deadline,
        .waiting ⟨Session.errandQuery recursive name qtype, servers, g.id.1⟩
          (.awaitingDatagram socket)⟩, 2, .needsWait⟩ := by
  obtain ⟨_, g', hstart⟩ := exists_occupy (p := Pool.new (capacity + 1) policy) (i := 0) target
    socket now g hkey rfl rfl hlength hschedule hdeadline
  have hsharer : ∀ session, ((Pool.new (capacity + 1) policy).occupy 0
      ⟨key, session, 1, .needsWait⟩).sharer? key = some (0, ⟨key, session, 1, .needsWait⟩) :=
    fun session => Option.bind_eq_some_iff.2 ⟨0, find?_occupy.trans (if_pos rfl), rfl⟩
  have hjoin := fun session =>
    course_start_of_sharer? servers recursive g' hkey' (hsharer session)
  exact ⟨_, _, _, _, _, _, hstart, hjoin _, rfl⟩

/-- Two clients that ask for the same query share the first slot of a new pool. -/
theorem exists_run_pair {servers : Servers} {recursive : Bool} {name name' control control' : Bytes}
    {qtype : UInt16} {length : Nat} {rest : List Servers.Target} {deadline : Instant}
    (capacity : Nat) (target : Servers.Target) (socket : Socket) (now : Instant) (g : Generator)
    (hkey : key? name qtype control = some key) (hkey' : key? name' qtype control' = some key)
    (hlength : Name.length? name = some length)
    (hschedule : servers.schedule (Session.firstRound recursive) 0 = target :: rest)
    (hdeadline : now.add? (policy.udpTimeout target.round) = some deadline) :
    ∃ p, Run (capacity + 1) policy p [⟨name', qtype, control', 0⟩, ⟨name, qtype, control, 0⟩] ∧
      p.slot? 0 = some ⟨key, ⟨policy, target.round, target.slot, deadline,
        .waiting ⟨Session.errandQuery recursive name qtype, servers, g.id.1⟩
          (.awaitingDatagram socket)⟩, 2, .needsWait⟩ := by
  obtain ⟨_, _, p₁, p, _, _, hstart, hjoin, hslot⟩ :=
    exists_start_pair capacity target socket now g hkey hkey' hlength hschedule hdeadline
  exact ⟨p, .step (.step .new (.start hstart)) (.start hjoin), hslot⟩

end Resolver.Pool
