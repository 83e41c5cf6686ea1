import Resolver.Session.Basic

/-!
# Sharing queries

Clients that ask for the same name, type and zone at the same time share one session. A pool has a
fixed number of slots, each with a session and the number of handles on it. In one iteration of the
event loop only the first client to ask gets the socket to wait for; once the outcome is known every
holder of the slot sees it.
-/

namespace Resolver

/-- What makes two queries the same: the name and the controlling zone in lower case, and the
type. -/
structure PoolKey where
  name : Bytes
  qtype : UInt16
  control : Bytes
  deriving DecidableEq, Repr

/-- What the clients of a slot may do next. -/
inductive Turnstile
  /-- The session gave up. -/
  | failed
  /-- The socket is to be handed out. -/
  | needsWait
  /-- The socket is handed out and the session is to go on. -/
  | needsGet
  /-- The reply is there. -/
  | answered
  deriving DecidableEq, Repr

/-- A session with the clients that share it. -/
structure SharedQuery where
  key : PoolKey
  session : Session
  /-- The number of handles. -/
  refs : Nat
  turnstile : Turnstile
  deriving DecidableEq, Repr

/-- A handle: the number of a slot. -/
abbrev Handle := Nat

/-- Why a pool gives no reply. -/
inductive PoolError
  /-- All slots, so many, are in use. -/
  | full (capacity : Nat)
  | session (cause : Failure)
  deriving DecidableEq, Repr

/-- The wording of a pool's error. -/
def PoolError.message : PoolError → String
  | .full capacity => s!"all {capacity} merge slots are in use"
  | .session cause => cause.message

/-- A pool of shared sessions. -/
structure Pool where
  policy : Policy
  slots : List (Option SharedQuery)
  /-- The slot of each key in use. -/
  index : List (PoolKey × Handle)
  deriving DecidableEq, Repr

namespace Pool

/-! ## Slots and keys -/

/-- An empty pool. -/
def new (capacity : Nat) (policy : Policy) : Pool :=
  ⟨policy, List.replicate capacity none, []⟩

/-- The number of slots. -/
def capacity (p : Pool) : Nat :=
  p.slots.length

/-- The number of slots in use. -/
def inFlight (p : Pool) : Nat :=
  p.index.length

/-- What a handle's slot holds. -/
def slot? (p : Pool) (h : Handle) : Option SharedQuery :=
  (p.slots[h]?).join

/-- The slot of a key. -/
def find? (p : Pool) (key : PoolKey) : Option Handle :=
  p.index.lookup key

/-- The pool with other contents in one slot. -/
def setSlot (p : Pool) (h : Handle) (contents : Option SharedQuery) : Pool :=
  { p with slots := p.slots.set h contents }

/-- The key of a query; none if a name is not valid. -/
def key? (name : Bytes) (qtype : UInt16) (control : Bytes) : Option PoolKey := do
  let name ← Name.lower? name
  let control ← Name.lower? control
  return ⟨name, qtype, control⟩

/-- The slot in use for a key, with its contents. -/
def sharer? (p : Pool) (key : PoolKey) : Option (Handle × SharedQuery) := do
  let h ← p.find? key
  let shared ← p.slot? h
  return (h, shared)

/-! ## What clients do -/

/-- Joins the query in flight for this name, type and zone, or starts one in the first free
slot. -/
def start (p : Pool) (servers : Servers) (recursive : Bool) (name : Bytes) (qtype : UInt16)
    (control : Bytes) (g : Generator) : Dialogue (Except PoolError Handle × Pool × Generator) :=
  match key? name qtype control with
  | none => return (.error (.session .badName), p, g)
  | some key =>
    match p.sharer? key with
    | some (h, shared) =>
      return (.ok h, p.setSlot h (some { shared with refs := shared.refs + 1 }), g)
    | none =>
      match p.slots.findIdx? (·.isNone) with
      | none => return (.error (.full p.capacity), p, g)
      | some h => do
        let (result, session, g) ← (Session.new p.policy).start servers recursive name qtype g
        match result with
        | .error cause => return (.error (.session cause), p, g)
        | .ok () =>
          let p := p.setSlot h (some ⟨key, session, 1, .needsWait⟩)
          return (.ok h, { p with index := (key, h) :: p.index.filter (·.1 ≠ key) }, g)

/-- What to wait for on behalf of a handle, for the first client of its slot to ask in this
iteration. -/
def wanted (p : Pool) (h : Handle) (deadline : Instant) :
    Option (Socket × Interest) × Instant × Pool :=
  match p.slot? h with
  | none => (none, deadline, p)
  | some shared =>
    if shared.turnstile = .needsWait then
      let (request, deadline) := shared.session.wanted deadline
      (request, deadline, p.setSlot h (some { shared with turnstile := .needsGet }))
    else (none, deadline, p)

/-- Lets the session of a handle go on, if its socket was handed out in this iteration, and tells
how it stands. -/
def get (p : Pool) (h : Handle) (ready : Bool) (now : Instant) (g : Generator) :
    Dialogue (Except PoolError Progress × Pool × Generator) :=
  match p.slot? h with
  | none => return (.error (.session .noQuery), p, g)
  | some shared =>
    match shared.turnstile with
    | .failed => return (.error (.session .exhausted), p, g)
    | .needsWait => return (.ok .pending, p, g)
    | .answered => return (.ok .done, p, g)
    | .needsGet => do
      let (result, session, g) ← shared.session.get ready now g
      let turnstile := match result with
        | .ok .pending => Turnstile.needsWait
        | .ok .done => .answered
        | .error _ => .failed
      let p := p.setSlot h (some { shared with session := session, turnstile := turnstile })
      return (result.mapError .session, p, g)

/-- The reply that every holder of a handle's slot sees. -/
def reply? (p : Pool) (h : Handle) : Option Bytes :=
  (p.slot? h).bind (·.session.reply?)

/-- The number of handles on a handle's slot. -/
def refs (p : Pool) (h : Handle) : Nat :=
  (p.slot? h).elim 0 (·.refs)

/-- Gives a handle back; with the last one the session ends and its slot is free. -/
def free (p : Pool) (h : Handle) : Pool :=
  match p.slot? h with
  | none => p
  | some shared =>
    if shared.refs - 1 = 0 then
      { p.setSlot h none with index := p.index.filter (·.1 ≠ shared.key) }
    else p.setSlot h (some { shared with refs := shared.refs - 1 })

end Pool

end Resolver
