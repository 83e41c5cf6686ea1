import Resolver.Clock
import Resolver.Net.Address
import Resolver.OsError

/-!
# Talking to the network

What the library asks of the operating system, and in which order, is a value: a `Dialogue` asks
one question after another, each depending on the answers before it, and ends with a result. It
says nothing about where the answers come from, so a statement about every dialogue path is a
statement about every behaviour of the network and of the clock.

Sockets never block: a request that cannot be met at once is answered with `blocked`. An answer is
what is left in the end where a call is made again because a signal interrupted it. Answers are not
restricted any further, so a statement about all of them also covers causes of failure that no system
gives.

Main statements: dialogues obey the laws of a monad, and a dialogue continued with its result runs
(`run_bind`) and takes its course (`course_bind_iff`) part by part.
-/

namespace Resolver

/-- The two ways messages travel. -/
inductive Transport
  | udp
  | tcp
  deriving DecidableEq, Repr

/-- A socket, as the operating system numbers it. -/
abbrev Socket := Nat

/-- What a socket is to be waited for. -/
inductive Interest
  | read
  | write
  deriving DecidableEq, Repr

/-- The outcome of moving data over a socket. Calls that a signal interrupts are made again until
they are not, and one that would have to wait is `blocked`, so no cause that comes with `failed` is of
these two kinds (the codes 4 and 11). -/
inductive Transfer (α : Type)
  /-- Nothing can be moved yet. -/
  | blocked
  | failed (cause : OsError)
  | moved (result : α)

/-- The outcome of connecting a socket. A call that was interrupted or would have to wait leaves the
connection in progress, so no cause that comes with `failed` is of these kinds (the codes 4, 11 and
115). -/
inductive Connection
  | connected
  /-- The connection is still being made. -/
  | inProgress
  | failed (cause : OsError)
  deriving DecidableEq, Repr

/-- A question to the operating system. -/
inductive Call
  /-- Grant memory for a block of so many bytes; the answer is whether it is granted. -/
  | allocate (size : Nat)
  /-- What does the monotonic clock read? -/
  | now
  /-- What time of day is it? That clock may be set in between. -/
  | wallClock
  /-- Open a socket. -/
  | openSocket (transport : Transport)
  /-- Give a socket a local address; port 0 leaves the choice of port to the system. -/
  | bind (socket : Socket) (ip : Ipv4) (port : UInt16)
  /-- Connect a socket to an address. -/
  | connect (socket : Socket) (ip : Ipv4) (port : UInt16)
  /-- Has the connection of a socket been made? -/
  | isConnected (socket : Socket)
  /-- Send bytes; the answer is how many were taken. -/
  | send (socket : Socket) (bytes : Bytes)
  /-- Receive up to `space` bytes. A datagram is received whole, its end cut off if there is too
  little space; no bytes mean an empty datagram or the end of a stream. -/
  | receive (socket : Socket) (space : Nat)
  /-- Wait until a socket is ready or a deadline has passed; the answer is whether it is ready. -/
  | await (socket : Socket) (interest : Interest) (deadline : Instant)

/-- The answers to a question. Of what is offered no more is taken, and no more is received than
there is space for. -/
abbrev Call.Reply : Call → Type
  | .allocate _ => Bool
  | .now => Instant
  | .wallClock => Tai64
  | .openSocket _ => Except OsError Socket
  | .bind _ _ _ => Except OsError Unit
  | .connect _ _ _ => Connection
  | .isConnected _ => Bool
  | .send _ bytes => Transfer { n : Nat // n ≤ bytes.length }
  | .receive _ space => Transfer { bytes : Bytes // bytes.length ≤ space }
  | .await _ _ _ => Except OsError Bool

/-- A finite talk with the operating system that ends with an `α`. -/
inductive Dialogue (α : Type) : Type
  | done (result : α)
  | ask (call : Call) (next : call.Reply → Dialogue α)

namespace Dialogue

/-- A dialogue continued with its result. -/
def bind {α β : Type} : Dialogue α → (α → Dialogue β) → Dialogue β
  | .done a, f => f a
  | .ask call next, f => .ask call fun reply => (next reply).bind f

instance : Monad Dialogue where
  pure := .done
  bind := .bind

/-- The dialogue that asks one question. -/
def call (c : Call) : Dialogue c.Reply :=
  .ask c .done

/-- A question with its answer. -/
abbrev Exchange := (c : Call) × c.Reply

/-- The result of a dialogue with a system in a given state, and the state it leaves behind. -/
def run {σ : Type} (answer : (c : Call) → σ → c.Reply × σ) : Dialogue α → σ → α × σ
  | .done a, s => (a, s)
  | .ask c next, s =>
    let (reply, s) := answer c s
    (next reply).run answer s

/-- A dialogue takes a course: it asks the questions listed, gets the answers listed with them and
ends with the result. -/
inductive Course {α : Type} : Dialogue α → List Exchange → α → Prop
  | done (a : α) : Course (.done a) [] a
  | ask {c : Call} {next : c.Reply → Dialogue α} (reply : c.Reply) {rest : List Exchange} {a : α}
      (h : Course (next reply) rest a) : Course (.ask c next) (⟨c, reply⟩ :: rest) a

@[simp]
theorem bind_done {α β : Type} (a : α) (f : α → Dialogue β) : (done a).bind f = f a := rfl

theorem bind_done_right {α : Type} (d : Dialogue α) : d.bind done = d := by
  induction d with
  | done => rfl
  | ask call next ih => exact congrArg (ask call) (funext ih)

theorem bind_assoc {α β γ : Type} (d : Dialogue α) (f : α → Dialogue β) (g : β → Dialogue γ) :
    (d.bind f).bind g = d.bind fun a => (f a).bind g := by
  induction d with
  | done => rfl
  | ask call next ih => exact congrArg (ask call) (funext ih)

instance : LawfulMonad Dialogue :=
  LawfulMonad.mk' Dialogue bind_done_right (fun _ _ => rfl) bind_assoc

/-- A dialogue continued with its result goes on in the state the first part leaves behind. -/
theorem run_bind {α β σ : Type} (answer : (c : Call) → σ → c.Reply × σ) (d : Dialogue α)
    (f : α → Dialogue β) (s : σ) :
    (d.bind f).run answer s = (f (d.run answer s).1).run answer (d.run answer s).2 := by
  induction d generalizing s with
  | done => rfl
  | ask call next ih => exact ih _ _

/-- The courses of a dialogue continued with its result are those of the first part, each followed
by a course of the second. -/
theorem course_bind_iff {α β : Type} {d : Dialogue α} {f : α → Dialogue β}
    {exchanges : List Exchange} {b : β} :
    Course (d.bind f) exchanges b ↔
      ∃ a first second, exchanges = first ++ second ∧ Course d first a ∧ Course (f a) second b := by
  constructor
  · intro h
    induction d generalizing exchanges with
    | done a => exact ⟨a, [], exchanges, rfl, .done a, h⟩
    | ask call next ih =>
      cases h with
      | ask reply h =>
        obtain ⟨a, first, second, rfl, h1, h2⟩ := ih reply h
        exact ⟨a, _, second, rfl, .ask reply h1, h2⟩
  · rintro ⟨a, first, second, rfl, h1, h2⟩
    induction h1 with
    | done => exact h2
    | ask reply _ ih => exact .ask reply (ih h2)

end Dialogue

end Resolver
