import Resolver.Proofs.Session.Lockstep

/-!
# The life of a session

Whoever has a session may start queries, let it go on, ask what it waits for, take its reply and
free it, in any order, and the system may answer anything.

Main statements: field by field, a session comes to what a `Session` comes to
(`Transmission.exists_reaches`). Between operations it rests with an empty buffer or has the query
it was started with in flight, every access of the next operation is in range, and a failure leaves
nothing behind (`Transmission.reaches_lifecycle`).
-/

namespace Resolver

open Dialogue

/-! ## Operations -/

/-- What is done with a session: what is passed, what is exchanged with the system and what comes of
it. -/
inductive Session.Operation
  | start (servers : Servers) (recursive : Bool) (name : Bytes) (qtype : UInt16) (g : Generator)
    (exchanges : List Exchange) (result : Except Failure Unit) (g' : Generator)
  | get (ready : Bool) (now : Instant) (g : Generator) (exchanges : List Exchange)
    (result : Except Failure Progress) (g' : Generator)
  | wanted (deadline : Instant) (answer : Option (Socket × Interest) × Instant)
  | takeReply (reply : Option Bytes)
  | free

/-- The query that was started last and the servers that are asked, the last operation being the
first of the list. -/
def Session.asked : List Session.Operation → Option (Query × Servers)
  | [] => none
  | .start servers recursive name qtype _ _ _ _ :: _ =>
    some (Session.errandQuery recursive name qtype, servers)
  | .get .. :: earlier | .wanted .. :: earlier | .takeReply _ :: earlier | .free :: earlier =>
    Session.asked earlier

/-- What a session is after an operation. -/
def Session.Does (s : Session) : Session.Operation → Session → Prop
  | .start servers recursive name qtype g exchanges result g', s' =>
    Course (s.start servers recursive name qtype g) exchanges (result, s', g')
  | .get ready now g exchanges result g', s' =>
    Course (s.get ready now g) exchanges (result, s', g')
  | .wanted deadline answer, s' => s.wanted deadline = answer ∧ s' = s
  | .takeReply reply, s' => s.takeReply = (reply, s')
  | .free, s' => s' = s.free

/-- What a session is after an operation, field by field. -/
def Transmission.Does (t : Transmission) : Session.Operation → Transmission → Prop
  | .start servers recursive name qtype g exchanges result g', t' =>
    Course (t.start servers recursive name qtype g) exchanges (some (result, t', g'))
  | .get ready now g exchanges result g', t' =>
    Course (t.get ready now g) exchanges (some (result, t', g'))
  | .wanted deadline answer, t' => t.wanted deadline = answer ∧ t' = t
  | .takeReply reply, t' => t.takeReply = (reply, t')
  | .free, t' => t' = t.free

/-- What is come to by operations, the last of them being the first of the list. -/
inductive Session.Reaches {σ : Type} (Does : σ → Session.Operation → σ → Prop) (first : σ) :
    List Session.Operation → σ → Prop
  | refl : Reaches Does first [] first
  | step {operations : List Session.Operation} {operation : Session.Operation} {s s' : σ}
      (run : Reaches Does first operations s) (h : Does s operation s') :
      Reaches Does first (operation :: operations) s'

namespace Transmission

open Session (Operation Reaches asked)

variable {t t' : Transmission} {s : Session} {attempt : Attempt} {wire : Wire} {policy : Policy}
  {operation : Operation} {operations : List Operation}

/-! ## Plain operations in step -/

theorem represents_new (policy : Policy) (now : Instant) :
    (new policy now).Represents (Session.new policy) where
  policy_eq := rfl
  round_eq := rfl
  slot_eq := rfl
  idle _ hstage := ⟨rfl, rfl, Stage.idle.inj hstage⟩
  waiting _ _ hstage := nomatch hstage

theorem Represents.free (h : t.Represents s) : t.free.Represents s.free where
  policy_eq := h.policy_eq
  round_eq := h.round_eq
  slot_eq := h.slot_eq
  idle _ hstage := ⟨rfl, rfl, Stage.idle.inj hstage⟩
  waiting _ _ hstage := nomatch hstage

theorem State.request?_eq {state : State} (h : state.wire? = some wire) :
    state.request? = some (wire.socket, wire.interest) := by
  cases state with
  | idle => exact nomatch h
  | _ =>
    obtain rfl := Option.some.inj h
    rfl

/-- Both name the same socket and the same deadline. -/
theorem Represents.wanted_eq (h : t.Represents s) (deadline : Instant) :
    t.wanted deadline = s.wanted deadline := by
  unfold wanted Session.wanted
  cases hstage : s.stage with
  | idle reply =>
    obtain ⟨hidle, -, -⟩ := h.idle reply hstage
    rw [hidle]
    rfl
  | waiting attempt wire =>
    obtain ⟨hflight, hdeadline⟩ := h.waiting attempt wire hstage
    rw [State.request?_eq hflight.wire_eq, hdeadline]

/-- Both have the same reply to take. -/
theorem Represents.takeReply (h : t.Represents s) :
    t.takeReply.1 = s.takeReply.1 ∧ t.takeReply.2.Represents s.takeReply.2 := by
  unfold Transmission.takeReply Session.takeReply
  cases hstage : s.stage with
  | idle reply =>
    obtain ⟨hidle, hquery, hpacket⟩ := h.idle reply hstage
    refine ⟨hpacket, h.policy_eq, h.round_eq, h.slot_eq, ?_, nofun⟩
    intro left hleft
    exact ⟨hidle, hquery, Stage.idle.inj hleft⟩
  | waiting attempt wire =>
    have hpacket := (h.waiting attempt wire hstage).1.aimed.asks.packet_eq
    have hsame : { t with packet := none } = t := by rw [← hpacket]
    rw [hpacket, hsame]
    exact ⟨rfl, h⟩

/-! ## Runs in step -/

/-- What a session is after an operation stands for what a `Session` is after it. -/
theorem exists_does (h : t.Represents s) (hasked : s.Concerns (asked operations))
    (hdoes : t.Does operation t') :
    ∃ s', s.Does operation s' ∧ t'.Represents s' ∧
      s'.Concerns (asked (operation :: operations)) := by
  cases operation with
  | start servers recursive name qtype g exchanges result g' =>
    obtain ⟨y, hcourse, t₁, hx, hcomes⟩ :=
      (lockstep_start h servers recursive name qtype g).exists_course hdoes
    obtain ⟨rfl, rfl, rfl⟩ : result = y.1 ∧ t' = t₁ ∧ g' = y.2.2 := by
      simpa only [Option.some.injEq, Prod.mk.injEq] using hx
    exact ⟨y.2.1, hcourse, hcomes.represents, hcomes.concerns⟩
  | get ready now g exchanges result g' =>
    obtain ⟨y, hcourse, t₁, hx, hcomes⟩ := (lockstep_get h hasked ready now g).exists_course hdoes
    obtain ⟨rfl, rfl, rfl⟩ : result = y.1 ∧ t' = t₁ ∧ g' = y.2.2 := by
      simpa only [Option.some.injEq, Prod.mk.injEq] using hx
    exact ⟨y.2.1, hcourse, hcomes.represents, hcomes.concerns⟩
  | wanted deadline answer =>
    obtain ⟨hanswer, rfl⟩ := hdoes
    exact ⟨s, ⟨(h.wanted_eq deadline).symm.trans hanswer, rfl⟩, h, hasked⟩
  | takeReply reply =>
    obtain ⟨hreply, hleft⟩ := h.takeReply
    rw [hdoes] at hreply hleft
    refine ⟨s.takeReply.2, Prod.ext hreply.symm rfl, hleft, ?_⟩
    intro attempt wire hstage
    refine hasked attempt wire ?_
    unfold Session.takeReply at hstage
    split at hstage
    · exact nomatch hstage
    · exact hstage
  | free =>
    obtain rfl := hdoes
    exact ⟨s.free, rfl, h.free, nofun⟩

/-- What is come to from a new session stands for what a `Session` comes to by the same operations,
and what that waits for is what was asked last. -/
theorem exists_reaches {now : Instant} (run : Reaches Does (new policy now) operations t) :
    ∃ s, Reaches Session.Does (Session.new policy) operations s ∧ t.Represents s ∧
      s.Concerns (asked operations) := by
  induction run with
  | refl => exact ⟨_, .refl, represents_new policy now, nofun⟩
  | step run h ih =>
    obtain ⟨s, hreaches, hrepresents, hasked⟩ := ih
    obtain ⟨s', hdoes, hrepresents', hasked'⟩ := exists_does hrepresents hasked h
    exact ⟨s', hreaches.step hdoes, hrepresents', hasked'⟩

/-! ## Between operations -/

/-- Nothing is asked: the buffer is empty, going on tells whether there is a reply, and nothing is
to be waited for. -/
structure Resting (t : Transmission) : Prop where
  state_eq : t.state = .idle
  query_eq : t.query = []
  get_eq : ∀ ready now g, t.get ready now g =
    return some (if t.packet.isSome then .ok .done else .error .noQuery, t, g)
  wanted_eq : ∀ deadline, t.wanted deadline = (none, deadline)

/-- A query is asked: the buffer holds it whole, with the id that was written last, there is no
reply, the cursor is on a server, and what the state goes on from is there. -/
structure Pending (t : Transmission) (query : Query) (servers : Servers) : Prop where
  state_ne : t.state ≠ .idle
  framed : ∃ id, t.query = query.framed id ∧ t.queryId? = some id ∧ t.stamped = some id
  qtype_eq : t.qtype = query.qtype
  servers_eq : t.servers = servers
  packet_eq : t.packet = none
  slot_lt : t.slot < maxServers
  occupied : (t.servers.get? t.slot).isSome
  inRange : t.InRange t.state

/-- No access was out of range, and a failure left nothing. -/
def Orderly {ρ : Type} (x : Option (Except Failure ρ × Transmission × Generator)) : Prop :=
  ∃ result t g, x = some (result, t, g) ∧
    ∀ cause, result = .error cause → t.Resting ∧ t.packet = none

theorem resting_of_idle (hstate : t.state = .idle) (hquery : t.query = []) : t.Resting where
  state_eq := hstate
  query_eq := hquery
  get_eq ready now g := by
    unfold get
    rw [if_pos hstate]
    cases t.packet <;> rfl
  wanted_eq deadline := by
    unfold wanted
    rw [hstate]
    rfl

theorem InFlight.pending (h : t.InFlight attempt wire) :
    t.Pending attempt.query attempt.servers where
  state_ne := h.state_ne
  framed := ⟨attempt.id, h.aimed.query_eq, queryId?_eq h.aimed.query_eq, h.aimed.stamped_eq⟩
  qtype_eq := h.aimed.asks.qtype_eq
  servers_eq := h.aimed.asks.servers_eq
  packet_eq := h.aimed.asks.packet_eq
  slot_lt := h.aimed.slot_lt
  occupied := h.aimed.occupied
  inRange := h.inRange

theorem Agree.orderly {ρ : Type} {asked : Option (Query × Servers)}
    {x : Option (Except Failure ρ × Transmission × Generator)}
    {y : Except Failure ρ × Session × Generator} (h : Agree asked x y) : Orderly x := by
  obtain ⟨t, rfl, hcomes⟩ := h
  refine ⟨y.1, t, y.2.2, rfl, fun cause hcause => ?_⟩
  obtain ⟨hstate, hquery, hpacket⟩ := hcomes.represents.idle none (hcomes.failed cause hcause)
  exact ⟨resting_of_idle hstate hquery, hpacket⟩

/-- Between operations a session rests, or the query it was started with last is in flight. However
it is started or goes on then, and whatever is answered, no access is out of range, and a failure
leaves a session that rests and holds no reply. It stands for what a `Session` comes to. -/
theorem reaches_lifecycle {now : Instant} (run : Reaches Does (new policy now) operations t) :
    (t.Resting ∨
      ∃ query servers, asked operations = some (query, servers) ∧ t.Pending query servers) ∧
    (∀ servers recursive name qtype g exchanges x,
      Course (t.start servers recursive name qtype g) exchanges x → Orderly x) ∧
    (∀ ready now g exchanges x, Course (t.get ready now g) exchanges x → Orderly x) ∧
    ∃ s, Reaches Session.Does (Session.new policy) operations s ∧ t.Represents s := by
  obtain ⟨s, hreaches, hrepresents, hasked⟩ := exists_reaches run
  refine ⟨?_, ?_, ?_, s, hreaches, hrepresents⟩
  · cases hstage : s.stage with
    | idle reply =>
      obtain ⟨hstate, hquery, -⟩ := hrepresents.idle reply hstage
      exact .inl (resting_of_idle hstate hquery)
    | waiting attempt wire =>
      exact .inr ⟨attempt.query, attempt.servers, hasked attempt wire hstage,
        (hrepresents.waiting attempt wire hstage).1.pending⟩
  · intro servers recursive name qtype g exchanges x hcourse
    obtain ⟨y, -, hagree⟩ :=
      (lockstep_start hrepresents servers recursive name qtype g).exists_course hcourse
    exact hagree.orderly
  · intro ready now g exchanges x hcourse
    obtain ⟨y, -, hagree⟩ := (lockstep_get hrepresents hasked ready now g).exists_course hcourse
    exact hagree.orderly

/-- A run in which a server takes the query for the name `a`, which then is in flight. -/
theorem reaches_lifecycle_hasty :
    ∃ operations t, Reaches Does (new Session.hasty ⟨0⟩) operations t ∧
      t.state = .awaitingDatagram 3 ∧
      (∃ query servers, asked operations = some (query, servers) ∧ t.Pending query servers) ∧
      (∀ servers recursive name qtype g exchanges x,
        Course (t.start servers recursive name qtype g) exchanges x → Orderly x) ∧
      (∀ ready now g exchanges x, Course (t.get ready now g) exchanges x → Orderly x) ∧
      ∃ s, Reaches Session.Does (Session.new Session.hasty) operations s ∧ t.Represents s := by
  have hschedule : (Servers.ofList [.localhost]).schedule (Session.firstRound true) 0 =
      ⟨0, 0, .localhost⟩ :: (Servers.ofList [.localhost]).schedule 1 0 := by decide
  obtain ⟨exchanges, g, hstart⟩ := Session.exists_start_hasty hschedule
  -- the exchanges of the session are those of the fields, which are in step with it
  obtain ⟨x, hcourse, t, rfl, hcomes⟩ := (lockstep_start (represents_new Session.hasty ⟨0⟩) _ _ _ _
    _).symm.exists_course hstart
  have hdoes : (new Session.hasty ⟨0⟩).Does (.start _ _ _ _ _ _ _ _) t := hcourse
  have run := Reaches.refl.step hdoes
  obtain ⟨hlife, hstarts, hgets, hsession⟩ := reaches_lifecycle run
  obtain ⟨hflight, -⟩ := hcomes.represents.waiting _ _ rfl
  refine ⟨_, t, run, ?_, hlife.resolve_left fun hrest => hflight.state_ne hrest.state_eq, hstarts,
    hgets, hsession⟩
  have hwire := hflight.wire_eq
  cases hstate : t.state with
  | awaitingDatagram socket =>
    rw [hstate] at hwire
    obtain rfl := Wire.awaitingDatagram.inj (Option.some.inj hwire)
    rfl
  | _ =>
    rw [hstate] at hwire
    exact nomatch hwire

end Transmission

end Resolver
