import Resolver.Proofs.Session.Authenticity

/-!
# Attempts made

Every attempt opens a socket and asks for a connection there, so the attempts made show in the talk
with the operating system, those that fail at once among them. What becomes of the attempt in flight
when its socket or the clock is looked at is told case by case (`Glance`).

Main statements: the attempts that show when targets are tried are the first of the targets, up to
the one the session then waits for or to the last (`settles_of_tryUdp`, `settles_of_tryTcp`); looking
at a socket or the clock is one of the cases told (`glance_of_nextMove`), and no attempt shows there
(`suits_of_nextMove`).
-/

namespace Resolver

open Dialogue

/-! ## What shows -/

/-- What a talk with the operating system shows of attempts. -/
structure Journal where
  /-- The transport of the socket opened last. -/
  transport : Option Transport
  /-- The connections asked for: the transport and the address of each. -/
  made : List (Transport × Ipv4)
  deriving DecidableEq, Repr

namespace Journal

/-- The journal before anything was asked. -/
def blank : Journal := ⟨none, []⟩

/-- The journal with one more connection asked for, over the socket opened last. -/
def connect (j : Journal) (ip : Ipv4) : Journal :=
  { j with made := j.made ++ (j.transport.map fun transport => (transport, ip)).toList }

/-- Sees the transport of the socket opened last, and the connections asked for. -/
def observer : Observer Journal where
  opened j transport _ := { j with transport := some transport }
  connected := connect

variable {j : Journal} {exchanges : List Exchange}

/-- Whether a socket can be set up or not, that is no attempt yet. -/
theorem made_of_openLocal {policy : Policy} {transport : Transport} {g g' : Generator}
    {opened : Except OsError Socket}
    (h : Course (Session.openLocal policy transport g) exchanges (opened, g')) :
    (observer.after j exchanges).made = j.made := by
  obtain ⟨reply, hafter, -⟩ := observer.exists_after_of_openLocal j h
  rw [hafter]
  cases reply <;> rfl

/-- Sending a datagram is an attempt, whether the datagram goes out or not. -/
theorem after_of_sendDatagram {policy : Policy} {socket : Socket} {ip : Ipv4} {message : Bytes}
    {sent : Bool} (h : Course (Session.sendDatagram policy socket ip message) exchanges sent) :
    observer.after j exchanges = j.connect ip := by
  unfold Session.sendDatagram at h
  obtain ⟨connection, rest, rfl, hconnect⟩ := course_call_iff.1 h
  rw [Observer.after_cons]
  cases connection with
  | connected =>
    obtain ⟨transfer, rest, rfl, hsend⟩ := course_call_iff.1 hconnect
    cases transfer <;> obtain ⟨rfl, -⟩ := course_pure_iff.1 hsend <;> rfl
  | inProgress =>
    obtain ⟨rfl, -⟩ := course_pure_iff.1 hconnect
    rfl
  | failed cause =>
    obtain ⟨rfl, -⟩ := course_pure_iff.1 hconnect
    rfl

end Journal

namespace Session

variable {query : Query} {servers : Servers} {targets : List Servers.Target} {s s' : Session}
  {g g' : Generator} {exchanges : List Exchange} {result : Except Failure Progress} {j : Journal}

/-! ## Trying targets -/

/-- How trying targets ends, when some were tried and the others are left: the session waits for the
last one tried, or it has given up, for want of targets or for another cause. -/
inductive Settles (transport : Transport) (query : Query) (servers : Servers)
    (tried rest : List Servers.Target) : Except Failure Progress → Session → Prop
  | waits {s : Session} {attempt : Attempt} {wire : Wire} {target : Servers.Target}
      (hlast : tried.getLast? = some target) (hround : s.round = target.round)
      (hslot : s.slot = target.slot) (hstage : s.stage = .waiting attempt wire)
      (hquery : attempt.query = query) (hservers : attempt.servers = servers)
      (hwire : wire.isDatagram = true ↔ transport = .udp) :
      Settles transport query servers tried rest (.ok .pending) s
  | gaveUp {s : Session} {cause : Failure} (hstage : s.stage = .idle none)
      (hrest : cause = .exhausted → rest = []) :
      Settles transport query servers tried rest (.error cause) s

/-- A target that was tried in vain before the others makes no difference to how trying ends. -/
theorem Settles.cons {transport : Transport} {tried rest : List Servers.Target}
    (h : Settles transport query servers tried rest result s) (first : Servers.Target) :
    Settles transport query servers (first :: tried) rest result s := by
  cases h with
  | waits hlast hround hslot hstage hquery hservers hwire =>
    refine .waits ?_ hround hslot hstage hquery hservers hwire
    rw [List.getLast?_cons, hlast]
    rfl
  | gaveUp hstage hrest => exact .gaveUp hstage hrest

/-- The attempts with datagrams are made at the first of the targets, in their order. -/
theorem settles_of_tryUdp
    (h : Course (s.tryUdp query servers targets g) exchanges (result, s', g')) :
    ∃ tried rest, targets = tried ++ rest ∧
      (Journal.observer.after j exchanges).made =
        j.made ++ tried.map (fun target => (.udp, target.ip)) ∧
      Settles .udp query servers tried rest result s' := by
  -- the induction passes over the targets that take no datagram
  induction targets generalizing s g exchanges j with
  | nil =>
    obtain ⟨rfl, rfl, rfl, rfl⟩ := course_triple_iff.1 h
    exact ⟨[], [], rfl, (List.append_nil _).symm, .gaveUp rfl fun _ => rfl⟩
  | cons target targets ih =>
    unfold tryUdp at h
    dsimp only at h
    generalize g.id = drawn at h
    obtain ⟨id, g₁⟩ := drawn
    obtain ⟨⟨opened, g₂⟩, opens, rest, rfl, hopen, hrest⟩ := course_seq_iff.1 h
    cases opened with
    | error cause =>
      obtain ⟨rfl, rfl, rfl, rfl⟩ := course_triple_iff.1 hrest
      refine ⟨[], target :: targets, rfl, ?_, .gaveUp rfl fun heq => Failure.noConfusion heq⟩
      rw [List.append_nil, Journal.made_of_openLocal hopen, List.map_nil, List.append_nil]
    | ok socket =>
      obtain ⟨sent, sends, last, rfl, hsend, hlast⟩ := course_seq_iff.1 hrest
      have hjournal : Journal.observer.after j (opens ++ (sends ++ last)) =
          Journal.observer.after ⟨some .udp, j.made ++ [(.udp, target.ip)]⟩ last := by
        rw [Observer.after_append, Observer.after_append, Observer.after_of_openLocal _ _ hopen,
          Journal.after_of_sendDatagram hsend]
        rfl
      rw [hjournal]
      cases sent with
      | false =>
        obtain ⟨tried, rest, rfl, hmade, hsettles⟩ :=
          ih (j := ⟨some .udp, j.made ++ [(.udp, target.ip)]⟩) hlast
        refine ⟨target :: tried, rest, rfl, ?_, hsettles.cons target⟩
        rw [hmade, List.append_assoc]
        rfl
      | true =>
        obtain ⟨now, clocks, rfl, hclock⟩ := course_call_iff.1 hlast
        split at hclock <;> obtain ⟨rfl, rfl, rfl, rfl⟩ := course_triple_iff.1 hclock
        · exact ⟨[target], targets, rfl, rfl, .gaveUp rfl fun heq => Failure.noConfusion heq⟩
        · exact ⟨[target], targets, rfl, rfl,
            .waits rfl rfl rfl rfl rfl rfl (iff_of_true rfl rfl)⟩

/-- The attempts over streams are made at the first of the targets, in their order. -/
theorem settles_of_tryTcp (hrounds : ∀ target ∈ targets, target.round = s.round)
    (h : Course (s.tryTcp query servers targets g) exchanges (result, s', g')) :
    ∃ tried rest, targets = tried ++ rest ∧
      (Journal.observer.after j exchanges).made =
        j.made ++ tried.map (fun target => (.tcp, target.ip)) ∧
      Settles .tcp query servers tried rest result s' := by
  induction targets generalizing s g exchanges j with
  | nil =>
    obtain ⟨rfl, rfl, rfl, rfl⟩ := course_triple_iff.1 h
    exact ⟨[], [], rfl, (List.append_nil _).symm, .gaveUp rfl fun _ => rfl⟩
  | cons target targets ih =>
    obtain ⟨hround, hrounds⟩ := List.forall_mem_cons.1 hrounds
    unfold tryTcp at h
    dsimp only at h
    generalize g.id = drawn at h
    obtain ⟨id, g₁⟩ := drawn
    obtain ⟨⟨opened, g₂⟩, opens, rest, rfl, hopen, hrest⟩ := course_seq_iff.1 h
    cases opened with
    | error cause =>
      obtain ⟨rfl, rfl, rfl, rfl⟩ := course_triple_iff.1 hrest
      refine ⟨[], target :: targets, rfl, ?_, .gaveUp rfl fun heq => Failure.noConfusion heq⟩
      rw [List.append_nil, Journal.made_of_openLocal hopen, List.map_nil, List.append_nil]
    | ok socket =>
      obtain ⟨now, clocks, rfl, hclock⟩ := course_call_iff.1 hrest
      split at hclock
      · obtain ⟨rfl, rfl, rfl, rfl⟩ := course_triple_iff.1 hclock
        refine ⟨[], target :: targets, rfl, ?_, .gaveUp rfl fun heq => Failure.noConfusion heq⟩
        rw [Observer.after_append, Observer.after_of_openLocal _ _ hopen, List.map_nil,
          List.append_nil]
        rfl
      · obtain ⟨connection, last, rfl, hconnect⟩ := course_call_iff.1 hclock
        have hjournal : Journal.observer.after j (opens ++ ⟨.now, now⟩ ::
            ⟨.connect socket target.ip s.policy.port, connection⟩ :: last) =
            Journal.observer.after ⟨some .tcp, j.made ++ [(.tcp, target.ip)]⟩ last := by
          rw [Observer.after_append, Observer.after_of_openLocal _ _ hopen]
          rfl
        rw [hjournal]
        cases connection with
        | connected =>
          obtain ⟨rfl, rfl, rfl, rfl⟩ := course_triple_iff.1 hconnect
          exact ⟨[target], targets, rfl, rfl,
            .waits rfl hround.symm rfl rfl rfl rfl (iff_of_false nofun nofun)⟩
        | inProgress =>
          obtain ⟨rfl, rfl, rfl, rfl⟩ := course_triple_iff.1 hconnect
          exact ⟨[target], targets, rfl, rfl,
            .waits rfl hround.symm rfl rfl rfl rfl (iff_of_false nofun nofun)⟩
        | failed cause =>
          obtain ⟨tried, rest, rfl, hmade, hsettles⟩ :=
            ih (s := { s with slot := target.slot })
              (j := ⟨some .tcp, j.made ++ [(.tcp, target.ip)]⟩) hrounds hconnect
          refine ⟨target :: tried, rest, rfl, ?_, hsettles.cons target⟩
          rw [hmade, List.append_assoc]
          rfl

/-! ## Looking at a socket -/

/-- The moves that an attempt makes: one with a datagram is followed by the next datagram or the
first stream, one over a stream by the next stream. -/
def Move.Suits (datagram : Bool) : Move → Prop
  | .stay wire | .stayUntil _ wire => wire.isDatagram = datagram
  | .nextUdp | .firstTcp => datagram = true
  | .nextTcp => datagram = false
  | .accept _ | .overflow => True

/-- The moves that are the end of an attempt. -/
def Move.Ends (datagram : Bool) : Move → Prop
  | .nextUdp | .firstTcp => datagram = true
  | .nextTcp => datagram = false
  | .accept _ => True
  | .stay _ | .stayUntil _ _ | .overflow => False

/-- The reply is received over a stream. -/
def ReadsStream (wire : Wire) : Prop :=
  wire.interest = .read ∧ wire.isDatagram = false

/-- What becomes of an attempt when its socket is looked at, or only the clock. -/
inductive Glance (policy : Policy) (attempt : Attempt) : Wire → List Exchange → Move → Prop
  | stays {wire : Wire} {looks : List Exchange} (hlooks : ∀ exchange ∈ looks, IsLook exchange) :
      Glance policy attempt wire looks (.stay wire)
  | ends {wire : Wire} {looks : List Exchange} {move : Move}
      (hlooks : ∀ exchange ∈ looks, IsLook exchange) (hends : move.Ends wire.isDatagram) :
      Glance policy attempt wire looks move
  | connects {socket : Socket} {looks : List Exchange}
      (hlooks : ∀ exchange ∈ looks, IsLook exchange) :
      Glance policy attempt (.connecting socket) looks (.stay (.sending socket 0))
  /-- Some of the reply has come in. -/
  | readsOn {wire wire' : Wire} {looks : List Exchange}
      (hlooks : ∀ exchange ∈ looks, IsLook exchange) (hreads : ReadsStream wire)
      (hreads' : ReadsStream wire') (hsocket : wire'.socket = wire.socket) :
      Glance policy attempt wire looks (.stay wire')
  /-- The stream takes nothing of the query now. -/
  | blocked {socket : Socket} {sent : Nat} :
      Glance policy attempt (.sending socket sent)
        [⟨.send socket ((attempt.query.framed attempt.id).drop sent), .blocked⟩]
        (.stay (.sending socket sent))
  | fails {socket : Socket} {sent : Nat}
      {transfer : Transfer { n : Nat // n ≤ ((attempt.query.framed attempt.id).drop sent).length }} :
      Glance policy attempt (.sending socket sent)
        [⟨.send socket ((attempt.query.framed attempt.id).drop sent), transfer⟩] .nextTcp
  /-- The stream takes some of the query. -/
  | sendsOn {socket : Socket} {sent : Nat}
      {n : { n : Nat // n ≤ ((attempt.query.framed attempt.id).drop sent).length }} :
      Glance policy attempt (.sending socket sent)
        [⟨.send socket ((attempt.query.framed attempt.id).drop sent), .moved n⟩]
        (.stay (.sending socket (sent + n)))
  /-- The stream takes the rest of the query, and the reply is waited for from then on. -/
  | sent {socket : Socket} {sent : Nat} {now deadline : Instant}
      {n : { n : Nat // n ≤ ((attempt.query.framed attempt.id).drop sent).length }}
      (hwhole : sent + n = (attempt.query.framed attempt.id).length)
      (hdeadline : now.add? policy.tcpTimeout = some deadline) :
      Glance policy attempt (.sending socket sent)
        [⟨.send socket ((attempt.query.framed attempt.id).drop sent), .moved n⟩, ⟨.now, now⟩]
        (.stayUntil deadline (.awaitingHigh socket))
  | sentTooLate {socket : Socket} {sent : Nat} {now : Instant}
      {n : { n : Nat // n ≤ ((attempt.query.framed attempt.id).drop sent).length }}
      (hnone : now.add? policy.tcpTimeout = none) :
      Glance policy attempt (.sending socket sent)
        [⟨.send socket ((attempt.query.framed attempt.id).drop sent), .moved n⟩, ⟨.now, now⟩]
        .overflow

variable {policy : Policy} {attempt : Attempt} {wire : Wire} {looks : List Exchange} {move : Move}
  {round : Nat} {ready : Bool} {now : Instant}

theorem glance_of_judgeDatagram {socket : Socket} {reply : Bytes}
    (hlooks : ∀ exchange ∈ looks, IsLook exchange) :
    Glance policy attempt (.awaitingDatagram socket) looks
      (judgeDatagram attempt round (.awaitingDatagram socket) reply) := by
  unfold judgeDatagram
  split
  · exact .stays hlooks
  · split
    · exact .stays hlooks
    · split
      · exact .ends hlooks rfl
      · split
        · split
          · exact .stays hlooks
          · exact .ends hlooks rfl
        · exact .ends hlooks trivial

theorem glance_of_judgeMessage {reply : Bytes} (hlooks : ∀ exchange ∈ looks, IsLook exchange)
    (hstream : wire.isDatagram = false) :
    Glance policy attempt wire looks (judgeMessage attempt reply) := by
  unfold judgeMessage
  split
  · exact .ends hlooks trivial
  · exact .ends hlooks hstream

theorem glance_of_receiving {socket : Socket} {space : Nat}
    {next : Transfer { bytes : Bytes // bytes.length ≤ space } → Dialogue Move}
    (hnext : ∀ transfer looks, (∀ exchange ∈ looks, IsLook exchange) →
      ∃ m, next transfer = pure m ∧ Glance policy attempt wire looks m)
    (h : Course (call (.receive socket space) >>= next) exchanges move) :
    Glance policy attempt wire exchanges move := by
  obtain ⟨transfer, rest, rfl, hrest⟩ := course_call_iff.1 h
  obtain ⟨m, hm, hglance⟩ := hnext transfer [⟨.receive socket space, transfer⟩]
    (List.forall_mem_singleton.2 (.inl ⟨socket, space, transfer, rfl⟩))
  rw [hm] at hrest
  obtain ⟨rfl, rfl⟩ := course_pure_iff.1 hrest
  exact hglance

theorem glance_of_sending {socket : Socket} {n : Nat}
    (h : Course (stepWire policy attempt round (.sending socket n)) exchanges move) :
    Glance policy attempt (.sending socket n) exchanges move := by
  unfold stepWire at h
  obtain ⟨transfer, rest, rfl, hrest⟩ := course_call_iff.1 h
  split at hrest
  · obtain ⟨rfl, rfl⟩ := course_pure_iff.1 hrest
    exact .blocked
  · obtain ⟨rfl, rfl⟩ := course_pure_iff.1 hrest
    exact .fails
  · obtain ⟨rfl, rfl⟩ := course_pure_iff.1 hrest
    exact .fails
  · split at hrest
    · obtain ⟨now, last, rfl, hlast⟩ := course_call_iff.1 hrest
      split at hlast <;> obtain ⟨rfl, rfl⟩ := course_pure_iff.1 hlast
      · exact .sentTooLate ‹_›
      · exact .sent ‹_› ‹_›
    · obtain ⟨rfl, rfl⟩ := course_pure_iff.1 hrest
      exact .sendsOn

theorem glance_of_stepWire (h : Course (stepWire policy attempt round wire) exchanges move) :
    Glance policy attempt wire exchanges move := by
  cases wire with
  | awaitingDatagram socket =>
    refine glance_of_receiving (fun transfer looks hlooks => ?_) h
    rcases transfer with _ | cause | ⟨_ | ⟨b, bytes⟩, hspace⟩
    · exact ⟨_, rfl, .stays hlooks⟩
    · dsimp only
      split
      · exact ⟨_, rfl, .stays hlooks⟩
      · exact ⟨_, rfl, .ends hlooks rfl⟩
    · exact ⟨_, rfl, .ends hlooks rfl⟩
    · exact ⟨_, rfl, glance_of_judgeDatagram hlooks⟩
  | connecting socket =>
    unfold stepWire at h
    obtain ⟨connected, rest, rfl, hrest⟩ := course_call_iff.1 h
    have hlooks : ∀ exchange ∈ [(⟨.isConnected socket, connected⟩ : Exchange)], IsLook exchange :=
      List.forall_mem_singleton.2 (.inr ⟨socket, connected, rfl⟩)
    cases connected <;> obtain ⟨rfl, rfl⟩ := course_pure_iff.1 hrest
    · exact .ends hlooks rfl
    · exact .connects hlooks
  | sending socket n => exact glance_of_sending h
  | awaitingHigh socket =>
    unfold stepWire at h
    refine glance_of_receiving (fun transfer looks hlooks => ?_) h
    rcases transfer with _ | cause | ⟨_ | ⟨high, bytes⟩, hspace⟩
    · exact ⟨_, rfl, .stays hlooks⟩
    · exact ⟨_, rfl, .ends hlooks rfl⟩
    · exact ⟨_, rfl, .ends hlooks rfl⟩
    · exact ⟨_, rfl, .readsOn hlooks ⟨rfl, rfl⟩ ⟨rfl, rfl⟩ rfl⟩
  | awaitingLow socket high =>
    unfold stepWire at h
    refine glance_of_receiving (fun transfer looks hlooks => ?_) h
    rcases transfer with _ | cause | ⟨_ | ⟨low, bytes⟩, hspace⟩
    · exact ⟨_, rfl, .stays hlooks⟩
    · exact ⟨_, rfl, .ends hlooks rfl⟩
    · exact ⟨_, rfl, .ends hlooks rfl⟩
    · dsimp only
      split
      · exact ⟨_, rfl, .ends hlooks rfl⟩
      · exact ⟨_, rfl, .readsOn hlooks ⟨rfl, rfl⟩ ⟨rfl, rfl⟩ rfl⟩
  | awaitingBody socket length received =>
    unfold stepWire at h
    refine glance_of_receiving (fun transfer looks hlooks => ?_) h
    rcases transfer with _ | cause | ⟨_ | ⟨b, bytes⟩, hspace⟩
    · exact ⟨_, rfl, .stays hlooks⟩
    · exact ⟨_, rfl, .ends hlooks rfl⟩
    · exact ⟨_, rfl, .ends hlooks rfl⟩
    · dsimp only
      split
      · exact ⟨_, rfl, .readsOn hlooks ⟨rfl, rfl⟩ ⟨rfl, rfl⟩ rfl⟩
      · exact ⟨_, rfl, glance_of_judgeMessage hlooks rfl⟩

/-- Whether its socket is looked at or only the clock, what becomes of an attempt is one of these. -/
theorem glance_of_nextMove (h : Course (s.nextMove attempt wire ready now) exchanges move) :
    Glance s.policy attempt wire exchanges move := by
  unfold nextMove at h
  split at h
  · exact glance_of_stepWire h
  · split at h
    · obtain ⟨rfl, rfl⟩ := course_pure_iff.1 h
      exact .stays (List.forall_mem_nil _)
    · split at h <;> obtain ⟨rfl, rfl⟩ := course_pure_iff.1 h
      · exact .ends (List.forall_mem_nil _) ‹_›
      · exact .ends (List.forall_mem_nil _) (Bool.eq_false_iff.2 ‹_›)

theorem Move.Ends.suits {datagram : Bool} (h : move.Ends datagram) : move.Suits datagram := by
  cases move with
  | nextUdp | firstTcp | nextTcp => exact h
  | accept => trivial
  | stay | stayUntil | overflow => exact h.elim

/-- Neither looking at the socket nor at the clock is an attempt, and what becomes of the one in
flight suits its transport. -/
theorem suits_of_nextMove (h : Course (s.nextMove attempt wire ready now) exchanges move) :
    Journal.observer.after j exchanges = j ∧ move.Suits wire.isDatagram := by
  have hquiet : ∀ {looks}, (∀ exchange ∈ looks, IsLook exchange) →
      Journal.observer.after j looks = j :=
    fun hlooks => Journal.observer.after_of_looks (fun _ _ _ _ => rfl) j hlooks
  cases glance_of_nextMove h with
  | stays hlooks => exact ⟨hquiet hlooks, rfl⟩
  | ends hlooks hends => exact ⟨hquiet hlooks, hends.suits⟩
  | connects hlooks => exact ⟨hquiet hlooks, rfl⟩
  | readsOn hlooks hreads hreads' => exact ⟨hquiet hlooks, hreads'.2.trans hreads.2.symm⟩
  | blocked | fails | sendsOn | sent => exact ⟨rfl, rfl⟩
  | sentTooLate => exact ⟨rfl, trivial⟩

theorem of_judgeDatagram_eq_firstTcp {reply : Bytes}
    (h : .firstTcp = judgeDatagram attempt round wire reply) :
    attempt.isAnsweredBy reply = true ∧ Packet.wantsTcp reply = true := by
  unfold judgeDatagram at h
  split at h
  · contradiction
  · split at h
    · contradiction
    · rename_i hanswered
      split at h
      · exact ⟨by simpa using hanswered, ‹_›⟩
      · split at h
        · split at h <;> contradiction
        · contradiction

/-- Streams are tried only once a datagram was received that answers the attempt in flight and is
cut off. -/
theorem exists_of_firstTcp
    (h : Course (s.nextMove attempt wire ready now) exchanges .firstTcp) :
    ∃ socket reply, wire = .awaitingDatagram socket ∧
      exchanges = [⟨.receive socket (maxReply + 1), .moved reply⟩] ∧
      attempt.isAnsweredBy reply.val = true ∧ Packet.wantsTcp reply.val = true := by
  have hdatagram : wire.isDatagram = true := (suits_of_nextMove (j := .blank) h).2
  unfold nextMove at h
  split at h
  · cases wire with
    | awaitingDatagram socket =>
      obtain ⟨transfer, rest, rfl, hrest⟩ := course_call_iff.1 h
      rcases transfer with _ | cause | ⟨_ | ⟨b, bytes⟩, hspace⟩
      · exact nomatch (course_pure_iff.1 hrest).2
      · dsimp only at hrest
        split at hrest <;> exact nomatch (course_pure_iff.1 hrest).2
      · exact nomatch (course_pure_iff.1 hrest).2
      · obtain ⟨rfl, hmove⟩ := course_pure_iff.1 hrest
        exact ⟨socket, ⟨b :: bytes, hspace⟩, rfl, rfl, of_judgeDatagram_eq_firstTcp hmove⟩
    | connecting | sending | awaitingHigh | awaitingLow | awaitingBody => contradiction
  · split at h
    · exact nomatch (course_pure_iff.1 h).2
    · exact nomatch (course_pure_iff.1 h).2

end Session

end Resolver
