import Resolver.Net.Dialogue
import Resolver.Random.Generator
import Resolver.Session.Query

/-!
# Query sessions

A session gets one query answered by a list of servers. The caller waits for the socket the session
names, or for its deadline, and then lets it go on; going on performs at most one transfer of data
before the next attempt, if one is due, is sent.

Datagrams go to the servers in turn, once a round, with the time to wait growing from round to
round. A truncated reply starts over on streams from the first server, each server being tried
once. Every attempt has a fresh socket on a random port and a fresh random id; a reply with another
id or another question is dropped as if it had not arrived.
-/

namespace Resolver

/-! ## Limits and policies -/

/-- The longest datagram that can be a reply; a longer one is dropped. -/
def maxReply : Nat := 4096

/-- The round in which refusals and reported failures do not end the wait. -/
def patientRound : Nat := 2

/-- The number of random local ports to choose from. -/
def portCount : UInt32 := 64510

/-- The lowest random local port. -/
def firstPort : UInt32 := 1025

/-- Times and addresses that sessions keep to. -/
structure Policy where
  /-- The port of the servers. -/
  port : UInt16
  localIp : Ipv4
  /-- The time to wait for a datagram, by round. -/
  udpTimeouts : Vector Duration roundCount
  /-- The time to wait for a connection, and again for the reply once the query is sent. -/
  tcpTimeout : Duration
  /-- The random local ports tried before the choice is left to the system. -/
  bindAttempts : Nat
  deriving DecidableEq, Repr

namespace Policy

/-- The time to wait for a datagram in a round. -/
def udpTimeout (p : Policy) (round : Nat) : Duration :=
  p.udpTimeouts.toList.getD round 0

end Policy

/-- Why a session gives no reply. -/
inductive Failure
  /-- The name asked for is not a valid wire name. -/
  | badName
  /-- No socket could be set up. -/
  | socket (cause : OsError)
  /-- Every server was tried in vain. -/
  | exhausted
  /-- Nothing was asked. -/
  | noQuery
  /-- A deadline would be past the range of the clock. -/
  | clockOverflow
  deriving DecidableEq, Repr

/-- The wording of a failure. -/
def Failure.message : Failure → String
  | .badName => "query name is not a valid wire-format domain"
  | .socket cause => s!"socket setup failed: {cause.message}"
  | .exhausted => "no server gave a usable answer"
  | .noQuery => "no query in progress"
  | .clockOverflow => "overflow when adding duration to instant"

/-! ## States -/

/-- Whether a session has its reply. -/
inductive Progress
  | pending
  | done
  deriving DecidableEq, Repr

/-- How far an attempt has come on its socket. -/
inductive Wire
  /-- The datagram is sent. -/
  | awaitingDatagram (socket : Socket)
  /-- The stream is being connected. -/
  | connecting (socket : Socket)
  /-- So many bytes of the framed query are sent. -/
  | sending (socket : Socket) (sent : Nat)
  /-- The high byte of the reply's length comes next. -/
  | awaitingHigh (socket : Socket)
  /-- The low byte of the reply's length comes next. -/
  | awaitingLow (socket : Socket) (high : UInt8)
  /-- The reply of `length` bytes has been received up to `received`. -/
  | awaitingBody (socket : Socket) (length : Nat) (received : Bytes)
  deriving DecidableEq, Repr

namespace Wire

/-- The socket of the attempt. -/
def socket : Wire → Socket
  | awaitingDatagram s | connecting s | sending s _ | awaitingHigh s | awaitingLow s _
  | awaitingBody s _ _ => s

/-- What the attempt waits for. -/
def interest : Wire → Interest
  | connecting _ | sending _ _ => .write
  | _ => .read

/-- Whether the attempt was made with a datagram. -/
def isDatagram : Wire → Bool
  | awaitingDatagram _ => true
  | _ => false

end Wire

/-- What a session is doing. -/
inductive Stage
  /-- Nothing, holding the reply it got last unless that was taken. -/
  | idle (reply : Option Bytes)
  /-- Waiting for an attempt. -/
  | waiting (attempt : Attempt) (wire : Wire)
  deriving DecidableEq, Repr

/-- A session. -/
structure Session where
  policy : Policy
  /-- The round of datagrams that was reached. -/
  round : Nat
  /-- The place of the server that was reached. -/
  slot : Nat
  /-- When the attempt in flight is given up. -/
  deadline : Instant
  stage : Stage
  deriving DecidableEq, Repr

namespace Session

/-- A session in which nothing was asked yet. -/
def new (policy : Policy) : Session :=
  ⟨policy, 0, 0, ⟨0⟩, .idle none⟩

/-- The session without its query and its reply. -/
def free (s : Session) : Session :=
  { s with stage := .idle none }

/-- The reply that was received. -/
def reply? (s : Session) : Option Bytes :=
  match s.stage with
  | .idle reply => reply
  | .waiting _ _ => none

/-- The session after its reply was taken. -/
def takeReply (s : Session) : Option Bytes × Session :=
  match s.stage with
  | .idle reply => (reply, s.free)
  | .waiting _ _ => (none, s)

/-- The id of the attempt in flight. -/
def queryId? (s : Session) : Option UInt16 :=
  match s.stage with
  | .idle _ => none
  | .waiting attempt _ => some attempt.id

/-- What to wait for next, and the earlier of the given deadline and the session's own. -/
def wanted (s : Session) (deadline : Instant) : Option (Socket × Interest) × Instant :=
  match s.stage with
  | .idle _ => (none, deadline)
  | .waiting _ wire =>
    (some (wire.socket, wire.interest), s.deadline.earliest deadline)

/-! ## Making attempts -/

/-- What a step of a session comes to: its result, the session and the random source after it. -/
abbrev Turn := Except Failure Progress × Session × Generator

/-- Binds a socket to a random local port, trying so many, and at last to any port. -/
def bindLocal (policy : Policy) (socket : Socket) :
    Nat → Generator → Dialogue (Except OsError Unit × Generator)
  | 0, g => do
    let bound ← Dialogue.call (.bind socket policy.localIp 0)
    return (bound, g)
  | tries + 1, g => do
    let (offset, g) := g.below portCount
    let bound ← Dialogue.call (.bind socket policy.localIp (firstPort + offset).toUInt16)
    match bound with
    | .ok () => return (.ok (), g)
    | .error _ => bindLocal policy socket tries g

/-- Opens and binds the socket of an attempt. -/
def openLocal (policy : Policy) (transport : Transport) (g : Generator) :
    Dialogue (Except OsError Socket × Generator) := do
  match ← Dialogue.call (.openSocket transport) with
  | .error cause => return (.error cause, g)
  | .ok socket =>
    let (bound, g) ← bindLocal policy socket policy.bindAttempts g
    match bound with
    | .error cause => return (.error cause, g)
    | .ok () => return (.ok socket, g)

/-- Sends a datagram; the answer is whether it went out whole. -/
def sendDatagram (policy : Policy) (socket : Socket) (ip : Ipv4) (message : Bytes) :
    Dialogue Bool := do
  match ← Dialogue.call (.connect socket ip policy.port) with
  | .connected =>
    match ← Dialogue.call (.send socket message) with
    | .moved n => return n.val == message.length
    | _ => return false
  | _ => return false

/-- The session with its cursor on an attempt. -/
def aimedAt (s : Session) (target : Servers.Target) : Session :=
  { s with round := target.round, slot := target.slot }

/-- Sends the query in a datagram to the first of the targets that takes it. When none does, the
rounds are over. -/
def tryUdp (s : Session) (query : Query) (servers : Servers) :
    List Servers.Target → Generator → Dialogue Turn
  | [], g => return (.error .exhausted, { s with round := roundCount, slot := 0 }.free, g)
  | target :: rest, g => do
    let s := s.aimedAt target
    let (id, g) := g.id
    let (opened, g) ← openLocal s.policy .udp g
    match opened with
    | .error cause => return (.error (.socket cause), s.free, g)
    | .ok socket =>
      if ← sendDatagram s.policy socket target.ip (query.message id) then
        let now ← Dialogue.call .now
        match now.add? (s.policy.udpTimeout target.round) with
        | none => return (.error .clockOverflow, s.free, g)
        | some deadline =>
          let stage := .waiting ⟨query, servers, id⟩ (.awaitingDatagram socket)
          return (.ok .pending, { s with deadline := deadline, stage := stage }, g)
      else tryUdp s query servers rest g

/-- Opens a stream to the first of the targets where that does not fail at once. When it fails at
all of them, the servers are used up. -/
def tryTcp (s : Session) (query : Query) (servers : Servers) :
    List Servers.Target → Generator → Dialogue Turn
  | [], g => return (.error .exhausted, { s with slot := maxServers }.free, g)
  | target :: rest, g => do
    let s := { s with slot := target.slot }
    let (id, g) := g.id
    let (opened, g) ← openLocal s.policy .tcp g
    match opened with
    | .error cause => return (.error (.socket cause), s.free, g)
    | .ok socket =>
      let now ← Dialogue.call .now
      match now.add? s.policy.tcpTimeout with
      | none => return (.error .clockOverflow, s.free, g)
      | some deadline =>
        let attempt : Attempt := ⟨query, servers, id⟩
        match ← Dialogue.call (.connect socket target.ip s.policy.port) with
        | .connected =>
          let stage := .waiting attempt (.sending socket 0)
          return (.ok .pending, { s with deadline := deadline, stage := stage }, g)
        | .inProgress =>
          let stage := .waiting attempt (.connecting socket)
          return (.ok .pending, { s with deadline := deadline, stage := stage }, g)
        | .failed _ => tryTcp s query servers rest g

/-- Asks for a name: the query goes out to the first server. Recursive queries go through all four
rounds, others leave out the shortest. Whatever the session did before is given up. -/
def start (s : Session) (servers : Servers) (recursive : Bool) (name : Bytes) (qtype : UInt16)
    (g : Generator) : Dialogue (Except Failure Unit × Session × Generator) :=
  match Name.length? name with
  | none => return (.error .badName, s.free, g)
  | some length => do
    let query : Query := ⟨name.take length, qtype, recursive⟩
    let round := if recursive then 0 else 1
    let s := { s.free with round := round, slot := 0 }
    let (result, s, g) ←
      if Query.maxDatagram < length + 16 then
        tryTcp s query servers (servers.targetsFrom round 0) g
      else tryUdp s query servers (servers.schedule round 0) g
    return (result.map fun _ => (), s, g)

/-! ## Judging what comes in -/

/-- What becomes of an attempt. -/
inductive Move
  /-- It goes on waiting. -/
  | stay (wire : Wire)
  /-- It goes on waiting with a new deadline. -/
  | stayUntil (deadline : Instant) (wire : Wire)
  /-- The next datagram is due. -/
  | nextUdp
  /-- Streams are to be tried from the first server on. -/
  | firstTcp
  /-- The next stream is due. -/
  | nextTcp
  /-- It got its reply. -/
  | accept (reply : Bytes)
  /-- Its new deadline would be past the range of the clock. -/
  | overflow

/-- What becomes of an attempt when a datagram with content comes in. -/
def judgeDatagram (attempt : Attempt) (round : Nat) (wire : Wire) (reply : Bytes) : Move :=
  if maxReply < reply.length then .stay wire
  else if !attempt.isAnsweredBy reply then .stay wire
  else if Packet.wantsTcp reply then .firstTcp
  else if Packet.serverFailed reply then
    if round = patientRound then .stay wire else .nextUdp
  else .accept reply

/-- What becomes of an attempt when a whole message has come in over its stream. -/
def judgeMessage (attempt : Attempt) (reply : Bytes) : Move :=
  if attempt.isAnsweredBy reply && !Packet.wantsTcp reply && !Packet.serverFailed reply then
    .accept reply
  else .nextTcp

/-- What becomes of an attempt that waits for a datagram when its socket is looked at. -/
def stepDatagram (attempt : Attempt) (round : Nat) (socket : Socket) : Dialogue Move := do
  let wire := Wire.awaitingDatagram socket
  match ← Dialogue.call (.receive socket (maxReply + 1)) with
  | .blocked => return .stay wire
  | .failed cause =>
    if cause = .connectionRefused ∧ round = patientRound then return .stay wire
    else return .nextUdp
  | .moved ⟨[], _⟩ => return .nextUdp
  | .moved ⟨reply, _⟩ => return judgeDatagram attempt round wire reply

/-- What becomes of an attempt when its socket is looked at. -/
def stepWire (policy : Policy) (attempt : Attempt) (round : Nat) : Wire → Dialogue Move
  | .awaitingDatagram socket => stepDatagram attempt round socket
  | .connecting socket => do
    if ← Dialogue.call (.isConnected socket) then return .stay (.sending socket 0)
    else return .nextTcp
  | .sending socket sent => do
    let frame := attempt.query.framed attempt.id
    match ← Dialogue.call (.send socket (frame.drop sent)) with
    | .blocked => return .stay (.sending socket sent)
    | .failed _ => return .nextTcp
    | .moved ⟨0, _⟩ => return .nextTcp
    | .moved ⟨n, _⟩ =>
      if sent + n = frame.length then
        let now ← Dialogue.call .now
        match now.add? policy.tcpTimeout with
        | none => return .overflow
        | some deadline => return .stayUntil deadline (.awaitingHigh socket)
      else return .stay (.sending socket (sent + n))
  | .awaitingHigh socket => do
    match ← Dialogue.call (.receive socket 1) with
    | .blocked => return .stay (.awaitingHigh socket)
    | .failed _ => return .nextTcp
    | .moved ⟨[], _⟩ => return .nextTcp
    | .moved ⟨high :: _, _⟩ => return .stay (.awaitingLow socket high)
  | .awaitingLow socket high => do
    match ← Dialogue.call (.receive socket 1) with
    | .blocked => return .stay (.awaitingLow socket high)
    | .failed _ => return .nextTcp
    | .moved ⟨[], _⟩ => return .nextTcp
    | .moved ⟨low :: _, _⟩ =>
      let length := bigEndian [high, low]
      if length = 0 then return .nextTcp else return .stay (.awaitingBody socket length [])
  | .awaitingBody socket length received => do
    match ← Dialogue.call (.receive socket (length - received.length)) with
    | .blocked => return .stay (.awaitingBody socket length received)
    | .failed _ => return .nextTcp
    | .moved ⟨[], _⟩ => return .nextTcp
    | .moved ⟨chunk, _⟩ =>
      let received := received ++ chunk
      if received.length < length then return .stay (.awaitingBody socket length received)
      else return judgeMessage attempt received

/-! ## Going on -/

/-- Carries out what becomes of the attempt in flight. -/
def follow (s : Session) (attempt : Attempt) (g : Generator) : Move → Dialogue Turn
  | .stay wire => return (.ok .pending, { s with stage := .waiting attempt wire }, g)
  | .stayUntil deadline wire =>
    return (.ok .pending, { s with deadline := deadline, stage := .waiting attempt wire }, g)
  | .nextUdp =>
    tryUdp s attempt.query attempt.servers (attempt.servers.schedule s.round (s.slot + 1)) g
  | .firstTcp =>
    tryTcp s attempt.query attempt.servers (attempt.servers.targetsFrom s.round 0) g
  | .nextTcp =>
    tryTcp s attempt.query attempt.servers (attempt.servers.targetsFrom s.round (s.slot + 1)) g
  | .accept reply => return (.ok .done, { s with stage := .idle (some reply) }, g)
  | .overflow => return (.error .clockOverflow, s.free, g)

/-- What becomes of the attempt in flight. If its socket was reported ready, data is moved there;
otherwise only the deadline is checked against `now`. -/
def nextMove (s : Session) (attempt : Attempt) (wire : Wire) (ready : Bool) (now : Instant) :
    Dialogue Move :=
  if ready then stepWire s.policy attempt s.round wire
  else if now.before s.deadline then return .stay wire
  else if wire.isDatagram then return .nextUdp
  else return .nextTcp

/-- Lets a session go on. -/
def get (s : Session) (ready : Bool) (now : Instant) (g : Generator) : Dialogue Turn :=
  match s.stage with
  | .idle (some _) => return (.ok .done, s, g)
  | .idle none => return (.error .noQuery, s, g)
  | .waiting attempt wire => do
    let move ← s.nextMove attempt wire ready now
    s.follow attempt g move

end Session

end Resolver
