import Resolver.Session.Basic

/-!
# Sessions field by field

A `Session` keeps together what belongs together: while it waits it has an attempt, and while it
does not it may hold a reply. Here a session is the record that its steps assign to, one field at a
time: a buffer with the framed query, in which the id is overwritten for every attempt, two cursors
that loops move over the servers and the rounds, how far the attempt has come, and the reply.

Every access to a buffer or a table is checked. A talk in which one is out of range ends there, with
no result (`none`).
-/

namespace Resolver

/-! ## Fields -/

/-- How far an attempt has come. The reply of a stream comes into a buffer of its length. -/
inductive Transmission.State
  | idle
  | awaitingDatagram (socket : Socket)
  | connecting (socket : Socket)
  | sending (socket : Socket) (sent : Nat)
  | awaitingHigh (socket : Socket)
  | awaitingLow (socket : Socket) (high : UInt8)
  | awaitingBody (socket : Socket) (packet : Bytes) (received : Nat)
  deriving DecidableEq, Repr

/-- A session, field by field. -/
structure Transmission where
  policy : Policy
  /-- The framed query, empty while nothing is asked. -/
  query : Bytes
  qtype : UInt16
  servers : Servers
  /-- The round of datagrams that was reached. -/
  round : Nat
  /-- The place of the server that was reached. -/
  slot : Nat
  deadline : Instant
  state : Transmission.State
  /-- The reply, unless it was taken. -/
  packet : Option Bytes
  /-- The id that was written into a query last. Nothing reads it. -/
  stamped : Option UInt16
  deriving DecidableEq, Repr

namespace Transmission

/-! ## Checked accesses -/

/-- The bytes from an offset on. -/
def from? (bytes : Bytes) (start : Nat) : Option Bytes :=
  if start ≤ bytes.length then some (bytes.drop start) else none

/-- The bytes between two offsets. -/
def between? (bytes : Bytes) (start stop : Nat) : Option Bytes :=
  if start ≤ stop ∧ stop ≤ bytes.length then some ((bytes.drop start).take (stop - start)) else none

/-- The bytes with one of them overwritten. -/
def put? (bytes : Bytes) (i : Nat) (byte : UInt8) : Option Bytes :=
  if i < bytes.length then some (bytes.set i byte) else none

/-- A framed query with another id. -/
def stamp? (query : Bytes) (id : UInt16) : Option Bytes :=
  (put? query 2 (UInt8.ofNat (id.toNat / 256))).bind (put? · 3 (UInt8.ofNat id.toNat))

/-! ## Plain operations -/

/-- A session in which nothing was asked yet. -/
def new (policy : Policy) (now : Instant) : Transmission :=
  ⟨policy, [], 0, .ofList [], 0, 0, now, .idle, none, none⟩

/-- The session without its query and its reply. -/
def free (t : Transmission) : Transmission :=
  { t with state := .idle, query := [], packet := none }

/-- The reply and the session without it. -/
def takeReply (t : Transmission) : Option Bytes × Transmission :=
  (t.packet, { t with packet := none })

/-- The id in the query. -/
def queryId? (t : Transmission) : Option UInt16 :=
  match between? t.query 2 4 with
  | some [high, low] => some (wordOf high low)
  | _ => none

/-- What an attempt waits for. -/
def State.request? : State → Option (Socket × Interest)
  | .idle => none
  | .connecting socket | .sending socket _ => some (socket, .write)
  | .awaitingDatagram socket | .awaitingHigh socket | .awaitingLow socket _
  | .awaitingBody socket _ _ => some (socket, .read)

/-- What to wait for next, and the earlier of the given deadline and the session's own. -/
def wanted (t : Transmission) (deadline : Instant) : Option (Socket × Interest) × Instant :=
  match t.state.request? with
  | none => (none, deadline)
  | some request => (some request, t.deadline.earliest deadline)

/-- Whether a reply lacks the id or the question of the query. -/
def irrelevant? (t : Transmission) (reply : Bytes) : Option Bool :=
  match Packet.question? reply with
  | none => some true
  | some q => do
    let id ← between? t.query 2 4
    let name ← from? t.query 14
    return wordBytes q.id != id || !Name.equal q.name name || q.qtype != t.qtype ||
      q.qclass != Packet.classInternet

/-! ## Making attempts -/

/-- What a step comes to, unless an access is out of range: its result, the session and the random
source after it. -/
abbrev Turn := Option (Except Failure Progress × Transmission × Generator)

/-- Sends the query in a datagram to the first server from the cursors on that takes it. -/
def tryUdp (t : Transmission) (g : Generator) : Dialogue Turn :=
  if t.round < roundCount then
    if t.slot < maxServers then
      match t.servers.get? t.slot with
      | none => tryUdp { t with slot := t.slot + 1 } g
      | some ip =>
        let (id, g) := g.id
        match stamp? t.query id with
        | none => return none
        | some query => do
          let t := { t with query := query, stamped := some id }
          let (opened, g) ← Session.openLocal t.policy .udp g
          match opened with
          | .error cause => return some (.error (.socket cause), t.free, g)
          | .ok socket =>
            match from? t.query 2 with
            | none => return none
            | some message =>
              if ← Session.sendDatagram t.policy socket ip message then
                let now ← Dialogue.call .now
                match t.policy.udpTimeouts[t.round]? with
                | none => return none
                | some timeout =>
                  match now.add? timeout with
                  | none => return some (.error .clockOverflow, t.free, g)
                  | some deadline =>
                    let t := { t with deadline := deadline, state := .awaitingDatagram socket }
                    return some (.ok .pending, t, g)
              else tryUdp { t with slot := t.slot + 1 } g
    else tryUdp { t with round := t.round + 1, slot := 0 } g
  else return some (.error .exhausted, t.free, g)
termination_by (roundCount - t.round, maxServers - t.slot)

/-- Connects a stream to a server. -/
def connectStream (policy : Policy) (socket : Socket) (ip : Ipv4) : Dialogue Connection :=
  Dialogue.call (.connect socket ip policy.port)

/-- Opens a stream to the first server from the cursor on where that does not fail at once. -/
def tryTcp (t : Transmission) (g : Generator) : Dialogue Turn :=
  if t.slot < maxServers then
    match t.servers.get? t.slot with
    | none => tryTcp { t with slot := t.slot + 1 } g
    | some ip =>
      let (id, g) := g.id
      match stamp? t.query id with
      | none => return none
      | some query => do
        let t := { t with query := query, stamped := some id }
        let (opened, g) ← Session.openLocal t.policy .tcp g
        match opened with
        | .error cause => return some (.error (.socket cause), t.free, g)
        | .ok socket =>
          let now ← Dialogue.call .now
          match now.add? t.policy.tcpTimeout with
          | none => return some (.error .clockOverflow, t.free, g)
          | some deadline =>
            match ← connectStream t.policy socket ip with
            | .connected =>
              let t := { t with deadline := deadline, state := .sending socket 0 }
              return some (.ok .pending, t, g)
            | .inProgress =>
              let t := { t with deadline := deadline, state := .connecting socket }
              return some (.ok .pending, t, g)
            | .failed _ => tryTcp { t with deadline := deadline, slot := t.slot + 1 } g
  else return some (.error .exhausted, t.free, g)
termination_by maxServers - t.slot

/-- Goes on with datagrams from the cursors on. -/
def thisUdp (t : Transmission) (g : Generator) : Dialogue Turn :=
  { t with state := .idle }.tryUdp g

/-- Goes on with streams from the cursor on. -/
def thisTcp (t : Transmission) (g : Generator) : Dialogue Turn :=
  { t with state := .idle, packet := none }.tryTcp g

/-- The session with the query for a name in its buffer and the cursors where attempts begin. -/
def asking (t : Transmission) (servers : Servers) (recursive : Bool) (name : Bytes)
    (qtype : UInt16) : Transmission :=
  { t with
    query := toBigEndian 2 (name.length + 16) ++ ([0, 0] ++ ([if recursive then 1 else 0, 0] ++
      ([0, 1, 0, 0, 0, 0, 0, 0] ++ (name ++ (wordBytes qtype ++
        wordBytes Packet.classInternet)))))
    qtype := qtype
    servers := servers
    round := if recursive then 0 else 1
    slot := 0 }

/-- Asks for a name. -/
def start (t : Transmission) (servers : Servers) (recursive : Bool) (name : Bytes) (qtype : UInt16)
    (g : Generator) : Dialogue (Option (Except Failure Unit × Transmission × Generator)) :=
  let t := t.free
  match Name.length? name with
  | none => return some (.error .badName, t, g)
  | some length =>
    match between? name 0 length with
    | none => return none
    | some name => do
      let t := t.asking servers recursive name qtype
      let turn ← if Query.maxDatagram < length + 16 then t.thisTcp g else t.thisUdp g
      return turn.map fun (result, t, g) => (result.map fun _ => (), t, g)

/-! ## Looking at the socket -/

/-- What becomes of an attempt. -/
inductive Verdict
  | wait
  | nextUdp
  | firstTcp
  | nextTcp
  | accept (reply : Bytes)
  | overflow
  deriving DecidableEq, Repr

/-- What looking at the socket comes to, unless an access is out of range: the session, its next
state and what becomes of the attempt. -/
abbrev Look := Option (Transmission × State × Verdict)

/-- Judges a datagram with content. -/
def judgeDatagram (t : Transmission) (socket : Socket) (reply : Bytes) : Look :=
  let stays : Look := some (t, .awaitingDatagram socket, .wait)
  if maxReply < reply.length then stays
  else
    match t.irrelevant? reply with
    | none => none
    | some irrelevant =>
      if irrelevant then stays
      else if Packet.wantsTcp reply then some (t, .idle, .firstTcp)
      else if Packet.serverFailed reply then
        if t.round = patientRound then stays else some (t, .idle, .nextUdp)
      else some (t, .idle, .accept reply)

/-- Judges the whole reply of a stream. -/
def judgeMessage (t : Transmission) (reply : Bytes) : Look :=
  match t.irrelevant? reply with
  | none => none
  | some irrelevant =>
    if irrelevant || Packet.wantsTcp reply || Packet.serverFailed reply then
      some (t, .idle, .nextTcp)
    else some (t, .idle, .accept reply)

/-- Looks at the socket of an attempt whose state was moved out of the session. -/
def step (t : Transmission) : State → Dialogue Look
  | .idle => return some (t, .idle, .wait)
  | .awaitingDatagram socket => do
    match ← Dialogue.call (.receive socket (maxReply + 1)) with
    | .blocked => return some (t, .awaitingDatagram socket, .wait)
    | .failed cause =>
      if cause = .connectionRefused ∧ t.round = patientRound then
        return some (t, .awaitingDatagram socket, .wait)
      else return some (t, .idle, .nextUdp)
    | .moved ⟨[], _⟩ => return some (t, .idle, .nextUdp)
    | .moved ⟨reply, _⟩ => return t.judgeDatagram socket reply
  | .connecting socket => do
    if ← Dialogue.call (.isConnected socket) then return some (t, .sending socket 0, .wait)
    else return some (t, .idle, .nextTcp)
  | .sending socket sent =>
    match from? t.query sent with
    | none => return none
    | some rest => do
      match ← Dialogue.call (.send socket rest) with
      | .blocked => return some (t, .sending socket sent, .wait)
      | .failed _ => return some (t, .idle, .nextTcp)
      | .moved ⟨0, _⟩ => return some (t, .idle, .nextTcp)
      | .moved ⟨n, _⟩ =>
        if sent + n = t.query.length then
          let now ← Dialogue.call .now
          match now.add? t.policy.tcpTimeout with
          | none => return some (t, .idle, .overflow)
          | some deadline =>
            return some ({ t with deadline := deadline }, .awaitingHigh socket, .wait)
        else return some (t, .sending socket (sent + n), .wait)
  | .awaitingHigh socket => do
    match ← Dialogue.call (.receive socket 1) with
    | .blocked => return some (t, .awaitingHigh socket, .wait)
    | .failed _ => return some (t, .idle, .nextTcp)
    | .moved ⟨[], _⟩ => return some (t, .idle, .nextTcp)
    | .moved ⟨high :: _, _⟩ => return some (t, .awaitingLow socket high, .wait)
  | .awaitingLow socket high => do
    match ← Dialogue.call (.receive socket 1) with
    | .blocked => return some (t, .awaitingLow socket high, .wait)
    | .failed _ => return some (t, .idle, .nextTcp)
    | .moved ⟨[], _⟩ => return some (t, .idle, .nextTcp)
    | .moved ⟨low :: _, _⟩ =>
      let length := bigEndian [high, low]
      if length = 0 then return some (t, .idle, .nextTcp)
      else return some (t, .awaitingBody socket (List.replicate length 0) 0, .wait)
  | .awaitingBody socket packet received =>
    match from? packet received with
    | none => return none
    | some rest => do
      match ← Dialogue.call (.receive socket rest.length) with
      | .blocked => return some (t, .awaitingBody socket packet received, .wait)
      | .failed _ => return some (t, .idle, .nextTcp)
      | .moved ⟨[], _⟩ => return some (t, .idle, .nextTcp)
      | .moved ⟨chunk, _⟩ =>
        -- the bytes that came in overwrite as many of the buffer
        let packet := packet.take received ++ (chunk ++ rest.drop chunk.length)
        if received + chunk.length < packet.length then
          return some (t, .awaitingBody socket packet (received + chunk.length), .wait)
        else return t.judgeMessage packet

/-! ## Going on -/

/-- Carries out what becomes of an attempt. A deadline past the range of the clock leaves nothing,
as it does in a `Session`. -/
def follow (t : Transmission) (g : Generator) : Verdict → Dialogue Turn
  | .wait => return some (.ok .pending, t, g)
  | .nextUdp => { t with slot := t.slot + 1 }.thisUdp g
  | .firstTcp => { t with slot := 0 }.thisTcp g
  | .nextTcp => { t with slot := t.slot + 1 }.thisTcp g
  | .accept reply => return some (.ok .done, { t with packet := some reply, query := [] }, g)
  | .overflow => return some (.error .clockOverflow, t.free, g)

/-- Looks at the attempt in flight, whose state is moved out of the session: at its socket if that
was reported ready, otherwise only at the deadline. -/
def look (t : Transmission) (ready : Bool) (now : Instant) : Dialogue Look :=
  let state := t.state
  let t := { t with state := .idle }
  if ready then t.step state
  else if now.before t.deadline then return some (t, state, .wait)
  else
    match state with
    | .awaitingDatagram _ => return some (t, .idle, .nextUdp)
    | _ => return some (t, .idle, .nextTcp)

/-- Lets a session go on. -/
def get (t : Transmission) (ready : Bool) (now : Instant) (g : Generator) : Dialogue Turn :=
  if t.state = .idle then
    match t.packet with
    | some _ => return some (.ok .done, t, g)
    | none => return some (.error .noQuery, t, g)
  else do
    match ← t.look ready now with
    | none => return none
    | some (t, next, verdict) => follow { t with state := next } g verdict

end Transmission

end Resolver
