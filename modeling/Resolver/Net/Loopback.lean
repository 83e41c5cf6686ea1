import Resolver.Net.Dialogue
import Resolver.Session.Servers

/-!
# A scripted network

A network of a few hosts that does what it is told: a pure answer to every question of a dialogue.
It stands in for a real one where the behaviour of clients is to be replayed exactly. Time stands
still except while a client waits for something that does not come.

Every query a host receives is recorded. A host may have a script of what to send back; otherwise
replies are put in by hand.
-/

namespace Resolver.Loopback

/-- A message that a host sends. -/
structure Scripted where
  bytes : Bytes
  /-- Where the id of the query is written over the message. -/
  idAt : Option Nat
  /-- Whether the stream is closed behind the message. -/
  close : Bool
  deriving Repr

/-- A host with servers on it. -/
structure Host where
  ip : Ipv4
  /-- Whether anything can be sent there. -/
  reachable : Bool
  /-- Whether a server takes datagrams. -/
  udp : Bool
  /-- Whether a server takes streams. -/
  tcp : Bool
  /-- What is sent back on each datagram in turn. -/
  udpScript : List (List Scripted)
  /-- What is sent back on each stream in turn, once a query has come in. -/
  tcpScript : List Scripted
  deriving Repr

/-- What waits to be received on a datagram socket. -/
inductive Incoming
  | datagram (bytes : Bytes)
  /-- The notice that nobody took what was sent. -/
  | refusal
  deriving Repr

/-- How the far end of a stream stands. -/
inductive FarEnd
  | up
  | closed
  | reset
  deriving DecidableEq, Repr

/-- A client's socket. -/
structure SocketState where
  transport : Transport
  /-- The local port asked for, if one was. -/
  port : Option Nat
  /-- The number of the host it is connected to. -/
  peer : Option Nat
  /-- The datagrams to be received. -/
  inbox : List Incoming
  /-- The stream bytes the host has received. -/
  sent : Bytes
  /-- The stream bytes to be received. -/
  arrived : Bytes
  farEnd : FarEnd
  deriving Repr

/-- A datagram that a host received. -/
structure Received where
  host : Nat
  socket : Socket
  payload : Bytes
  /-- Whether it was looked at. -/
  seen : Bool
  deriving Repr

/-- The state of the network and of the clock. -/
structure World where
  clock : Instant
  hosts : List Host
  /-- The port of the servers. -/
  port : UInt16
  sockets : Array SocketState
  /-- The datagrams received by hosts, in order. -/
  received : Array Received

namespace World

/-! ## Worlds -/

/-- What the monotonic clock reads at first. -/
def firstInstant : Instant := ⟨1000000000000⟩

/-- The time of day at first, in seconds from the start of 1970. -/
def firstSecond : Nat := 1700000000

/-- A network with the given hosts, their servers at a port, in which nothing has happened. -/
def start (hosts : List Host) (port : UInt16) : World :=
  ⟨firstInstant, hosts, port, #[], #[]⟩

/-- The world some time later. -/
def later (w : World) (d : Duration) : World :=
  { w with clock := ⟨w.clock.nanos + d⟩ }

/-- The time of day. -/
def wallClock (w : World) : Tai64 :=
  Tai64.ofUnix (firstSecond + Duration.wholeSeconds (w.clock.since firstInstant))

/-- The number of the host with an address. -/
def hostAt? (w : World) (ip : Ipv4) : Option Nat :=
  w.hosts.findIdx? (·.ip = ip)

/-- Whether a socket can be given a local address. All hosts are on this machine, and other
addresses belong to none of them. -/
def isLocal (ip : Ipv4) : Bool :=
  ip.isLoopback || ip = .unspecified

/-- The host with a number. -/
def host? (w : World) (n : Option Nat) : Option Host :=
  n.bind fun n => w.hosts[n]?

/-- The world with one socket changed. -/
def modifySocket (w : World) (s : Socket) (f : SocketState → SocketState) : World :=
  { w with sockets := w.sockets.modify s f }

/-- Bytes with the two bytes of an id laid over them at an offset, if they reach that far. -/
def stamp (bytes : Bytes) (idAt : Option Nat) (id : Bytes) : Bytes :=
  match idAt with
  | some n =>
    if n + 2 ≤ bytes.length ∧ id.length = 2 then bytes.take n ++ (id ++ bytes.drop (n + 2))
    else bytes
  | none => bytes

/-- The datagrams a host has received. -/
def receivedBy (w : World) (host : Nat) : List Received :=
  w.received.toList.filter (·.host = host)

/-- The newest stream to a host that takes streams. -/
def newestStream? (w : World) (host : Nat) : Option Socket :=
  if (w.hosts[host]?).any (·.tcp) then
    (List.range w.sockets.size).reverse.find? fun s =>
      (w.sockets[s]?).any fun st => st.transport = .tcp && st.peer = some host
  else none

/-- The streams that a host has taken. -/
def streamsTo (w : World) (host : Nat) : List SocketState :=
  if (w.hosts[host]?).any (·.tcp) then
    w.sockets.toList.filter fun st => st.transport = .tcp && st.peer = some host
  else []

/-! ## What hosts do by script -/

/-- Takes in a datagram of a client and sends back what the host's script says. -/
def takeDatagram (w : World) (s : Socket) (n : Nat) (host : Host) (payload : Bytes) : World :=
  if host.udp then
    let replies := host.udpScript.getD (w.receivedBy n).length []
    let w := { w with received := w.received.push ⟨n, s, payload, false⟩ }
    w.modifySocket s fun st =>
      { st with inbox := st.inbox ++
          replies.map fun m => .datagram (stamp m.bytes m.idAt (payload.take 2)) }
  else w.modifySocket s fun st => { st with inbox := st.inbox ++ [.refusal] }

/-- Whether stream bytes hold a whole framed message. -/
def isWhole (stream : Bytes) : Bool :=
  2 ≤ stream.length && 2 + bigEndian (stream.take 2) ≤ stream.length

/-- The number of a stream among those to its host. -/
def streamNumber (w : World) (s : Socket) (host : Nat) : Nat :=
  ((w.sockets.toList.take s).filter fun st => st.transport = .tcp && st.peer = some host).length

/-- Takes in stream bytes of a client and sends back what the host's script says, once the query
is whole. -/
def takeBytes (w : World) (s : Socket) (n : Nat) (host : Host) (bytes : Bytes) : World :=
  let reply := host.tcpScript[w.streamNumber s n]?
  w.modifySocket s fun st =>
    let sent := st.sent ++ bytes
    match reply with
    | some m =>
      if isWhole sent && !isWhole st.sent then
        { st with
          sent := sent
          arrived := st.arrived ++ stamp m.bytes m.idAt ((sent.drop 2).take 2)
          farEnd := if m.close then .closed else st.farEnd }
      else { st with sent := sent }
    | none => { st with sent := sent }

/-! ## Answers to clients -/

/-- The answer to a request to send. -/
def answerSend (w : World) (s : Socket) (bytes : Bytes) :
    Transfer { n : Nat // n ≤ bytes.length } × World :=
  match w.sockets[s]? with
  | none => (.failed .unsupported, w)
  | some st =>
    match st.peer, w.host? st.peer with
    | some n, some host =>
      match st.transport with
      | .udp => (.moved ⟨bytes.length, Nat.le_refl _⟩, w.takeDatagram s n host bytes)
      | .tcp =>
        if st.farEnd = .reset ∨ host.tcp = false then (.failed .connectionReset, w)
        else (.moved ⟨bytes.length, Nat.le_refl _⟩, w.takeBytes s n host bytes)
    | _, _ =>
      (.moved ⟨bytes.length, Nat.le_refl _⟩,
        w.modifySocket s fun st => { st with inbox := st.inbox ++ [.refusal] })

/-- As many bytes as there is space for. -/
def fit (space : Nat) (bytes : Bytes) : { bytes : Bytes // bytes.length ≤ space } :=
  ⟨bytes.take space, List.length_take_le space bytes⟩

/-- The answer to a request to receive. -/
def answerReceive (w : World) (s : Socket) (space : Nat) :
    Transfer { bytes : Bytes // bytes.length ≤ space } × World :=
  match w.sockets[s]? with
  | none => (.failed .unsupported, w)
  | some st =>
    match st.transport with
    | .udp =>
      match st.inbox with
      | [] => (.blocked, w)
      | .refusal :: rest =>
        (.failed .connectionRefused, w.modifySocket s fun st => { st with inbox := rest })
      | .datagram bytes :: rest =>
        (.moved (fit space bytes), w.modifySocket s fun st => { st with inbox := rest })
    | .tcp =>
      if st.farEnd = .reset then (.failed .connectionReset, w)
      else if st.arrived = [] then
        if st.farEnd = .closed then (.moved (fit space []), w) else (.blocked, w)
      else
        (.moved (fit space st.arrived),
          w.modifySocket s fun st => { st with arrived := st.arrived.drop space })

/-- The answer to a request to connect. On a port without servers nobody answers. -/
def answerConnect (w : World) (s : Socket) (ip : Ipv4) (port : UInt16) : Connection × World :=
  let peer := w.hostAt? ip
  let reachable := match w.host? peer with
    | some host => host.reachable
    | none => ip.isLoopback
  if reachable then
    let w := w.modifySocket s fun st => { st with peer := if port = w.port then peer else none }
    match w.sockets[s]? with
    | some st => (if st.transport = .udp then .connected else .inProgress, w)
    | none => (.failed .unsupported, w)
  else (.failed .networkUnreachable, w)

/-- Whether a connection was made. -/
def answerIsConnected (w : World) (s : Socket) : Bool :=
  match w.sockets[s]? with
  | some st =>
    match w.host? st.peer with
    | some host => host.tcp && st.farEnd != .reset
    | none => false
  | none => false

/-- Whether a socket has what is waited for. The notice of a refused datagram does not count. -/
def isReady (w : World) (s : Socket) (interest : Interest) : Bool :=
  match w.sockets[s]? with
  | some st =>
    match st.transport, interest with
    | .udp, .read => st.inbox.any fun m => match m with
      | .datagram _ => true
      | .refusal => false
    | .tcp, .read => !st.arrived.isEmpty || st.farEnd != .up
    | _, .write => true
  | none => false

/-- The answer to a wait. When nothing comes, time passes up to the deadline. -/
def answerAwait (w : World) (s : Socket) (interest : Interest) (deadline : Instant) :
    Bool × World :=
  if w.isReady s interest then (true, w)
  else (false, { w with clock := ⟨max w.clock.nanos deadline.nanos⟩ })

/-- The answer to any question. -/
def answer : (c : Call) → World → c.Reply × World
  | .allocate _, w => (true, w)
  | .now, w => (w.clock, w)
  | .wallClock, w => (w.wallClock, w)
  | .openSocket transport, w =>
    (.ok w.sockets.size,
      { w with sockets := w.sockets.push ⟨transport, none, none, [], [], [], .up⟩ })
  | .bind s ip port, w =>
    if isLocal ip then
      let port := if port = 0 then none else some port.toNat
      (.ok (), w.modifySocket s fun st => { st with port := port })
    else (.error .addressNotAvailable, w)
  | .connect s ip port, w => w.answerConnect s ip port
  | .isConnected s, w => (w.answerIsConnected s, w)
  | .send s bytes, w => w.answerSend s bytes
  | .receive s space, w => w.answerReceive s space
  | .await s interest deadline, w =>
    let (ready, w) := w.answerAwait s interest deadline
    (.ok ready, w)

/-- The result of a dialogue in a world, and the world after it. -/
def converse (w : World) (d : Dialogue α) : α × World :=
  d.run answer w

/-! ## What hosts do by hand -/

/-- Looks at the datagrams of a host that were not looked at yet: source port and content. -/
def look (w : World) (host : Nat) : List (Option Nat × Bytes) × World :=
  let news := (w.receivedBy host).filter (!·.seen)
  let ports := news.map fun r => ((w.sockets[r.socket]?).bind (·.port), r.payload)
  (ports, { w with received := w.received.map fun r =>
    if r.host = host then { r with seen := true } else r })

/-- Sends a datagram from a host to the client of one of the queries it received, the last one
unless a number is given. The flag says whether there is such a query. A datagram from another
address than the client asked never reaches it. -/
def sendBack (w : World) (host : Nat) (number : Option Nat) (message : Scripted)
    (otherAddress : Bool) : Bool × World :=
  let all := w.receivedBy host
  let (_, w) := w.look host
  match all[number.getD (all.length - 1)]? with
  | none => (false, w)
  | some r =>
    if otherAddress then (true, w)
    else
      let bytes := stamp message.bytes message.idAt (r.payload.take 2)
      (true, w.modifySocket r.socket fun st => { st with inbox := st.inbox ++ [.datagram bytes] })

/-- The outcome of handling the newest stream to a host. -/
inductive StreamOutcome
  | handled
  /-- The host had closed it already. -/
  | closed
  /-- There is none. -/
  | noConnection
  deriving DecidableEq, Repr

/-- Handles the newest stream to a host that the host has not closed. -/
def onStream (w : World) (host : Nat) (f : SocketState → SocketState) : StreamOutcome × World :=
  match w.newestStream? host with
  | none => (.noConnection, w)
  | some s =>
    match w.sockets[s]? with
    | none => (.noConnection, w)
    | some st => if st.farEnd = .up then (.handled, w.modifySocket s f) else (.closed, w)

/-- Sends stream bytes from a host. -/
def sendStream (w : World) (host : Nat) (message : Scripted) : StreamOutcome × World :=
  w.onStream host fun st =>
    { st with arrived := st.arrived ++ stamp message.bytes message.idAt ((st.sent.drop 2).take 2) }

/-- Closes a stream behind what was sent. -/
def closeStream (w : World) (host : Nat) : StreamOutcome × World :=
  w.onStream host fun st => { st with farEnd := .closed }

/-- Breaks a stream off. -/
def resetStream (w : World) (host : Nat) : StreamOutcome × World :=
  w.onStream host fun st => { st with farEnd := .reset }

/-- Source port and bytes received of the newest stream to a host. -/
def streamBytes? (w : World) (host : Nat) : Option (Option Nat × Bytes) := do
  let s ← w.newestStream? host
  let st ← w.sockets[s]?
  return (st.port, st.sent)

/-- More waits than any session in this world takes, as long as no time to wait is over an hour:
each wait takes in something sent or passes a deadline. -/
def enoughWaits (w : World) : Nat :=
  w.hosts.foldl (fun n h =>
    h.tcpScript.foldl (fun n m => n + 4 * m.bytes.length)
      (h.udpScript.foldl (fun n replies => n + replies.length) n)) 100000

end World

end Resolver.Loopback
