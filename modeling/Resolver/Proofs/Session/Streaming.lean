import Resolver.Proofs.Session.Attempts
import Resolver.Proofs.Session.Foreign
import Resolver.Proofs.Session.Schedule

/-!
# Messages on streams

A stream carries a message behind its length, and a session receives it in pieces, cut wherever the
system likes. What becomes of the attempt is a matter of the bytes on the stream alone.

A turn with nothing to move changes nothing, and every other one brings the attempt further along its
stream or ends it (`takesTurn_of_get`). So an attempt is led along by the exchanges on its stream, and
only so many of them can move anything (`Stays.leads`).

Main statement: on a stream a session sends its query whole before it reads, and then goes on until
the message in front of the stream is there or the stream has ended; it takes that message as its
reply if it answers the query, and tries the next server if it does not (`get_stream`).
-/

namespace Resolver

/-- The message in front of a stream, once it is there: as many bytes as the two bytes before it
say. -/
def message? : Bytes → Option Bytes
  | high :: low :: body =>
    let length := bigEndian [high, low]
    if length ≤ body.length then some (body.take length) else none
  | _ => none

theorem message?_behind {length : Nat} (hlength : length < 65536) (body : Bytes) :
    message? (toBigEndian 2 length ++ body) =
      if length ≤ body.length then some (body.take length) else none := by
  obtain ⟨high, low, hbytes⟩ : ∃ high low, toBigEndian 2 length = [high, low] :=
    ⟨_, _, rfl⟩
  have hread : bigEndian [high, low] = length := by
    rw [← hbytes, bigEndian_toBigEndian]
    exact Nat.mod_eq_of_lt hlength
  rw [hbytes]
  show (if bigEndian [high, low] ≤ body.length then some (body.take (bigEndian [high, low]))
    else none) = _
  rw [hread]

/-- A message that is not there whole is not there yet. -/
theorem message?_part {length : Nat} {received : Bytes} (hlength : length < 65536)
    (hpart : received.length < length) : message? (toBigEndian 2 length ++ received) = none := by
  rw [message?_behind hlength, if_neg (Nat.not_le.2 hpart)]

/-- A message that is there whole stays the same, whatever comes behind it. -/
theorem message?_whole {p : Bytes} (hlength : p.length < 65536) (left : Bytes) :
    message? (toBigEndian 2 p.length ++ (p ++ left)) = some p := by
  rw [message?_behind hlength, if_pos, List.take_left' rfl]
  rw [List.length_append]
  omega

/-- All bytes that have come in over a socket. -/
def Flight.incoming (f : Flight) : Bytes :=
  f.received.flatMap Prod.snd

namespace Dialogue

/-- The bytes that an exchange brings in. -/
def brought : Exchange → Bytes
  | ⟨.receive _ _, .moved bytes⟩ => bytes.val
  | _ => []

/-- The bytes that an exchange takes out. -/
def taken : Exchange → Bytes
  | ⟨.send _ bytes, .moved n⟩ => bytes.take n.val
  | _ => []

/-- The exchange shows that a stream has failed or was closed. -/
def endsStream : Exchange → Bool
  | ⟨.isConnected _, connected⟩ => !connected
  | ⟨.send _ _, .failed _⟩ => true
  | ⟨.send _ _, .moved n⟩ => n.val == 0
  | ⟨.receive _ _, .failed _⟩ => true
  | ⟨.receive _ _, .moved bytes⟩ => bytes.val.isEmpty
  | _ => false

/-- The exchange found that nothing could be moved yet. -/
def isBlocked : Exchange → Bool
  | ⟨.send _ _, .blocked⟩ => true
  | ⟨.receive _ _, .blocked⟩ => true
  | _ => false

theorem brought_of_isBlocked {exchange : Exchange} (h : isBlocked exchange = true) :
    brought exchange = [] := by
  match exchange, h with
  | ⟨.send _ _, .blocked⟩, _ | ⟨.receive _ _, .blocked⟩, _ => rfl

theorem taken_of_isBlocked {exchange : Exchange} (h : isBlocked exchange = true) :
    taken exchange = [] := by
  match exchange, h with
  | ⟨.send _ _, .blocked⟩, _ | ⟨.receive _ _, .blocked⟩, _ => rfl

end Dialogue

namespace Wire

open Dialogue

/-- What has come in over the stream of an attempt, by how far it has come. -/
def incoming : Wire → Bytes
  | .awaitingDatagram _ | .connecting _ | .sending _ _ | .awaitingHigh _ => []
  | .awaitingLow _ high => [high]
  | .awaitingBody _ length received => toBigEndian 2 length ++ received

/-- What has gone out over the stream of an attempt that sends a frame, by how far it has come. -/
def outgoing (frame : Bytes) : Wire → Bytes
  | .awaitingDatagram _ | .connecting _ => []
  | .sending _ sent => frame.take sent
  | .awaitingHigh _ | .awaitingLow _ _ | .awaitingBody _ _ _ => frame

/-- How many bytes, at most, are still to pass before a stream has served an attempt that sends a
frame, with one more for each step that moves none. -/
def remaining (frame : Bytes) : Wire → Nat
  | .awaitingDatagram _ => 0
  | .connecting _ => frame.length + 65539
  | .sending _ sent => frame.length - sent + 65538
  | .awaitingHigh _ => 65537
  | .awaitingLow _ _ => 65536
  | .awaitingBody _ length received => length - received.length

/-- These exchanges on its stream bring an attempt from one place to another. -/
structure Leads (frame : Bytes) (exchanges : List Exchange) (wire wire' : Wire) : Prop where
  isDatagram_eq : wire'.isDatagram = false
  socket_eq : wire'.socket = wire.socket
  outgoing_eq : wire'.outgoing frame = wire.outgoing frame ++ exchanges.flatMap taken
  incoming_eq : wire'.incoming = wire.incoming ++ exchanges.flatMap brought
  moves_le : exchanges.countP (!isBlocked ·) + wire'.remaining frame ≤ wire.remaining frame

variable {frame : Bytes} {exchange : Exchange} {before after : List Exchange}
  {wire wire' wire'' : Wire}

theorem Leads.refl (frame : Bytes) (hstream : wire.isDatagram = false) :
    wire.Leads frame [] wire :=
  ⟨hstream, rfl, (List.append_nil _).symm, (List.append_nil _).symm, Nat.le_of_eq (Nat.zero_add _)⟩

theorem Leads.trans (first : wire.Leads frame before wire') (second : wire'.Leads frame after wire'') :
    wire.Leads frame (before ++ after) wire'' where
  isDatagram_eq := second.isDatagram_eq
  socket_eq := second.socket_eq.trans first.socket_eq
  outgoing_eq := by
    rw [second.outgoing_eq, first.outgoing_eq, List.append_assoc, List.flatMap_append]
  incoming_eq := by
    rw [second.incoming_eq, first.incoming_eq, List.append_assoc, List.flatMap_append]
  moves_le := by
    have hfirst := first.moves_le
    have hsecond := second.moves_le
    rw [List.countP_append]
    omega

/-- An exchange that finds nothing to move leads nowhere. -/
theorem leads_of_blocked (frame : Bytes) (hstream : wire.isDatagram = false)
    (hblocked : isBlocked exchange = true) : wire.Leads frame [exchange] wire where
  isDatagram_eq := hstream
  socket_eq := rfl
  outgoing_eq := by rw [List.flatMap_singleton, taken_of_isBlocked hblocked, List.append_nil]
  incoming_eq := by rw [List.flatMap_singleton, brought_of_isBlocked hblocked, List.append_nil]
  moves_le := by simp [hblocked]

/-- Any other exchange brings the attempt closer to its end. -/
theorem leads_of_forward (hstream : wire'.isDatagram = false) (hsocket : wire'.socket = wire.socket)
    (houtgoing : wire'.outgoing frame = wire.outgoing frame ++ taken exchange)
    (hincoming : wire'.incoming = wire.incoming ++ brought exchange)
    (hforward : wire'.remaining frame < wire.remaining frame) :
    wire.Leads frame [exchange] wire' where
  isDatagram_eq := hstream
  socket_eq := hsocket
  outgoing_eq := by rw [List.flatMap_singleton, houtgoing]
  incoming_eq := by rw [List.flatMap_singleton, hincoming]
  moves_le := by
    have hone : [exchange].countP (!isBlocked ·) ≤ 1 := List.countP_le_length
    omega

end Wire

namespace Session

open Dialogue

variable {servers : Servers} {recursive : Bool} {name : Bytes} {qtype : UInt16} {s : Session}
  {attempt : Attempt} {wire : Wire} {socket : Socket} {trace exchanges : List Exchange}
  {g : Generator} {turn : Turn}

/-- How an attempt over a stream ends, given all that the server sends on it. -/
inductive Verdict (s : Session) (attempt : Attempt) (g : Generator) (stream : Bytes) :
    List Exchange → Turn → Prop
  /-- The message in front of the stream is the reply. -/
  | accepted {p : Bytes} (hmessage : message? stream = some p)
      (hanswers : Answers p attempt.id attempt.query) :
      Verdict s attempt g stream [] (.ok .done, { s with stage := .idle (some p) }, g)
  /-- No message answers the query, and the next server is tried. -/
  | passedOver {rest : List Exchange} {turn : Turn}
      (hnone : ∀ p, message? stream = some p → ¬ Answers p attempt.id attempt.query)
      (hnext : Course (s.tryTcp attempt.query attempt.servers
        (attempt.servers.targetsFrom s.round (s.slot + 1)) g) rest turn) :
      Verdict s attempt g stream rest turn

/-- What a session does that waits on a stream, was told that it is ready, and makes an exchange
there, when these bytes came in before. -/
inductive StreamTurn (s : Session) (attempt : Attempt) (wire : Wire) (g : Generator)
    (incoming : Bytes) (exchange : Exchange) : List Exchange → Turn → Prop
  /-- Nothing could be moved, and all stays as it was. -/
  | blocked (hblocked : isBlocked exchange = true) (hpart : message? incoming = none) :
      StreamTurn s attempt wire g incoming exchange [] (.ok .pending, s, g)
  /-- The attempt has come further, and its message is not whole yet. -/
  | goesOn {rest : List Exchange} (deadline : Instant) (wire' : Wire)
      (hopen : endsStream exchange = false)
      (hpart : message? (incoming ++ brought exchange) = none)
      (hleads : wire.Leads attempt.frame [exchange] wire') :
      StreamTurn s attempt wire g incoming exchange rest
        (.ok .pending, { s with deadline := deadline, stage := .waiting attempt wire' }, g)
  /-- The attempt ends. What the server sends is what came in and what is left unread, which is
  nothing if the stream has ended. -/
  | ends {rest : List Exchange} {turn : Turn}
      (hverdict : ∀ left, (endsStream exchange = true → left = []) →
        Verdict s attempt g (incoming ++ (brought exchange ++ left)) rest turn) :
      StreamTurn s attempt wire g incoming exchange rest turn
  /-- The query is sent, and the time by which the reply is to come cannot be told. -/
  | overflow (now : Instant) (hnow : now.add? s.policy.tcpTimeout = none) :
      StreamTurn s attempt wire g incoming exchange [⟨.now, now⟩]
        (.error .clockOverflow, s.free, g)

/-- There is an exchange on the stream, and the session does what is due after it. -/
def TakesTurn (s : Session) (attempt : Attempt) (wire : Wire) (g : Generator) (incoming : Bytes)
    (exchanges : List Exchange) (turn : Turn) : Prop :=
  ∃ exchange rest, exchanges = exchange :: rest ∧
    StreamTurn s attempt wire g incoming exchange rest turn

/-! ## What is due after an exchange -/

variable {incoming : Bytes} {exchange : Exchange} {rest : List Exchange}

/-- A stream that has ended without a whole message is passed over. -/
theorem streamTurn_of_ended (hended : endsStream exchange = true)
    (hbrought : brought exchange = []) (hpart : message? incoming = none)
    (h : Course (s.follow attempt g .nextTcp) rest turn) :
    StreamTurn s attempt wire g incoming exchange rest turn := by
  refine .ends fun left hleft => .passedOver (fun p hmessage => ?_) h
  rw [hleft hended, hbrought, List.append_nil, List.append_nil, hpart] at hmessage
  exact nomatch hmessage

/-- An attempt that finds nothing to move stays as it is. -/
theorem streamTurn_of_blocked (hstage : s.stage = .waiting attempt wire)
    (hblocked : isBlocked exchange = true) (hpart : message? incoming = none)
    (h : Course (s.follow attempt g (.stay wire)) rest turn) :
    StreamTurn s attempt wire g incoming exchange rest turn := by
  rw [follow_stay hstage] at h
  cases h
  exact .blocked hblocked hpart

/-- An attempt that has come further goes on. -/
theorem streamTurn_of_forward {wire' : Wire} (hopen : endsStream exchange = false)
    (hpart : message? (incoming ++ brought exchange) = none)
    (h : Course (s.follow attempt g (.stay wire')) rest turn)
    (hleads : wire.Leads attempt.frame [exchange] wire') :
    StreamTurn s attempt wire g incoming exchange rest turn := by
  cases h
  exact .goesOn s.deadline wire' hopen hpart hleads

/-- A whole message is the reply if it answers the query, and the next server is due if not. -/
theorem streamTurn_of_whole {p : Bytes} (hname : Name.IsName attempt.query.name)
    (hlength : p.length < 65536)
    (hall : incoming ++ brought exchange = toBigEndian 2 p.length ++ p)
    (h : Course (s.follow attempt g (judgeMessage attempt p)) rest turn) :
    StreamTurn s attempt wire g incoming exchange rest turn := by
  have hmessage : ∀ left, message? (incoming ++ (brought exchange ++ left)) = some p := by
    intro left
    rw [← List.append_assoc, hall, List.append_assoc]
    exact message?_whole hlength left
  refine .ends fun left _ => ?_
  unfold judgeMessage at h
  split at h
  · rename_i hchecks
    rw [Bool.and_eq_true, Bool.and_eq_true, Bool.not_eq_true', Bool.not_eq_true'] at hchecks
    obtain ⟨⟨hanswered, hwhole⟩, hfailed⟩ := hchecks
    cases h
    exact .accepted (hmessage left) (Attempt.answers_of_checks hname hanswered hwhole hfailed)
  · rename_i hchecks
    refine .passedOver (fun p' hmessage' hanswers => hchecks ?_) h
    obtain rfl := Option.some.inj ((hmessage left).symm.trans hmessage')
    obtain ⟨hanswered, hwhole, hfailed⟩ := Attempt.checks_of_answers hname hanswers
    rw [hanswered, hwhole, hfailed]
    rfl

/-! ## Looking at the stream -/

variable {moves : List Exchange} {move : Move}

theorem takesTurn_connecting
    (h : Course (stepWire s.policy attempt s.round (.connecting socket)) moves move)
    (hfollow : Course (s.follow attempt g move) rest turn) :
    s.TakesTurn attempt (.connecting socket) g [] (moves ++ rest) turn := by
  unfold stepWire at h
  obtain ⟨connected, last, rfl, hlast⟩ := course_call_iff.1 h
  refine ⟨_, _, rfl, ?_⟩
  cases connected with
  | true =>
    obtain ⟨rfl, rfl⟩ := course_pure_iff.1 hlast
    refine streamTurn_of_forward rfl rfl hfollow (Wire.leads_of_forward rfl rfl rfl rfl ?_)
    show attempt.frame.length - 0 + 65538 < attempt.frame.length + 65539
    omega
  | false =>
    obtain ⟨rfl, rfl⟩ := course_pure_iff.1 hlast
    exact streamTurn_of_ended rfl rfl rfl hfollow

theorem takesTurn_sending {sent : Nat} (hstage : s.stage = .waiting attempt (.sending socket sent))
    (h : Course (stepWire s.policy attempt s.round (.sending socket sent)) moves move)
    (hfollow : Course (s.follow attempt g move) rest turn) :
    s.TakesTurn attempt (.sending socket sent) g [] (moves ++ rest) turn := by
  unfold stepWire at h
  obtain ⟨transfer, last, rfl, hlast⟩ := course_call_iff.1 h
  refine ⟨_, _, rfl, ?_⟩
  split at hlast
  · obtain ⟨rfl, rfl⟩ := course_pure_iff.1 hlast
    exact streamTurn_of_blocked hstage rfl rfl hfollow
  · obtain ⟨rfl, rfl⟩ := course_pure_iff.1 hlast
    exact streamTurn_of_ended rfl rfl rfl hfollow
  · obtain ⟨rfl, rfl⟩ := course_pure_iff.1 hlast
    exact streamTurn_of_ended rfl rfl rfl hfollow
  · rename_i count hle hpos
    have hsome : count ≠ 0 := hpos
    have hopen : endsStream ⟨.send socket ((attempt.query.framed attempt.id).drop sent),
        .moved ⟨count, hle⟩⟩ = false := beq_false_of_ne hsome
    have hspace : count ≤ attempt.frame.length - sent := by
      rw [← List.length_drop]
      exact hle
    have hgone : attempt.frame.take (sent + count) =
        attempt.frame.take sent ++ (attempt.frame.drop sent).take count := List.take_add
    split at hlast
    · rename_i hall
      have hframe : attempt.frame.take (sent + count) = attempt.frame := by
        rw [show sent + count = attempt.frame.length from hall, List.take_length]
      obtain ⟨now, final, rfl, hfinal⟩ := course_call_iff.1 hlast
      split at hfinal
      · rename_i hnow
        obtain ⟨rfl, rfl⟩ := course_pure_iff.1 hfinal
        cases hfollow
        exact .overflow now hnow
      · rename_i deadline hnow
        obtain ⟨rfl, rfl⟩ := course_pure_iff.1 hfinal
        cases hfollow
        refine .goesOn deadline _ hopen rfl
          (Wire.leads_of_forward rfl rfl (hframe.symm.trans hgone) rfl ?_)
        show 65537 < attempt.frame.length - sent + 65538
        omega
    · obtain ⟨rfl, rfl⟩ := course_pure_iff.1 hlast
      refine streamTurn_of_forward hopen rfl hfollow (Wire.leads_of_forward rfl rfl hgone rfl ?_)
      show attempt.frame.length - (sent + count) + 65538 < attempt.frame.length - sent + 65538
      omega

/-- While it receives over a stream, a session stays as it is until there is something to receive,
and passes the stream over when it fails or is closed. -/
theorem takesTurn_receiving {space : Nat}
    {next : Transfer { bytes : Bytes // bytes.length ≤ space } → Dialogue Move}
    (hstage : s.stage = .waiting attempt wire) (hpart : message? incoming = none)
    (h : Course (call (.receive socket space) >>= next) moves move)
    (hfollow : Course (s.follow attempt g move) rest turn)
    (hblocked : next .blocked = pure (.stay wire))
    (hfailed : ∀ cause, next (.failed cause) = pure .nextTcp)
    (hclosed : next (.moved ⟨[], Nat.zero_le _⟩) = pure .nextTcp)
    (hmoved : ∀ b bytes hspace last, Course (next (.moved ⟨b :: bytes, hspace⟩)) last move →
      StreamTurn s attempt wire g incoming
        ⟨.receive socket space, .moved ⟨b :: bytes, hspace⟩⟩ (last ++ rest) turn) :
    s.TakesTurn attempt wire g incoming (moves ++ rest) turn := by
  obtain ⟨transfer, last, rfl, hlast⟩ := course_call_iff.1 h
  refine ⟨_, _, rfl, ?_⟩
  cases transfer with
  | blocked =>
    rw [hblocked] at hlast
    obtain ⟨rfl, rfl⟩ := course_pure_iff.1 hlast
    exact streamTurn_of_blocked hstage rfl hpart hfollow
  | failed cause =>
    rw [hfailed] at hlast
    obtain ⟨rfl, rfl⟩ := course_pure_iff.1 hlast
    exact streamTurn_of_ended rfl rfl hpart hfollow
  | moved chunk =>
    obtain ⟨bytes, hspace⟩ := chunk
    cases bytes with
    | nil =>
      rw [hclosed] at hlast
      obtain ⟨rfl, rfl⟩ := course_pure_iff.1 hlast
      exact streamTurn_of_ended rfl rfl hpart hfollow
    | cons b bytes => exact hmoved b bytes hspace last hlast

theorem takesTurn_awaitingHigh (hstage : s.stage = .waiting attempt (.awaitingHigh socket))
    (h : Course (stepWire s.policy attempt s.round (.awaitingHigh socket)) moves move)
    (hfollow : Course (s.follow attempt g move) rest turn) :
    s.TakesTurn attempt (.awaitingHigh socket) g [] (moves ++ rest) turn := by
  unfold stepWire at h
  refine takesTurn_receiving hstage rfl h hfollow rfl (fun _ => rfl) rfl ?_
  intro high bytes hspace last hlast
  obtain rfl := List.eq_nil_of_length_eq_zero (Nat.le_zero.1 (Nat.le_of_succ_le_succ hspace))
  obtain ⟨rfl, rfl⟩ := course_pure_iff.1 hlast
  exact streamTurn_of_forward rfl rfl hfollow
    (Wire.leads_of_forward rfl rfl (List.append_nil _).symm rfl (Nat.lt_succ_self _))

theorem takesTurn_awaitingLow {high : UInt8}
    (hstage : s.stage = .waiting attempt (.awaitingLow socket high))
    (h : Course (stepWire s.policy attempt s.round (.awaitingLow socket high)) moves move)
    (hfollow : Course (s.follow attempt g move) rest turn) :
    s.TakesTurn attempt (.awaitingLow socket high) g [high] (moves ++ rest) turn := by
  unfold stepWire at h
  refine takesTurn_receiving hstage rfl h hfollow rfl (fun _ => rfl) rfl ?_
  intro low bytes hspace last hlast
  obtain rfl := List.eq_nil_of_length_eq_zero (Nat.le_zero.1 (Nat.le_of_succ_le_succ hspace))
  have hlength : bigEndian [high, low] < Nat.pow 256 2 := bigEndian_lt [high, low]
  dsimp only at hlast
  split at hlast <;> obtain ⟨rfl, rfl⟩ := course_pure_iff.1 hlast
  · rename_i hzero
    -- the message is empty, whatever else the server sends, and an empty message answers nothing
    refine .ends fun left _ => .passedOver (fun p hmessage hanswers => ?_) hfollow
    have hempty : message? ([high] ++ ([low] ++ left)) = some [] := by
      show (if bigEndian [high, low] ≤ left.length then some (left.take (bigEndian [high, low]))
        else none) = some []
      rw [hzero]
      rfl
    obtain rfl := Option.some.inj (hempty.symm.trans hmessage)
    exact nomatch hanswers.header
  · rename_i hne
    have hbytes : toBigEndian 2 (bigEndian [high, low]) = [high, low] :=
      toBigEndian_bigEndian [high, low]
    refine streamTurn_of_forward rfl (if_neg fun h => hne (Nat.le_zero.1 h)) hfollow
      (Wire.leads_of_forward rfl rfl (List.append_nil _).symm ?_ ?_)
    · show toBigEndian 2 (bigEndian [high, low]) ++ [] = [high] ++ [low]
      rw [hbytes]
      rfl
    · show bigEndian [high, low] - 0 < 65536
      exact hlength

theorem takesTurn_awaitingBody {length : Nat} {received : Bytes}
    (hname : Name.IsName attempt.query.name)
    (hstage : s.stage = .waiting attempt (.awaitingBody socket length received))
    (hshort : received.length < length) (hlength : length < 65536)
    (h : Course (stepWire s.policy attempt s.round (.awaitingBody socket length received)) moves
      move) (hfollow : Course (s.follow attempt g move) rest turn) :
    s.TakesTurn attempt (.awaitingBody socket length received) g
      (toBigEndian 2 length ++ received) (moves ++ rest) turn := by
  unfold stepWire at h
  refine takesTurn_receiving hstage (message?_part hlength hshort) h hfollow rfl (fun _ => rfl)
    rfl ?_
  intro b bytes hspace last hlast
  dsimp only at hlast
  split at hlast <;> obtain ⟨rfl, rfl⟩ := course_pure_iff.1 hlast
  · rename_i hstill
    refine streamTurn_of_forward rfl ?_ hfollow
      (Wire.leads_of_forward rfl rfl (List.append_nil _).symm (List.append_assoc ..).symm ?_)
    · show message? (toBigEndian 2 length ++ received ++ b :: bytes) = none
      rw [List.append_assoc]
      exact message?_part hlength hstill
    · show length - (received ++ b :: bytes).length < length - received.length
      rw [List.length_append, List.length_cons]
      omega
  · rename_i hwhole
    -- no more is received than there is space for, so the message has just its length
    obtain rfl : (received ++ b :: bytes).length = length := by
      rw [List.length_append] at hwhole ⊢
      omega
    refine streamTurn_of_whole hname hlength ?_ hfollow
    show toBigEndian 2 _ ++ received ++ b :: bytes = _
    rw [List.append_assoc]

/-! ## Sending the query -/

/-- A query is sent behind its length. -/
theorem framed_eq (q : Query) (id : UInt16) :
    q.framed id = toBigEndian 2 (q.message id).length ++ q.message id := by
  rw [Query.framed, Query.length_message]

/-- A stream has carried what its attempt has come to, and nothing else. -/
theorem streamed_of_shows {f : Flight} (hstream : wire.isDatagram = false)
    (hshows : attempt.Shows f wire) :
    f.Streamed wire.socket (wire.outgoing attempt.frame) wire.incoming := by
  cases wire with
  | awaitingDatagram => exact nomatch hstream
  | connecting | sending | awaitingHigh | awaitingLow => exact hshows
  | awaitingBody => exact hshows.2.2

/-- An attempt that reads from its stream has sent its query there. -/
theorem outgoing_of_read (hstream : wire.isDatagram = false) (hread : wire.interest = .read) :
    wire.outgoing attempt.frame = attempt.frame := by
  cases wire with
  | awaitingDatagram => exact nomatch hstream
  | connecting | sending => exact nomatch hread
  | awaitingHigh | awaitingLow | awaitingBody => rfl

/-- A stream can take a query as a whole. -/
theorem exists_sendFrame {now deadline : Instant}
    (hstage : s.stage = .waiting attempt (.sending socket 0))
    (hdeadline : now.add? s.policy.tcpTimeout = some deadline) (g : Generator) :
    ∃ exchange, Course (s.get true now g) [exchange, ⟨.now, now⟩] (.ok .pending,
      ⟨s.policy, s.round, s.slot, deadline, .waiting attempt (.awaitingHigh socket)⟩, g) := by
  obtain ⟨n, hn⟩ : ∃ n, (attempt.query.framed attempt.id).length = n + 1 := by
    refine Nat.exists_eq_add_one.2 ?_
    unfold Query.framed
    rw [List.length_append, length_toBigEndian]
    omega
  obtain ⟨exchange, hmove⟩ : ∃ exchange, Course (stepWire s.policy attempt s.round
      (.sending socket 0)) [exchange, ⟨.now, now⟩] (.stayUntil deadline (.awaitingHigh socket)) := by
    have hspace : n + 1 ≤ ((attempt.query.framed attempt.id).drop 0).length :=
      Nat.le_of_eq hn.symm
    refine ⟨_, course_call_iff.2 ⟨.moved ⟨n + 1, hspace⟩, [⟨.now, now⟩], rfl, ?_⟩⟩
    rw [hn]
    simp only [Nat.zero_add, if_pos]
    refine course_call_iff.2 ⟨now, [], rfl, ?_⟩
    rw [hdeadline]
    exact .done _
  rw [get_waiting hstage]
  exact ⟨exchange, course_seq_iff.2 ⟨_, _, [], rfl, hmove, .done _⟩⟩

/-! ## Taking turns -/

/-- Whatever a session finds on its stream, it takes its turn. -/
theorem takesTurn_of_get {f : Flight} {now : Instant} (hname : Name.IsName attempt.query.name)
    (hstage : s.stage = .waiting attempt wire) (hstream : wire.isDatagram = false)
    (hshows : attempt.Shows f wire) (h : Course (s.get true now g) exchanges turn) :
    s.TakesTurn attempt wire g wire.incoming exchanges turn := by
  rw [get_waiting hstage] at h
  obtain ⟨move, moves, rest, rfl, hmove, hfollow⟩ := course_seq_iff.1 h
  replace hmove : Course (stepWire s.policy attempt s.round wire) moves move := hmove
  cases wire with
  | awaitingDatagram => exact nomatch hstream
  | connecting socket => exact takesTurn_connecting hmove hfollow
  | sending socket sent => exact takesTurn_sending hstage hmove hfollow
  | awaitingHigh socket => exact takesTurn_awaitingHigh hstage hmove hfollow
  | awaitingLow socket high => exact takesTurn_awaitingLow hstage hmove hfollow
  | awaitingBody socket length received =>
    obtain ⟨hshort, hlength, -⟩ := hshows
    exact takesTurn_awaitingBody hname hstage hshort hlength hmove hfollow

/-- Told each time that its stream is ready, a session makes these exchanges there, one in each
turn, and stays with its server. -/
inductive Stays : Session → List Exchange → Session → Prop
  | refl (s : Session) : Stays s [] s
  | step {s s' s'' : Session} {now : Instant} {g g' : Generator} {exchange : Exchange}
      {rest exchanges : List Exchange}
      (h : Course (s.get true now g) (exchange :: rest) (.ok .pending, s', g'))
      (hslot : s'.slot = s.slot) (stays : Stays s' exchanges s'') :
      Stays s (exchange :: exchanges) s''

/-- The server that is tried is not before the place it was looked for from. -/
theorem le_slot_of_tryTcp {q : Query} {slot : Nat} {s' : Session} {g' : Generator}
    (h : Course (s.tryTcp q servers (servers.targetsFrom s.round slot) g) exchanges
      (.ok .pending, s', g')) : slot ≤ s'.slot := by
  obtain ⟨tried, rest, htargets, -, hsettles⟩ := settles_of_tryTcp (j := Journal.blank)
    (fun _ => Servers.round_of_mem_targetsFrom) h
  cases hsettles with
  | waits hlast _ hslot =>
    have hmem := List.mem_append_left rest (List.mem_of_getLast? hlast)
    rw [← htargets] at hmem
    rw [hslot]
    exact Servers.le_of_mem_targetsFrom hmem

/-- In a turn in which it stays with its server, a session is led along by its exchange. -/
theorem TakesTurn.leads {incoming : Bytes} {s' : Session} {g' : Generator}
    (hstage : s.stage = .waiting attempt wire) (hstream : wire.isDatagram = false)
    (h : s.TakesTurn attempt wire g incoming (exchange :: rest) (.ok .pending, s', g'))
    (hslot : s'.slot = s.slot) :
    ∃ wire', s'.stage = .waiting attempt wire' ∧ wire.Leads attempt.frame [exchange] wire' := by
  obtain ⟨exchange, rest, heq, hturn⟩ := h
  obtain ⟨rfl, rfl⟩ := List.cons.inj heq
  cases hturn with
  | blocked hblocked hpart => exact ⟨wire, hstage, Wire.leads_of_blocked _ hstream hblocked⟩
  | goesOn deadline wire' hopen hpart hleads => exact ⟨wire', rfl, hleads⟩
  | ends hverdict =>
    -- the next server has another place
    cases hverdict [] (fun _ => rfl) with
    | passedOver hnone hnext =>
      have hlater := le_slot_of_tryTcp hnext
      omega

/-- As long as a session on an errand stays with its server, its attempt is led along by the
exchanges on the stream. -/
theorem Stays.leads {s' : Session} (stays : s.Stays exchanges s')
    (run : Errand servers recursive name qtype trace (.ok .pending) s)
    (hstage : s.stage = .waiting attempt wire) (hstream : wire.isDatagram = false) :
    ∃ trace' wire', Errand servers recursive name qtype trace' (.ok .pending) s' ∧
      s'.stage = .waiting attempt wire' ∧ wire.Leads attempt.frame exchanges wire' := by
  induction stays generalizing trace wire with
  | refl s => exact ⟨trace, wire, run, hstage, Wire.Leads.refl _ hstream⟩
  | step h hslot stays ih =>
    obtain ⟨f, -, hshows⟩ := run.shows hstage
    obtain ⟨wire₁, hstage₁, hfirst⟩ :=
      (takesTurn_of_get (run.isName hstage) hstage hstream hshows h).leads hstage hstream hslot
    obtain ⟨trace', wire', run', hstage', hrest⟩ := ih (run.wentOn h) hstage₁ hfirst.isDatagram_eq
    exact ⟨trace', wire', run', hstage', hfirst.trans hrest⟩

/-- A session on an errand that waits on a stream is told, again and again, that the stream is ready.
However the bytes are cut, and however often nothing can be moved, it reads only after it has sent its
query, with the current id, behind its length. Only so many exchanges on the stream can move
anything, and the attempt then ends by the message in front of the stream: the session takes exactly
that message if it answers the query, and tries the next server if it does not or if no message is
there. What is behind the message makes no difference. -/
theorem get_stream (run : Errand servers recursive name qtype trace (.ok .pending) s)
    (hstage : s.stage = .waiting attempt wire) (hstream : wire.isDatagram = false) :
    ∃ f, Flight.observer.after none trace = some f ∧ f.transport = .tcp ∧ f.socket = wire.socket ∧
      ∀ exchanges s', s.Stays exchanges s' →
        exchanges.countP (!isBlocked ·) ≤ wire.remaining attempt.frame ∧
        ∃ wire', s'.stage = .waiting attempt wire' ∧ wire'.socket = wire.socket ∧
          (wire'.interest = .read → f.sent.flatten ++ exchanges.flatMap taken =
            toBigEndian 2 (attempt.query.message attempt.id).length ++
              attempt.query.message attempt.id) ∧
          ∀ now g last turn, Course (s'.get true now g) last turn →
            s'.TakesTurn attempt wire' g (f.incoming ++ exchanges.flatMap brought) last turn := by
  obtain ⟨f, hafter, hshows⟩ := run.shows hstage
  have hstreamed := streamed_of_shows hstream hshows
  refine ⟨f, hafter, hstreamed.transport_eq, hstreamed.socket_eq, fun exchanges s' stays => ?_⟩
  obtain ⟨trace', wire', run', hstage', hleads⟩ := stays.leads run hstage hstream
  obtain ⟨f', -, hshows'⟩ := run'.shows hstage'
  refine ⟨Nat.le_of_add_right_le hleads.moves_le, wire', hstage', hleads.socket_eq, ?_, ?_⟩
  · intro hread
    rw [hstreamed.sent_eq, ← hleads.outgoing_eq, outgoing_of_read hleads.isDatagram_eq hread]
    exact framed_eq attempt.query attempt.id
  · intro now g last turn h
    have hincoming : f.incoming = wire.incoming := hstreamed.received_eq
    rw [hincoming, ← hleads.incoming_eq]
    exact takesTurn_of_get (run'.isName hstage') hstage' hleads.isDatagram_eq hshows' h

/-- A session is about to send its query to its only server over a stream, which takes the query as a
whole. -/
theorem get_stream_sending :
    ∃ s trace, ∃ attempt : Attempt,
      Errand (.ofList [.localhost]) true [1, 97, 0] 1 trace (.ok .pending) s ∧
      s.stage = .waiting attempt (.sending 4 0) ∧ (Wire.sending 4 0).isDatagram = false ∧
      (∃ exchange s', s.Stays [exchange] s' ∧ s'.stage = .waiting attempt (.awaitingHigh 4)) ∧
      ∃ f, Flight.observer.after none trace = some f ∧ f.transport = .tcp ∧ f.socket = 4 ∧
        ∀ exchanges s', s.Stays exchanges s' →
          exchanges.countP (!isBlocked ·) ≤ (Wire.sending 4 0).remaining attempt.frame ∧
          ∃ wire', s'.stage = .waiting attempt wire' ∧ wire'.socket = 4 ∧
            (wire'.interest = .read → f.sent.flatten ++ exchanges.flatMap taken =
              toBigEndian 2 (attempt.query.message attempt.id).length ++
                attempt.query.message attempt.id) ∧
            ∀ now g last turn, Course (s'.get true now g) last turn →
              s'.TakesTurn attempt wire' g (f.incoming ++ exchanges.flatMap brought) last turn := by
  let servers : Servers := .ofList [.localhost]
  let q := errandQuery true [1, 97, 0] 1
  let s : Session := ⟨hasty, 0, 0, ⟨0⟩, .waiting ⟨q, servers, 4660⟩ (.awaitingDatagram 3)⟩
  let s₁ (g : Generator) (wire : Wire) : Session :=
    ⟨hasty, 0, 0, ⟨0⟩, .waiting ⟨q, servers, g.id.1⟩ wire⟩
  let reply : Bytes := [0x12, 0x34, 0x82, 0, 0, 1, 0, 0, 0, 0, 0, 0, 1, 97, 0, 0, 1, 0, 1]
  have hschedule : servers.schedule (firstRound true) 0 =
      ⟨0, 0, .localhost⟩ :: servers.schedule 1 0 := by decide
  obtain ⟨trace, g, hstart⟩ := exists_start_hasty hschedule
  -- the reply is cut off, and the server takes a stream
  have hjudge : judgeDatagram ⟨q, servers, 4660⟩ 0 (.awaitingDatagram 3) reply = .firstTcp := by
    show judgeDatagram ⟨errandQuery true [1, 97, 0] 1, servers, 4660⟩ 0 _ _ = _
    rw [errandQuery_hasty]
    cbv
  have htargets : servers.targetsFrom 0 0 = [⟨0, 0, .localhost⟩] := by decide
  obtain ⟨opens, g₁, hopen⟩ : ∃ exchanges g₁, Course (s.tryTcp q servers [⟨0, 0, .localhost⟩] g)
      exchanges (.ok .pending, s₁ g (.sending 4 0), g₁) :=
    exists_tryTcp s q servers ⟨0, 0, .localhost⟩ [] 4 ⟨0⟩ g (by cbv)
  rw [← htargets] at hopen
  have hcutOff : Course (s.get true ⟨0⟩ g)
      (⟨.receive 3 (maxReply + 1), .moved ⟨reply, by decide⟩⟩ :: opens)
      (.ok .pending, s₁ g (.sending 4 0), g₁) := by
    refine course_get_datagram rfl ⟨reply, by decide⟩ (List.cons_ne_nil _ _) ?_
    rw [hjudge]
    exact hopen
  -- the stream takes the query as a whole
  obtain ⟨exchange, hsend⟩ : ∃ exchange, Course ((s₁ g (.sending 4 0)).get true ⟨0⟩ g₁)
      [exchange, ⟨.now, ⟨0⟩⟩] (.ok .pending, s₁ g (.awaitingHigh 4), g₁) :=
    exists_sendFrame rfl (by cbv) g₁
  have hstays : (s₁ g (.sending 4 0)).Stays [exchange] (s₁ g (.awaitingHigh 4)) :=
    .step hsend rfl (.refl _)
  have hrun := Errand.wentOn (.started hstart) hcutOff
  exact ⟨s₁ g (.sending 4 0), _, _, hrun, rfl, rfl, ⟨exchange, _, hstays, rfl⟩,
    get_stream hrun rfl rfl⟩

end Session

end Resolver
