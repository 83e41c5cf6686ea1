import Resolver.Proofs.Session.Reply

/-!
# What a session knows of its socket

A session keeps the number of its socket, the id it sent and how far the transfer has come. The
invariant `Session.Tracks` says that all this is what has passed over the socket that was opened
last.

Main statement: what becomes of an attempt when its socket is looked at is borne out by what has
passed over the socket (`Attempt.supports_of_stepWire`).
-/

namespace Resolver

open Dialogue

/-! ## The invariant -/

/-- Over the stream `socket` these bytes were sent and received, and no others. -/
structure Flight.Streamed (f : Flight) (socket : Socket) (sent received : Bytes) : Prop where
  transport_eq : f.transport = .tcp
  socket_eq : f.socket = socket
  sent_eq : f.sent.flatten = sent
  received_eq : f.received.flatMap Prod.snd = received

namespace Attempt

/-- The bytes an attempt sends over a stream. -/
def frame (a : Attempt) : Bytes :=
  a.query.framed a.id

/-- What has passed over the socket of an attempt, by how far it has come. -/
def Shows (a : Attempt) (f : Flight) : Wire → Prop
  | .awaitingDatagram socket =>
    f.transport = .udp ∧ f.socket = socket ∧ f.sent = [a.query.message a.id]
  | .connecting socket => f.Streamed socket [] []
  | .sending socket n => f.Streamed socket (a.frame.take n) []
  | .awaitingHigh socket => f.Streamed socket a.frame []
  | .awaitingLow socket high => f.Streamed socket a.frame [high]
  | .awaitingBody socket length received =>
    received.length < length ∧ length < 65536 ∧
      f.Streamed socket a.frame (toBigEndian 2 length ++ received)

/-- What the socket opened last has to show for a move: the attempt as it goes on, or the reply. -/
def Supports (a : Attempt) (flight : Option Flight) : Session.Move → Prop
  | .stay wire | .stayUntil _ wire => ∃ f, flight = some f ∧ a.Shows f wire
  | .accept p => ∃ f, flight = some f ∧ f.Delivers a.query a.id p ∧ Answers p a.id a.query
  | .nextUdp | .firstTcp | .nextTcp | .overflow => True

end Attempt

/-- What a session holds is what passed over the socket opened last: the state of its attempt, or
the reply to the query. -/
def Session.Tracks (q : Query) (flight : Option Flight) (s : Session) : Prop :=
  match s.stage with
  | .idle none => True
  | .idle (some p) => ∃ f id, flight = some f ∧ f.Delivers q id p ∧ Answers p id q
  | .waiting attempt wire => attempt.query = q ∧ ∃ f, flight = some f ∧ attempt.Shows f wire

/-! ## Looking at the socket -/

namespace Flight

variable {f : Flight} {sent received : Bytes}

/-- Receiving leaves the bytes sent as they were. -/
theorem Streamed.receive {socket : Socket} {space : Nat} (h : f.Streamed socket sent received)
    (chunk : { bytes : Bytes // bytes.length ≤ space }) :
    ∃ f', observer.after (some f) [⟨.receive socket space, .moved chunk⟩] = some f' ∧
      f'.Streamed socket sent (received ++ chunk.val) := by
  refine ⟨_, after_receive h.socket_eq chunk, h.transport_eq, h.socket_eq, h.sent_eq, ?_⟩
  rw [List.flatMap_append, h.received_eq, List.flatMap_singleton]

/-- Sending leaves the bytes received as they were. -/
theorem Streamed.send {socket : Socket} {bytes : Bytes} (h : f.Streamed socket sent received)
    (n : { n : Nat // n ≤ bytes.length }) :
    ∃ f', observer.after (some f) [⟨.send socket bytes, .moved n⟩] = some f' ∧
      f'.Streamed socket (sent ++ bytes.take n.val) received := by
  refine ⟨_, after_send h.socket_eq n, h.transport_eq, h.socket_eq, ?_, h.received_eq⟩
  rw [List.flatten_append, h.sent_eq, List.flatten_singleton]

end Flight

namespace Attempt

open Flight

variable {a : Attempt} {f : Flight} {round : Nat} {socket : Socket} {exchanges : List Exchange}
  {move : Session.Move}

/-- A datagram is the reply only if it is as long as a reply can be and passes the checks. -/
theorem supports_of_judgeDatagram {wire : Wire} {p : Bytes} (hname : Name.IsName a.query.name)
    (hstay : a.Shows f wire) (haccept : p.length ≤ 4096 → f.Delivers a.query a.id p) :
    a.Supports (some f) (Session.judgeDatagram a round wire p) := by
  unfold Session.judgeDatagram
  split
  · exact ⟨f, rfl, hstay⟩
  · rename_i hlength
    split
    · exact ⟨f, rfl, hstay⟩
    · rename_i hanswered
      split
      · trivial
      · rename_i hwhole
        split
        · split
          · exact ⟨f, rfl, hstay⟩
          · trivial
        · rename_i hfailed
          refine ⟨f, rfl, haccept (Nat.not_lt.1 hlength), ?_⟩
          exact answers_of_checks hname (by simpa using hanswered) (by simpa using hwhole)
            (by simpa using hfailed)

/-- The message that came in over a stream is the reply only if it passes the checks. -/
theorem supports_of_judgeMessage {p : Bytes} (hname : Name.IsName a.query.name)
    (hdelivers : f.Delivers a.query a.id p) :
    a.Supports (some f) (Session.judgeMessage a p) := by
  unfold Session.judgeMessage
  split
  · rename_i hchecks
    rw [Bool.and_eq_true, Bool.and_eq_true, Bool.not_eq_true', Bool.not_eq_true'] at hchecks
    obtain ⟨⟨hanswered, hwhole⟩, hfailed⟩ := hchecks
    exact ⟨f, rfl, hdelivers, answers_of_checks hname hanswered hwhole hfailed⟩
  · trivial

/-- While it waits for a datagram, an attempt takes the one that was received last. -/
theorem supports_of_stepDatagram (hname : Name.IsName a.query.name)
    (hshows : a.Shows f (.awaitingDatagram socket))
    (h : Course (Session.stepDatagram a round socket) exchanges move) :
    a.Supports (observer.after (some f) exchanges) move := by
  unfold Session.stepDatagram at h
  obtain ⟨transfer, rest, rfl, hrest⟩ := course_call_iff.1 h
  obtain ⟨htransport, hsocket, hsent⟩ := hshows
  cases transfer with
  | blocked =>
    obtain ⟨rfl, rfl⟩ := course_pure_iff.1 hrest
    exact ⟨f, rfl, htransport, hsocket, hsent⟩
  | failed cause =>
    dsimp only at hrest
    split at hrest <;> obtain ⟨rfl, rfl⟩ := course_pure_iff.1 hrest
    · exact ⟨f, rfl, htransport, hsocket, hsent⟩
    · trivial
  | moved chunk =>
    obtain ⟨p, hspace⟩ := chunk
    cases p with
    | nil =>
      obtain ⟨rfl, rfl⟩ := course_pure_iff.1 hrest
      trivial
    | cons b p =>
      obtain ⟨rfl, rfl⟩ := course_pure_iff.1 hrest
      rw [after_receive hsocket]
      refine supports_of_judgeDatagram hname ⟨htransport, hsocket, hsent⟩ ?_
      intro hlength
      -- there was space for one byte more, so the datagram was not cut off
      unfold Delivers
      dsimp only
      rw [htransport]
      exact ⟨hsent, ⟨_, List.getLast?_concat, Nat.lt_succ_of_le hlength⟩,
        Nat.succ_le_succ (Nat.zero_le _), hlength⟩

/-- While it sends its query over a stream, an attempt counts the bytes that were taken. -/
theorem supports_of_sending {policy : Policy} {n : Nat} (hshows : a.Shows f (.sending socket n))
    (h : Course (Session.stepWire policy a round (.sending socket n)) exchanges move) :
    a.Supports (observer.after (some f) exchanges) move := by
  have hstreamed : f.Streamed socket (a.frame.take n) [] := hshows
  unfold Session.stepWire at h
  obtain ⟨transfer, rest, rfl, hrest⟩ := course_call_iff.1 h
  split at hrest
  · obtain ⟨rfl, rfl⟩ := course_pure_iff.1 hrest
    exact ⟨f, rfl, hshows⟩
  · obtain ⟨rfl, rfl⟩ := course_pure_iff.1 hrest
    trivial
  · obtain ⟨rfl, rfl⟩ := course_pure_iff.1 hrest
    trivial
  · rename_i taken hle hpos
    obtain ⟨f', hafter, hsent⟩ := hstreamed.send ⟨taken, hle⟩
    -- what was taken comes right behind what had been sent
    have htake : a.frame.take n ++ (a.frame.drop n).take taken = a.frame.take (n + taken) :=
      List.take_add.symm
    replace hsent : f'.Streamed socket (a.frame.take (n + taken)) [] := by
      rw [← htake]
      exact hsent
    split at hrest
    · rename_i hwhole
      obtain ⟨now, last, rfl, hlast⟩ := course_call_iff.1 hrest
      have hframe : a.frame.take (n + taken) = a.frame := by
        rw [hwhole]
        exact List.take_length
      rw [hframe] at hsent
      split at hlast <;> obtain ⟨rfl, rfl⟩ := course_pure_iff.1 hlast
      · trivial
      · exact ⟨f', hafter, hsent⟩
    · obtain ⟨rfl, rfl⟩ := course_pure_iff.1 hrest
      exact ⟨f', hafter, hsent⟩

/-- While it receives over a stream, an attempt stays as it is until there is something to receive,
and gives the stream up when it fails or is closed. -/
theorem supports_of_receiving {wire : Wire} {received : Bytes} {space : Nat}
    {next : Transfer { bytes : Bytes // bytes.length ≤ space } → Dialogue Session.Move}
    (hshows : a.Shows f wire) (hstreamed : f.Streamed socket a.frame received)
    (h : Course (call (.receive socket space) >>= next) exchanges move)
    (hblocked : next .blocked = pure (.stay wire))
    (hfailed : ∀ cause, next (.failed cause) = pure .nextTcp)
    (hclosed : next (.moved ⟨[], Nat.zero_le _⟩) = pure .nextTcp)
    (hmoved : ∀ b bytes hspace f' rest, f'.Streamed socket a.frame (received ++ b :: bytes) →
      Course (next (.moved ⟨b :: bytes, hspace⟩)) rest move →
      a.Supports (observer.after (some f') rest) move) :
    a.Supports (observer.after (some f) exchanges) move := by
  obtain ⟨transfer, rest, rfl, hrest⟩ := course_call_iff.1 h
  cases transfer with
  | blocked =>
    rw [hblocked] at hrest
    obtain ⟨rfl, rfl⟩ := course_pure_iff.1 hrest
    exact ⟨f, rfl, hshows⟩
  | failed cause =>
    rw [hfailed] at hrest
    obtain ⟨rfl, rfl⟩ := course_pure_iff.1 hrest
    trivial
  | moved chunk =>
    obtain ⟨f', hafter, hreceived⟩ := hstreamed.receive chunk
    obtain ⟨bytes, hspace⟩ := chunk
    cases bytes with
    | nil =>
      rw [hclosed] at hrest
      obtain ⟨rfl, rfl⟩ := course_pure_iff.1 hrest
      trivial
    | cons b bytes =>
      rw [← List.singleton_append, Observer.after_append, hafter]
      exact hmoved b bytes hspace f' rest hreceived hrest

/-- Of the length of the reply, an attempt receives the high byte first. -/
theorem supports_of_awaitingHigh {policy : Policy} (hshows : a.Shows f (.awaitingHigh socket))
    (h : Course (Session.stepWire policy a round (.awaitingHigh socket)) exchanges move) :
    a.Supports (observer.after (some f) exchanges) move := by
  unfold Session.stepWire at h
  refine supports_of_receiving hshows hshows h rfl (fun _ => rfl) rfl ?_
  intro high bytes hspace f' rest hreceived hrest
  obtain rfl := List.eq_nil_of_length_eq_zero (Nat.le_zero.1 (Nat.le_of_succ_le_succ hspace))
  obtain ⟨rfl, rfl⟩ := course_pure_iff.1 hrest
  exact ⟨f', rfl, hreceived⟩

/-- With the low byte, an attempt knows the length of the reply. -/
theorem supports_of_awaitingLow {policy : Policy} {high : UInt8}
    (hshows : a.Shows f (.awaitingLow socket high))
    (h : Course (Session.stepWire policy a round (.awaitingLow socket high)) exchanges move) :
    a.Supports (observer.after (some f) exchanges) move := by
  unfold Session.stepWire at h
  refine supports_of_receiving hshows hshows h rfl (fun _ => rfl) rfl ?_
  intro low bytes hspace f' rest hreceived hrest
  obtain rfl := List.eq_nil_of_length_eq_zero (Nat.le_zero.1 (Nat.le_of_succ_le_succ hspace))
  have hlength : bigEndian [high, low] < Nat.pow 256 2 := bigEndian_lt [high, low]
  have hbytes : toBigEndian 2 (bigEndian [high, low]) = [high, low] :=
    toBigEndian_bigEndian [high, low]
  dsimp only at hrest
  split at hrest <;> obtain ⟨rfl, rfl⟩ := course_pure_iff.1 hrest
  · trivial
  · rename_i hne
    refine ⟨f', rfl, Nat.pos_of_ne_zero hne, hlength, ?_⟩
    rw [List.append_nil, hbytes]
    exact hreceived

/-- While it receives the reply over a stream, an attempt keeps what has come so far; once it is
whole, it is the message behind the length. -/
theorem supports_of_awaitingBody {policy : Policy} {length : Nat} {received : Bytes}
    (hname : Name.IsName a.query.name) (hshows : a.Shows f (.awaitingBody socket length received))
    (h : Course (Session.stepWire policy a round (.awaitingBody socket length received)) exchanges
      move) : a.Supports (observer.after (some f) exchanges) move := by
  have hbounds := hshows
  obtain ⟨hshort, hlength, hstreamed⟩ := hbounds
  unfold Session.stepWire at h
  refine supports_of_receiving hshows hstreamed h rfl (fun _ => rfl) rfl ?_
  intro b bytes hspace f' rest hreceived hrest
  rw [List.append_assoc] at hreceived
  dsimp only at hrest
  split at hrest <;> obtain ⟨rfl, rfl⟩ := course_pure_iff.1 hrest
  · rename_i hstill
    exact ⟨f', rfl, hstill, hlength, hreceived⟩
  · rename_i hwhole
    -- no more is received than there is space for, so the message has just its length
    have hexact : (received ++ b :: bytes).length = length := by
      rw [List.length_append] at hwhole ⊢
      omega
    refine supports_of_judgeMessage hname ?_
    unfold Delivers
    rw [hreceived.transport_eq]
    refine ⟨hreceived.sent_eq, ?_, ?_, ?_⟩
    · rw [hreceived.received_eq, hexact]
    · omega
    · omega

/-- Looking at the socket of an attempt, a session sees what passes over it. -/
theorem supports_of_stepWire {policy : Policy} {wire : Wire} (hname : Name.IsName a.query.name)
    (hshows : a.Shows f wire) (h : Course (Session.stepWire policy a round wire) exchanges move) :
    a.Supports (observer.after (some f) exchanges) move := by
  cases wire with
  | awaitingDatagram socket => exact supports_of_stepDatagram hname hshows h
  | connecting socket =>
    have hstreamed : f.Streamed socket [] [] := hshows
    unfold Session.stepWire at h
    obtain ⟨connected, rest, rfl, hrest⟩ := course_call_iff.1 h
    cases connected with
    | true =>
      obtain ⟨rfl, rfl⟩ := course_pure_iff.1 hrest
      exact ⟨f, rfl, hstreamed⟩
    | false =>
      obtain ⟨rfl, rfl⟩ := course_pure_iff.1 hrest
      trivial
  | sending socket n => exact supports_of_sending hshows h
  | awaitingHigh socket => exact supports_of_awaitingHigh hshows h
  | awaitingLow socket high => exact supports_of_awaitingLow hshows h
  | awaitingBody socket length received => exact supports_of_awaitingBody hname hshows h

end Attempt

end Resolver
