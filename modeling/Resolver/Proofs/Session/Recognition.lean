import Resolver.Proofs.Session.Order

/-!
# Replies that are recognised

A datagram that carries the id and the question of the attempt in flight is recognised, however its
name is encoded and whatever else stands in it. What is done about it depends on two bytes of its
header alone: the truncation bit sends the session to streams, a response code that reports a failure
sends it to the next datagram unless the round is patient, and everything else is the reply.

The search for a server that takes the next attempt is told attempt by attempt (`Seeks`): each target
is set up a socket for and approached there (`Approach`), and the first one where the attempt does not
fail at once is waited for.

Main statements: trying targets is such a search (`seeks_of_tryUdp`, `seeks_of_tryTcp`), and a datagram
that carries the attempt's id and question is always recognised and acted on (`get_of_carries`).
-/

namespace Resolver

/-- A message that carries the id and the question of an attempt is taken for a reply to it. -/
theorem Attempt.isAnsweredBy_of_carries {a : Attempt} {p : Bytes}
    (hname : Name.IsName a.query.name) (h : Carries p a.id a.query) : a.isAnsweredBy p = true := by
  obtain ⟨name, stop, hnameAt, hfolded, hbehind⟩ := h.question
  have hquestion := Packet.question?_eq_some h.header h.id_eq h.count_eq hnameAt hbehind
  have hisName : Name.IsName name := (Packet.of_question? hquestion).2.2.2.1
  have hequal : Name.equal name a.query.name = true := (Name.equal_iff hisName hname).2 hfolded
  unfold isAnsweredBy
  rw [hquestion]
  simp only [hequal, BEq.rfl, Packet.classInternet, Bool.and_self]

namespace Session

open Dialogue

variable {servers : Servers} {recursive : Bool} {name : Bytes} {qtype : UInt16} {query : Query}
  {targets : List Servers.Target} {s : Session} {g g' : Generator} {trace exchanges : List Exchange}
  {turn : Turn}

/-! ## Looking for a server -/

/-- What becomes of an attempt at a target when it is made. -/
inductive Reception
  | fails
  | waits (deadline : Instant) (wire : Wire)
  /-- The deadline would be past the range of the clock. -/
  | overflows

/-- An attempt at a target is made over a socket: what is exchanged there, and what becomes of it. -/
inductive Approach (policy : Policy) (target : Servers.Target) (message : Bytes) (socket : Socket) :
    Transport → List Exchange → Reception → Prop
  /-- The socket of a datagram is not connected. -/
  | unconnected {connection : Connection} (h : connection ≠ .connected) :
      Approach policy target message socket .udp
        [⟨.connect socket target.ip policy.port, connection⟩] .fails
  /-- The datagram does not go out, or not as a whole. -/
  | unsent {transfer : Transfer { n : Nat // n ≤ message.length }}
      (h : ∀ n, transfer = .moved n → n.val ≠ message.length) :
      Approach policy target message socket .udp
        [⟨.connect socket target.ip policy.port, .connected⟩, ⟨.send socket message, transfer⟩] .fails
  /-- The datagram is sent, and its reply is waited for from then on. -/
  | sent {n : { n : Nat // n ≤ message.length }} {now deadline : Instant}
      (hwhole : n.val = message.length)
      (hdeadline : now.add? (policy.udpTimeout target.round) = some deadline) :
      Approach policy target message socket .udp
        [⟨.connect socket target.ip policy.port, .connected⟩, ⟨.send socket message, .moved n⟩,
          ⟨.now, now⟩] (.waits deadline (.awaitingDatagram socket))
  | sentTooLate {n : { n : Nat // n ≤ message.length }} {now : Instant}
      (hwhole : n.val = message.length)
      (hnone : now.add? (policy.udpTimeout target.round) = none) :
      Approach policy target message socket .udp
        [⟨.connect socket target.ip policy.port, .connected⟩, ⟨.send socket message, .moved n⟩,
          ⟨.now, now⟩] .overflows
  /-- The stream fails to connect at once. -/
  | refused {now deadline : Instant} {cause : OsError}
      (hdeadline : now.add? policy.tcpTimeout = some deadline) :
      Approach policy target message socket .tcp
        [⟨.now, now⟩, ⟨.connect socket target.ip policy.port, .failed cause⟩] .fails
  /-- The stream is connected at once, and the query can be sent. -/
  | connected {now deadline : Instant} (hdeadline : now.add? policy.tcpTimeout = some deadline) :
      Approach policy target message socket .tcp
        [⟨.now, now⟩, ⟨.connect socket target.ip policy.port, .connected⟩]
        (.waits deadline (.sending socket 0))
  /-- The stream is being connected. -/
  | inProgress {now deadline : Instant} (hdeadline : now.add? policy.tcpTimeout = some deadline) :
      Approach policy target message socket .tcp
        [⟨.now, now⟩, ⟨.connect socket target.ip policy.port, .inProgress⟩]
        (.waits deadline (.connecting socket))
  | tooLate {now : Instant} (hnone : now.add? policy.tcpTimeout = none) :
      Approach policy target message socket .tcp [⟨.now, now⟩] .overflows

/-- The session when no target is left. -/
def spent (s : Session) : Transport → Session
  | .udp => { s with round := roundCount, slot := 0 }.free
  | .tcp => { s with slot := maxServers }.free

/-- Targets are approached in their order, each with a fresh id and a fresh socket, up to the first
where the attempt does not fail at once. -/
inductive Seeks (s : Session) (query : Query) (servers : Servers) (transport : Transport) :
    List Servers.Target → Generator → List Exchange → Turn → Prop
  /-- No target is left. -/
  | vain {g : Generator} :
      Seeks s query servers transport [] g [] (.error .exhausted, s.spent transport, g)
  /-- The attempt fails at once, and the search goes on with the next target. -/
  | passesOver {target : Servers.Target} {rest : List Servers.Target} {g g' : Generator}
      {socket : Socket} {opens exchanges more : List Exchange} {turn : Turn}
      (hopen : Course (openLocal s.policy transport g.id.2) opens (.ok socket, g'))
      (hfails : Approach s.policy target (query.message g.id.1) socket transport exchanges .fails)
      (hrest : Seeks s query servers transport rest g' more turn) :
      Seeks s query servers transport (target :: rest) g (opens ++ (exchanges ++ more)) turn
  /-- The session waits for this target. -/
  | waits {target : Servers.Target} {rest : List Servers.Target} {g g' : Generator}
      {socket : Socket} {opens exchanges : List Exchange} {deadline : Instant} {wire : Wire}
      (hopen : Course (openLocal s.policy transport g.id.2) opens (.ok socket, g'))
      (hwaits : Approach s.policy target (query.message g.id.1) socket transport exchanges
        (.waits deadline wire)) :
      Seeks s query servers transport (target :: rest) g (opens ++ exchanges)
        (.ok .pending, { s.aimedAt target with
          deadline := deadline, stage := .waiting ⟨query, servers, g.id.1⟩ wire }, g')
  | overflows {target : Servers.Target} {rest : List Servers.Target} {g g' : Generator}
      {socket : Socket} {opens exchanges : List Exchange}
      (hopen : Course (openLocal s.policy transport g.id.2) opens (.ok socket, g'))
      (hoverflows : Approach s.policy target (query.message g.id.1) socket transport exchanges
        .overflows) :
      Seeks s query servers transport (target :: rest) g (opens ++ exchanges)
        (.error .clockOverflow, (s.aimedAt target).free, g')
  /-- No socket could be set up. -/
  | unbound {target : Servers.Target} {rest : List Servers.Target} {g g' : Generator}
      {opens : List Exchange} {cause : OsError}
      (hopen : Course (openLocal s.policy transport g.id.2) opens (.error cause, g')) :
      Seeks s query servers transport (target :: rest) g opens
        (.error (.socket cause), (s.aimedAt target).free, g')

/-- A datagram goes out whole over a socket that is connected, or the attempt fails at once. -/
theorem of_sendDatagram {policy : Policy} {socket : Socket} {target : Servers.Target}
    {message : Bytes} {sent : Bool}
    (h : Course (sendDatagram policy socket target.ip message) exchanges sent) :
    sent = false ∧ Approach policy target message socket .udp exchanges .fails ∨
      sent = true ∧ ∃ n : { n : Nat // n ≤ message.length }, n.val = message.length ∧
        exchanges = [⟨.connect socket target.ip policy.port, .connected⟩,
          ⟨.send socket message, .moved n⟩] := by
  unfold sendDatagram at h
  obtain ⟨connection, rest, rfl, hrest⟩ := course_call_iff.1 h
  cases connection with
  | connected =>
    obtain ⟨transfer, last, rfl, hlast⟩ := course_call_iff.1 hrest
    cases transfer with
    | blocked =>
      obtain ⟨rfl, rfl⟩ := course_pure_iff.1 hlast
      exact .inl ⟨rfl, .unsent nofun⟩
    | failed cause =>
      obtain ⟨rfl, rfl⟩ := course_pure_iff.1 hlast
      exact .inl ⟨rfl, .unsent nofun⟩
    | moved n =>
      obtain ⟨rfl, rfl⟩ := course_pure_iff.1 hlast
      by_cases hwhole : n.val = message.length
      · exact .inr ⟨beq_iff_eq.2 hwhole, n, hwhole, rfl⟩
      · refine .inl ⟨beq_eq_false_iff_ne.2 hwhole, .unsent fun n' hmoved => ?_⟩
        obtain rfl := Transfer.moved.inj hmoved
        exact hwhole
  | inProgress =>
    obtain ⟨rfl, rfl⟩ := course_pure_iff.1 hrest
    exact .inl ⟨rfl, .unconnected nofun⟩
  | failed cause =>
    obtain ⟨rfl, rfl⟩ := course_pure_iff.1 hrest
    exact .inl ⟨rfl, .unconnected nofun⟩

/-- Datagrams are tried at the targets in their order, wherever the session was before. -/
theorem seeks_of_tryUdp {round slot : Nat}
    (h : Course (tryUdp { s with round := round, slot := slot } query servers targets g) exchanges
      turn) : s.Seeks query servers .udp targets g exchanges turn := by
  -- the induction passes over the targets that take no datagram
  induction targets generalizing round slot g exchanges with
  | nil =>
    obtain ⟨rfl, rfl⟩ := course_pure_iff.1 h
    exact .vain
  | cons target rest ih =>
    unfold tryUdp at h
    obtain ⟨⟨opened, g₁⟩, opens, behind, rfl, hopen, hbehind⟩ := course_seq_iff.1 h
    cases opened with
    | error cause =>
      obtain ⟨rfl, rfl⟩ := course_pure_iff.1 hbehind
      rw [List.append_nil]
      exact .unbound hopen
    | ok socket =>
      obtain ⟨sent, sends, last, rfl, hsend, hlast⟩ := course_seq_iff.1 hbehind
      rcases of_sendDatagram hsend with ⟨rfl, hfails⟩ | ⟨rfl, n, hwhole, rfl⟩
      · exact .passesOver hopen hfails (ih hlast)
      · obtain ⟨now, clocks, rfl, hclock⟩ := course_call_iff.1 hlast
        dsimp only at hclock
        split at hclock
        · rename_i hnone
          obtain ⟨rfl, rfl⟩ := course_pure_iff.1 hclock
          exact .overflows hopen (.sentTooLate hwhole hnone)
        · rename_i deadline hdeadline
          obtain ⟨rfl, rfl⟩ := course_pure_iff.1 hclock
          exact .waits hopen (.sent hwhole hdeadline)

/-- Streams are tried at the targets of a round in their order. -/
theorem seeks_of_tryTcp {slot : Nat} (hrounds : ∀ target ∈ targets, target.round = s.round)
    (h : Course (tryTcp { s with slot := slot } query servers targets g) exchanges turn) :
    s.Seeks query servers .tcp targets g exchanges turn := by
  obtain ⟨policy, round, place, deadline, stage⟩ := s
  induction targets generalizing slot g exchanges with
  | nil =>
    obtain ⟨rfl, rfl⟩ := course_pure_iff.1 h
    exact .vain
  | cons target rest ih =>
    -- the session is aimed at a target when its cursor moves there, since the round is the same
    obtain ⟨rfl, hrounds⟩ := List.forall_mem_cons.1 hrounds
    unfold tryTcp at h
    obtain ⟨⟨opened, g₁⟩, opens, behind, rfl, hopen, hbehind⟩ := course_seq_iff.1 h
    cases opened with
    | error cause =>
      obtain ⟨rfl, rfl⟩ := course_pure_iff.1 hbehind
      rw [List.append_nil]
      exact .unbound hopen
    | ok socket =>
      obtain ⟨now, clocks, rfl, hclock⟩ := course_call_iff.1 hbehind
      dsimp only at hclock
      split at hclock
      · rename_i hnone
        obtain ⟨rfl, rfl⟩ := course_pure_iff.1 hclock
        exact .overflows hopen (.tooLate hnone)
      · rename_i stop hdeadline
        obtain ⟨connection, last, rfl, hconnect⟩ := course_call_iff.1 hclock
        cases connection with
        | connected =>
          obtain ⟨rfl, rfl⟩ := course_pure_iff.1 hconnect
          exact .waits hopen (.connected hdeadline)
        | inProgress =>
          obtain ⟨rfl, rfl⟩ := course_pure_iff.1 hconnect
          exact .waits hopen (.inProgress hdeadline)
        | failed cause =>
          show Seeks _ query servers .tcp (target :: rest) g (opens ++ ([⟨.now, now⟩,
            ⟨.connect socket target.ip policy.port, .failed cause⟩] ++ last)) turn
          exact .passesOver hopen (.refused hdeadline) (ih hrounds hconnect)

/-! ## Replies that carry id and question -/

variable {attempt : Attempt} {socket : Socket} {datagram : Bytes} {flags code : UInt8}

/-- A datagram is received whole if it is no longer than a reply can be. -/
theorem arriving_val (hlength : datagram.length ≤ maxReply) : (arriving datagram).val = datagram :=
  List.take_of_length_le (Nat.le_succ_of_le hlength)

/-- What becomes of an attempt when a datagram comes in that carries its id and question is a matter
of the truncation bit, the response code and the round. -/
theorem judgeDatagram_of_carries (round : Nat) (wire : Wire) (hname : Name.IsName attempt.query.name)
    (hlength : datagram.length ≤ maxReply) (hcarries : Carries datagram attempt.id attempt.query)
    (hflags : datagram[2]? = some flags) (hcode : datagram[3]? = some code) :
    judgeDatagram attempt round wire datagram =
      if flags &&& 2 ≠ 0 then .firstTcp
      else if code.toNat % 16 = 0 ∨ code.toNat % 16 = 3 then .accept datagram
      else if round = 2 then .stay wire else .nextUdp := by
  have hanswered := Attempt.isAnsweredBy_of_carries hname hcarries
  have hcut : Packet.wantsTcp datagram = true ↔ flags &&& 2 ≠ 0 := by
    constructor
    · intro hwants
      obtain ⟨flags', hflags', hset⟩ := cut_of_wantsTcp hcarries.header hwants
      obtain rfl := Option.some.inj (hflags.symm.trans hflags')
      exact hset
    · intro hset
      rw [← Bool.not_eq_false]
      intro hwhole
      obtain ⟨flags', hflags', hclear⟩ := Packet.notCut_of_wantsTcp hwhole
      obtain rfl := Option.some.inj (hflags.symm.trans hflags')
      exact hset hclear
  have hfailed : Packet.serverFailed datagram = false ↔
      code.toNat % 16 = 0 ∨ code.toNat % 16 = 3 := by
    constructor
    · intro hsucceeded
      obtain ⟨code', hcode', hrange⟩ := Packet.succeeded_of_serverFailed hsucceeded
      obtain rfl := Option.some.inj (hcode.symm.trans hcode')
      exact hrange
    · exact Packet.serverFailed_of_succeeded hcarries.header hcode
  unfold judgeDatagram
  rw [if_neg (Nat.not_lt.2 hlength), hanswered, if_neg (by decide)]
  by_cases hset : flags &&& 2 ≠ 0
  · rw [if_pos hset, if_pos (hcut.2 hset)]
  · rw [if_neg hset, if_neg (fun hwants => hset (hcut.1 hwants))]
    by_cases hrange : code.toNat % 16 = 0 ∨ code.toNat % 16 = 3
    · rw [if_pos hrange, hfailed.2 hrange]
      rfl
    · have hreported : Packet.serverFailed datagram = true := by
        rw [← Bool.not_eq_false]
        exact fun hsucceeded => hrange (hfailed.1 hsucceeded)
      rw [if_neg hrange, if_pos hreported]
      rfl

/-- What a session that waits for a datagram does about one that is received whole is a matter of what
becomes of its attempt. -/
theorem exists_get_datagram (hstage : s.stage = .waiting attempt (.awaitingDatagram socket))
    (hlength : datagram.length ≤ maxReply) (hcontent : datagram ≠ []) (now : Instant)
    (g : Generator) :
    ∃ next, s.get true now g = .ask (.receive socket (maxReply + 1)) next ∧
      next (.moved (arriving datagram)) =
        s.follow attempt g (judgeDatagram attempt s.round (.awaitingDatagram socket) datagram) := by
  rw [get_waiting hstage]
  refine ⟨_, rfl, ?_⟩
  have hwhole := arriving_val hlength
  generalize arriving datagram = reply at hwhole ⊢
  obtain ⟨bytes, hspace⟩ := reply
  obtain rfl : bytes = datagram := hwhole
  obtain ⟨b, bytes, rfl⟩ := List.exists_cons_of_ne_nil hcontent
  rfl

/-- While a session on an errand waits for a datagram, its socket is looked at once. If a datagram
is there, no longer than a reply can be, that carries the id of the attempt in flight and the question
of the errand, then whatever else stands in it, however its name is encoded and whatever the time:

* if it is cut off, the session looks for a server that takes a stream, from the first place on, in
  any round and whatever the response code;
* otherwise, if it reports no failure, the session is done, with exactly these bytes as its reply;
* otherwise the session stays as it was in the patient round, and looks for the next server that takes
  a datagram in every other.

A search ends at the first target where the attempt does not fail at once, or for want of targets. -/
theorem get_of_carries (run : Errand servers recursive name qtype trace (.ok .pending) s)
    (hstage : s.stage = .waiting attempt (.awaitingDatagram socket))
    (hlength : datagram.length ≤ maxReply)
    (hcarries : Carries datagram attempt.id (errandQuery recursive name qtype))
    (hflags : datagram[2]? = some flags) (hcode : datagram[3]? = some code) (now : Instant)
    (g : Generator) :
    ∃ next, s.get true now g = .ask (.receive socket (maxReply + 1)) next ∧
      (flags &&& 2 ≠ 0 → ∀ exchanges turn,
        Course (next (.moved (arriving datagram))) exchanges turn →
          s.Seeks (errandQuery recursive name qtype) servers .tcp (servers.targetsFrom s.round 0) g
            exchanges turn) ∧
      (flags &&& 2 = 0 → code.toNat % 16 = 0 ∨ code.toNat % 16 = 3 →
        next (.moved (arriving datagram)) =
          .done (.ok .done, { s with stage := .idle (some datagram) }, g)) ∧
      (flags &&& 2 = 0 → ¬ (code.toNat % 16 = 0 ∨ code.toNat % 16 = 3) →
        (s.round = 2 → next (.moved (arriving datagram)) = .done (.ok .pending, s, g)) ∧
        (s.round ≠ 2 → ∀ exchanges turn,
          Course (next (.moved (arriving datagram))) exchanges turn →
            s.Seeks (errandQuery recursive name qtype) servers .udp
              (servers.schedule s.round (s.slot + 1)) g exchanges turn)) := by
  obtain ⟨sent, places, hcharted, -⟩ := exists_charted run
  obtain ⟨hquery, hservers, -⟩ := hcharted.atLast attempt _ hstage
  have hjudge := judgeDatagram_of_carries s.round (.awaitingDatagram socket) (run.isName hstage)
    hlength (hquery ▸ hcarries) hflags hcode
  -- a datagram with a header has content
  have hcontent : datagram ≠ [] := by
    rintro rfl
    exact absurd hcarries.header (by decide)
  obtain ⟨next, hget, hnext⟩ := exists_get_datagram hstage hlength hcontent now g
  rw [hjudge] at hnext
  refine ⟨next, hget, ?_, ?_, ?_⟩
  · intro hset exchanges turn h
    rw [hnext, if_pos hset] at h
    rw [← hquery, ← hservers]
    exact seeks_of_tryTcp (fun _ => Servers.round_of_mem_targetsFrom) h
  · intro hclear hrange
    rw [hnext, if_neg (fun hset => hset hclear), if_pos hrange]
    rfl
  · intro hclear hrange
    rw [if_neg (fun hset => hset hclear), if_neg hrange] at hnext
    constructor
    · intro hround
      rw [hnext, if_pos hround]
      exact follow_stay hstage g
    · intro hround exchanges turn h
      rw [hnext, if_neg hround] at h
      rw [← hquery, ← hservers]
      exact seeks_of_tryUdp h

/-- A reply that is cut off and reports a failure, its name in a capital and behind a pointer. -/
theorem get_of_carries_pointed :
    ∃ s trace g, ∃ attempt : Attempt,
      Errand (.ofList [.localhost]) true [1, 97, 0] 1 trace (.ok .pending) s ∧
      s.stage = .waiting attempt (.awaitingDatagram 3) ∧
      Carries [0x12, 0x34, 0x82, 2, 0, 1, 0, 0, 0, 0, 0, 0, 0xC0, 18, 0, 1, 0, 1, 1, 65, 0] attempt.id
        (errandQuery true [1, 97, 0] 1) ∧
      ∃ next, s.get true ⟨0⟩ g = .ask (.receive 3 (maxReply + 1)) next ∧
        ∀ exchanges turn, Course (next (.moved (arriving
            [0x12, 0x34, 0x82, 2, 0, 1, 0, 0, 0, 0, 0, 0, 0xC0, 18, 0, 1, 0, 1, 1, 65, 0])))
            exchanges turn →
          s.Seeks (errandQuery true [1, 97, 0] 1) (.ofList [.localhost]) .tcp
            ((Servers.ofList [.localhost]).targetsFrom s.round 0) g exchanges turn := by
  have hschedule : (Servers.ofList [.localhost]).schedule (firstRound true) 0 =
      ⟨0, 0, .localhost⟩ :: (Servers.ofList [.localhost]).schedule 1 0 := by decide
  obtain ⟨trace, g, hstart⟩ := exists_start_hasty hschedule
  have hname : Packet.nameAt? [0x12, 0x34, 0x82, 2, 0, 1, 0, 0, 0, 0, 0, 0, 0xC0, 18, 0, 1, 0, 1, 1,
      65, 0] 12 = some ([1, 65, 0], 14) := by cbv
  have hcarries : Carries [0x12, 0x34, 0x82, 2, 0, 1, 0, 0, 0, 0, 0, 0, 0xC0, 18, 0, 1, 0, 1, 1, 65, 0]
      4660 (errandQuery true [1, 97, 0] 1) := by
    rw [errandQuery_hasty]
    exact ⟨by decide, by decide, by decide, [1, 65, 0], 14, hname, by decide, by decide⟩
  obtain ⟨next, hget, hcut, -⟩ :=
    get_of_carries (.started hstart) rfl (by decide) hcarries rfl rfl ⟨0⟩ g
  exact ⟨_, trace, g, _, .started hstart, rfl, hcarries, next, hget, hcut (by decide)⟩

end Session

end Resolver
