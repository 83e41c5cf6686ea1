import Resolver.Proofs.Session.Authenticity

/-!
# Errands

An errand is a run of a session from one start on. Whatever the session did before, whatever the
network and the clock answer, whenever its caller lets it go on and whatever the random source
holds, the run is an errand.

Main statements: a session on an errand holds what has passed over its socket (`Errand.tracks`), and
a query whose first server takes it gets an errand going (`exists_start`).
-/

namespace Resolver.Session

open Dialogue

variable {servers : Servers} {recursive : Bool} {name : Bytes} {qtype : UInt16} {s : Session}
  {g : Generator} {trace : List Exchange} {result : Except Failure Progress}

/-- A session is started and goes on for as long as it is pending: what was exchanged so far, the
result of the last step and the session after it. -/
inductive Errand (servers : Servers) (recursive : Bool) (name : Bytes) (qtype : UInt16) :
    List Exchange → Except Failure Progress → Session → Prop
  | started {s₀ s : Session} {g g' : Generator} {exchanges : List Exchange}
      {result : Except Failure Unit}
      (h : Course (s₀.start servers recursive name qtype g) exchanges (result, s, g')) :
      Errand servers recursive name qtype exchanges (result.map fun _ => .pending) s
  | wentOn {s s' : Session} {ready : Bool} {now : Instant} {g g' : Generator}
      {trace exchanges : List Exchange} {result : Except Failure Progress}
      (run : Errand servers recursive name qtype trace (.ok .pending) s)
      (h : Course (s.get ready now g) exchanges (result, s', g')) :
      Errand servers recursive name qtype (trace ++ exchanges) result s'

/-- What an errand asks for: the name in front of what it was given. -/
def errandQuery (recursive : Bool) (name : Bytes) (qtype : UInt16) : Query :=
  ⟨name.take ((Name.length? name).getD 0), qtype, recursive⟩

theorem errandQuery_eq {length : Nat} (h : Name.length? name = some length) :
    errandQuery recursive name qtype = ⟨name.take length, qtype, recursive⟩ := by
  unfold errandQuery
  rw [h]
  rfl

/-- As long as an errand is pending, its session asks for a name and holds what has passed over the
socket opened last. -/
theorem Errand.tracks (run : Errand servers recursive name qtype trace (.ok .pending) s) :
    Name.IsName (errandQuery recursive name qtype).name ∧
      s.Tracks (errandQuery recursive name qtype) (Flight.observer.after none trace) := by
  generalize hresult : (.ok .pending : Except Failure Progress) = result at run
  induction run with
  | @started s₀ s g g' exchanges started h =>
    cases started with
    | error cause => exact nomatch hresult
    | ok _ =>
      obtain ⟨length, hlength, htracks⟩ := tracks_of_start none h
      rw [errandQuery_eq hlength]
      exact ⟨(Name.length?_eq_some_iff.1 hlength).2, htracks⟩
  | wentOn run h ih =>
    obtain ⟨hname, htracks⟩ := ih rfl
    rw [Observer.after_append]
    exact ⟨hname, (sound_of_get hname htracks h).1⟩

/-- A session on an errand asks for the name its attempt is about. -/
theorem Errand.isName (run : Errand servers recursive name qtype trace (.ok .pending) s)
    {attempt : Attempt} {wire : Wire} (hstage : s.stage = .waiting attempt wire) :
    Name.IsName attempt.query.name := by
  obtain ⟨hname, htracks⟩ := run.tracks
  unfold Tracks at htracks
  rw [hstage] at htracks
  rw [htracks.1]
  exact hname

/-- As long as an errand is pending, what has passed over the socket opened last is what the attempt
that is waited for has come to. -/
theorem Errand.shows (run : Errand servers recursive name qtype trace (.ok .pending) s)
    {attempt : Attempt} {wire : Wire} (hstage : s.stage = .waiting attempt wire) :
    ∃ f, Flight.observer.after none trace = some f ∧ attempt.Shows f wire := by
  obtain ⟨-, htracks⟩ := run.tracks
  unfold Tracks at htracks
  rw [hstage] at htracks
  exact htracks.2

theorem get_waiting {attempt : Attempt} {wire : Wire} (h : s.stage = .waiting attempt wire)
    (ready : Bool) (now : Instant) (g : Generator) : s.get ready now g = (do
      let move ← s.nextMove attempt wire ready now
      s.follow attempt g move) := by
  unfold get
  rw [h]

/-- A session whose socket is not ready goes by its deadline alone. -/
theorem get_false_eq {attempt : Attempt} {wire : Wire} (h : s.stage = .waiting attempt wire)
    (now : Instant) (g : Generator) :
    s.get false now g = s.follow attempt g (if now.before s.deadline then .stay wire
      else if wire.isDatagram then .nextUdp else .nextTcp) := by
  rw [get_waiting h]
  unfold nextMove
  rw [if_neg Bool.false_ne_true]
  split
  · rfl
  · split <;> rfl

/-! ## The first attempt -/

/-- The first round of an errand. -/
def firstRound (recursive : Bool) : Nat :=
  if recursive then 0 else 1

/-- A query is short enough for a datagram. -/
theorem not_maxDatagram_lt {length : Nat} (h : Name.length? name = some length) :
    ¬ Query.maxDatagram < length + 16 := by
  obtain ⟨hle, labels, hsized, hmax, htake⟩ := Name.length?_eq_some_iff.1 h
  have hlength : length ≤ 255 := by
    have heq := congrArg List.length htake
    rw [Name.length_ofLabels, List.length_take] at heq
    unfold Name.maxLength at hmax
    omega
  unfold Query.maxDatagram
  omega

/-- An errand sets out with a datagram. -/
theorem start_eq {length : Nat} (h : Name.length? name = some length) :
    s.start servers recursive name qtype g = (do
      let (result, s, g) ← tryUdp { s.free with round := firstRound recursive, slot := 0 }
        (errandQuery recursive name qtype) servers (servers.schedule (firstRound recursive) 0) g
      return (result.map fun _ => (), s, g)) := by
  rw [errandQuery_eq h]
  unfold start
  rw [h]
  dsimp only
  rw [if_neg (not_maxDatagram_lt h)]
  rfl

/-! ## Getting going -/

/-- A socket can be had, whatever its number and however many ports are tried. -/
theorem exists_openLocal (policy : Policy) (transport : Transport) (socket : Socket)
    (g : Generator) : ∃ exchanges g', Course (openLocal policy transport g) exchanges
      (.ok socket, g') := by
  have hbind : ∃ exchanges g', Course (bindLocal policy socket policy.bindAttempts g) exchanges
      (.ok (), g') := by
    cases policy.bindAttempts with
    | zero => exact ⟨_, _, course_call_iff.2 ⟨.ok (), [], rfl, .done _⟩⟩
    | succ tries =>
      rw [bindLocal]
      generalize g.below portCount = drawn
      obtain ⟨offset, g₁⟩ := drawn
      exact ⟨_, _, course_call_iff.2 ⟨.ok (), [], rfl, .done _⟩⟩
  obtain ⟨exchanges, g', hbind⟩ := hbind
  exact ⟨_, _, course_call_iff.2 ⟨.ok socket, _, rfl,
    course_seq_iff.2 ⟨_, _, _, rfl, hbind, .done _⟩⟩⟩

/-- A datagram can go out whole. -/
theorem exists_sendDatagram (policy : Policy) (socket : Socket) (ip : Ipv4) (message : Bytes) :
    ∃ exchanges, Course (sendDatagram policy socket ip message) exchanges true := by
  refine ⟨_, course_call_iff.2 ⟨.connected, _, rfl,
    course_call_iff.2 ⟨.moved ⟨message.length, Nat.le_refl _⟩, [], rfl, ?_⟩⟩⟩
  exact course_pure_iff.2 ⟨rfl, (beq_self_eq_true _).symm⟩

/-- The first of some targets can take the datagram. -/
theorem exists_tryUdp {deadline : Instant} (s : Session) (query : Query) (servers : Servers)
    (target : Servers.Target) (rest : List Servers.Target) (socket : Socket) (now : Instant)
    (g : Generator) (hdeadline : now.add? (s.policy.udpTimeout target.round) = some deadline) :
    ∃ exchanges g', Course (s.tryUdp query servers (target :: rest) g) exchanges
      (.ok .pending, ⟨s.policy, target.round, target.slot, deadline,
        .waiting ⟨query, servers, g.id.1⟩ (.awaitingDatagram socket)⟩, g') := by
  obtain ⟨opens, g', hopen⟩ := exists_openLocal s.policy .udp socket g.id.2
  obtain ⟨sends, hsend⟩ :=
    exists_sendDatagram s.policy socket target.ip (query.message g.id.1)
  have haimed : now.add? ((s.aimedAt target).policy.udpTimeout target.round) = some deadline :=
    hdeadline
  unfold tryUdp
  refine ⟨opens ++ (sends ++ [⟨.now, now⟩]), g', ?_⟩
  refine course_seq_iff.2 ⟨(.ok socket, g'), opens, sends ++ [⟨.now, now⟩], rfl, hopen, ?_⟩
  refine course_seq_iff.2 ⟨true, sends, [⟨.now, now⟩], rfl, hsend, ?_⟩
  refine course_call_iff.2 ⟨now, [], rfl, ?_⟩
  rw [haimed]
  exact .done _

/-- The first of some targets can take the stream at once. -/
theorem exists_tryTcp {deadline : Instant} (s : Session) (query : Query) (servers : Servers)
    (target : Servers.Target) (rest : List Servers.Target) (socket : Socket) (now : Instant)
    (g : Generator) (hdeadline : now.add? s.policy.tcpTimeout = some deadline) :
    ∃ exchanges g', Course (s.tryTcp query servers (target :: rest) g) exchanges
      (.ok .pending, ⟨s.policy, s.round, target.slot, deadline,
        .waiting ⟨query, servers, g.id.1⟩ (.sending socket 0)⟩, g') := by
  obtain ⟨opens, g', hopen⟩ := exists_openLocal s.policy .tcp socket g.id.2
  let connects : List Exchange :=
    [⟨.now, now⟩, ⟨.connect socket target.ip s.policy.port, .connected⟩]
  unfold tryTcp
  refine ⟨opens ++ connects, g', ?_⟩
  refine course_seq_iff.2 ⟨(.ok socket, g'), opens, connects, rfl, hopen, ?_⟩
  refine course_call_iff.2 ⟨now, _, rfl, ?_⟩
  dsimp only
  rw [hdeadline]
  exact course_call_iff.2 ⟨.connected, [], rfl, .done _⟩

/-- The first server that is asked can take the query, whatever the socket and the time. -/
theorem exists_start {length : Nat} {rest : List Servers.Target} {deadline : Instant}
    (target : Servers.Target) (socket : Socket) (now : Instant) (g : Generator)
    (hlength : Name.length? name = some length)
    (hschedule : servers.schedule (firstRound recursive) 0 = target :: rest)
    (hdeadline : now.add? (s.policy.udpTimeout target.round) = some deadline) :
    ∃ exchanges g', Course (s.start servers recursive name qtype g) exchanges
      (.ok (), ⟨s.policy, target.round, target.slot, deadline,
        .waiting ⟨errandQuery recursive name qtype, servers, g.id.1⟩ (.awaitingDatagram socket)⟩,
        g') := by
  obtain ⟨exchanges, g', htry⟩ := exists_tryUdp
    { s.free with round := firstRound recursive, slot := 0 } (errandQuery recursive name qtype)
    servers target rest socket now g hdeadline
  rw [start_eq hlength, hschedule]
  exact ⟨_, _, course_seq_iff.2 ⟨_, _, _, rfl, htry, .done _⟩⟩

/-! ## Runs to show -/

/-- A session that waits for a datagram, and finds one that has content, does what is due then. -/
theorem course_get_datagram {attempt : Attempt} {socket : Socket} {now : Instant}
    {rest : List Exchange} {turn : Turn}
    (hstage : s.stage = .waiting attempt (.awaitingDatagram socket))
    (reply : { bytes : Bytes // bytes.length ≤ maxReply + 1 }) (hcontent : reply.val ≠ [])
    (h : Course (s.follow attempt g (judgeDatagram attempt s.round (.awaitingDatagram socket)
      reply.val)) rest turn) :
    Course (s.get true now g) (⟨.receive socket (maxReply + 1), .moved reply⟩ :: rest) turn := by
  rw [get_waiting hstage]
  obtain ⟨bytes, hspace⟩ := reply
  obtain ⟨b, bytes, rfl⟩ := List.exists_cons_of_ne_nil hcontent
  exact .ask _ h

/-- A policy by which every deadline has come at once. -/
def hasty : Policy :=
  ⟨53, .localhost, #v[0, 0, 0, 0], 0, 0⟩

theorem udpTimeout_hasty (round : Nat) : hasty.udpTimeout round = 0 := by
  match round with
  | 0 | 1 | 2 | 3 | _ + 4 => rfl

/-- The first server takes a query for the name `a` that is sent at time zero with the id 4660. -/
theorem exists_start_hasty {target : Servers.Target} {rest : List Servers.Target}
    (hschedule : servers.schedule (firstRound recursive) 0 = target :: rest) :
    ∃ trace g, Course ((new hasty).start servers recursive [1, 97, 0] 1
        { Generator.ofSeed [] with pending := [4660] }) trace
      (.ok (), ⟨hasty, target.round, target.slot, ⟨0⟩, .waiting
        ⟨errandQuery recursive [1, 97, 0] 1, servers, 4660⟩ (.awaitingDatagram 3)⟩, g) := by
  have hlength : Name.length? [1, 97, 0] = some 3 := by cbv
  have hdeadline : (⟨0⟩ : Instant).add? (hasty.udpTimeout target.round) = some ⟨0⟩ := by
    rw [udpTimeout_hasty]
    rfl
  exact exists_start target 3 ⟨0⟩ _ hlength hschedule hdeadline

theorem errandQuery_hasty (recursive : Bool) :
    errandQuery recursive [1, 97, 0] 1 = ⟨[1, 97, 0], 1, recursive⟩ := by
  have hlength : Name.length? [1, 97, 0] = some 3 := by cbv
  exact errandQuery_eq hlength

end Resolver.Session
