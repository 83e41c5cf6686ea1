import Resolver.Proofs.Session.Reuse

/-!
# Waits and their deadlines

A session reads the clock whenever it begins to wait: for the reply to a datagram once that has gone
out, for a stream before it is connected, and for the reply over a stream once the query has gone out
there. So every wait shows in the talk with the operating system, with the reading it begins at.

Main statements: a session that is pending gives up the wait it began last at the deadline that its
policy allows from that reading on (`Errand.timed`), and one breaks off for want of clock exactly if
the deadline of a wait it began is past the range of the clock (`Errand.overflow_iff`).
-/

namespace Resolver

open Dialogue

/-! ## Readings -/

namespace Dialogue

/-- What the clock read, if it was asked. -/
def reading? : Exchange → Option Instant
  | ⟨.now, now⟩ => some now
  | _ => none

/-- What the clock read, reading by reading. -/
def readings (trace : List Exchange) : List Instant :=
  trace.filterMap reading?

theorem readings_append (first second : List Exchange) :
    readings (first ++ second) = readings first ++ readings second :=
  List.filterMap_append

theorem readings_cons (exchange : Exchange) (rest : List Exchange) :
    readings (exchange :: rest) = (reading? exchange).toList ++ readings rest := by
  unfold readings
  rw [List.filterMap_cons]
  cases reading? exchange <;> rfl

end Dialogue

/-! ## Waits -/

/-- What a session waits for. -/
inductive Wait
  /-- The reply to a datagram that was sent in a round. -/
  | datagram (round : Nat)
  /-- A stream that can be sent over, until the query has gone out there. -/
  | connection
  /-- The reply over a stream. -/
  | reply
  deriving DecidableEq, Repr

/-- How long a policy waits. -/
def Policy.allowance (p : Policy) : Wait → Duration
  | .datagram round => p.udpTimeout round
  | .connection | .reply => p.tcpTimeout

/-- What an attempt that has come so far waits for, if its round is the given one. -/
def Wire.wait (round : Nat) : Wire → Wait
  | .awaitingDatagram _ => .datagram round
  | .connecting _ | .sending _ _ => .connection
  | .awaitingHigh _ | .awaitingLow _ _ | .awaitingBody _ _ _ => .reply

/-- The deadlines of these waits, each begun at its reading of the clock, are in the clock's range. -/
def Policy.InRange (p : Policy) (begun : List (Wait × Instant)) : Prop :=
  ∀ wait ∈ begun, wait.2.add? (p.allowance wait.1) ≠ none

theorem Policy.InRange.append {p : Policy} {begun more : List (Wait × Instant)} (h : p.InRange begun)
    (hmore : p.InRange more) : p.InRange (begun ++ more) :=
  List.forall_mem_append.2 ⟨h, hmore⟩

theorem Policy.inRange_singleton {p : Policy} {wait : Wait} {now deadline : Instant}
    (h : now.add? (p.allowance wait) = some deadline) : p.InRange [(wait, now)] := by
  refine List.forall_mem_singleton.2 ?_
  rw [h]
  exact Option.some_ne_none deadline

/-! ## Waits as they show -/

/-- What a talk with the operating system shows of waits. -/
structure Watch where
  /-- The rounds of the datagrams to come. -/
  due : List Nat
  /-- The wait that the next reading of the clock begins. -/
  next : Wait
  /-- The waits begun, each with the reading it began at. -/
  begun : List (Wait × Instant)
  deriving DecidableEq, Repr

namespace Watch

/-- Nothing was asked yet, and datagrams are to be sent in these rounds. -/
def new (rounds : List Nat) : Watch :=
  ⟨rounds, .connection, []⟩

/-- After a socket was opened, the next wait is one over its transport. -/
def opened (w : Watch) : Transport → Watch
  | .udp => { w with due := w.due.tail, next := .datagram (w.due.headD 0) }
  | .tcp => { w with next := .connection }

/-- What is waited for next once something was sent. -/
def sent : Wait → Wait
  | .datagram round => .datagram round
  | .connection | .reply => .reply

/-- Sees the waits that are begun. -/
def observer : Observer Watch where
  opened w transport _ := w.opened transport
  sent w _ _ _ := { w with next := sent w.next }
  read w now := { w with begun := w.begun ++ [(w.next, now)] }

variable {w : Watch} {policy : Policy} {transport : Transport} {socket : Socket} {g g' : Generator}
  {exchanges : List Exchange} {target : Servers.Target} {message : Bytes}

/-! ## Making an attempt -/

/-- To set up a socket begins no wait. -/
theorem begun_of_openLocal {result : Except OsError Socket}
    (h : Course (Session.openLocal policy transport g) exchanges (result, g')) :
    (observer.after w exchanges).begun = w.begun := by
  obtain ⟨reply, hafter, -⟩ := observer.exists_after_of_openLocal w h
  rw [hafter]
  cases reply with
  | error cause => rfl
  | ok socket => cases transport <;> rfl

/-- The wait that an attempt at a target begins. -/
def first (target : Servers.Target) : Transport → Wait
  | .udp => .datagram target.round
  | .tcp => .connection

/-- What an attempt at a target does to the waits. -/
def Receives (policy : Policy) (target : Servers.Target) (begun : List (Wait × Instant))
    (w : Watch) : Session.Reception → Prop
  | .fails => ∃ more, w.begun = begun ++ more ∧ policy.InRange more
  | .waits deadline wire => ∃ now, w.begun = begun ++ [(wire.wait target.round, now)] ∧
      now.add? (policy.allowance (wire.wait target.round)) = some deadline ∧
      (wire.isDatagram = false → sent w.next = .reply)
  | .overflows => ∃ wait now, w.begun = begun ++ [(wait, now)] ∧
      now.add? (policy.allowance wait) = none

/-- An attempt begins its wait, unless its datagram does not go out. -/
theorem receives_of_approach {reception : Session.Reception} (hnext : w.next = first target transport)
    (h : Session.Approach policy target message socket transport exchanges reception) :
    (observer.after w exchanges).due = w.due ∧
      Receives policy target w.begun (observer.after w exchanges) reception := by
  obtain ⟨due, next, begun⟩ := w
  obtain rfl : next = first target transport := hnext
  cases h with
  | unconnected => exact ⟨rfl, [], (List.append_nil _).symm, nofun⟩
  | unsent => exact ⟨rfl, [], (List.append_nil _).symm, nofun⟩
  | sent hwhole hdeadline => exact ⟨rfl, _, rfl, hdeadline, nofun⟩
  | sentTooLate hwhole hnone => exact ⟨rfl, _, _, rfl, hnone⟩
  | refused hdeadline =>
    exact ⟨rfl, [(.connection, _)], rfl, Policy.inRange_singleton hdeadline⟩
  | connected hdeadline => exact ⟨rfl, _, rfl, hdeadline, fun _ => rfl⟩
  | inProgress hdeadline => exact ⟨rfl, _, rfl, hdeadline, fun _ => rfl⟩
  | tooLate hnone => exact ⟨rfl, _, _, rfl, hnone⟩

/-- So does an attempt over a socket that was set up for it. -/
theorem receives_of_attempt {opens : List Exchange} {reception : Session.Reception}
    (hround : transport = .udp → w.due.headD 0 = target.round)
    (hopen : Course (Session.openLocal policy transport g) opens (.ok socket, g'))
    (h : Session.Approach policy target message socket transport exchanges reception) :
    (observer.after w (opens ++ exchanges)).due = (w.opened transport).due ∧
      Receives policy target w.begun (observer.after w (opens ++ exchanges)) reception := by
  have hnext : (w.opened transport).next = first target transport := by
    cases transport with
    | udp => exact congrArg Wait.datagram (hround rfl)
    | tcp => rfl
  have hbegun : (w.opened transport).begun = w.begun := by cases transport <;> rfl
  rw [Observer.after_append, observer.after_of_openLocal w hopen, ← hbegun]
  exact receives_of_approach hnext h

/-! ## Every wait -/

/-- A reading of the clock begins the next wait, and nothing else begins one. -/
theorem begun_observe (w : Watch) (exchange : Exchange) : (observer.observe w exchange).begun =
    w.begun ++ ((reading? exchange).map fun now => (w.next, now)).toList := by
  obtain ⟨call, reply⟩ := exchange
  cases call with
  | now => rfl
  | openSocket transport =>
    rw [show reading? ⟨.openSocket transport, reply⟩ = none from rfl]
    cases reply with
    | error cause => exact (List.append_nil _).symm
    | ok socket => cases transport <;> exact (List.append_nil _).symm
  | _ => exact (List.append_nil _).symm

/-- Every wait begins at a reading of the clock, and at every reading one begins. -/
theorem map_begun (w : Watch) (exchanges : List Exchange) :
    (observer.after w exchanges).begun.map Prod.snd = w.begun.map Prod.snd ++ readings exchanges := by
  induction exchanges generalizing w with
  | nil => exact (List.append_nil _).symm
  | cons exchange rest ih =>
    rw [Observer.after_cons, ih, begun_observe, readings_cons, List.map_append, List.append_assoc]
    cases reading? exchange <;> rfl

/-- The rounds that a watch knows of are below a bound. -/
structure Within (bound : Nat) (w : Watch) : Prop where
  due : ∀ round ∈ w.due, round < bound
  next : ∀ round, w.next = .datagram round → round < bound
  begun : ∀ round now, (.datagram round, now) ∈ w.begun → round < bound

variable {bound : Nat}

theorem Within.opened (h : Within bound w) (hbound : 0 < bound) (transport : Transport) :
    Within bound (w.opened transport) := by
  cases transport with
  | tcp => exact ⟨h.due, nofun, h.begun⟩
  | udp =>
    refine ⟨fun round hround => h.due round (List.mem_of_mem_tail hround), fun round hround => ?_,
      h.begun⟩
    obtain rfl := Wait.datagram.inj hround
    cases hdue : w.due with
    | nil => exact hbound
    | cons first rest => exact h.due first (hdue ▸ List.mem_cons_self)

theorem Within.observe (h : Within bound w) (hbound : 0 < bound) (exchange : Exchange) :
    Within bound (observer.observe w exchange) := by
  obtain ⟨call, reply⟩ := exchange
  cases call with
  | openSocket transport =>
    cases reply with
    | error cause => exact h
    | ok socket => exact h.opened hbound transport
  | send socket bytes =>
    refine ⟨h.due, fun round hround => h.next round ?_, h.begun⟩
    revert hround
    show Watch.sent w.next = _ → _
    cases w.next with
    | datagram => exact id
    | connection | reply => exact nofun
  | now =>
    refine ⟨h.due, h.next, fun round now hmem => ?_⟩
    rcases List.mem_append.1 hmem with hmem | hmem
    · exact h.begun round now hmem
    · exact h.next round (Prod.mk.inj (List.mem_singleton.1 hmem)).1.symm
  | _ => exact h

/-- Datagrams are waited for in the rounds that they were to be sent in. -/
theorem Within.after (h : Within bound w) (hbound : 0 < bound) (exchanges : List Exchange) :
    Within bound (observer.after w exchanges) := by
  induction exchanges generalizing w with
  | nil => exact h
  | cons exchange rest ih => exact ih (h.observe hbound exchange)

/-! ## Looking at a socket -/

/-- What becomes of an attempt does this to the waits: the attempt goes on with the wait it has, or it
begins the next one. -/
def Looks (policy : Policy) (round : Nat) (wire : Wire) (begun : List (Wait × Instant)) (w : Watch) :
    Session.Move → Prop
  | .stay wire' => w.begun = begun ∧ wire'.wait round = wire.wait round ∧
      wire'.isDatagram = wire.isDatagram ∧ (wire.isDatagram = false → sent w.next = .reply)
  | .stayUntil deadline wire' => ∃ now, w.begun = begun ++ [(wire'.wait round, now)] ∧
      now.add? (policy.allowance (wire'.wait round)) = some deadline ∧
      wire'.isDatagram = false ∧ sent w.next = .reply
  | .overflow => ∃ wait now, w.begun = begun ++ [(wait, now)] ∧
      now.add? (policy.allowance wait) = none
  | .nextUdp | .firstTcp | .nextTcp | .accept _ => w.begun = begun

variable {attempt : Attempt} {round : Nat} {wire : Wire} {move : Session.Move}

/-- An attempt that stays as it is goes on with its wait. -/
theorem looks_stay (hnext : wire.isDatagram = false → sent w.next = .reply) :
    Looks policy round wire w.begun w (.stay wire) :=
  ⟨rfl, rfl, rfl, hnext⟩

/-- An attempt that is over begins no wait. -/
theorem looks_of_ends (hends : move.Ends wire.isDatagram) :
    Looks policy round wire w.begun w move := by
  cases move with
  | stay | stayUntil | overflow => exact hends.elim
  | nextUdp | firstTcp | nextTcp | accept => rfl

theorem wait_of_readsStream (h : Session.ReadsStream wire) : wire.wait round = .reply := by
  obtain ⟨hread, hstream⟩ := h
  cases wire with
  | awaitingDatagram | connecting | sending => contradiction
  | awaitingHigh | awaitingLow | awaitingBody => rfl

theorem sent_sent (wait : Wait) : sent (sent wait) = sent wait := by cases wait <;> rfl

/-- Whether its socket is looked at or only the clock, an attempt goes on with the wait it has or
begins the next one. -/
theorem looks_of_nextMove {s : Session} {ready : Bool} {now : Instant}
    (hnext : wire.isDatagram = false → sent w.next = .reply)
    (h : Course (s.nextMove attempt wire ready now) exchanges move) :
    (observer.after w exchanges).due = w.due ∧
      Looks s.policy s.round wire w.begun (observer.after w exchanges) move := by
  have hquiet : ∀ {looks}, (∀ exchange ∈ looks, Session.IsLook exchange) →
      observer.after w looks = w :=
    fun hlooks => observer.after_of_looks (fun _ _ _ _ => rfl) w hlooks
  cases Session.glance_of_nextMove h with
  | stays hlooks =>
    rw [hquiet hlooks]
    exact ⟨rfl, looks_stay hnext⟩
  | ends hlooks hends =>
    rw [hquiet hlooks]
    exact ⟨rfl, looks_of_ends hends⟩
  | connects hlooks =>
    rw [hquiet hlooks]
    exact ⟨rfl, rfl, rfl, rfl, hnext⟩
  | readsOn hlooks hreads hreads' =>
    rw [hquiet hlooks]
    exact ⟨rfl, rfl, (wait_of_readsStream hreads').trans (wait_of_readsStream hreads).symm,
      hreads'.2.trans hreads.2.symm, hnext⟩
  | blocked | sendsOn => exact ⟨rfl, rfl, rfl, rfl, fun _ => (sent_sent w.next).trans (hnext rfl)⟩
  | fails => exact ⟨rfl, rfl⟩
  | sent _ hdeadline =>
    refine ⟨rfl, _, congrArg (fun wait => w.begun ++ [(wait, _)]) (hnext rfl), hdeadline, rfl, ?_⟩
    exact (sent_sent w.next).trans (hnext rfl)
  | sentTooLate hnone =>
    exact ⟨rfl, .reply, _, congrArg (fun wait => w.begun ++ [(wait, _)]) (hnext rfl), hnone⟩

end Watch

namespace Session

variable {query : Query} {servers : Servers} {recursive : Bool} {name : Bytes} {qtype : UInt16}
  {transport : Transport} {targets : List Servers.Target} {s s' : Session} {g g' : Generator}
  {trace exchanges : List Exchange} {turn : Turn} {result : Except Failure Progress} {w w' : Watch}
  {attempt : Attempt} {wire : Wire} {move : Move}

/-! ## Sessions in time -/

/-- A session waits as its waits show: it gives up the one begun last at the deadline that its policy
allows, and while that is one for a datagram, those of the places behind are to come. -/
structure Times (servers : Servers) (w : Watch) (s : Session) (wire : Wire) : Prop where
  last : ∃ before now, w.begun = before ++ [(wire.wait s.round, now)] ∧
    now.add? (s.policy.allowance (wire.wait s.round)) = some s.deadline
  inRange : s.policy.InRange w.begun
  next : wire.isDatagram = false → Watch.sent w.next = .reply
  due : wire.isDatagram = true →
    w.due = (servers.schedule s.round (s.slot + 1)).map Servers.Target.round

/-- After a step, a session waits as its waits show; or the wait it was to begin has no deadline in the
range of the clock; or it has come to an end for another reason. -/
inductive Timed (servers : Servers) (w : Watch) : Except Failure Progress → Session → Prop
  | waits {s : Session} {attempt : Attempt} {wire : Wire} (hstage : s.stage = .waiting attempt wire)
      (hservers : attempt.servers = servers) (htimes : s.Times servers w wire) :
      Timed servers w (.ok .pending) s
  | overflowed {s : Session} {before : List (Wait × Instant)} {wait : Wait} {now : Instant}
      (hbegun : w.begun = before ++ [(wait, now)]) (hinRange : s.policy.InRange before)
      (hnone : now.add? (s.policy.allowance wait) = none) :
      Timed servers w (.error .clockOverflow) s
  | ended {result : Except Failure Progress} {s : Session} (hended : result ≠ .ok .pending)
      (hcause : result ≠ .error .clockOverflow) (hinRange : s.policy.InRange w.begun) :
      Timed servers w result s

/-- A search for a server begins the waits of the attempts that it makes. -/
theorem timed_of_seeks (hinRange : s.policy.InRange w.begun)
    (hdue : transport = .udp → w.due = targets.map Servers.Target.round ∧
      ∃ round slot, targets = servers.schedule round slot)
    (h : s.Seeks query servers transport targets g exchanges turn) :
    Timed servers (Watch.observer.after w exchanges) turn.1 turn.2.1 := by
  -- an attempt that fails at once leaves the datagrams to come to the next
  induction h generalizing w with
  | vain =>
    refine .ended nofun nofun ?_
    cases transport <;> exact hinRange
  | @passesOver target rest g g' socket opens exchanges more turn hopen hfails hrest ih =>
    obtain ⟨hleft, begun, hbegun, hmore⟩ :=
      Watch.receives_of_attempt (fun hudp => by rw [(hdue hudp).1]; rfl) hopen hfails
    rw [← List.append_assoc, Observer.after_append]
    refine ih ?_ fun hudp => ?_
    · rw [hbegun]
      exact hinRange.append hmore
    · obtain ⟨htargets, round, slot, hschedule⟩ := hdue hudp
      subst hudp
      rw [hleft, Watch.opened, htargets]
      exact ⟨rfl, _, _, (Servers.of_schedule_eq_cons hschedule.symm).2⟩
  | @waits target rest g g' socket opens exchanges deadline wire hopen hwaits =>
    obtain ⟨hleft, now, hbegun, hdeadline, hnext⟩ :=
      Watch.receives_of_attempt (fun hudp => by rw [(hdue hudp).1]; rfl) hopen hwaits
    refine .waits rfl rfl ⟨⟨_, now, hbegun, hdeadline⟩, ?_, hnext, fun hdatagram => ?_⟩
    · rw [hbegun]
      exact hinRange.append (Policy.inRange_singleton hdeadline)
    · obtain rfl : transport = .udp := by
        cases hwaits with
        | sent => rfl
        | connected | inProgress => contradiction
      obtain ⟨htargets, round, slot, hschedule⟩ := hdue rfl
      rw [hleft, Watch.opened, htargets]
      exact congrArg _ (Servers.of_schedule_eq_cons hschedule.symm).2
  | @overflows target rest g g' socket opens exchanges hopen hoverflows =>
    obtain ⟨-, wait, now, hbegun, hnone⟩ :=
      Watch.receives_of_attempt (fun hudp => by rw [(hdue hudp).1]; rfl) hopen hoverflows
    exact .overflowed hbegun hinRange hnone
  | unbound hopen =>
    refine .ended nofun nofun ?_
    rw [Watch.begun_of_openLocal hopen]
    exact hinRange

/-- What becomes of its attempt, a session that waited as its waits show does so again, or comes to an
end. -/
theorem timed_of_follow (htimes : s.Times servers w wire) (hservers : attempt.servers = servers)
    (hsuits : move.Suits wire.isDatagram) (hdue : w'.due = w.due)
    (hlooks : Watch.Looks s.policy s.round wire w.begun w' move)
    (h : Course (s.follow attempt g move) exchanges (result, s', g')) :
    Timed servers (Watch.observer.after w' exchanges) result s' := by
  subst hservers
  have hinRange := htimes.inRange
  obtain ⟨before, now, hbegun, hdeadline⟩ := htimes.last
  cases move with
  | stay wire' =>
    obtain ⟨rfl, rfl, rfl, -⟩ := course_triple_iff.1 h
    obtain ⟨hsame, hwait, hkind, hnext⟩ := hlooks
    refine .waits rfl rfl ⟨⟨before, now, ?_, ?_⟩, ?_, fun hstream => hnext (hkind ▸ hstream),
      fun hdatagram => ?_⟩
    · rw [hwait]
      exact hsame.trans hbegun
    · rw [hwait]
      exact hdeadline
    · rw [Observer.after_nil, hsame]
      exact hinRange
    · exact hdue.trans (htimes.due (hkind ▸ hdatagram))
  | stayUntil deadline wire' =>
    obtain ⟨rfl, rfl, rfl, -⟩ := course_triple_iff.1 h
    obtain ⟨later, hmore, hlater, hstream, hnext⟩ := hlooks
    refine .waits rfl rfl ⟨⟨_, later, hmore, hlater⟩, ?_, fun _ => hnext,
      fun hdatagram => nomatch hstream.symm.trans hdatagram⟩
    rw [Observer.after_nil, hmore]
    exact hinRange.append (Policy.inRange_singleton hlater)
  | nextUdp =>
    rw [← show w'.begun = w.begun from hlooks] at hinRange
    exact timed_of_seeks hinRange
      (fun _ => ⟨hdue.trans (htimes.due hsuits), s.round, s.slot + 1, rfl⟩) (seeks_of_tryUdp h)
  | firstTcp | nextTcp =>
    rw [← show w'.begun = w.begun from hlooks] at hinRange
    refine timed_of_seeks hinRange ?_ (seeks_of_tryTcp (fun _ => Servers.round_of_mem_targetsFrom) h)
    exact nofun
  | accept reply =>
    obtain ⟨rfl, rfl, rfl, -⟩ := course_triple_iff.1 h
    rw [← show w'.begun = w.begun from hlooks] at hinRange
    exact .ended nofun nofun hinRange
  | overflow =>
    obtain ⟨rfl, rfl, rfl, -⟩ := course_triple_iff.1 h
    obtain ⟨wait, later, hmore, hnone⟩ := hlooks
    exact .overflowed hmore hinRange hnone

/-- A session that is pending and goes on waits as its waits show, or comes to an end. -/
theorem timed_of_get {ready : Bool} {now : Instant} (htimed : Timed servers w (.ok .pending) s)
    (h : Course (s.get ready now g) exchanges (result, s', g')) :
    Timed servers (Watch.observer.after w exchanges) result s' := by
  cases htimed with
  | @waits _ attempt wire hstage hservers htimes =>
    rw [get_waiting hstage] at h
    obtain ⟨move, looks, rest, rfl, hmove, hfollow⟩ := course_seq_iff.1 h
    obtain ⟨hdue, hlooks⟩ := Watch.looks_of_nextMove htimes.next hmove
    have hsuits := (suits_of_nextMove (j := .blank) hmove).2
    rw [Observer.after_append]
    exact timed_of_follow htimes hservers hsuits hdue hlooks hfollow
  | ended hended => exact absurd rfl hended

/-- A session that is started begins the waits of its first attempts. -/
theorem timed_of_start {started : Except Failure Unit}
    (h : Course (s.start servers recursive name qtype g) exchanges (started, s', g')) :
    Timed servers
      (Watch.observer.after
        (Watch.new ((servers.itinerary (firstRound recursive)).map Servers.Target.round)) exchanges)
      (started.map fun _ => .pending) s' := by
  cases hlength : Name.length? name with
  | none =>
    unfold start at h
    rw [hlength] at h
    obtain ⟨rfl, rfl, rfl, -⟩ := course_triple_iff.1 h
    exact .ended nofun nofun nofun
  | some length =>
    rw [start_eq hlength] at h
    obtain ⟨⟨turn, s₁, g₁⟩, searches, rest, rfl, hsearch, hrest⟩ := course_seq_iff.1 h
    obtain ⟨rfl, rfl, rfl, -⟩ := course_triple_iff.1 hrest
    have hsettled : turn = .ok .pending ∨ ∃ cause, turn = .error cause := by
      obtain ⟨tried, left, -, -, hsettles⟩ := settles_of_tryUdp (j := Journal.blank) hsearch
      cases hsettles with
      | waits => exact .inl rfl
      | gaveUp => exact .inr ⟨_, rfl⟩
    have htimed := timed_of_seeks
      (w := Watch.new ((servers.itinerary (firstRound recursive)).map Servers.Target.round)) nofun
      (fun _ => ⟨by rw [Servers.schedule_eq_itinerary]; rfl, _, _, rfl⟩) (seeks_of_tryUdp hsearch)
    rw [List.append_nil]
    rcases hsettled with rfl | ⟨cause, rfl⟩ <;> exact htimed

/-- The waits that an errand has begun, each with the reading of the clock it began at. -/
def begunWaits (servers : Servers) (recursive : Bool) (trace : List Exchange) :
    List (Wait × Instant) :=
  (Watch.observer.after
    (Watch.new ((servers.itinerary (firstRound recursive)).map Servers.Target.round)) trace).begun

namespace Errand

/-- A session on an errand waits as its waits show, or has come to an end. -/
theorem timed (run : Errand servers recursive name qtype trace result s) :
    Timed servers
      (Watch.observer.after
        (Watch.new ((servers.itinerary (firstRound recursive)).map Servers.Target.round)) trace)
      result s := by
  induction run with
  | started h => exact timed_of_start h
  | wentOn run h ih =>
    rw [Observer.after_append]
    exact timed_of_get ih h

/-- While a session on an errand waits, its deadline is what its policy allows from the reading on that
the wait began at. -/
theorem deadline (run : Errand servers recursive name qtype trace (.ok .pending) s)
    (hstage : s.stage = .waiting attempt wire) :
    ∃ before now, begunWaits servers recursive trace = before ++ [(wire.wait s.round, now)] ∧
      now.add? (s.policy.allowance (wire.wait s.round)) = some s.deadline := by
  cases run.timed with
  | waits hwaiting hservers htimes =>
    obtain ⟨rfl, rfl⟩ := Stage.waiting.inj (hstage.symm.trans hwaiting)
    exact htimes.last
  | ended hended => exact absurd rfl hended

/-- An errand breaks off for want of clock exactly if the deadline of a wait it has begun is past the
range of the clock. -/
theorem overflow_iff (run : Errand servers recursive name qtype trace result s) :
    result = .error .clockOverflow ↔ ∃ wait now,
      (wait, now) ∈ begunWaits servers recursive trace ∧
        now.add? (s.policy.allowance wait) = none := by
  have hnever : s.policy.InRange (begunWaits servers recursive trace) → ¬ ∃ wait now,
      (wait, now) ∈ begunWaits servers recursive trace ∧
        now.add? (s.policy.allowance wait) = none := by
    rintro hinRange ⟨wait, now, hmem, hnone⟩
    exact hinRange _ hmem hnone
  cases run.timed with
  | waits _ _ htimes => exact iff_of_false nofun (hnever htimes.inRange)
  | ended _ hcause hinRange => exact iff_of_false hcause (hnever hinRange)
  | overflowed hbegun _ hnone =>
    refine iff_of_true rfl ⟨_, _, ?_, hnone⟩
    rw [begunWaits, hbegun]
    exact List.mem_append_right _ (List.mem_singleton.2 rfl)

end Errand

/-- The waits of an errand begin at the readings of the clock. -/
theorem map_begunWaits : (begunWaits servers recursive trace).map Prod.snd = readings trace :=
  Watch.map_begun _ trace

/-- A datagram is waited for in a round that there is. -/
theorem lt_of_mem_begunWaits {round : Nat} {now : Instant}
    (h : (.datagram round, now) ∈ begunWaits servers recursive trace) : round < roundCount := by
  have hwithin : Watch.Within roundCount
      (.new ((servers.itinerary (firstRound recursive)).map Servers.Target.round)) := by
    refine ⟨fun round hround => ?_, nofun, nofun⟩
    obtain ⟨target, htarget, rfl⟩ := List.mem_map.1 hround
    obtain ⟨round, hrange, hplace⟩ := List.mem_flatMap.1 htarget
    obtain ⟨place, -, rfl⟩ := List.mem_map.1 hplace
    have hlast := (List.mem_range'_1.1 hrange).2
    have hfirst : firstRound recursive ≤ roundCount := by cases recursive <;> decide
    show round < roundCount
    omega
  exact (hwithin.after (by decide) trace).begun round now h

end Session

end Resolver
