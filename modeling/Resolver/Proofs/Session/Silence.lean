import Mathlib.Algebra.GroupWithZero.Nat
import Resolver.Proofs.Session.Overdue
import Resolver.Proofs.Session.Schedule
import Resolver.Session.Resolution

/-!
# Silent servers

When every server takes the query and none answers, a session that is driven to its end waits for each
attempt until that times out, and then gives up. The driver wakes up more often than that if a timeout is
longer than it may wait at a time; at such a time the session only looks at the clock.

Main statement: the attempts are those of the itinerary, each begins when the one before it has timed
out, and the last one ends when the session gives up, however long the driver may wait at a time
(`resolve_silent`).
-/

namespace Resolver

/-! ## Talks by the clock -/

/-- Whether a connection is asked for. -/
def Call.isConnect : Call → Bool
  | .connect _ _ _ => true
  | _ => false

/-- Whether the question is a wait. -/
def Call.isAwait : Call → Bool
  | .await _ _ _ => true
  | _ => false

namespace Dialogue

section Clock

variable {α β σ : Type} (answer : (c : Call) → σ → c.Reply × σ) (clock : σ → Instant)

/-- What is exchanged in a talk with a system, each question with what the clock shows as it is asked. -/
def record : Dialogue α → σ → List (Instant × Exchange)
  | .done _, _ => []
  | .ask c next, w =>
    (clock w, ⟨c, (answer c w).1⟩) :: (next (answer c w).1).record (answer c w).2

/-- The connections to servers that are asked for, each with its time. -/
def attempts (record : List (Instant × Exchange)) : List (Instant × Ipv4) :=
  record.filterMap fun
    | (now, ⟨.connect _ ip _, _⟩) => some (now, ip)
    | _ => none

theorem attempts_append (first second : List (Instant × Exchange)) :
    attempts (first ++ second) = attempts first ++ attempts second :=
  List.filterMap_append

/-- A talk with the system makes these attempts, comes to a result and leaves the system in a state. -/
structure Passes (d : Dialogue α) (w : σ) (made : List (Instant × Ipv4)) (a : α) (w' : σ) : Prop where
  run_eq : d.run answer w = (a, w')
  attempts_eq : attempts (d.record answer clock w) = made

end Clock

variable {α β σ : Type} {answer : (c : Call) → σ → c.Reply × σ} {clock : σ → Instant} {w w' w'' : σ}
  {made made' : List (Instant × Ipv4)}

theorem record_bind (d : Dialogue α) (f : α → Dialogue β) (w : σ) :
    (d >>= f).record answer clock w = d.record answer clock w ++
      (f (d.run answer w).1).record answer clock (d.run answer w).2 := by
  induction d generalizing w with
  | done a => rfl
  | ask c next ih => exact congrArg (_ :: ·) (ih (answer c w).1 (answer c w).2)

theorem Passes.pure (a : α) (w : σ) : Passes answer clock (pure a) w [] a w := ⟨rfl, rfl⟩

theorem Passes.bind {d : Dialogue α} {f : α → Dialogue β} {a : α} {b : β}
    (first : Passes answer clock d w made a w') (second : Passes answer clock (f a) w' made' b w'') :
    Passes answer clock (d >>= f) w (made ++ made') b w'' := by
  constructor
  · show (d.bind f).run answer w = (b, w'')
    rw [run_bind, first.run_eq]
    exact second.run_eq
  · rw [record_bind, first.run_eq, attempts_append, first.attempts_eq, second.attempts_eq]

/-- A question that asks for no connection makes no attempt. -/
theorem Passes.ask {c : Call} {f : c.Reply → Dialogue β} {b : β} (hcall : c.isConnect = false)
    (h : Passes answer clock (f (answer c w).1) (answer c w).2 made b w') :
    Passes answer clock (call c >>= f) w made b w' := by
  constructor
  · exact h.run_eq
  · cases c with
    | connect => cases hcall
    | _ => exact h.attempts_eq

theorem Passes.connect {socket : Socket} {ip : Ipv4} {port : UInt16}
    {f : Connection → Dialogue β} {b : β}
    (h : Passes answer clock (f (answer (.connect socket ip port) w).1)
      (answer (.connect socket ip port) w).2 made b w') :
    Passes answer clock (call (.connect socket ip port) >>= f) w ((clock w, ip) :: made) b w' :=
  ⟨h.run_eq, congrArg ((clock w, ip) :: ·) h.attempts_eq⟩

end Dialogue

/-! ## Waits that are capped -/

/-- The number of waits it takes to sit out a time if none is longer than `longest`: one for no time at
all. -/
def wakeUps (longest time : Nat) : Nat :=
  (time - 1) / longest + 1

variable {longest time : Nat}

theorem wakeUps_pos (longest time : Nat) : 0 < wakeUps longest time :=
  Nat.succ_pos _

theorem wakeUps_of_lt (hlongest : 0 < longest) (h : longest < time) :
    wakeUps longest time = wakeUps longest (time - longest) + 1 := by
  have hsub : time - longest - 1 = time - 1 - longest := by omega
  unfold wakeUps
  rw [Nat.div_eq_sub_div hlongest (by omega), hsub]

theorem le_mul_wakeUps (hlongest : 0 < longest) : time ≤ longest * wakeUps longest time := by
  have hlt := Nat.lt_mul_div_succ (time - 1) hlongest
  unfold wakeUps
  omega

/-! ## Itineraries in time -/

namespace Servers

variable {s : Servers} {policy : Policy} {start : Instant} {targets : List Target}

/-- How long some attempts take that all time out. -/
def patience (policy : Policy) (targets : List Target) : Nat :=
  (targets.map fun target => policy.udpTimeout target.round).sum

/-- The number of waits in which some attempts all time out, if none is longer than `longest`. -/
def waitsOut (policy : Policy) (longest : Nat) (targets : List Target) : Nat :=
  (targets.map fun target => wakeUps longest (policy.udpTimeout target.round)).sum

/-- When each of some targets is attempted if each attempt times out and the next one is made then. -/
def timetable (policy : Policy) : Instant → List Target → List (Instant × Target)
  | _, [] => []
  | start, target :: rest =>
    (start, target) :: timetable policy ⟨start.nanos + policy.udpTimeout target.round⟩ rest

/-- When some attempts are made one after another as each times out, every deadline is in the range of
the clock: that of the attempt, and those of the waits in which it times out. -/
def InTime (policy : Policy) (longest : Nat) (start : Instant) (targets : List Target) : Prop :=
  ∀ x ∈ timetable policy start targets,
    x.1.nanos + longest * wakeUps longest (policy.udpTimeout x.2.round) < Instant.limit

theorem InTime.deadline_lt {longest : Nat} {target : Target}
    (h : InTime policy longest start (target :: targets)) (hlongest : 0 < longest) :
    start.nanos + policy.udpTimeout target.round < Instant.limit := by
  apply Nat.lt_of_le_of_lt _ (h _ List.mem_cons_self)
  exact Nat.add_le_add_left (le_mul_wakeUps hlongest) _

theorem map_snd_timetable : (timetable policy start targets).map Prod.snd = targets := by
  induction targets generalizing start with
  | nil => rfl
  | cons target rest ih =>
    rw [timetable, List.map_cons, ih]

/-- The rounds of the targets, each as often as there are places in use. -/
theorem map_round_itinerary (first : Nat) : (s.itinerary first).map Target.round =
    (List.range' first (roundCount - first)).flatMap (List.replicate s.occupied.length) := by
  unfold itinerary
  rw [List.map_flatMap]
  congr 1
  funext round
  unfold targetsOf
  rw [List.map_map, List.map_eq_replicate_iff]
  intro place _
  rfl

theorem itinerary_ne_nil {first : Nat} (h : s.occupied ≠ []) (hfirst : first < roundCount) :
    s.itinerary first ≠ [] := by
  rw [← List.length_pos_iff, length_itinerary]
  exact Nat.mul_pos (Nat.sub_pos_of_lt hfirst) (List.length_pos_iff.2 h)

/-- Every place in use is a target of every round. -/
theorem count_itinerary {first round : Nat} (hfirst : first ≤ round) (hlast : round < roundCount) :
    ((s.itinerary first).map Target.round).count round = s.occupied.length := by
  have hcount : ∀ rounds : List Nat,
      (rounds.flatMap (List.replicate s.occupied.length)).count round =
        rounds.count round * s.occupied.length := by
    intro rounds
    induction rounds with
    | nil => simp
    | cons r rounds ih =>
      rw [List.flatMap_cons, List.count_append, ih, List.count_replicate, List.count_cons]
      split
      · rw [Nat.add_mul, Nat.one_mul, Nat.add_comm]
      · rw [Nat.zero_add, Nat.add_zero]
  have honce : (List.range' first (roundCount - first)).count round = 1 := by
    rw [List.count_range', if_pos]
    exact ⟨round - first, by omega, by omega⟩
  rw [map_round_itinerary, hcount, honce, Nat.one_mul]

/-- The sum over the targets of what is a matter of their rounds. -/
theorem sum_itinerary (first : Nat) (f : Nat → Nat) :
    ((s.itinerary first).map fun target => f target.round).sum =
      s.occupied.length * ((List.range' first (roundCount - first)).map f).sum := by
  have hrounds : (s.itinerary first).map (fun target => f target.round) =
      ((s.itinerary first).map Target.round).map f := by
    rw [List.map_map]
    rfl
  rw [hrounds, map_round_itinerary]
  induction List.range' first (roundCount - first) with
  | nil => rfl
  | cons round rounds ih =>
    rw [List.flatMap_cons, List.map_append, List.sum_append, ih, List.map_replicate,
      List.sum_replicate_nat, List.map_cons, List.sum_cons, Nat.mul_add]

end Servers

/-- A session that has sent its datagram to a target at a time, and waits for the reply. -/
def Session.sentTo (policy : Policy) (target : Servers.Target) (now : Instant) (attempt : Attempt)
    (socket : Socket) : Session :=
  ⟨policy, target.round, target.slot, ⟨now.nanos + policy.udpTimeout target.round⟩,
    .waiting attempt (.awaitingDatagram socket)⟩

/-! ## Systems in which nothing answers -/

/-- As much as is offered is taken. -/
def Transfer.whole (offered : Nat) : Transfer { n : Nat // n ≤ offered } :=
  .moved ⟨offered, Nat.le_refl offered⟩

/-- Whatever is asked of the system is done at once, but nothing is ever ready: a wait lasts until its
deadline. Sockets can be had, connected and sent over; a random port may be taken, a port of the system's
choice can be had. -/
structure Silent {σ : Type} (answer : (c : Call) → σ → c.Reply × σ) (clock : σ → Instant) : Prop where
  now : ∀ w, (answer .now w).1 = clock w
  openSocket : ∀ transport w, ∃ socket, (answer (.openSocket transport) w).1 = .ok socket
  bind : ∀ socket ip w, (answer (.bind socket ip 0) w).1 = .ok ()
  connect : ∀ socket ip port w, (answer (.connect socket ip port) w).1 = .connected
  send : ∀ socket bytes w, (answer (.send socket bytes) w).1 = Transfer.whole bytes.length
  await : ∀ socket interest deadline w, (answer (.await socket interest deadline) w).1 = .ok false
  wakes : ∀ socket interest deadline w,
    (clock (answer (.await socket interest deadline) w).2).nanos =
      max (clock w).nanos deadline.nanos
  stands : ∀ c w, c.isAwait = false → clock (answer c w).2 = clock w

namespace Silent

open Dialogue

variable {σ : Type} {answer : (c : Call) → σ → c.Reply × σ} {clock : σ → Instant} {s : Session}
  {policy : Policy} {query : Query} {servers : Servers}

/-! ## Attempts -/

theorem passes_bindLocal (h : Silent answer clock) (policy : Policy) (socket : Socket) (tries : Nat)
    (g : Generator) (w : σ) : ∃ g' w',
      Passes answer clock (Session.bindLocal policy socket tries g) w [] (.ok (), g') w' ∧
      clock w' = clock w := by
  induction tries generalizing g w with
  | zero =>
    refine ⟨g, (answer (.bind socket policy.localIp 0) w).2, ?_, ?_⟩
    · refine Passes.ask rfl ?_
      rw [h.bind]
      exact Passes.pure _ _
    · exact h.stands (.bind socket policy.localIp 0) w rfl
  | succ tries ih =>
    rw [Session.bindLocal]
    generalize g.below portCount = drawn
    obtain ⟨offset, g₁⟩ := drawn
    dsimp only
    generalize hport : (firstPort + offset).toUInt16 = port
    have hstands := h.stands (.bind socket policy.localIp port) w rfl
    cases hbound : (answer (.bind socket policy.localIp port) w).1 with
    | ok bound =>
      refine ⟨g₁, (answer (.bind socket policy.localIp port) w).2, ?_, hstands⟩
      refine Passes.ask rfl ?_
      rw [hbound]
      exact Passes.pure _ _
    | error cause =>
      obtain ⟨g', w', hrest, hclock⟩ := ih g₁ (answer (.bind socket policy.localIp port) w).2
      refine ⟨g', w', ?_, hclock.trans hstands⟩
      refine Passes.ask rfl ?_
      rw [hbound]
      exact hrest

theorem passes_openLocal (h : Silent answer clock) (policy : Policy) (transport : Transport)
    (g : Generator) (w : σ) : ∃ socket g' w',
      Passes answer clock (Session.openLocal policy transport g) w [] (.ok socket, g') w' ∧
      clock w' = clock w := by
  obtain ⟨socket, hsocket⟩ := h.openSocket transport w
  obtain ⟨g', w', hbind, hclock⟩ := h.passes_bindLocal policy socket policy.bindAttempts g
    (answer (.openSocket transport) w).2
  refine ⟨socket, g', w', ?_, hclock.trans (h.stands (.openSocket transport) w rfl)⟩
  refine Passes.ask rfl ?_
  rw [hsocket]
  exact hbind.bind (Passes.pure _ _)

theorem passes_sendDatagram (h : Silent answer clock) (policy : Policy) (socket : Socket) (ip : Ipv4)
    (message : Bytes) (w : σ) : ∃ w',
      Passes answer clock (Session.sendDatagram policy socket ip message) w [(clock w, ip)] true w' ∧
      clock w' = clock w := by
  let w₁ := (answer (.connect socket ip policy.port) w).2
  refine ⟨(answer (.send socket message) w₁).2, ?_, ?_⟩
  · apply Passes.connect
    rw [h.connect]
    refine Passes.ask rfl ?_
    rw [h.send]
    show Passes answer clock (Pure.pure (message.length == message.length)) _ _ _ _
    rw [beq_self_eq_true]
    exact Passes.pure true _
  · exact (h.stands (.send socket message) w₁ rfl).trans
      (h.stands (.connect socket ip policy.port) w rfl)

/-- The first of some targets takes the datagram at once, and the session waits for it. -/
theorem passes_tryUdp (h : Silent answer clock) (s : Session) (query : Query) (servers : Servers)
    (target : Servers.Target) (rest : List Servers.Target) (g : Generator) (w : σ)
    (hrange : (clock w).nanos + s.policy.udpTimeout target.round < Instant.limit) :
    ∃ socket g' w', Passes answer clock (s.tryUdp query servers (target :: rest) g) w
        [(clock w, target.ip)] (.ok .pending,
          Session.sentTo s.policy target (clock w) ⟨query, servers, g.id.1⟩ socket, g') w' ∧
      clock w' = clock w := by
  obtain ⟨socket, g', w₁, hopen, hclock₁⟩ := h.passes_openLocal s.policy .udp g.id.2 w
  obtain ⟨w₂, hsend, hclock₂⟩ :=
    h.passes_sendDatagram s.policy socket target.ip (query.message g.id.1) w₁
  have hnow : clock w₂ = clock w := hclock₂.trans hclock₁
  have hdeadline : (clock w₂).add? ((s.aimedAt target).policy.udpTimeout target.round) =
      some ⟨(clock w).nanos + s.policy.udpTimeout target.round⟩ := by
    rw [hnow]
    exact if_pos hrange
  refine ⟨socket, g', (answer .now w₂).2, ?_, (h.stands .now w₂ rfl).trans hnow⟩
  unfold Session.tryUdp
  rw [hclock₁] at hsend
  refine hopen.bind ?_
  show Passes answer clock _ w₁ ([(clock w, target.ip)] ++ []) _ _
  refine hsend.bind ?_
  refine Passes.ask rfl ?_
  rw [h.now, hdeadline]
  exact Passes.pure _ _

/-! ## Waits -/

/-- A wait for a datagram lasts until the deadline of the session or of the driver, whichever is
earlier, unless that has passed. -/
theorem passes_await (h : Silent answer clock) {attempt : Attempt} {socket : Socket}
    (hstage : s.stage = .waiting attempt (.awaitingDatagram socket)) (cap : Instant) (w : σ) :
    ∃ w', Passes answer clock (s.await cap) w [] (.ok false) w' ∧
      (clock w').nanos = max (clock w).nanos (s.deadline.earliest cap).nanos := by
  have hawait : s.await cap =
      (do let ready ← call (.await socket .read (s.deadline.earliest cap)); return ready) := by
    unfold Session.await Session.wanted
    rw [hstage]
    rfl
  refine ⟨(answer (.await socket .read (s.deadline.earliest cap)) w).2, ?_, h.wakes _ _ _ w⟩
  rw [hawait]
  refine Passes.ask rfl ?_
  rw [h.await]
  exact Passes.pure _ _

end Silent

/-! ## Sessions that wait -/

/-- A session waits for a datagram, and the `rest` of the targets is left to it. It can be driven to its
end from a time on: there are enough waits, none longer than `longest`, and the deadlines are all in the
range of the clock. -/
structure Session.Patient (longest waits : Nat) (now : Instant) (rest : List Servers.Target)
    (s : Session) (attempt : Attempt) (socket : Socket) : Prop where
  stage_eq : s.stage = .waiting attempt (.awaitingDatagram socket)
  schedule_eq : attempt.servers.schedule s.round (s.slot + 1) = rest
  due : now.nanos ≤ s.deadline.nanos
  inRange : now.nanos + longest * wakeUps longest (s.deadline.nanos - now.nanos) < Instant.limit
  restInTime : Servers.InTime s.policy longest s.deadline rest
  enough : wakeUps longest (s.deadline.nanos - now.nanos) + Servers.waitsOut s.policy longest rest ≤ waits

/-- Before its deadline has come, a session whose socket is not ready stays as it is. -/
theorem Session.get_early {s : Session} {attempt : Attempt} {wire : Wire} {now : Instant}
    (hstage : s.stage = .waiting attempt wire) (hearly : now.before s.deadline = true)
    (g : Generator) : s.get false now g = pure (.ok .pending, s, g) := by
  rw [get_false_eq hstage, if_pos hearly]
  exact follow_stay hstage g

namespace Session.Patient

variable {longest waits : Nat} {now now' : Instant} {target : Servers.Target}
  {rest : List Servers.Target} {s : Session} {attempt : Attempt} {socket : Socket}

theorem pos (h : s.Patient longest waits now rest attempt socket) : 0 < waits := by
  have hpos := wakeUps_pos longest (s.deadline.nanos - now.nanos)
  have henough := h.enough
  omega

theorem cap_lt (h : s.Patient longest waits now rest attempt socket) :
    now.nanos + longest < Instant.limit := by
  apply Nat.lt_of_le_of_lt _ h.inRange
  exact Nat.add_le_add_left (Nat.le_mul_of_pos_right longest (wakeUps_pos _ _)) _

/-- One wait at least goes to the attempt that is waited for. -/
theorem enough_rest (h : s.Patient longest (waits + 1) now rest attempt socket) :
    Servers.waitsOut s.policy longest rest ≤ waits := by
  have hpos := wakeUps_pos longest (s.deadline.nanos - now.nanos)
  have henough := h.enough
  omega

/-- The driver wakes up before the deadline. -/
theorem wake (h : s.Patient longest (waits + 1) now rest attempt socket) (hlongest : 0 < longest)
    (hearly : now.nanos + longest < s.deadline.nanos) (hnow' : now'.nanos = now.nanos + longest) :
    s.Patient longest waits now' rest attempt socket := by
  obtain ⟨hstage, hrest, hdue, hrange, hrestInTime, henough⟩ := h
  have hlong : longest < s.deadline.nanos - now.nanos := by omega
  have hleft : s.deadline.nanos - now.nanos - longest = s.deadline.nanos - now'.nanos := by omega
  rw [wakeUps_of_lt hlongest hlong, hleft] at hrange henough
  rw [Nat.mul_add, Nat.mul_one] at hrange
  exact ⟨hstage, hrest, by omega, by omega, hrestInTime, by omega⟩

/-- A session that has just sent its datagram to the first of some targets. -/
theorem sent {policy : Policy} (attempt : Attempt) (socket : Socket)
    (hrest : rest = attempt.servers.schedule target.round (target.slot + 1))
    (htime : Servers.InTime policy longest now (target :: rest))
    (henough : Servers.waitsOut policy longest (target :: rest) ≤ waits) :
    (sentTo policy target now attempt socket).Patient longest waits now rest attempt socket := by
  obtain ⟨hfirst, hothers⟩ := List.forall_mem_cons.1 htime
  have hleft : now.nanos + policy.udpTimeout target.round - now.nanos =
      policy.udpTimeout target.round := Nat.add_sub_cancel_left _ _
  refine ⟨rfl, hrest.symm, Nat.le_add_right _ _, ?_, hothers, ?_⟩
  · show now.nanos + longest * wakeUps longest (now.nanos + _ - now.nanos) < Instant.limit
    rw [hleft]
    exact hfirst
  · show wakeUps longest (now.nanos + _ - now.nanos) + _ ≤ waits
    rw [hleft]
    exact henough

end Session.Patient

namespace Silent

open Dialogue

variable {σ : Type} {answer : (c : Call) → σ → c.Reply × σ} {clock : σ → Instant} {s : Session}
  {w : σ} {attempt : Attempt} {socket : Socket} {target : Servers.Target}
  {rest : List Servers.Target} {waits : Nat}

/-- After a session was let go on, the driver ends with its failure, or goes on while it is pending. -/
inductive Proceeds (answer : (c : Call) → σ → c.Reply × σ) (clock : σ → Instant) (longest waits : Nat) :
    Session.Turn → σ → List (Instant × Ipv4) → Session.Outcome × Session × Generator → σ → Prop
  | failed (cause : Failure) (s : Session) (g : Generator) (w : σ) :
      Proceeds answer clock longest waits (.error cause, s, g) w [] (.failure cause, s, g) w
  | pending {s : Session} {g : Generator} {w w' : σ} {made : List (Instant × Ipv4)}
      {x : Session.Outcome × Session × Generator}
      (h : Passes answer clock (s.resolveWithin longest g waits) w made x w') :
      Proceeds answer clock longest waits (.ok .pending, s, g) w made x w'

/-- The driver waits once, until the deadline of the session or for as long as it may, and lets the
session go on. -/
theorem passes_wait (h : Silent answer clock)
    (hstage : s.stage = .waiting attempt (.awaitingDatagram socket))
    (hdue : (clock w).nanos ≤ s.deadline.nanos) (hcap : (clock w).nanos + longest < Instant.limit)
    (g : Generator) (waits : Nat) :
    ∃ w₁, (clock w₁).nanos = min s.deadline.nanos ((clock w).nanos + longest) ∧
      ∀ made turn w₂ made' x w₃, Passes answer clock (s.get false (clock w₁) g) w₁ made turn w₂ →
        Proceeds answer clock longest waits turn w₂ made' x w₃ →
        Passes answer clock (s.resolveWithin longest g (waits + 1)) w (made ++ made') x w₃ := by
  let w₀ := (answer .now w).2
  let cap : Instant := ⟨(clock w).nanos + longest⟩
  have hbefore : clock w₀ = clock w := h.stands .now w rfl
  obtain ⟨w₁, hawait, hwakes⟩ := h.passes_await hstage cap w₀
  have hnow : clock (answer .now w₁).2 = clock w₁ := h.stands .now w₁ rfl
  have hadd : (clock w).add? longest = some cap := if_pos hcap
  refine ⟨(answer .now w₁).2, ?_, ?_⟩
  · rw [hnow, hwakes, hbefore]
    unfold Instant.earliest Instant.before
    split
    · next hlt =>
      have hlt : s.deadline.nanos < (clock w).nanos + longest := of_decide_eq_true hlt
      omega
    · next hle =>
      have hle : ¬ s.deadline.nanos < (clock w).nanos + longest := fun hlt => hle (decide_eq_true hlt)
      show max _ ((clock w).nanos + longest) = _
      omega
  · intro made turn w₂ made' x w₃ hget hproceeds
    rw [hnow] at hget
    rw [Session.resolveWithin]
    refine Passes.ask rfl ?_
    rw [h.now, hadd]
    refine hawait.bind ?_
    refine Passes.ask rfl ?_
    rw [h.now]
    refine hget.bind ?_
    cases hproceeds with
    | failed => exact Passes.pure _ _
    | pending hrest => exact hrest

/-- A session is started: its datagram goes out to the first target. -/
theorem passes_start (h : Silent answer clock) (s : Session) {servers : Servers} {recursive : Bool}
    {name : Bytes} {length : Nat} (qtype : UInt16) (g : Generator) (w : σ)
    (hlength : Name.length? name = some length)
    (hschedule : servers.schedule (Session.firstRound recursive) 0 = target :: rest)
    (hrange : (clock w).nanos + s.policy.udpTimeout target.round < Instant.limit) :
    ∃ socket g' w', Passes answer clock (s.start servers recursive name qtype g) w
        [(clock w, target.ip)] (.ok (), Session.sentTo s.policy target (clock w)
          ⟨Session.errandQuery recursive name qtype, servers, g.id.1⟩ socket, g') w' ∧
      clock w' = clock w := by
  obtain ⟨socket, g', w', htry, hclock⟩ := h.passes_tryUdp
    { s.free with round := Session.firstRound recursive, slot := 0 }
    (Session.errandQuery recursive name qtype) servers target rest g w hrange
  refine ⟨socket, g', w', ?_, hclock⟩
  rw [Session.start_eq hlength, hschedule]
  exact htry.bind (Passes.pure _ _)

/-- A session that has waits enough is driven through the attempts that are left to it. At the end of each
wait either the deadline is still to come, and nothing has changed but the time, or it has come, and the
next attempt is made. -/
theorem passes_resolveWithin (h : Silent answer clock) (hlongest : 0 < longest)
    (hpatient : s.Patient longest waits (clock w) rest attempt socket) (g : Generator) :
    ∃ s' g' w', Passes answer clock (s.resolveWithin longest g waits) w
        ((Servers.timetable s.policy s.deadline rest).map fun x => (x.1, x.2.ip))
        (.failure .exhausted, s', g') w' ∧
      (clock w').nanos = s.deadline.nanos + Servers.patience s.policy rest := by
  induction waits generalizing s attempt socket rest w g with
  | zero => exact absurd hpatient.pos (Nat.lt_irrefl 0)
  | succ waits ih =>
    have hstage := hpatient.stage_eq
    obtain ⟨w₁, hclock, hwait⟩ :=
      h.passes_wait hstage hpatient.due hpatient.cap_lt g waits
    by_cases hearly : (clock w).nanos + longest < s.deadline.nanos
    · have hcapped : (clock w₁).nanos = (clock w).nanos + longest := by omega
      have hwake := hpatient.wake hlongest hearly hcapped
      obtain ⟨s', g', w', hpasses, htotal⟩ := ih hwake g
      have hget : Passes answer clock (s.get false (clock w₁) g) w₁ [] (.ok .pending, s, g) w₁ := by
        rw [Session.get_early hstage (decide_eq_true (by omega))]
        exact Passes.pure _ _
      exact ⟨s', g', w', hwait _ _ _ _ _ _ hget (.pending hpasses), htotal⟩
    · have hdue := hpatient.due
      have hnanos : (clock w₁).nanos = s.deadline.nanos := by omega
      have hnow : clock w₁ = s.deadline := congrArg Instant.mk hnanos
      have hget : s.get false (clock w₁) g = s.tryUdp attempt.query attempt.servers rest g := by
        rw [Session.get_expired hstage (decide_eq_false (by omega)), ← hpatient.schedule_eq]
        rfl
      cases rest with
      | nil =>
        have hgaveUp : Passes answer clock (s.get false (clock w₁) g) w₁ []
            (.error .exhausted, { s with round := roundCount, slot := 0 }.free, g) w₁ := by
          rw [hget]
          exact Passes.pure _ _
        exact ⟨_, g, w₁, hwait _ _ _ _ _ _ hgaveUp (.failed _ _ _ _), hnanos⟩
      | cons target rest =>
        obtain ⟨-, hrest⟩ := Servers.of_schedule_eq_cons hpatient.schedule_eq
        obtain ⟨socket', g₁, w₂, htry, hclock'⟩ := h.passes_tryUdp s attempt.query attempt.servers
          target rest g w₁ (by rw [hnow]; exact hpatient.restInTime.deadline_lt hlongest)
        have hclock₂ : clock w₂ = s.deadline := hclock'.trans hnow
        have hnext := Session.Patient.sent ⟨attempt.query, attempt.servers, g.id.1⟩ socket' hrest
          hpatient.restInTime hpatient.enough_rest
        obtain ⟨s', g', w', hpasses, htotal⟩ := ih (w := w₂) (by rw [hclock₂]; exact hnext) g₁
        rw [← hget, hnow] at htry
        rw [hnow] at hwait
        refine ⟨s', g', w', hwait _ _ _ _ _ _ htry (.pending hpasses), ?_⟩
        rw [htotal]
        exact Nat.add_assoc _ _ _

end Silent

/-! ## Queries nobody answers -/

namespace Session

open Dialogue

/-- When no server answers the query that a session is started with, driving it ends for want of servers.
With each server in use one attempt is made in each round, in their order, and each attempt lasts exactly
as long as the policy lets it in its round: the next one is made then, and with the last one the session
gives up. How long the driver may wait at a time makes no difference to that, as long as there are waits
enough and every deadline can be set. -/
theorem resolve_silent {σ : Type} {answer : (c : Call) → σ → c.Reply × σ} {clock : σ → Instant}
    (hsilent : Silent answer clock) (s : Session) (servers : Servers) (recursive : Bool) (name : Bytes)
    (qtype : UInt16) (g : Generator) (w : σ) (longest waits : Nat) {length : Nat}
    (hlength : Name.length? name = some length) (hservers : servers.occupied ≠ [])
    (hlongest : 0 < longest)
    (htime : Servers.InTime s.policy longest (clock w) (servers.itinerary (firstRound recursive)))
    (hwaits : Servers.waitsOut s.policy longest (servers.itinerary (firstRound recursive)) ≤ waits) :
    let plan := Servers.timetable s.policy (clock w) (servers.itinerary (firstRound recursive))
    ∃ s₁ g₁ w₁ s₂ g₂ w₂,
      (s.start servers recursive name qtype g).run answer w = ((.ok (), s₁, g₁), w₁) ∧
      (s₁.resolveWithin longest g₁ waits).run answer w₁ = ((.failure .exhausted, s₂, g₂), w₂) ∧
      attempts ((s.start servers recursive name qtype g).record answer clock w ++
        (s₁.resolveWithin longest g₁ waits).record answer clock w₁) =
          plan.map (fun x => (x.1, x.2.ip)) ∧
      (∀ round, firstRound recursive ≤ round → round < roundCount →
        (plan.map fun x => x.2.round).count round = servers.occupied.length) ∧
      (clock w₂).nanos = (clock w).nanos + servers.occupied.length *
        ((List.range' (firstRound recursive) (roundCount - firstRound recursive)).map
          s.policy.udpTimeout).sum := by
  intro plan
  have hrounds : plan.map (fun x => x.2.round) =
      (servers.itinerary (firstRound recursive)).map Servers.Target.round := by
    have hround : (fun x : Instant × Servers.Target => x.2.round) =
        Servers.Target.round ∘ Prod.snd := rfl
    rw [hround, ← List.map_map, Servers.map_snd_timetable]
  have hfirst : firstRound recursive < roundCount := by cases recursive <;> decide
  obtain ⟨target, rest, hitinerary⟩ :=
    List.exists_cons_of_ne_nil (Servers.itinerary_ne_nil hservers hfirst)
  have hschedule : servers.schedule (firstRound recursive) 0 = target :: rest :=
    Servers.schedule_eq_itinerary.trans hitinerary
  obtain ⟨-, hrest⟩ := Servers.of_schedule_eq_cons hschedule
  have htargets : Servers.InTime s.policy longest (clock w) (target :: rest) := hitinerary ▸ htime
  have henough : Servers.waitsOut s.policy longest (target :: rest) ≤ waits := hitinerary ▸ hwaits
  -- the first attempt is made by the start, the others while the session is driven
  obtain ⟨socket, g₁, w₁, hstart, hclock⟩ :=
    hsilent.passes_start s qtype g w hlength hschedule (htargets.deadline_lt hlongest)
  have hpatient := Patient.sent ⟨errandQuery recursive name qtype, servers, g.id.1⟩ socket hrest
    htargets henough
  obtain ⟨s₂, g₂, w₂, hdriven, hend⟩ :=
    hsilent.passes_resolveWithin (w := w₁) hlongest (by rw [hclock]; exact hpatient) g₁
  refine ⟨_, g₁, w₁, s₂, g₂, w₂, hstart.run_eq, hdriven.run_eq, ?_, ?_, ?_⟩
  · rw [attempts_append, hstart.attempts_eq, hdriven.attempts_eq]
    show _ = (Servers.timetable s.policy (clock w) (servers.itinerary _)).map _
    rw [hitinerary]
    rfl
  · intro round hlow hhigh
    rw [hrounds]
    exact Servers.count_itinerary hlow hhigh
  · rw [hend, ← Servers.sum_itinerary, hitinerary]
    exact Nat.add_assoc _ _ _

/-- A system that is nothing but its clock, at which every wait lasts until its deadline. -/
def still : (c : Call) → Instant → c.Reply × Instant
  | .allocate _, w => (true, w)
  | .now, w => (w, w)
  | .wallClock, w => (Tai64.ofUnix 0, w)
  | .openSocket _, w => (.ok 3, w)
  | .bind _ _ _, w => (.ok (), w)
  | .connect _ _ _, w => (.connected, w)
  | .isConnected _, w => (false, w)
  | .send _ bytes, w => (.whole bytes.length, w)
  | .receive _ _, w => (.blocked, w)
  | .await _ _ deadline, w => (.ok false, ⟨max w.nanos deadline.nanos⟩)

theorem silent_still : Silent still id where
  now _ := rfl
  openSocket _ _ := ⟨3, rfl⟩
  bind _ _ _ := rfl
  connect _ _ _ _ := rfl
  send _ _ _ := rfl
  await _ _ _ _ := rfl
  wakes _ _ _ _ := rfl
  stands c w hawait := by
    cases c with
    | await => cases hawait
    | _ => rfl

/-- A policy whose second round is longer than a single wait, and whose third takes no time. -/
def sluggish : Policy :=
  ⟨53, .localhost, #v[Duration.seconds 1, Duration.seconds 200, 0, Duration.seconds 5], 0, 3⟩

/-- Two servers that do not answer. The driver wakes up once more for each of the two attempts that last
200 seconds, and the session gives up 410 seconds after its start. -/
theorem resolve_silent_sluggish : ∃ s₁ g₁ w₁ s₂ g₂ w₂,
    ((new sluggish).start (.ofList [.localhost, .unspecified, ⟨127, 0, 0, 2⟩]) false [1, 97, 0] 1
      (Generator.ofSeed [])).run still ⟨0⟩ = ((.ok (), s₁, g₁), w₁) ∧
    (s₁.resolve g₁ 8).run still w₁ = ((.failure .exhausted, s₂, g₂), w₂) ∧
    attempts (((new sluggish).start (.ofList [.localhost, .unspecified, ⟨127, 0, 0, 2⟩]) false
        [1, 97, 0] 1 (Generator.ofSeed [])).record still id ⟨0⟩ ++
      (s₁.resolve g₁ 8).record still id w₁) =
        [(⟨0⟩, .localhost), (⟨Duration.seconds 200⟩, ⟨127, 0, 0, 2⟩), (⟨Duration.seconds 400⟩, .localhost),
          (⟨Duration.seconds 400⟩, ⟨127, 0, 0, 2⟩), (⟨Duration.seconds 400⟩, .localhost),
          (⟨Duration.seconds 405⟩, ⟨127, 0, 0, 2⟩)] ∧
    w₂.nanos = Duration.seconds 410 := by
  have hlength : Name.length? [1, 97, 0] = some 3 := by cbv
  obtain ⟨s₁, g₁, w₁, s₂, g₂, w₂, hstart, hresolve, hattempts, -, htotal⟩ :=
    resolve_silent silent_still (new sluggish) (.ofList [.localhost, .unspecified, ⟨127, 0, 0, 2⟩])
      false [1, 97, 0] 1 (Generator.ofSeed []) ⟨0⟩ longestWait 8 hlength (by decide) (by decide)
      (by unfold Servers.InTime; decide) (by decide)
  exact ⟨s₁, g₁, w₁, s₂, g₂, w₂, hstart, hresolve, hattempts.trans (by decide), htotal⟩

end Session

end Resolver
