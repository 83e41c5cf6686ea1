import Resolver.Proofs.Pool.Balance
import Resolver.Proofs.Session.Waiting

/-!
# One iteration of the event loop

In one iteration the clients of a slot ask what to wait for, the socket that was handed out gets
ready or not, and then they let the session go on. The client that was given the socket, its holder,
passes on whether it is ready; for all others it is not.

Main statements: only the first client to go on makes a difference, so the order of the clients
makes one exactly if the socket is ready and its holder goes on first in one order and not in the
other (`iteration_eq_iff`); a reply that waits on the socket is then left there
(`reply_left_by_other`).
-/

namespace Resolver

namespace Pool

open Dialogue

variable {capacity : Nat} {policy : Policy} {p p' : Pool} {i h : Handle} {shared : SharedQuery}
  {held held' : List Ticket} {returned : Option Ticket}

/-- Where the outcome is not known yet, the session of a slot waits for an attempt. -/
def Underway (p : Pool) : Prop :=
  ∀ i shared, p.slot? i = some shared →
    shared.turnstile = .needsWait ∨ shared.turnstile = .needsGet → shared.session.Waits

namespace Underway

theorem new : (Pool.new capacity policy).Underway := by
  intro i shared hslot
  have hmem := List.mem_of_getElem? (slot?_eq_some_iff.1 hslot)
  exact nomatch List.eq_of_mem_replicate hmem

theorem step (hu : p.Underway) (hstep : Step p held returned p' held') : p'.Underway := by
  intro i shared hslot hopen
  have hpasses := hstep.passes.2 i
  rw [hslot] at hpasses
  generalize hbefore : p.slot? i = before at hpasses
  cases hpasses with
  | stays => exact hu i shared hbefore hopen
  | opens key hsession => exact Session.waits_of_start hsession
  | joins shared => exact hu i shared hbefore hopen
  | @waits shared hturnstile => exact hu i shared hbefore (.inl hturnstile)
  | goesOn _ hsession =>
    have hpending := hopen.resolve_right (Turnstile.after_ne_needsGet _)
    cases Turnstile.of_after_eq_needsWait hpending
    exact Session.waits_of_get hsession
  | leaves shared => exact hu i shared hbefore hopen

end Underway

theorem Run.underway (run : Run capacity policy p held) : p.Underway := by
  induction run with
  | new => exact .new
  | step _ hstep ih => exact ih.step hstep

/-! ## The clients of a slot -/

section Clients

variable {Client : Type} {asking order order' : List Client}
  {deadline : Client → Instant} {ready ready' : Client → Bool} {isReady : Bool} {now : Instant}
  {g : Generator} {c : Client}

/-- The clients of a slot ask one after another what to wait for, each with its own deadline: the
holder of the socket, if it was handed out, and the pool after that. -/
def handOut (h : Handle) (deadline : Client → Instant) (p : Pool) :
    List Client → Option Client × Pool
  | [] => (none, p)
  | c :: rest =>
    let (request, _, p) := p.wanted h (deadline c)
    let (holder, p) := handOut h deadline p rest
    (if request.isSome then some c else holder, p)

/-- The clients of a slot let its session go on one after another. -/
def goOn (h : Handle) (ready : Client → Bool) (now : Instant) :
    List Client → Pool → Generator → Dialogue (Pool × Generator)
  | [], p, g => return (p, g)
  | c :: rest, p, g => do
    let (_, p, g) ← p.get h (ready c) now g
    goOn h ready now rest p g

/-- What a client asks for makes a difference only where the socket is to be handed out. -/
theorem wanted_of_ne (hne : ∀ shared, p.slot? h = some shared → shared.turnstile ≠ .needsWait)
    (deadline : Instant) : p.wanted h deadline = (none, deadline, p) := by
  unfold wanted
  cases hslot : p.slot? h with
  | none => rfl
  | some shared => exact if_neg (hne shared hslot)

theorem handOut_of_ne (hne : ∀ shared, p.slot? h = some shared → shared.turnstile ≠ .needsWait) :
    handOut h deadline p asking = (none, p) := by
  induction asking with
  | nil => rfl
  | cons c rest ih =>
    unfold handOut
    rw [wanted_of_ne hne]
    dsimp only
    rw [ih]
    rfl

/-- Where the socket is to be handed out, it is for the first client, and from then on the session
is to go on. -/
theorem handOut_cons (hslot : p.slot? h = some shared) (hturnstile : shared.turnstile = .needsWait)
    (deadline : Client → Instant) (c : Client) (rest : List Client) :
    handOut h deadline p (c :: rest) =
      (if (shared.session.wanted (deadline c)).1.isSome then some c else none,
        p.setSlot h (some { shared with turnstile := .needsGet })) := by
  unfold handOut wanted
  rw [hslot]
  dsimp only
  rw [if_pos hturnstile, handOut_of_ne]
  intro other hother
  rw [slot?_setSlot_self _ (lt_capacity hslot)] at hother
  exact Option.some.inj hother ▸ nofun

/-- A session that waits has a socket for the first client to ask. -/
theorem handOut_of_waits (hslot : p.slot? h = some shared)
    (hturnstile : shared.turnstile = .needsWait) (hwaits : shared.session.Waits)
    (deadline : Client → Instant) (c : Client) (rest : List Client) :
    handOut h deadline p (c :: rest) =
      (some c, p.setSlot h (some { shared with turnstile := .needsGet })) := by
  obtain ⟨attempt, wire, hstage⟩ := hwaits
  rw [handOut_cons hslot hturnstile]
  unfold Session.wanted
  rw [hstage]
  rfl

/-- A client becomes the holder only where the socket is to be handed out, and from then on the
session is to go on. -/
theorem handOut_eq_some (hholder : (handOut h deadline p asking).1 = some c) :
    ∃ shared, p.slot? h = some shared ∧ shared.turnstile = .needsWait ∧
      (handOut h deadline p asking).2 =
        p.setSlot h (some { shared with turnstile := .needsGet }) := by
  by_cases hne : ∀ shared, p.slot? h = some shared → shared.turnstile ≠ .needsWait
  · rw [handOut_of_ne hne] at hholder
    exact nomatch hholder
  · have hex : ∃ shared, p.slot? h = some shared ∧ shared.turnstile = .needsWait := by
      simpa using hne
    obtain ⟨shared, hslot, hturnstile⟩ := hex
    cases asking with
    | nil => exact nomatch hholder
    | cons c rest =>
      rw [handOut_cons hslot hturnstile]
      exact ⟨shared, hslot, hturnstile, rfl⟩

/-- As long as the socket is not handed out again, a client learns nothing new. -/
theorem get_of_needsWait (hslot : p.slot? h = some shared)
    (hturnstile : shared.turnstile = .needsWait) (isReady : Bool) (now : Instant) (g : Generator) :
    p.get h isReady now g = .done (.ok .pending, p, g) := by
  unfold get
  rw [hslot]
  dsimp only
  rw [hturnstile]
  rfl

/-- Where the session is not to go on, no client makes a difference. -/
theorem goOn_of_ne (hne : ∀ shared, p.slot? h = some shared → shared.turnstile ≠ .needsGet) :
    goOn h ready now order p g = .done (p, g) := by
  have hget : ∀ flag, ∃ result, p.get h flag now g = .done (result, p, g) := by
    intro flag
    unfold get
    cases hslot : p.slot? h with
    | none => exact ⟨_, rfl⟩
    | some shared =>
      dsimp only
      cases hturnstile : shared.turnstile with
      | needsGet => exact absurd hturnstile (hne shared hslot)
      | failed | needsWait | answered => exact ⟨_, rfl⟩
  induction order with
  | nil => rfl
  | cons c rest ih =>
    obtain ⟨result, hdone⟩ := hget (ready c)
    unfold goOn
    rw [hdone]
    exact ih

/-- The pool after the session of a slot went on. -/
def settle (p : Pool) (h : Handle) (shared : SharedQuery) (turn : Session.Turn) :
    Pool × Generator :=
  (p.setSlot h (some { shared with session := turn.2.1, turnstile := .after turn.1 }), turn.2.2)

/-- A session that is to go on does so once, for the first client. -/
theorem goOn_cons (hslot : p.slot? h = some shared) (hturnstile : shared.turnstile = .needsGet)
    (ready : Client → Bool) (now : Instant) (c : Client) (rest : List Client) (g : Generator) :
    goOn h ready now (c :: rest) p g =
      (shared.session.get (ready c) now g).bind fun turn => .done (p.settle h shared turn) := by
  unfold goOn get
  rw [hslot]
  dsimp only
  rw [hturnstile]
  -- however the session went on, it is not to go on again, so the other clients change nothing
  refine (bind_assoc _ _ _).trans (congrArg _ (funext fun turn => ?_))
  refine goOn_of_ne fun other hother => ?_
  rw [slot?_setSlot_self _ (lt_capacity hslot)] at hother
  cases Option.some.inj hother
  exact Turnstile.after_ne_needsGet turn.1

/-- Only what the first client says of the socket makes a difference. -/
theorem goOn_congr (hhead : order.head?.map ready = order'.head?.map ready') :
    goOn h ready now order p g = goOn h ready' now order' p g := by
  by_cases hne : ∀ shared, p.slot? h = some shared → shared.turnstile ≠ .needsGet
  · rw [goOn_of_ne hne, goOn_of_ne hne]
  · have hex : ∃ shared, p.slot? h = some shared ∧ shared.turnstile = .needsGet := by
      simpa using hne
    obtain ⟨shared, hslot, hturnstile⟩ := hex
    cases order with
    | nil =>
      cases order' with
      | nil => rfl
      | cons => exact nomatch hhead
    | cons c rest =>
      cases order' with
      | nil => exact nomatch hhead
      | cons c' rest' =>
        have hflag : ready c = ready' c' := Option.some.inj hhead
        rw [goOn_cons hslot hturnstile, goOn_cons hslot hturnstile, hflag]

/-! ## All clients together -/

variable [DecidableEq Client]

/-- What one iteration of the event loop does for a slot: all clients ask, and then they go on at
the same time `now`, in some order, with the socket ready for its holder or not. -/
def iteration (p : Pool) (h : Handle) (deadline : Client → Instant) (asking : List Client)
    (isReady : Bool) (now : Instant) (order : List Client) (g : Generator) :
    Dialogue (Pool × Generator) :=
  let handed := handOut h deadline p asking
  goOn h (fun c => isReady && handed.1 = some c) now order handed.2 g

/-- Where the socket is to be handed out, the session goes on for the first client, and finds its
socket ready only if this is the client that asked first. -/
theorem iteration_cons (hslot : p.slot? h = some shared)
    (hturnstile : shared.turnstile = .needsWait) (hwaits : shared.session.Waits) (c c' : Client)
    (rest rest' : List Client) (isReady : Bool) (now : Instant) (g : Generator) :
    p.iteration h deadline (c :: rest) isReady now (c' :: rest') g =
      (shared.session.get (isReady && some c = some c') now g).bind fun turn =>
        .done ((p.setSlot h (some { shared with turnstile := .needsGet })).settle h
          { shared with turnstile := .needsGet } turn) := by
  unfold iteration
  rw [handOut_of_waits hslot hturnstile hwaits]
  exact goOn_cons (slot?_setSlot_self _ (lt_capacity hslot)) rfl ..

/-- The order makes no difference if the socket is not ready or its holder goes on first in both
orders or in neither. -/
theorem iteration_congr (horder : order.Perm order')
    (hsame : isReady = true → ∀ c, (handOut h deadline p asking).1 = some c →
      (order.head? = some c ↔ order'.head? = some c)) :
    p.iteration h deadline asking isReady now order g =
      p.iteration h deadline asking isReady now order' g := by
  refine goOn_congr ?_
  cases order with
  | nil => rw [horder.nil_eq]
  | cons c₁ rest =>
    cases order' with
    | nil => exact nomatch horder.eq_nil
    | cons c₂ rest' =>
      cases isReady with
      | false => rfl
      | true =>
        have hflag : decide ((handOut h deadline p asking).1 = some c₁) =
            decide ((handOut h deadline p asking).1 = some c₂) := by
          cases hholder : (handOut h deadline p asking).1 with
          | none => rfl
          | some c =>
            have hiff := hsame rfl c hholder
            rw [List.head?_cons, List.head?_cons, eq_comm, eq_comm (a := some c₂)] at hiff
            exact decide_eq_decide.2 hiff
        exact congrArg (fun flag => some (true && flag)) hflag

/-- If its socket is ready, a session that waits tells an order in which the holder goes on first
from one in which another client does. -/
theorem head?_of_iteration_eq (hu : p.Underway) (horder : order.Perm order')
    (hholder : (handOut h deadline p asking).1 = some c)
    (heq : p.iteration h deadline asking true now order g =
      p.iteration h deadline asking true now order' g) :
    order.head? = some c ↔ order'.head? = some c := by
  obtain ⟨shared, hslot, hturnstile, hpool⟩ := handOut_eq_some hholder
  obtain ⟨attempt, wire, hstage⟩ := hu h shared hslot (.inl hturnstile)
  have hself := slot?_setSlot_self (some { shared with turnstile := .needsGet })
    (lt_capacity hslot)
  unfold iteration at heq
  dsimp only at heq
  rw [hholder, hpool] at heq
  cases order with
  | nil => rw [horder.nil_eq]
  | cons c₁ rest =>
    cases order' with
    | nil => exact nomatch horder.eq_nil
    | cons c₂ rest' =>
      rw [goOn_cons hself rfl, goOn_cons hself rfl] at heq
      -- both sides are the session's own step, told that its socket is ready or that it is not
      have hflag : decide (some c = some c₁) = decide (some c = some c₂) := by
        cases h₁ : decide (some c = some c₁) <;> cases h₂ : decide (some c = some c₂)
        · rfl
        · rw [h₁, h₂] at heq
          exact absurd heq.symm (Session.get_ready_ne hstage now g _ _)
        · rw [h₁, h₂] at heq
          exact absurd heq (Session.get_ready_ne hstage now g _ _)
        · rfl
      rw [List.head?_cons, List.head?_cons, eq_comm, decide_eq_decide.1 hflag, eq_comm]

/-- Unless the holder goes on first, it makes no difference whether the socket is ready. -/
theorem iteration_of_other
    (hother : ∀ c, (handOut h deadline p asking).1 = some c → order.head? ≠ some c) :
    p.iteration h deadline asking isReady now order g =
      p.iteration h deadline asking false now order g := by
  refine goOn_congr ?_
  cases order with
  | nil => rfl
  | cons c₁ rest =>
    have hflag : decide ((handOut h deadline p asking).1 = some c₁) = false :=
      decide_eq_false fun hholder => hother c₁ hholder rfl
    show some (isReady && decide ((handOut h deadline p asking).1 = some c₁)) = some false
    rw [hflag, Bool.and_false]

/-- In any pool that clients have used, the order in which the clients of a slot go on in one
iteration makes a difference, to what the system is asked and so to the pool after it, exactly if
the socket is ready and its holder goes on first in one order and not in the other. Unless the
holder goes on first, the iteration is the same as if the socket were not ready. -/
theorem iteration_eq_iff (run : Run capacity policy p held) (h : Handle)
    (deadline : Client → Instant) (asking : List Client) (horder : order.Perm order')
    (isReady : Bool) (now : Instant) (g : Generator) :
    (p.iteration h deadline asking isReady now order g =
        p.iteration h deadline asking isReady now order' g ↔
      (isReady = true → ∀ c, (handOut h deadline p asking).1 = some c →
        (order.head? = some c ↔ order'.head? = some c))) ∧
      ((∀ c, (handOut h deadline p asking).1 = some c → order.head? ≠ some c) →
        p.iteration h deadline asking isReady now order g =
          p.iteration h deadline asking false now order g) := by
  refine ⟨⟨fun heq hready c hholder => ?_, iteration_congr horder⟩, iteration_of_other⟩
  subst hready
  exact head?_of_iteration_eq run.underway horder hholder heq

end Clients

/-! ## Two clients -/

/-- Two clients start a query whose datagram goes out, and spell its name differently. -/
theorem exists_start_two : ∃ exchanges exchanges' p₁ p g g₁ g₂ servers,
    Course ((Pool.new 1 ⟨53, .localhost, #v[1, 1, 1, 1], 0, 0⟩).start servers true [1, 97, 0] 1 [0] g)
      exchanges (.ok 0, p₁, g₁) ∧
    Course (p₁.start servers true [1, 65, 0] 1 [0] g₁) exchanges' (.ok 0, p, g₂) ∧
    p.slot? 0 = some ⟨⟨[1, 97, 0], 1, [0]⟩, ⟨⟨53, .localhost, #v[1, 1, 1, 1], 0, 0⟩, 0, 0, ⟨1⟩,
      .waiting ⟨Session.errandQuery true [1, 97, 0] 1, .ofList [.localhost], 0x1234⟩
        (.awaitingDatagram 3)⟩, 2, .needsWait⟩ := by
  let policy : Policy := ⟨53, .localhost, #v[1, 1, 1, 1], 0, 0⟩
  have hkey : key? [1, 97, 0] 1 [0] = some ⟨[1, 97, 0], 1, [0]⟩ := by cbv
  have hkey' : key? [1, 65, 0] 1 [0] = some ⟨[1, 97, 0], 1, [0]⟩ := by cbv
  have hlength : Name.length? [1, 97, 0] = some 3 := by cbv
  have hschedule : (Servers.ofList [.localhost]).schedule (Session.firstRound true) 0 =
      ⟨0, 0, .localhost⟩ :: (Servers.ofList [.localhost]).schedule 1 0 := by decide
  have hdeadline : (⟨0⟩ : Instant).add? (policy.udpTimeout 0) = some ⟨1⟩ := by cbv
  obtain ⟨exchanges, exchanges', p₁, p, g₁, g₂, hstart, hjoin, hslot⟩ :=
    exists_start_pair 0 ⟨0, 0, .localhost⟩ 3 ⟨0⟩
      { Generator.ofSeed [] with pending := [0x1234] } hkey hkey' hlength hschedule hdeadline
  exact ⟨exchanges, exchanges', p₁, p, _, g₁, g₂, _, hstart, hjoin, hslot⟩

/-- Two clients share a query whose datagram is out. -/
theorem exists_pair : ∃ p held, Run 1 ⟨53, .localhost, #v[1, 1, 1, 1], 0, 0⟩ p held ∧
    p.slot? 0 = some ⟨⟨[1, 97, 0], 1, [0]⟩, ⟨⟨53, .localhost, #v[1, 1, 1, 1], 0, 0⟩, 0, 0, ⟨1⟩,
      .waiting ⟨Session.errandQuery true [1, 97, 0] 1, .ofList [.localhost], 0x1234⟩
        (.awaitingDatagram 3)⟩, 2, .needsWait⟩ := by
  obtain ⟨_, _, p₁, p, _, _, _, _, hstart, hjoin, hslot⟩ := exists_start_two
  exact ⟨p, _, .step (.step .new (.start hstart)) (.start hjoin), hslot⟩

/-- The socket of two clients gets ready. -/
theorem iteration_eq_iff_pair :
    ∃ p held, Run 1 ⟨53, .localhost, #v[1, 1, 1, 1], 0, 0⟩ p held ∧ p.refs 0 = 2 ∧
      [(0 : Fin 2), 1].Perm [1, 0] ∧ ∀ g,
      p.iteration 0 (fun _ : Fin 2 => ⟨0⟩) [0, 1] true ⟨0⟩ [0, 1] g ≠
        p.iteration 0 (fun _ : Fin 2 => ⟨0⟩) [0, 1] true ⟨0⟩ [1, 0] g ∧
      p.iteration 0 (fun _ : Fin 2 => ⟨0⟩) [0, 1] true ⟨0⟩ [1, 0] g =
        p.iteration 0 (fun _ : Fin 2 => ⟨0⟩) [0, 1] false ⟨0⟩ [1, 0] g := by
  obtain ⟨p, held, hrun, hslot⟩ := exists_pair
  have hholder : (handOut 0 (fun _ => ⟨0⟩) p [(0 : Fin 2), 1]).1 = some 0 := by
    rw [handOut_of_waits hslot rfl ⟨_, _, rfl⟩]
  have horder : [(0 : Fin 2), 1].Perm [1, 0] := .swap ..
  refine ⟨p, held, hrun, refs_of_slot? hslot, horder, fun g => ⟨fun heq => ?_, ?_⟩⟩
  · have hiff := (iteration_eq_iff hrun 0 (fun _ => ⟨0⟩) [0, 1] horder true ⟨0⟩ g).1.1 heq rfl 0
      hholder
    exact absurd (hiff.1 rfl) (by decide)
  · refine (iteration_eq_iff hrun 0 (fun _ => ⟨0⟩) [0, 1] horder.symm true ⟨0⟩ g).2 fun c hc => ?_
    cases Option.some.inj (hholder.symm.trans hc)
    decide

/-- A reply waits on the socket of two clients. If its holder goes on first, the reply is there for
both; if the other one goes on first, the system is asked nothing, and no client gets the reply
before the socket is handed out again. -/
theorem reply_left_by_other :
    ∃ p held reply, Run 1 ⟨53, .localhost, #v[1, 1, 1, 1], 0, 0⟩ p held ∧ p.refs 0 = 2 ∧
      (handOut 0 (fun _ : Fin 2 => ⟨0⟩) p [0, 1]).1 = some 0 ∧ ∀ g,
      (∃ p', Course (p.iteration 0 (fun _ : Fin 2 => ⟨0⟩) [0, 1] true ⟨0⟩ [0, 1] g)
          [⟨.receive 3 (maxReply + 1), .moved reply⟩] (p', g) ∧
        p'.reply? 0 = some reply.val) ∧
      ∃ p', p.iteration 0 (fun _ : Fin 2 => ⟨0⟩) [0, 1] true ⟨0⟩ [1, 0] g = .done (p', g) ∧
        p'.reply? 0 = none ∧
        ∀ ready now, p'.get 0 ready now g = .done (.ok .pending, p', g) := by
  obtain ⟨p, held, hrun, hslot⟩ := exists_pair
  let reply : Bytes := [0x12, 0x34, 0x80, 0, 0, 1, 0, 0, 0, 0, 0, 0, 1, 97, 0, 0, 1, 0, 1]
  let attempt : Attempt :=
    ⟨Session.errandQuery true [1, 97, 0] 1, .ofList [.localhost], 0x1234⟩
  let s : Session := ⟨⟨53, .localhost, #v[1, 1, 1, 1], 0, 0⟩, 0, 0, ⟨1⟩,
    .waiting attempt (.awaitingDatagram 3)⟩
  have hself : ∀ contents contents',
      ((p.setSlot 0 contents).setSlot 0 contents').slot? 0 = contents' := fun _ _ =>
    slot?_setSlot_self _ (capacity_setSlot.symm ▸ lt_capacity hslot)
  refine ⟨p, held, ⟨reply, by decide⟩, hrun, refs_of_slot? hslot,
    by rw [handOut_of_waits hslot rfl ⟨_, _, rfl⟩], fun g => ⟨?_, ?_⟩⟩
  · have hquery : Session.errandQuery true [1, 97, 0] 1 = ⟨[1, 97, 0], 1, true⟩ :=
      Session.errandQuery_eq (show Name.length? [1, 97, 0] = some 3 by cbv)
    have hjudge : Session.judgeDatagram attempt 0 (.awaitingDatagram 3) reply = .accept reply := by
      show Session.judgeDatagram ⟨Session.errandQuery true [1, 97, 0] 1, _, _⟩ 0 _ _ = _
      rw [hquery]
      cbv
    have hmove : Course (s.nextMove attempt (.awaitingDatagram 3) true ⟨0⟩)
        [⟨.receive 3 (maxReply + 1), .moved ⟨reply, by decide⟩⟩] (.accept reply) :=
      course_call_iff.2 ⟨.moved ⟨reply, by decide⟩, [], rfl, course_pure_iff.2 ⟨rfl, hjudge.symm⟩⟩
    have hget : Course (s.get true ⟨0⟩ g)
        [⟨.receive 3 (maxReply + 1), .moved ⟨reply, by decide⟩⟩]
        (.ok .done, { s with stage := .idle (some reply) }, g) := by
      rw [Session.get_waiting rfl]
      exact course_seq_iff.2 ⟨_, _, [], rfl, hmove, .done _⟩
    rw [iteration_cons hslot rfl ⟨_, _, rfl⟩]
    refine ⟨_, course_bind_iff.2 ⟨_, _, [], rfl, hget, .done _⟩, ?_⟩
    exact congrArg (Option.bind · _) (hself _ _)
  · have hget : s.get false ⟨0⟩ g = .done (.ok .pending, s, g) := Session.get_waiting rfl ..
    rw [iteration_cons hslot rfl ⟨_, _, rfl⟩]
    refine ⟨_, congrArg (Dialogue.bind · _) hget, congrArg (Option.bind · _) (hself _ _), ?_⟩
    exact fun ready now => get_of_needsWait (hself _ _) rfl ready now g

end Pool

end Resolver
