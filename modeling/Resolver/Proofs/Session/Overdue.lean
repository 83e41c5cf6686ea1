import Resolver.Proofs.Session.Foreign

/-!
# Overdue attempts

An attempt is overdue once its deadline has come. A session that is told that its socket is ready
looks at the socket and not at the clock.

Main statements: a datagram that counts for nothing keeps an overdue attempt from being given up
exactly if it is not empty (`get_overdue_iff`), so that a flood of such datagrams keeps the session on
one server for as long as it lasts (`junk_holds_overdue`).
-/

namespace Resolver

/-- A datagram counts for nothing: it does not carry the attempt's id and question, or it is longer
than a reply can be. -/
def Attempt.Drops (a : Attempt) (datagram : Bytes) : Prop :=
  ¬ Carries datagram a.id a.query ∨ maxReply < datagram.length

namespace Session

open Dialogue

variable {servers : Servers} {recursive : Bool} {name : Bytes} {qtype : UInt16} {s : Session}
  {attempt : Attempt} {socket : Socket} {trace : List Exchange} {datagram : Bytes} {now : Instant}

/-! ## Datagrams that are dropped -/

/-- What is too short for a whole header counts for nothing. -/
theorem drops_of_short (attempt : Attempt) (hshort : datagram.length < 12) :
    attempt.Drops datagram := by
  refine .inl fun hcarries => ?_
  have := hcarries.header
  omega

/-- What counts for nothing leaves the attempt as it is. -/
theorem judgeDatagram_drops (round : Nat) (wire : Wire) (hname : Name.IsName attempt.query.name)
    (hdrops : attempt.Drops datagram) :
    judgeDatagram attempt round wire (arriving datagram).val = .stay wire := by
  rcases hdrops with hforeign | hlong
  · exact judgeDatagram_foreign round wire hname hforeign
  · have hlength : maxReply < (arriving datagram).val.length := by
      show maxReply < (datagram.take (maxReply + 1)).length
      rw [List.length_take]
      omega
    unfold judgeDatagram
    rw [if_pos hlength]

/-- When its deadline has come and its socket is not ready, an attempt made with a datagram is given
up for the next one. -/
theorem get_expired (hstage : s.stage = .waiting attempt (.awaitingDatagram socket))
    (hoverdue : now.before s.deadline = false) (g : Generator) :
    s.get false now g = s.follow attempt g .nextUdp := by
  rw [get_false_eq hstage, hoverdue]
  rfl

/-- A session that is told that its socket is ready reads a datagram there, whatever the time. If it
counts for nothing, the attempt is given up if the datagram is empty, and all stays as it was if it
is not. -/
theorem exists_next_of_drops (hname : Name.IsName attempt.query.name)
    (hstage : s.stage = .waiting attempt (.awaitingDatagram socket))
    (hdrops : attempt.Drops datagram) (now : Instant) (g : Generator) :
    ∃ next, s.get true now g = .ask (.receive socket (maxReply + 1)) next ∧
      (datagram = [] → next (.moved (arriving datagram)) = s.follow attempt g .nextUdp) ∧
      (datagram ≠ [] → next (.moved (arriving datagram)) = .done (.ok .pending, s, g)) := by
  rw [get_waiting hstage]
  refine ⟨_, rfl, ?_, ?_⟩
  · rintro rfl
    rfl
  · intro hcontent
    obtain ⟨b, bytes, rfl⟩ := List.exists_cons_of_ne_nil hcontent
    show s.follow attempt g
      (judgeDatagram attempt s.round (.awaitingDatagram socket) (arriving (b :: bytes)).val) = _
    rw [judgeDatagram_drops s.round (.awaitingDatagram socket) hname hdrops]
    exact follow_stay hstage g

/-- While a session on an errand waits for a datagram and is overdue, a datagram that counts for
nothing is read from its socket. The session then does what it does when its socket is not ready,
which is to give the attempt up, exactly if the datagram is empty; every other one leaves the session
waiting, the same in every part. -/
theorem get_overdue_iff (run : Errand servers recursive name qtype trace (.ok .pending) s)
    (hstage : s.stage = .waiting attempt (.awaitingDatagram socket))
    (hdrops : attempt.Drops datagram) (hoverdue : now.before s.deadline = false) (g : Generator) :
    ∃ next, s.get true now g = .ask (.receive socket (maxReply + 1)) next ∧
      (next (.moved (arriving datagram)) = s.get false now g ↔ datagram = []) ∧
      (next (.moved (arriving datagram)) = .done (.ok .pending, s, g) ↔ datagram ≠ []) := by
  obtain ⟨next, hget, hempty, hcontent⟩ :=
    exists_next_of_drops (run.isName hstage) hstage hdrops now g
  refine ⟨next, hget, ?_⟩
  rw [get_expired hstage hoverdue]
  by_cases hdatagram : datagram = []
  · rw [hempty hdatagram]
    exact ⟨iff_of_true rfl hdatagram, iff_of_false tryUdp_ne_pending fun h => h hdatagram⟩
  · rw [hcontent hdatagram]
    exact ⟨iff_of_false (fun h => tryUdp_ne_pending h.symm) hdatagram, iff_of_true rfl hdatagram⟩

/-- An overdue session and a datagram of one byte, which carries no id. -/
theorem get_overdue_iff_oneByte :
    ∃ s trace g, ∃ attempt : Attempt,
      Errand (.ofList [.localhost]) true [1, 97, 0] 1 trace (.ok .pending) s ∧
      s.stage = .waiting attempt (.awaitingDatagram 3) ∧ attempt.Drops [7] ∧
      (⟨1⟩ : Instant).before s.deadline = false ∧
      ∃ next, s.get true ⟨1⟩ g = .ask (.receive 3 (maxReply + 1)) next ∧
        (next (.moved (arriving [7])) = s.get false ⟨1⟩ g ↔ [(7 : UInt8)] = []) ∧
        (next (.moved (arriving [7])) = .done (.ok .pending, s, g) ↔ [(7 : UInt8)] ≠ []) := by
  have hschedule : (Servers.ofList [.localhost]).schedule (firstRound true) 0 =
      ⟨0, 0, .localhost⟩ :: (Servers.ofList [.localhost]).schedule 1 0 := by decide
  obtain ⟨trace, g, hstart⟩ := exists_start_hasty hschedule
  have run := Errand.started hstart
  have hdrops := fun attempt => drops_of_short attempt (show [(7 : UInt8)].length < 12 by decide)
  exact ⟨_, trace, g, _, run, rfl, hdrops _, by decide,
    get_overdue_iff run rfl (hdrops _) (by decide) g⟩

/-! ## Datagrams that keep coming in -/

/-- The session goes on once for each of some datagrams, which are there when it looks at its socket
at the given times. -/
inductive Flooded (socket : Socket) : Session → List (Instant × Bytes) → Session → Prop
  | refl (s : Session) : Flooded socket s [] s
  | step {s s' s'' : Session} {now : Instant} {datagram : Bytes} {rest : List (Instant × Bytes)}
      {g g' : Generator} {result : Except Failure Progress}
      (h : Course (s.get true now g)
        [⟨.receive socket (maxReply + 1), .moved (arriving datagram)⟩] (result, s', g'))
      (flooded : Flooded socket s' rest s'') : Flooded socket s ((now, datagram) :: rest) s''

/-- Datagrams that have content and count for nothing leave a session on an errand as it was, however
many there are and however late it is. -/
theorem flooded_self (run : Errand servers recursive name qtype trace (.ok .pending) s)
    (hstage : s.stage = .waiting attempt (.awaitingDatagram socket)) (g : Generator)
    {flood : List (Instant × Bytes)}
    (hflood : ∀ arrival ∈ flood, attempt.Drops arrival.2 ∧ arrival.2 ≠ []) :
    Flooded socket s flood s := by
  have hname := run.isName hstage
  induction flood with
  | nil => exact .refl s
  | cons arrival rest ih =>
    obtain ⟨⟨hdrops, hcontent⟩, hrest⟩ := List.forall_mem_cons.1 hflood
    obtain ⟨next, hget, -, hnext⟩ := exists_next_of_drops hname hstage hdrops arrival.1 g
    have hcourse : Course (s.get true arrival.1 g)
        [⟨.receive socket (maxReply + 1), .moved (arriving arrival.2)⟩] (.ok .pending, s, g) := by
      rw [hget]
      refine .ask _ ?_
      rw [hnext hcontent]
      exact .done _
    exact .step hcourse (ih hrest)

/-- A session has waited for its first server beyond the deadline. If its socket were not ready, it
would ask the second one; but it stays with the first for as many datagrams of one byte as anybody
cares to send. -/
theorem junk_holds_overdue :
    ∃ s s' trace exchanges g g', ∃ attempt : Attempt,
      Errand (.ofList [.localhost, .localhost]) true [1, 97, 0] 1 trace (.ok .pending) s ∧
      s.stage = .waiting attempt (.awaitingDatagram 3) ∧
      (⟨1⟩ : Instant).before s.deadline = false ∧ attempt.Drops [7] ∧
      Course (s.get false ⟨1⟩ g) exchanges (.ok .pending, s', g') ∧ s.slot = 0 ∧ s'.slot = 1 ∧
      ∀ count, Flooded 3 s (List.replicate count (⟨1⟩, [7])) s := by
  let servers : Servers := .ofList [.localhost, .localhost]
  let q := errandQuery true [1, 97, 0] 1
  let s : Session := ⟨hasty, 0, 0, ⟨0⟩, .waiting ⟨q, servers, 4660⟩ (.awaitingDatagram 3)⟩
  have hschedule : servers.schedule (firstRound true) 0 =
      ⟨0, 0, .localhost⟩ :: servers.schedule 0 1 := by decide
  obtain ⟨trace, g, hstart⟩ := exists_start_hasty hschedule
  have run : Errand servers true [1, 97, 0] 1 trace (.ok .pending) s := .started hstart
  have hstage : s.stage = .waiting ⟨q, servers, 4660⟩ (.awaitingDatagram 3) := rfl
  -- the second server takes the datagram that is sent to it
  have hnext : servers.schedule 0 1 = ⟨0, 1, .localhost⟩ :: servers.schedule 1 0 := by decide
  obtain ⟨exchanges, g', htry⟩ : ∃ exchanges g', Course (s.tryUdp q servers
      (⟨0, 1, .localhost⟩ :: servers.schedule 1 0) g) exchanges (.ok .pending, ⟨hasty, 0, 1, ⟨1⟩,
        .waiting ⟨q, servers, g.id.1⟩ (.awaitingDatagram 4)⟩, g') :=
    exists_tryUdp s q servers ⟨0, 1, .localhost⟩ _ 4 ⟨1⟩ g (by cbv)
  rw [← hnext] at htry
  have hgiveUp : s.get false ⟨1⟩ g = s.tryUdp q servers (servers.schedule 0 1) g :=
    get_expired hstage (by decide) g
  rw [← hgiveUp] at htry
  have hdrops := fun attempt => drops_of_short attempt (show [(7 : UInt8)].length < 12 by decide)
  refine ⟨s, _, trace, exchanges, g, g', _, run, rfl, by decide, hdrops _, htry, rfl, rfl, ?_⟩
  intro count
  refine flooded_self run rfl g fun arrival harrival => ?_
  obtain rfl := List.eq_of_mem_replicate harrival
  exact ⟨hdrops _, List.cons_ne_nil _ _⟩

end Session

end Resolver
