import Resolver.Proofs.Session.Attempts
import Resolver.Proofs.Session.Errand
import Resolver.Proofs.Session.Schedule

/-!
# Sessions that wait

A session that is pending waits for an attempt, and the first thing it asks the system when it goes
on tells whether it was told that its socket is ready.

Main statements: a session that was started or went on, and is pending, waits (`waits_of_start`,
`waits_of_get`), and a session that waits does different things when its socket is ready and when
it is not (`get_ready_ne`).
-/

namespace Resolver

/-! ## How dialogues begin -/

namespace Dialogue

variable {α β : Type}

/-- The question a dialogue begins with. -/
def first? : Dialogue α → Option Call
  | .done _ => none
  | .ask c _ => some c

theorem first?_map (d : Dialogue α) (f : α → β) :
    (d.bind fun a => .done (f a)).first? = d.first? := by
  cases d <;> rfl

theorem first?_bind {d : Dialogue α} {c : Call} (h : d.first? = some c) (f : α → Dialogue β) :
    (d.bind f).first? = some c := by
  cases d with
  | done => exact nomatch h
  | ask => exact h

end Dialogue

namespace Session

open Dialogue

variable {query : Query} {servers : Servers} {recursive : Bool} {name : Bytes} {qtype : UInt16}
  {s s' : Session} {g g' : Generator} {targets : List Servers.Target} {attempt : Attempt}
  {wire : Wire} {exchanges : List Exchange} {now : Instant}

/-- A socket that is looked at is one that was opened before. -/
theorem first?_stepWire (policy : Policy) (attempt : Attempt) (round : Nat) (wire : Wire) :
    ∃ c, (stepWire policy attempt round wire).first? = some c ∧
      ∀ transport, c ≠ .openSocket transport := by
  cases wire <;> exact ⟨_, rfl, nofun⟩

/-- The next attempt begins with a new socket. -/
theorem first?_tryUdp {c : Call} (h : (s.tryUdp query servers targets g).first? = some c) :
    c = .openSocket .udp := by
  cases targets with
  | nil => exact nomatch h
  | cons => exact (Option.some.inj h).symm

theorem first?_tryTcp {c : Call} (h : (s.tryTcp query servers targets g).first? = some c) :
    c = .openSocket .tcp := by
  cases targets with
  | nil => exact nomatch h
  | cons => exact (Option.some.inj h).symm

/-- A session that is told its socket is not ready does not look at it. -/
theorem first?_get_false {c : Call} (hstage : s.stage = .waiting attempt wire)
    (h : (s.get false now g).first? = some c) : ∃ transport, c = .openSocket transport := by
  rw [get_false_eq hstage] at h
  split at h
  · exact nomatch h
  · split at h
    · exact ⟨.udp, first?_tryUdp h⟩
    · exact ⟨.tcp, first?_tryTcp h⟩

/-- Whether its socket is ready makes a difference to a session that waits. -/
theorem get_ready_ne {β : Type} (hstage : s.stage = .waiting attempt wire) (now : Instant)
    (g : Generator) (f f' : Turn → β) :
    ((s.get true now g).bind fun turn => .done (f turn)) ≠
      (s.get false now g).bind fun turn => .done (f' turn) := by
  -- the questions differ already: one side looks at the socket, the other can only open a new one
  intro heq
  obtain ⟨c, hfirst, hopened⟩ := first?_stepWire s.policy attempt s.round wire
  have hready : (s.get true now g).first? = some c := by
    rw [get_waiting hstage]
    exact first?_bind hfirst _
  have hsame : (s.get false now g).first? = some c := by
    rw [← first?_map _ f', ← heq, first?_map, hready]
  obtain ⟨transport, rfl⟩ := first?_get_false hstage hsame
  exact hopened transport rfl

/-! ## Sessions that wait -/

/-- A session waits for an attempt. -/
def Waits (s : Session) : Prop :=
  ∃ attempt wire, s.stage = .waiting attempt wire

/-- When targets were tried and the session is pending, it waits for one of them. -/
theorem waits_of_settles {transport : Transport} {tried rest : List Servers.Target}
    (h : Settles transport query servers tried rest (.ok .pending) s) : s.Waits := by
  cases h with
  | waits _ _ _ hstage => exact ⟨_, _, hstage⟩

/-- A session that was started waits for an attempt. -/
theorem waits_of_start
    (h : Course (s.start servers recursive name qtype g) exchanges (.ok (), s', g')) :
    s'.Waits := by
  cases hlength : Name.length? name with
  | none =>
    unfold start at h
    rw [hlength] at h
    exact nomatch (Prod.mk.inj (course_pure_iff.1 h).2).1
  | some length =>
    rw [start_eq hlength] at h
    obtain ⟨⟨turn, s₁, g₁⟩, first, last, rfl, hfirst, hlast⟩ := course_seq_iff.1 h
    obtain ⟨hturn, hrest⟩ := Prod.mk.inj (course_pure_iff.1 hlast).2
    obtain ⟨rfl, -⟩ := Prod.mk.inj hrest
    obtain ⟨tried, rest, -, -, hsettles⟩ := settles_of_tryUdp (j := Journal.blank) hfirst
    cases hsettles with
    | waits _ _ _ hstage => exact ⟨_, _, hstage⟩
    | gaveUp => exact nomatch hturn

/-- A session that went on and is pending waits for an attempt. -/
theorem waits_of_get {ready : Bool}
    (h : Course (s.get ready now g) exchanges (.ok .pending, s', g')) : s'.Waits := by
  unfold get at h
  split at h
  · exact nomatch (Prod.mk.inj (course_pure_iff.1 h).2).1
  · exact nomatch (Prod.mk.inj (course_pure_iff.1 h).2).1
  · rename_i attempt wire hstage
    obtain ⟨move, moves, last, rfl, -, hfollow⟩ := course_seq_iff.1 h
    cases move with
    | stay wire =>
      obtain ⟨-, -, rfl, -⟩ := course_triple_iff.1 hfollow
      exact ⟨_, _, rfl⟩
    | stayUntil deadline wire =>
      obtain ⟨-, -, rfl, -⟩ := course_triple_iff.1 hfollow
      exact ⟨_, _, rfl⟩
    | nextUdp =>
      obtain ⟨_, _, -, -, hsettles⟩ := settles_of_tryUdp (j := Journal.blank) hfollow
      exact waits_of_settles hsettles
    | firstTcp | nextTcp =>
      obtain ⟨_, _, -, -, hsettles⟩ := settles_of_tryTcp (j := Journal.blank)
        (fun _ => Servers.round_of_mem_targetsFrom) hfollow
      exact waits_of_settles hsettles
    | accept reply => exact nomatch (course_triple_iff.1 hfollow).2.1
    | overflow => exact nomatch (course_triple_iff.1 hfollow).2.1

end Session

end Resolver
