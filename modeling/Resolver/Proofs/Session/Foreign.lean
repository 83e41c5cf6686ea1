import Resolver.Proofs.Session.Errand

/-!
# Foreign datagrams

Anyone can send datagrams to the socket of a session. One that does not carry the id and the
question of the attempt in flight is foreign.

Main statements: a foreign datagram leaves the session as if nothing had arrived exactly if it has
content (`get_foreign_iff`); an empty one, which anyone can send without knowing the id, makes the
session give up the server it waits for (`empty_datagram_skips_server`).
-/

namespace Resolver

/-- A message carries an id and exactly the question of a query: it has a whole header with this id
and one question, which asks for the same name in any letter case, for the same type and for the
Internet class. -/
structure Carries (p : Bytes) (id : UInt16) (q : Query) : Prop where
  header : 12 ≤ p.length
  id_eq : p.take 2 = wordBytes id
  count_eq : (p.drop 4).take 2 = [0, 1]
  question : ∃ name stop, Packet.nameAt? p 12 = some (name, stop) ∧
    lowerBytes name = lowerBytes q.name ∧
    (p.drop stop).take 4 = wordBytes q.qtype ++ wordBytes 1

/-- What a session takes for a reply to its attempt carries the attempt's id and question. -/
theorem Attempt.carries_of_isAnsweredBy {a : Attempt} {p : Bytes}
    (hname : Name.IsName a.query.name) (h : a.isAnsweredBy p = true) :
    Carries p a.id a.query := by
  obtain ⟨q, hq, hid, hequal, hqtype, hqclass⟩ := of_isAnsweredBy h
  obtain ⟨hheader, hidBytes, hcount, hisName, stop, hnameAt, hbehind⟩ := Packet.of_question? hq
  rw [hid] at hidBytes
  rw [hqtype, hqclass] at hbehind
  exact ⟨hheader, hidBytes, hcount, q.name, stop, hnameAt,
    (Name.equal_iff hisName hname).1 hequal, hbehind⟩

/-- What is received of a datagram in the space there is for one: its end is cut off if it is
longer. -/
def arriving (datagram : Bytes) : { bytes : Bytes // bytes.length ≤ maxReply + 1 } :=
  ⟨datagram.take (maxReply + 1), List.length_take_le _ _⟩

namespace Session

open Dialogue

variable {servers : Servers} {recursive : Bool} {name : Bytes} {qtype : UInt16} {s : Session}
  {attempt : Attempt} {wire : Wire} {socket : Socket} {trace : List Exchange}

/-- An attempt that stays as it is leaves the session as it is. -/
theorem follow_stay (h : s.stage = .waiting attempt wire) (g : Generator) :
    s.follow attempt g (.stay wire) = .done (.ok .pending, s, g) := by
  have hsame : ({ s with stage := .waiting attempt wire } : Session) = s := by
    rw [← h]
  unfold follow
  dsimp only
  rw [hsame]
  rfl

/-- Trying further servers ends in vain or begins with a socket. -/
theorem tryUdp_ne_pending {query : Query} {targets : List Servers.Target} {g g' : Generator}
    {s' : Session} : s.tryUdp query servers targets g ≠ .done (.ok .pending, s', g') := by
  cases targets with
  | nil =>
    intro h
    exact nomatch (Prod.mk.inj (Dialogue.done.inj h)).1
  | cons target rest => exact nofun

/-- A datagram with content that is too long for a reply or does not carry the attempt's id and
question is dropped. -/
theorem judgeDatagram_foreign {datagram : Bytes} (round : Nat) (wire : Wire)
    (hname : Name.IsName attempt.query.name)
    (hforeign : ¬ Carries datagram attempt.id attempt.query) :
    judgeDatagram attempt round wire (arriving datagram).val = .stay wire := by
  unfold judgeDatagram
  by_cases hlong : maxReply < (arriving datagram).val.length
  · rw [if_pos hlong]
  · have hwhole : (arriving datagram).val = datagram := by
      unfold arriving at hlong ⊢
      rw [List.length_take] at hlong
      exact List.take_of_length_le (by omega)
    have hunanswered : attempt.isAnsweredBy datagram = false := by
      rw [Bool.eq_false_iff]
      exact fun h => hforeign (Attempt.carries_of_isAnsweredBy hname h)
    rw [if_neg hlong, hwhole, hunanswered]
    rfl

/-- While a session on an errand waits for a datagram, its socket is looked at once. If a foreign
datagram is read there, the session goes on as if nothing had arrived (the same in every part, with
no further question to the system and nothing drawn from the random source) exactly if the datagram
is not empty. -/
theorem get_foreign_iff (run : Errand servers recursive name qtype trace (.ok .pending) s)
    (hstage : s.stage = .waiting attempt (.awaitingDatagram socket)) (now : Instant)
    (g : Generator) {datagram : Bytes}
    (hforeign : ¬ Carries datagram attempt.id attempt.query) :
    ∃ next, s.get true now g = .ask (.receive socket (maxReply + 1)) next ∧
      next .blocked = .done (.ok .pending, s, g) ∧
      (next (.moved (arriving datagram)) = .done (.ok .pending, s, g) ↔ datagram ≠ []) := by
  obtain ⟨hname, htracks⟩ := run.tracks
  unfold Tracks at htracks
  rw [hstage] at htracks
  rw [← htracks.1] at hname
  rw [get_waiting hstage]
  refine ⟨_, rfl, follow_stay hstage g, ?_⟩
  cases datagram with
  | nil => exact iff_of_false tryUdp_ne_pending (fun h => h rfl)
  | cons b bytes =>
    refine iff_of_true ?_ (List.cons_ne_nil b bytes)
    have hjudge := judgeDatagram_foreign s.round (.awaitingDatagram socket) hname hforeign
    show s.follow attempt g
      (judgeDatagram attempt s.round (.awaitingDatagram socket) (arriving (b :: bytes)).val) = _
    rw [hjudge]
    exact follow_stay hstage g

/-- A datagram with the id of the attempt in flight that asks for another name. -/
theorem get_foreign_iff_otherName :
    ∃ s trace g, ∃ attempt : Attempt,
      Errand (.ofList [.localhost]) true [1, 97, 0] 1 trace (.ok .pending) s ∧
      s.stage = .waiting attempt (.awaitingDatagram 3) ∧
      ¬ Carries [0x12, 0x34, 0x80, 0, 0, 1, 0, 0, 0, 0, 0, 0, 1, 98, 0, 0, 1, 0, 1] attempt.id
        attempt.query ∧
      ∃ next, s.get true ⟨0⟩ g = .ask (.receive 3 (maxReply + 1)) next ∧
        next .blocked = .done (.ok .pending, s, g) ∧
        (next (.moved (arriving [0x12, 0x34, 0x80, 0, 0, 1, 0, 0, 0, 0, 0, 0, 1, 98, 0, 0, 1, 0, 1]))
          = .done (.ok .pending, s, g) ↔
          [0x12, 0x34, 0x80, 0, 0, 1, 0, 0, 0, 0, 0, 0, 1, 98, 0, 0, 1, 0, (1 : UInt8)] ≠ []) := by
  have hlength : Name.length? [1, 97, 0] = some 3 := by cbv
  let servers : Servers := .ofList [.localhost]
  let s : Session := ⟨⟨53, .localhost, #v[0, 0, 0, 0], 0, 0⟩, 0, 0, ⟨0⟩,
    .waiting ⟨errandQuery true [1, 97, 0] 1, servers, 0x1234⟩ (.awaitingDatagram 3)⟩
  have hschedule : servers.schedule (firstRound true) 0 =
      ⟨0, 0, .localhost⟩ :: servers.schedule 1 0 := by decide
  obtain ⟨trace, g, hstart⟩ : ∃ trace g, Course ((new s.policy).start servers true [1, 97, 0] 1
      { Generator.ofSeed [] with pending := [0x1234] }) trace (.ok (), s, g) :=
    exists_start ⟨0, 0, .localhost⟩ 3 ⟨0⟩ _ hlength hschedule (by cbv)
  have hname : Packet.nameAt? [0x12, 0x34, 0x80, 0, 0, 1, 0, 0, 0, 0, 0, 0, 1, 98, 0, 0, 1, 0, 1]
      12 = some ([1, 98, 0], 15) := by cbv
  have hquery : errandQuery true [1, 97, 0] 1 = ⟨[1, 97, 0], 1, true⟩ := errandQuery_eq hlength
  refine ⟨_, _, g, _, .started hstart, rfl, ?_⟩
  have hforeign : ¬ Carries
      [0x12, 0x34, 0x80, 0, 0, 1, 0, 0, 0, 0, 0, 0, 1, 98, 0, 0, 1, 0, 1] 0x1234
      (errandQuery true [1, 97, 0] 1) := by
    rintro ⟨-, -, -, name, stop, hnameAt, hlower, -⟩
    rw [hname] at hnameAt
    obtain ⟨rfl, -⟩ := Prod.mk.inj (Option.some.inj hnameAt)
    rw [hquery] at hlower
    exact absurd hlower (by decide)
  exact ⟨hforeign, get_foreign_iff (.started hstart) rfl ⟨0⟩ g hforeign⟩

/-- An empty datagram carries no id, and yet the session gives up the server it waits for, before
its time is over, and asks the next one. -/
theorem empty_datagram_skips_server :
    ∃ s s' trace exchanges g g', ∃ attempt : Attempt,
      Errand (.ofList [.localhost, .localhost]) true [1, 97, 0] 1 trace (.ok .pending) s ∧
      s.stage = .waiting attempt (.awaitingDatagram 3) ∧
      (⟨0⟩ : Instant).before s.deadline = true ∧
      ¬ Carries [] attempt.id attempt.query ∧
      Course (s.get true ⟨0⟩ g)
        (⟨.receive 3 (maxReply + 1), .moved (arriving [])⟩ :: exchanges) (.ok .pending, s', g') ∧
      s.slot = 0 ∧ s'.slot = 1 := by
  let policy : Policy := ⟨53, .localhost, #v[1, 1, 1, 1], 0, 0⟩
  let servers : Servers := .ofList [.localhost, .localhost]
  let q := errandQuery true [1, 97, 0] 1
  let s : Session := ⟨policy, 0, 0, ⟨1⟩, .waiting ⟨q, servers, 0x1234⟩ (.awaitingDatagram 3)⟩
  have hlength : Name.length? [1, 97, 0] = some 3 := by cbv
  have hschedule : servers.schedule (firstRound true) 0 =
      ⟨0, 0, .localhost⟩ :: servers.schedule 0 1 := by decide
  obtain ⟨trace, g, hstart⟩ : ∃ trace g, Course ((new policy).start servers true [1, 97, 0] 1
      { Generator.ofSeed [] with pending := [0x1234] }) trace (.ok (), s, g) :=
    exists_start ⟨0, 0, .localhost⟩ 3 ⟨0⟩ _ hlength hschedule (by cbv)
  have hnext : servers.schedule 0 1 = ⟨0, 1, .localhost⟩ :: servers.schedule 1 0 := by decide
  obtain ⟨exchanges, g', htry⟩ : ∃ exchanges g',
      Course (s.tryUdp q servers (⟨0, 1, .localhost⟩ :: servers.schedule 1 0) g) exchanges
        (.ok .pending, ⟨policy, 0, 1, ⟨1⟩, .waiting ⟨q, servers, g.id.1⟩ (.awaitingDatagram 4)⟩,
          g') :=
    exists_tryUdp s q servers ⟨0, 1, .localhost⟩ _ 4 ⟨0⟩ g (by cbv)
  rw [← hnext] at htry
  have hmove : Course (s.nextMove ⟨q, servers, 0x1234⟩ (.awaitingDatagram 3) true ⟨0⟩)
      [⟨.receive 3 (maxReply + 1), .moved (arriving [])⟩] .nextUdp :=
    course_call_iff.2 ⟨.moved (arriving []), [], rfl, .done _⟩
  have hget : Course (s.get true ⟨0⟩ g)
      (⟨.receive 3 (maxReply + 1), .moved (arriving [])⟩ :: exchanges)
      (.ok .pending, ⟨policy, 0, 1, ⟨1⟩, .waiting ⟨q, servers, g.id.1⟩ (.awaitingDatagram 4)⟩,
        g') := by
    rw [get_waiting (s := s) rfl]
    exact course_seq_iff.2 ⟨_, _, exchanges, rfl, hmove, htry⟩
  exact ⟨s, _, trace, exchanges, g, g', _, .started hstart, rfl, by decide,
    fun h => absurd h.header (by decide), hget, rfl, rfl⟩

end Session

end Resolver
