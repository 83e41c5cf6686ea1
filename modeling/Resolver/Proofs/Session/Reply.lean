import Resolver.Proofs.Packet
import Resolver.Proofs.Session.Flight

/-!
# Replies

What a message must be for a session to take it as its reply, read off its bytes and off what passed
over the socket it came in on.

Main statement: the messages that pass the checks of a session are those that answer its query
(`answers_of_checks`, `checks_of_answers`).
-/

namespace Resolver

/-- A message answers a query that was sent with the given id: it has a whole header with this id,
one question, which asks for the same name in any letter case, for the same type and for the
Internet class, it is not cut off, and it reports no failure. -/
structure Answers (p : Bytes) (id : UInt16) (q : Query) : Prop where
  header : 12 ≤ p.length
  id_eq : p.take 2 = wordBytes id
  count_eq : (p.drop 4).take 2 = [0, 1]
  question : ∃ name stop, Packet.nameAt? p 12 = some (name, stop) ∧
    lowerBytes name = lowerBytes q.name ∧
    (p.drop stop).take 4 = wordBytes q.qtype ++ wordBytes 1
  notCut : ∃ flags, p[2]? = some flags ∧ flags &&& 2 = 0
  succeeded : ∃ flags, p[3]? = some flags ∧ (flags.toNat % 16 = 0 ∨ flags.toNat % 16 = 3)

/-- A query went out over a socket with the given id, and a message came in on it since: as the last
datagram, which was not cut off since there was space for more, or behind its length as all that was
received. -/
def Flight.Delivers (f : Flight) (q : Query) (id : UInt16) (p : Bytes) : Prop :=
  match f.transport with
  | .udp => f.sent = [q.message id] ∧
    (∃ space, f.received.getLast? = some (space, p) ∧ p.length < space) ∧
    1 ≤ p.length ∧ p.length ≤ 4096
  | .tcp => f.sent.flatten = q.framed id ∧
    f.received.flatMap Prod.snd = toBigEndian 2 p.length ++ p ∧
    1 ≤ p.length ∧ p.length < 65536

namespace Packet

theorem notCut_of_wantsTcp {p : Bytes} (h : wantsTcp p = false) :
    ∃ flags, p[2]? = some flags ∧ flags &&& 2 = 0 := by
  unfold wantsTcp at h
  split at h
  · contradiction
  · split at h
    · rename_i flags hflags
      exact ⟨flags, hflags, by simpa using h⟩
    · contradiction

theorem succeeded_of_serverFailed {p : Bytes} (h : serverFailed p = false) :
    ∃ flags, p[3]? = some flags ∧ (flags.toNat % 16 = 0 ∨ flags.toNat % 16 = 3) := by
  unfold serverFailed at h
  split at h
  · contradiction
  · split at h
    · rename_i hcode
      obtain ⟨flags, hflags, hzero⟩ := Option.map_eq_some_iff.1 hcode
      exact ⟨flags, hflags, .inl hzero⟩
    · rename_i hcode
      obtain ⟨flags, hflags, hthree⟩ := Option.map_eq_some_iff.1 hcode
      exact ⟨flags, hflags, .inr hthree⟩
    · contradiction

theorem wantsTcp_of_notCut {p : Bytes} {flags : UInt8} (hheader : headerLength ≤ p.length)
    (hflags : p[2]? = some flags) (hclear : flags &&& 2 = 0) : wantsTcp p = false := by
  unfold wantsTcp
  rw [if_neg (Nat.not_lt.2 hheader), hflags]
  simp [hclear]

theorem serverFailed_of_succeeded {p : Bytes} {flags : UInt8} (hheader : headerLength ≤ p.length)
    (hflags : p[3]? = some flags) (hcode : flags.toNat % 16 = 0 ∨ flags.toNat % 16 = 3) :
    serverFailed p = false := by
  unfold serverFailed responseCode?
  rw [if_neg (Nat.not_lt.2 hheader), hflags, Option.map_some]
  rcases hcode with hzero | hthree
  · rw [hzero]
    rfl
  · rw [hthree]
    rfl

end Packet

namespace Attempt

/-- What it takes for a message to carry the id and the question of an attempt. -/
theorem of_isAnsweredBy {a : Attempt} {p : Bytes} (h : a.isAnsweredBy p = true) :
    ∃ q, Packet.question? p = some q ∧ q.id = a.id ∧ Name.equal q.name a.query.name = true ∧
      q.qtype = a.query.qtype ∧ q.qclass = 1 := by
  unfold isAnsweredBy at h
  split at h
  · rename_i q hq
    rw [Bool.and_eq_true, Bool.and_eq_true, Bool.and_eq_true, beq_iff_eq, beq_iff_eq,
      beq_iff_eq] at h
    obtain ⟨⟨⟨hid, hname⟩, hqtype⟩, hqclass⟩ := h
    exact ⟨q, hq, hid, hname, hqtype, hqclass⟩
  · contradiction

/-- A message that passes the checks of a session answers its query. -/
theorem answers_of_checks {a : Attempt} {p : Bytes} (hname : Name.IsName a.query.name)
    (hanswered : a.isAnsweredBy p = true) (hwhole : Packet.wantsTcp p = false)
    (hfailed : Packet.serverFailed p = false) : Answers p a.id a.query := by
  obtain ⟨q, hq, hid, hequal, hqtype, hqclass⟩ := of_isAnsweredBy hanswered
  obtain ⟨hheader, hidBytes, hcount, hisName, stop, hnameAt, hbehind⟩ := Packet.of_question? hq
  rw [hid] at hidBytes
  rw [hqtype, hqclass] at hbehind
  exact {
    header := hheader
    id_eq := hidBytes
    count_eq := hcount
    question := ⟨q.name, stop, hnameAt, (Name.equal_iff hisName hname).1 hequal, hbehind⟩
    notCut := Packet.notCut_of_wantsTcp hwhole
    succeeded := Packet.succeeded_of_serverFailed hfailed }

/-- A message that answers the query of a session passes the session's checks. -/
theorem checks_of_answers {a : Attempt} {p : Bytes} (hname : Name.IsName a.query.name)
    (h : Answers p a.id a.query) :
    a.isAnsweredBy p = true ∧ Packet.wantsTcp p = false ∧ Packet.serverFailed p = false := by
  obtain ⟨name, stop, hnameAt, hfolded, hbehind⟩ := h.question
  obtain ⟨flags, hflags, hclear⟩ := h.notCut
  obtain ⟨code, hcode, hrange⟩ := h.succeeded
  refine ⟨?_, Packet.wantsTcp_of_notCut h.header hflags hclear,
    Packet.serverFailed_of_succeeded h.header hcode hrange⟩
  have hquestion := Packet.question?_eq_some h.header h.id_eq h.count_eq hnameAt hbehind
  have hisName : Name.IsName name := (Packet.of_question? hquestion).2.2.2.1
  unfold isAnsweredBy
  rw [hquestion]
  simp [(Name.equal_iff hisName hname).2 hfolded, Packet.classInternet]

end Attempt

end Resolver
