import Resolver.Proofs.Session.Errand
import Resolver.Session.Resolution

/-!
# Sessions that are driven to their end

Main statement: when a session that was started is driven to its reply, the reply came in over its
socket and answers its query, however often it was waited for and whatever the clock showed
(`answers_of_resolve`).
-/

namespace Resolver

/-- A reply is no longer than a message can be. -/
theorem Flight.Delivers.length_lt {f : Flight} {q : Query} {id : UInt16} {p : Bytes}
    (h : f.Delivers q id p) : p.length < 65536 := by
  unfold Delivers at h
  split at h
  · obtain ⟨-, -, -, hlength⟩ := h
    omega
  · exact h.2.2.2

namespace Session

open Dialogue

variable {q : Query} {flight : Option Flight} {s s' : Session} {g g' : Generator} {p : Bytes}
  {exchanges : List Exchange} {longest : Duration}

/-- The reply that a session holds is one that came in over its socket and answers its query. -/
theorem Tracks.delivers (h : s.Tracks q flight) (hreply : s.reply? = some p) :
    ∃ f : Flight, ∃ id, f.Delivers q id p ∧ Answers p id q := by
  unfold Tracks at h
  unfold reply? at hreply
  split at hreply
  · rename_i reply hstage
    subst hreply
    rw [hstage] at h
    obtain ⟨f, id, -, hdelivers, hanswers⟩ := h
    exact ⟨f, id, hdelivers, hanswers⟩
  · contradiction

theorem answers_of_resolveWithin {waits : Nat} (hname : Name.IsName q.name)
    (htracks : s.Tracks q flight)
    (h : Course (s.resolveWithin longest g waits) exchanges (.reply p, s', g')) :
    ∃ f : Flight, ∃ id, f.Delivers q id p ∧ Answers p id q := by
  induction waits generalizing s g flight exchanges with
  | zero =>
    rw [resolveWithin] at h
    exact nomatch (course_triple_iff.1 h).2.1
  | succ waits ih =>
    rw [resolveWithin] at h
    obtain ⟨before, afterClock, rfl, hwait⟩ := course_call_iff.1 h
    split at hwait
    · exact nomatch (course_triple_iff.1 hwait).2.1
    · obtain ⟨readiness, waited, afterWait, rfl, -, hready⟩ := course_seq_iff.1 hwait
      split at hready
      · exact nomatch (course_triple_iff.1 hready).2.1
      · obtain ⟨now, afterClock, rfl, hturn⟩ := course_call_iff.1 hready
        obtain ⟨⟨result, s₁, g₁⟩, looks, rest, rfl, hget, hrest⟩ := course_seq_iff.1 hturn
        obtain ⟨hgot, -⟩ := sound_of_get hname htracks hget
        dsimp only at hrest
        split at hrest
        · exact nomatch (course_triple_iff.1 hrest).2.1
        · exact ih hgot hrest
        · split at hrest
          · rename_i packet hreply
            obtain ⟨-, hpacket, -⟩ := course_triple_iff.1 hrest
            obtain rfl := Outcome.reply.inj hpacket
            exact hgot.delivers hreply
          · exact nomatch (course_triple_iff.1 hrest).2.1

/-- When a session is driven to its reply, the reply came in over its socket and answers its query. -/
theorem answers_of_resolve {waits : Nat} (hname : Name.IsName q.name) (htracks : s.Tracks q flight)
    (h : Course (s.resolve g waits) exchanges (.reply p, s', g')) :
    ∃ f : Flight, ∃ id, f.Delivers q id p ∧ Answers p id q :=
  answers_of_resolveWithin hname htracks h

/-- A session whose socket is ready at once, and that then has its reply, is driven to it. -/
theorem exists_resolve {attempt : Attempt} {wire : Wire} {before cap now : Instant}
    {looks : List Exchange} (waits : Nat) (hstage : s.stage = .waiting attempt wire)
    (hcap : before.add? longestWait = some cap)
    (hget : Course (s.get true now g) looks (.ok .done, s', g')) (hreply : s'.reply? = some p) :
    ∃ exchanges, Course (s.resolve g (waits + 1)) exchanges (.reply p, s', g') := by
  have hawait : ∃ awaits, Course (s.await cap) awaits (.ok true) := by
    unfold await wanted
    rw [hstage]
    exact ⟨_, course_call_iff.2 ⟨.ok true, [], rfl, .done _⟩⟩
  obtain ⟨awaits, hawait⟩ := hawait
  unfold resolve
  rw [resolveWithin]
  refine ⟨⟨.now, before⟩ :: (awaits ++ ⟨.now, now⟩ :: (looks ++ [])), ?_⟩
  refine course_call_iff.2 ⟨before, _, rfl, ?_⟩
  rw [hcap]
  refine course_seq_iff.2 ⟨.ok true, awaits, _, rfl, hawait, ?_⟩
  refine course_call_iff.2 ⟨now, _, rfl, ?_⟩
  refine course_seq_iff.2 ⟨(.ok .done, s', g'), looks, [], rfl, hget, ?_⟩
  dsimp only
  rw [hreply]
  exact .done _

/-- A session that waits for a datagram is driven to the packet in the one that comes, if it accepts
it. -/
theorem exists_resolve_datagram {attempt : Attempt} {socket : Socket} {before cap : Instant}
    (waits : Nat) (hstage : s.stage = .waiting attempt (.awaitingDatagram socket))
    (hcap : before.add? longestWait = some cap)
    (reply : { bytes : Bytes // bytes.length ≤ maxReply + 1 }) (hcontent : reply.val ≠ [])
    (hjudge : judgeDatagram attempt s.round (.awaitingDatagram socket) reply.val = .accept p) :
    ∃ exchanges s', Course (s.resolve g (waits + 1)) exchanges (.reply p, s', g) := by
  have hget : Course (s.get true before g) [⟨.receive socket (maxReply + 1), .moved reply⟩]
      (.ok .done, { s with stage := .idle (some p) }, g) := by
    refine course_get_datagram hstage reply hcontent ?_
    rw [hjudge]
    exact .done _
  obtain ⟨exchanges, hresolve⟩ := exists_resolve waits hstage hcap hget rfl
  exact ⟨exchanges, _, hresolve⟩

/-- The first server answers the query for the name `a` that was sent to it. -/
theorem exists_answered_hasty {servers : Servers} {recursive : Bool} {target : Servers.Target}
    {rest : List Servers.Target} (waits : Nat)
    (hschedule : servers.schedule (firstRound recursive) 0 = target :: rest)
    (reply : { bytes : Bytes // bytes.length ≤ maxReply + 1 }) (hcontent : reply.val ≠ [])
    (hjudge : judgeDatagram ⟨⟨[1, 97, 0], 1, recursive⟩, servers, 4660⟩ target.round
      (.awaitingDatagram 3) reply.val = .accept p) :
    ∃ opening talk s s' g, Course ((new hasty).start servers recursive [1, 97, 0] 1
        { Generator.ofSeed [] with pending := [4660] }) opening (.ok (), s, g) ∧
      Course (s.resolve g (waits + 1)) talk (.reply p, s', g) := by
  obtain ⟨opening, g, hstart⟩ := exists_start_hasty hschedule
  have hcap : (⟨0⟩ : Instant).add? longestWait = some ⟨120000000000⟩ := by decide
  rw [← errandQuery_hasty] at hjudge
  let s : Session := ⟨hasty, target.round, target.slot, ⟨0⟩,
    .waiting ⟨errandQuery recursive [1, 97, 0] 1, servers, 4660⟩ (.awaitingDatagram 3)⟩
  obtain ⟨talk, s', hresolve⟩ : ∃ talk s', Course (s.resolve g (waits + 1)) talk (.reply p, s', g) :=
    exists_resolve_datagram waits rfl hcap reply hcontent hjudge
  exact ⟨opening, talk, s, s', g, hstart, hresolve⟩

end Session

end Resolver
