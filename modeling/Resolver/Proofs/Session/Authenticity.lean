import Resolver.Proofs.Session.Tracking

/-!
# Replies are what came in

A run starts a query and lets the session go on as often as its caller likes, whatever the sockets
and clocks answer.

Main statements: new attempts establish the invariant (`tracks_of_tryUdp`, `tracks_of_tryTcp`),
every step of a session preserves it (`tracks_of_get`), and so a reply that a run ends with is one
message that came in over the socket of its last attempt, and answers the query as this attempt sent
it (`get_done_delivers`).
-/

namespace Resolver.Session

open Dialogue

variable {q : Query} {flight : Option Flight} {s s' : Session} {g g' : Generator}
  {exchanges : List Exchange} {result : Except Failure Progress}

/-- The invariant after a step, and that there is a reply if the session says it is done. -/
def Sound (q : Query) (flight : Option Flight) (result : Except Failure Progress)
    (s : Session) : Prop :=
  s.Tracks q flight ∧ (result = .ok .done → ∃ p, s.reply? = some p)

/-- A session that gives up keeps nothing. -/
theorem sound_free (q : Query) (flight : Option Flight) (failure : Failure) (s : Session) :
    Sound q flight (.error failure) s.free :=
  ⟨trivial, fun h => nomatch h⟩

/-- A session that goes on waiting keeps its attempt. -/
theorem sound_waiting {attempt : Attempt} {wire : Wire} {f : Flight}
    (hstage : s.stage = .waiting attempt wire) (hquery : attempt.query = q)
    (hflight : flight = some f) (hshows : attempt.Shows f wire) :
    Sound q flight (.ok .pending) s := by
  refine ⟨?_, fun h => nomatch h⟩
  unfold Tracks
  rw [hstage]
  exact ⟨hquery, f, hflight, hshows⟩

/-! ## New attempts -/

/-- An attempt that was made with a datagram is the one that its socket shows. -/
theorem sound_of_tryUdp {servers : Servers} {targets : List Servers.Target}
    (h : Course (s.tryUdp q servers targets g) exchanges (result, s', g')) :
    Sound q (Flight.observer.after flight exchanges) result s' := by
  -- a server that takes no datagram is passed over, whatever its socket has shown
  induction targets generalizing s g exchanges flight with
  | nil =>
    obtain ⟨rfl, rfl, rfl, rfl⟩ := course_triple_iff.1 h
    exact sound_free q _ .exhausted _
  | cons target targets ih =>
    unfold tryUdp at h
    dsimp only at h
    generalize g.id = drawn at h
    obtain ⟨id, g₁⟩ := drawn
    obtain ⟨⟨opened, g₂⟩, opens, rest, rfl, hopen, hrest⟩ := course_seq_iff.1 h
    cases opened with
    | error cause =>
      obtain ⟨rfl, rfl, rfl, rfl⟩ := course_triple_iff.1 hrest
      exact sound_free q _ (.socket cause) _
    | ok socket =>
      obtain ⟨sent, sends, last, rfl, hsend, hlast⟩ := course_seq_iff.1 hrest
      cases sent with
      | false =>
        rw [Observer.after_append, Observer.after_append]
        exact ih hlast
      | true =>
        have hsent := Flight.after_of_sendDatagram (f := ⟨.udp, socket, [], []⟩) hsend
        rw [Observer.after_append, Flight.after_of_openLocal hopen, Observer.after_append, hsent]
        obtain ⟨now, clocks, rfl, hclock⟩ := course_call_iff.1 hlast
        split at hclock <;> obtain ⟨rfl, rfl, rfl, rfl⟩ := course_triple_iff.1 hclock
        · exact sound_free q _ .clockOverflow _
        · exact sound_waiting rfl rfl rfl ⟨rfl, rfl, rfl⟩

/-- An attempt that was made over a stream is the one that its socket shows. -/
theorem sound_of_tryTcp {servers : Servers} {targets : List Servers.Target}
    (h : Course (s.tryTcp q servers targets g) exchanges (result, s', g')) :
    Sound q (Flight.observer.after flight exchanges) result s' := by
  -- a server that takes no connection is passed over in the same way
  induction targets generalizing s g exchanges flight with
  | nil =>
    obtain ⟨rfl, rfl, rfl, rfl⟩ := course_triple_iff.1 h
    exact sound_free q _ .exhausted _
  | cons target targets ih =>
    unfold tryTcp at h
    dsimp only at h
    generalize g.id = drawn at h
    obtain ⟨id, g₁⟩ := drawn
    obtain ⟨⟨opened, g₂⟩, opens, rest, rfl, hopen, hrest⟩ := course_seq_iff.1 h
    cases opened with
    | error cause =>
      obtain ⟨rfl, rfl, rfl, rfl⟩ := course_triple_iff.1 hrest
      exact sound_free q _ (.socket cause) _
    | ok socket =>
      rw [Observer.after_append, Flight.after_of_openLocal hopen]
      obtain ⟨now, clocks, rfl, hclock⟩ := course_call_iff.1 hrest
      split at hclock
      · obtain ⟨rfl, rfl, rfl, rfl⟩ := course_triple_iff.1 hclock
        exact sound_free q _ .clockOverflow _
      · obtain ⟨connection, connects, rfl, hconnect⟩ := course_call_iff.1 hclock
        cases connection with
        | connected =>
          obtain ⟨rfl, rfl, rfl, rfl⟩ := course_triple_iff.1 hconnect
          exact sound_waiting rfl rfl rfl ⟨rfl, rfl, rfl, rfl⟩
        | inProgress =>
          obtain ⟨rfl, rfl, rfl, rfl⟩ := course_triple_iff.1 hconnect
          exact sound_waiting rfl rfl rfl ⟨rfl, rfl, rfl, rfl⟩
        | failed cause =>
          rw [Observer.after_cons, Observer.after_cons]
          exact ih hconnect

/-- What a session does to its attempt leaves it with what its socket shows. -/
theorem sound_of_follow {attempt : Attempt} {move : Move} (hmove : attempt.Supports flight move)
    (h : Course (s.follow attempt g move) exchanges (result, s', g')) :
    Sound attempt.query (Flight.observer.after flight exchanges) result s' := by
  unfold follow at h
  cases move with
  | stay wire =>
    obtain ⟨f, hflight, hshows⟩ := hmove
    obtain ⟨rfl, rfl, rfl, rfl⟩ := course_triple_iff.1 h
    exact sound_waiting rfl rfl hflight hshows
  | stayUntil deadline wire =>
    obtain ⟨f, hflight, hshows⟩ := hmove
    obtain ⟨rfl, rfl, rfl, rfl⟩ := course_triple_iff.1 h
    exact sound_waiting rfl rfl hflight hshows
  | nextUdp => exact sound_of_tryUdp h
  | firstTcp => exact sound_of_tryTcp h
  | nextTcp => exact sound_of_tryTcp h
  | accept p =>
    obtain ⟨f, hflight, hdelivers, hanswers⟩ := hmove
    obtain ⟨rfl, rfl, rfl, rfl⟩ := course_triple_iff.1 h
    exact ⟨⟨f, attempt.id, hflight, hdelivers, hanswers⟩, fun _ => ⟨p, rfl⟩⟩
  | overflow =>
    obtain ⟨rfl, rfl, rfl, rfl⟩ := course_triple_iff.1 h
    exact sound_free _ _ .clockOverflow _

/-- Whether its socket is looked at or only the clock, what becomes of an attempt is borne out by what
passed over the socket. -/
theorem supports_of_nextMove {attempt : Attempt} {wire : Wire} {f : Flight} {ready : Bool}
    {now : Instant} {move : Move} (hname : Name.IsName attempt.query.name)
    (hshows : attempt.Shows f wire)
    (h : Course (s.nextMove attempt wire ready now) exchanges move) :
    attempt.Supports (Flight.observer.after (some f) exchanges) move := by
  unfold nextMove at h
  split at h
  · exact Attempt.supports_of_stepWire hname hshows h
  · split at h
    · obtain ⟨rfl, rfl⟩ := course_pure_iff.1 h
      exact ⟨f, rfl, hshows⟩
    · split at h <;> obtain ⟨rfl, rfl⟩ := course_pure_iff.1 h <;> trivial

/-- Every step of a session preserves the invariant. -/
theorem sound_of_get {ready : Bool} {now : Instant} (hname : Name.IsName q.name)
    (htracks : s.Tracks q flight) (h : Course (s.get ready now g) exchanges (result, s', g')) :
    Sound q (Flight.observer.after flight exchanges) result s' := by
  unfold get at h
  unfold Tracks at htracks
  split at h
  · rename_i p hstage
    obtain ⟨rfl, rfl, rfl, rfl⟩ := course_triple_iff.1 h
    refine ⟨?_, fun _ => ⟨p, by unfold reply?; rw [hstage]⟩⟩
    unfold Tracks
    rw [hstage] at htracks ⊢
    exact htracks
  · rename_i hstage
    obtain ⟨rfl, rfl, rfl, rfl⟩ := course_triple_iff.1 h
    refine ⟨?_, fun h => nomatch h⟩
    unfold Tracks
    rw [hstage]
    trivial
  · rename_i attempt wire hstage
    rw [hstage] at htracks
    obtain ⟨rfl, f, rfl, hshows⟩ := htracks
    obtain ⟨move, moves, rest, rfl, hmove, hfollow⟩ := course_seq_iff.1 h
    rw [Observer.after_append]
    exact sound_of_follow (supports_of_nextMove hname hshows hmove) hfollow

/-! ## Runs -/

/-- A first attempt whose result is only reported on. -/
theorem tracks_of_reported {d : Dialogue Turn} {started : Except Failure Unit}
    (hd : ∀ {turn s₁ g₁ first}, Course d first (turn, s₁, g₁) →
      Sound q (Flight.observer.after flight first) turn s₁)
    (h : Course (d >>= fun (turn, s₁, g₁) => pure (turn.map fun _ => (), s₁, g₁)) exchanges
      (started, s', g')) : s'.Tracks q (Flight.observer.after flight exchanges) := by
  obtain ⟨⟨turn, s₁, g₁⟩, first, last, rfl, hfirst, hlast⟩ := course_seq_iff.1 h
  obtain ⟨rfl, hresult⟩ := course_pure_iff.1 hlast
  obtain ⟨-, hrest⟩ := Prod.mk.inj hresult
  obtain ⟨rfl, rfl⟩ := Prod.mk.inj hrest
  rw [List.append_nil]
  exact (hd hfirst).1

/-- Starting a query establishes the invariant for the name in front of what it was given. -/
theorem tracks_of_start (flight : Option Flight) {servers : Servers} {recursive : Bool}
    {name : Bytes} {qtype : UInt16}
    (h : Course (s.start servers recursive name qtype g) exchanges (.ok (), s', g')) :
    ∃ length, Name.length? name = some length ∧
      s'.Tracks ⟨name.take length, qtype, recursive⟩ (Flight.observer.after flight exchanges) := by
  unfold start at h
  split at h
  · exact nomatch (Prod.mk.inj (course_pure_iff.1 h).2).1
  · rename_i length hlength
    refine ⟨length, hlength, ?_⟩
    dsimp only at h
    split at h
    · exact tracks_of_reported sound_of_tryTcp h
    · exact tracks_of_reported sound_of_tryUdp h

/-- A session goes on, as often as its caller likes and at any readings of the clock. -/
inductive Runs : Session → List Exchange → Session → Prop
  | refl (s : Session) : Runs s [] s
  | step {s s' s'' : Session} {trace exchanges : List Exchange} {ready : Bool} {now : Instant}
      {g g' : Generator} {result : Except Failure Progress} (run : Runs s trace s')
      (h : Course (s'.get ready now g) exchanges (result, s'', g')) :
      Runs s (trace ++ exchanges) s''

/-- A run preserves the invariant. -/
theorem tracks_of_runs {trace : List Exchange} (hname : Name.IsName q.name)
    (htracks : s.Tracks q flight) (hrun : Runs s trace s') :
    s'.Tracks q (Flight.observer.after flight trace) := by
  induction hrun with
  | refl => exact htracks
  | step run h ih =>
    rw [Observer.after_append]
    exact (sound_of_get hname ih h).1

/-- Whatever the network, the clock and the random source do: when a session says it is done with a
query that was started, the reply it holds is one message that came in, whole and unchanged, over the
socket opened last, which the query went out over; and it answers the query with the id that was
sent there. -/
theorem get_done_delivers {s₀ s s' s'' : Session} {servers : Servers} {recursive : Bool}
    {name : Bytes} {qtype : UInt16} {g₀ g₁ g g' : Generator}
    {opening trace exchanges : List Exchange} {ready : Bool} {now : Instant}
    (hstart : Course (s₀.start servers recursive name qtype g₀) opening (.ok (), s, g₁))
    (hrun : Runs s trace s')
    (hget : Course (s'.get ready now g) exchanges (.ok .done, s'', g')) :
    ∃ length f id p, Name.length? name = some length ∧
      Flight.observer.after none (opening ++ (trace ++ exchanges)) = some f ∧ s''.reply? = some p ∧
      f.Delivers ⟨name.take length, qtype, recursive⟩ id p ∧
      Answers p id ⟨name.take length, qtype, recursive⟩ := by
  obtain ⟨length, hlength, hstarted⟩ := tracks_of_start none hstart
  have hname : Name.IsName (name.take length) := (Name.length?_eq_some_iff.1 hlength).2
  have htracks := tracks_of_runs hname hstarted hrun
  obtain ⟨hdone, hreply⟩ := sound_of_get hname htracks hget
  obtain ⟨p, hp⟩ := hreply rfl
  unfold Tracks at hdone
  unfold reply? at hp
  split at hp
  · rename_i hstage
    subst hp
    rw [hstage] at hdone
    obtain ⟨f, id, hflight, hdelivers, hanswers⟩ := hdone
    rw [← Observer.after_append, ← Observer.after_append] at hflight
    exact ⟨length, f, id, p, hlength, hflight, by unfold reply?; rw [hstage], hdelivers, hanswers⟩
  · contradiction

/-- A name that is asked for in one datagram and answered, in capitals, in another. -/
theorem get_done_delivers_datagram :
    ∃ s s'' g₁ g' opening exchanges,
      Course ((new ⟨53, .localhost, #v[0, 0, 0, 0], 0, 0⟩).start (.ofList [.localhost]) true
        [1, 97, 0] 1 { Generator.ofSeed [] with pending := [0x1234] }) opening (.ok (), s, g₁) ∧
      Course (s.get true ⟨0⟩ g₁) exchanges (.ok .done, s'', g') ∧
      ∃ length f id p, Name.length? [1, 97, 0] = some length ∧
        Flight.observer.after none (opening ++ ([] ++ exchanges)) = some f ∧ s''.reply? = some p ∧
        f.Delivers ⟨[1, 97, 0].take length, 1, true⟩ id p ∧
        Answers p id ⟨[1, 97, 0].take length, 1, true⟩ := by
  let attempt : Attempt := ⟨⟨[1, 97, 0], 1, true⟩, .ofList [.localhost], 0x1234⟩
  let s : Session := ⟨⟨53, .localhost, #v[0, 0, 0, 0], 0, 0⟩, 0, 0, ⟨0⟩,
    .waiting attempt (.awaitingDatagram 3)⟩
  let reply : Bytes := [0x12, 0x34, 0x80, 0, 0, 1, 0, 0, 0, 0, 0, 0, 1, 65, 0, 0, 1, 0, 1]
  have hlength : Name.length? [1, 97, 0] = some 3 := by cbv
  have hstart : ∃ g₁ opening, Course ((new s.policy).start (.ofList [.localhost]) true [1, 97, 0] 1
      { Generator.ofSeed [] with pending := [0x1234] }) opening (.ok (), s, g₁) := by
    unfold start
    rw [hlength]
    -- the socket is opened, bound and connected, the query goes out, and the deadline is set
    exact ⟨_, _, .ask (c := .openSocket .udp) (.ok (3 : Socket))
      (.ask (c := .bind 3 .localhost 0) (.ok ())
        (.ask (c := .connect 3 .localhost 53) .connected
          (.ask (c := .send 3 (attempt.query.message attempt.id)) (.moved ⟨_, Nat.le_refl _⟩)
            (.ask (c := .now) ⟨0⟩ (.done _)))))⟩
  obtain ⟨g₁, opening, hstart⟩ := hstart
  have hjudge : judgeDatagram attempt 0 (.awaitingDatagram 3) reply = .accept reply := by cbv
  have hmove : Course (stepDatagram attempt 0 3)
      [⟨.receive 3 4097, .moved ⟨reply, by decide⟩⟩] (.accept reply) :=
    course_call_iff.2 ⟨.moved ⟨reply, by decide⟩, [], rfl, course_pure_iff.2 ⟨rfl, hjudge.symm⟩⟩
  have hget : Course (s.get true ⟨0⟩ g₁) ([⟨.receive 3 4097, .moved ⟨reply, by decide⟩⟩] ++ [])
      (.ok .done, { s with stage := .idle (some reply) }, g₁) :=
    course_seq_iff.2 ⟨_, _, _, rfl, hmove, .done _⟩
  exact ⟨_, _, _, _, _, _, hstart, hget, get_done_delivers hstart (.refl _) hget⟩

end Resolver.Session
