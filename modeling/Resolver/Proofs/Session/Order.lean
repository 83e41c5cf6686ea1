import Resolver.Proofs.Session.Attempts
import Resolver.Proofs.Session.Foreign
import Resolver.Proofs.Session.Schedule

/-!
# Attempts are made in order

Wherever an errand stands, the attempts it has made are the first of its itinerary and, once a
reply was cut off, streams to the first of the places in use. The invariant `Charted` says so, and
that the cursor of the session is on the last of them; every step that makes attempts continues from
there.

Main statement: this holds of every errand, and one that ends for want of servers has left out none
(`attempts_inOrder`).
-/

namespace Resolver.Session

open Dialogue

/-- The attempts with datagrams, as they show. -/
def datagrams (sent : List Servers.Target) : List (Transport × Ipv4) :=
  sent.map fun target => (.udp, target.ip)

/-- The attempts over streams, as they show. -/
def streams (places : List (Ipv4 × Nat)) : List (Transport × Ipv4) :=
  places.map fun place => (.tcp, place.1)

/-- When these attempts had been made, a datagram was received on the socket of the last of them
that carries the id sent there and the question, and its truncation bit is set. -/
def Redirected (query : Query) (made : List (Transport × Ipv4)) (trace : List Exchange) : Prop :=
  ∃ (before behind : List Exchange) (f : Flight) (id : UInt16) (space : Nat)
    (reply : { bytes : Bytes // bytes.length ≤ space }),
    trace = before ++ ⟨.receive f.socket space, .moved reply⟩ :: behind ∧
    (Journal.observer.after .blank before).made = made ∧
    Flight.observer.after none before = some f ∧ f.transport = .udp ∧ f.sent = [query.message id] ∧
    Carries reply.val id query ∧ ∃ flags, reply.val[2]? = some flags ∧ flags &&& 2 ≠ 0

/-- The cursor of a session is on the attempt made last, by its transport. -/
def AtLast (sent : List Servers.Target) (tried : List (Ipv4 × Nat)) (s : Session) : Bool → Prop
  | true => tried = [] ∧ ∃ target, sent.getLast? = some target ∧
      s.round = target.round ∧ s.slot = target.slot
  | false => ∃ ip, tried.getLast? = some (ip, s.slot)

/-- After what was exchanged, an errand has made its attempts in order: datagrams were sent to the
first targets of its itinerary, and streams were tried at the first places in use, though none
before the errand was redirected; and the session is at the last of these attempts. -/
structure Charted (servers : Servers) (recursive : Bool) (query : Query) (trace : List Exchange)
    (sent : List Servers.Target) (tried : List (Ipv4 × Nat)) (s : Session) : Prop where
  made_eq : (Journal.observer.after .blank trace).made = datagrams sent ++ streams tried
  sent_prefix : sent <+: servers.itinerary (firstRound recursive)
  tried_prefix : tried <+: servers.occupied
  redirected : tried ≠ [] → Redirected query (datagrams sent) trace
  atLast : ∀ attempt wire, s.stage = .waiting attempt wire →
    attempt.query = query ∧ attempt.servers = servers ∧ AtLast sent tried s wire.isDatagram

/-- Nothing is left to try: no stream was tried, but all datagrams of the itinerary, or all streams
were. -/
def Spent (servers : Servers) (recursive : Bool) (sent : List Servers.Target)
    (tried : List (Ipv4 × Nat)) : Prop :=
  sent = servers.itinerary (firstRound recursive) ∧ tried = [] ∨ tried = servers.occupied

/-- A message with a whole header that sends the client to a stream has its truncation bit set. -/
theorem cut_of_wantsTcp {p : Bytes} (hheader : 12 ≤ p.length) (h : Packet.wantsTcp p = true) :
    ∃ flags, p[2]? = some flags ∧ flags &&& 2 ≠ 0 := by
  have hwhole : ¬ p.length < Packet.headerLength := Nat.not_lt.2 hheader
  unfold Packet.wantsTcp at h
  rw [if_neg hwhole] at h
  split at h
  · rename_i flags hflags
    exact ⟨flags, hflags, by simpa using h⟩
  · rename_i hnone
    rw [List.getElem?_eq_none_iff] at hnone
    omega

variable {servers : Servers} {recursive : Bool} {name : Bytes} {qtype : UInt16} {query : Query}
  {trace exchanges : List Exchange} {sent tried : List Servers.Target}
  {rest : List Servers.Target} {places : List (Ipv4 × Nat)} {s s' : Session}
  {result : Except Failure Progress}

theorem Redirected.append {made : List (Transport × Ipv4)} (h : Redirected query made trace)
    (more : List Exchange) : Redirected query made (trace ++ more) := by
  obtain ⟨before, behind, f, id, space, reply, rfl, hreply⟩ := h
  refine ⟨before, behind ++ more, f, id, space, reply, ?_, hreply⟩
  rw [List.append_assoc, List.cons_append]

/-! ## Steps -/

/-- A step without attempts leaves an errand on its course if the session stays at its attempt. -/
theorem Charted.keep (h : Charted servers recursive query trace sent places s)
    (hjournal : ∀ j : Journal, Journal.observer.after j exchanges = j)
    (hstage : ∀ attempt wire', s'.stage = .waiting attempt wire' → s'.round = s.round ∧
      s'.slot = s.slot ∧ ∃ wire, s.stage = .waiting attempt wire ∧
        wire'.isDatagram = wire.isDatagram) :
    Charted servers recursive query (trace ++ exchanges) sent places s' where
  made_eq := by rw [Observer.after_append, hjournal, h.made_eq]
  sent_prefix := h.sent_prefix
  tried_prefix := h.tried_prefix
  redirected hne := (h.redirected hne).append exchanges
  atLast attempt wire' hwaiting := by
    obtain ⟨hround, hslot, wire, hwire, hdatagram⟩ := hstage attempt wire' hwaiting
    obtain ⟨hquery, hservers, hlast⟩ := h.atLast attempt wire hwire
    refine ⟨hquery, hservers, ?_⟩
    rw [hdatagram]
    unfold AtLast at hlast ⊢
    rw [hround, hslot]
    exact hlast

/-- Datagrams sent to the next targets of the itinerary leave an errand on its course. -/
theorem charted_of_udp
    (hmade : (Journal.observer.after .blank trace).made = datagrams sent ++ datagrams tried)
    (hitinerary : servers.itinerary (firstRound recursive) = sent ++ (tried ++ rest))
    (hsettles : Settles .udp query servers tried rest result s') :
    Charted servers recursive query trace (sent ++ tried) [] s' ∧
      (result = .error .exhausted → Spent servers recursive (sent ++ tried) []) := by
  have hcharted : ∀ hlast, Charted servers recursive query trace (sent ++ tried) [] s' :=
      fun hlast => {
    made_eq := by
      rw [hmade]
      simp [datagrams, streams]
    sent_prefix := ⟨rest, by rw [hitinerary, List.append_assoc]⟩
    tried_prefix := List.nil_prefix
    redirected := fun hne => absurd rfl hne
    atLast := hlast }
  cases hsettles with
  | @waits _ attempt wire target hlast hround hslot hstage hquery hservers hwire =>
    refine ⟨hcharted fun attempt' wire' hwaiting => ?_, nofun⟩
    rw [hstage] at hwaiting
    obtain ⟨rfl, rfl⟩ := Stage.waiting.inj hwaiting
    refine ⟨hquery, hservers, ?_⟩
    rw [hwire.2 rfl]
    refine ⟨rfl, target, ?_, hround, hslot⟩
    rw [List.getLast?_append, hlast]
    rfl
  | gaveUp hstage hrest =>
    refine ⟨hcharted fun attempt' wire' hwaiting => ?_, fun hexhausted => ?_⟩
    · exact nomatch hstage.symm.trans hwaiting
    · rw [hrest (Except.error.inj hexhausted), List.append_nil] at hitinerary
      exact .inl ⟨hitinerary.symm, rfl⟩

/-- Streams tried at the next places in use leave a redirected errand on its course. -/
theorem charted_of_tcp {done : List (Ipv4 × Nat)} {round : Nat}
    (hmade : (Journal.observer.after .blank trace).made =
      datagrams sent ++ streams done ++ tried.map fun target => (.tcp, target.ip))
    (hsent : sent <+: servers.itinerary (firstRound recursive))
    (hredirected : Redirected query (datagrams sent) trace)
    (hplaces : servers.occupied = done ++ places)
    (htargets : places.map (Servers.Target.ofPlace round) = tried ++ rest)
    (hsettles : Settles .tcp query servers tried rest result s') :
    ∃ more, Charted servers recursive query trace sent (done ++ more) s' ∧
      (result = .error .exhausted → Spent servers recursive sent (done ++ more)) := by
  obtain ⟨more, left, rfl, rfl, rfl⟩ := List.map_eq_append_iff.1 htargets
  have hcharted : ∀ hlast, Charted servers recursive query trace sent (done ++ more) s' :=
      fun hlast => {
    made_eq := by
      rw [hmade]
      simp [streams, Servers.Target.ofPlace]
    sent_prefix := hsent
    tried_prefix := ⟨left, by rw [hplaces, List.append_assoc]⟩
    redirected := fun _ => hredirected
    atLast := hlast }
  refine ⟨more, ?_⟩
  cases hsettles with
  | @waits _ attempt wire target hlast hround hslot hstage hquery hservers hwire =>
    refine ⟨hcharted fun attempt' wire' hwaiting => ?_, nofun⟩
    rw [hstage] at hwaiting
    obtain ⟨rfl, rfl⟩ := Stage.waiting.inj hwaiting
    refine ⟨hquery, hservers, ?_⟩
    rw [List.getLast?_map, Option.map_eq_some_iff] at hlast
    obtain ⟨place, hplace, rfl⟩ := hlast
    rw [Bool.eq_false_iff.2 fun h => nomatch hwire.1 h]
    refine ⟨place.1, ?_⟩
    rw [List.getLast?_append, hplace, hslot]
    rfl
  | gaveUp hstage hrest =>
    refine ⟨hcharted fun attempt' wire' hwaiting => ?_, fun hexhausted => ?_⟩
    · exact nomatch hstage.symm.trans hwaiting
    · have hleft := List.map_eq_nil_iff.1 (hrest (Except.error.inj hexhausted))
      rw [hleft, List.append_nil] at hplaces
      exact .inr hplaces.symm

/-- A reply that is cut off redirects the errand whose attempt it answers. -/
theorem redirected_of_firstTcp {attempt : Attempt} {wire : Wire} {ready : Bool} {now : Instant}
    (hname : Name.IsName query.name) (htracks : s.Tracks query (Flight.observer.after none trace))
    (hmade : (Journal.observer.after .blank trace).made = datagrams sent)
    (hstage : s.stage = .waiting attempt wire)
    (h : Course (s.nextMove attempt wire ready now) exchanges .firstTcp) :
    Redirected query (datagrams sent) (trace ++ exchanges) := by
  obtain ⟨socket, reply, rfl, rfl, hanswered, hcut⟩ := exists_of_firstTcp h
  unfold Tracks at htracks
  rw [hstage] at htracks
  obtain ⟨rfl, f, hflight, htransport, rfl, hsent⟩ := htracks
  have hcarries := Attempt.carries_of_isAnsweredBy hname hanswered
  refine ⟨trace, [], f, attempt.id, _, reply, rfl, hmade, hflight, htransport, hsent, hcarries, ?_⟩
  exact cut_of_wantsTcp hcarries.header hcut

/-! ## Runs -/

variable {attempt : Attempt} {wire : Wire} {g g' : Generator}

/-- The next datagram goes to the next target of the itinerary. -/
theorem charted_of_nextUdp
    (hcharted : Charted attempt.servers recursive attempt.query trace sent places s)
    (hlast : AtLast sent places s true)
    (h : Course (s.follow attempt g .nextUdp) exchanges (result, s', g')) :
    ∃ sent places, Charted attempt.servers recursive attempt.query (trace ++ exchanges) sent places
      s' ∧ (result = .error .exhausted → Spent attempt.servers recursive sent places) := by
  obtain ⟨rfl, target, htarget, hround, hslot⟩ := hlast
  obtain ⟨left, hitinerary⟩ := hcharted.sent_prefix
  have hleft := Servers.schedule_append
    (Servers.schedule_eq_itinerary.trans hitinerary.symm) htarget
  obtain ⟨tried, rest, htargets, htried, hsettles⟩ :=
    settles_of_tryUdp (j := Journal.observer.after .blank trace) h
  rw [hround, hslot, ← hleft] at htargets
  rw [htargets] at hitinerary
  have hmade : (Journal.observer.after .blank (trace ++ exchanges)).made =
      datagrams sent ++ datagrams tried := by
    rw [Observer.after_append, htried, hcharted.made_eq]
    simp [datagrams, streams]
  exact ⟨_, _, charted_of_udp hmade hitinerary.symm hsettles⟩

/-- The first stream goes to the first place in use. -/
theorem charted_of_firstTcp
    (hcharted : Charted attempt.servers recursive attempt.query trace sent places s)
    (hlast : AtLast sent places s true)
    (hredirected : Redirected attempt.query (datagrams sent) trace)
    (h : Course (s.follow attempt g .firstTcp) exchanges (result, s', g')) :
    ∃ sent places, Charted attempt.servers recursive attempt.query (trace ++ exchanges) sent places
      s' ∧ (result = .error .exhausted → Spent attempt.servers recursive sent places) := by
  obtain ⟨rfl, -⟩ := hlast
  obtain ⟨tried, rest, htargets, htried, hsettles⟩ := settles_of_tryTcp
    (j := Journal.observer.after .blank trace) (fun _ => Servers.round_of_mem_targetsFrom) h
  rw [Servers.targetsFrom_zero] at htargets
  have hmade : (Journal.observer.after .blank (trace ++ exchanges)).made =
      datagrams sent ++ streams [] ++ tried.map fun target => (.tcp, target.ip) := by
    rw [Observer.after_append, htried, hcharted.made_eq]
  obtain ⟨more, hnew⟩ := charted_of_tcp hmade hcharted.sent_prefix (hredirected.append exchanges)
    rfl htargets hsettles
  exact ⟨_, _, hnew⟩

/-- The next stream goes to the next place in use. -/
theorem charted_of_nextTcp
    (hcharted : Charted attempt.servers recursive attempt.query trace sent places s)
    (hlast : AtLast sent places s false)
    (h : Course (s.follow attempt g .nextTcp) exchanges (result, s', g')) :
    ∃ sent places, Charted attempt.servers recursive attempt.query (trace ++ exchanges) sent places
      s' ∧ (result = .error .exhausted → Spent attempt.servers recursive sent places) := by
  obtain ⟨ip, hplace⟩ := hlast
  have hne : places ≠ [] := fun heq => by simp [heq] at hplace
  obtain ⟨left, hplaces⟩ := hcharted.tried_prefix
  -- what is left of the places are the targets behind the cursor
  have hround : attempt.servers.targetsFrom s.round 0 =
      places.map (Servers.Target.ofPlace s.round) ++ left.map (Servers.Target.ofPlace s.round) := by
    rw [Servers.targetsFrom_zero, ← List.map_append, hplaces]
    rfl
  have hcursor : (places.map (Servers.Target.ofPlace s.round)).getLast? =
      some (Servers.Target.ofPlace s.round (ip, s.slot)) := by
    rw [List.getLast?_map, hplace]
    rfl
  obtain ⟨-, hleft⟩ := Servers.targetsFrom_append hround hcursor
  obtain ⟨tried, rest, htargets, htried, hsettles⟩ := settles_of_tryTcp
    (j := Journal.observer.after .blank trace) (fun _ => Servers.round_of_mem_targetsFrom) h
  have hmade : (Journal.observer.after .blank (trace ++ exchanges)).made =
      datagrams sent ++ streams places ++ tried.map fun target => (.tcp, target.ip) := by
    rw [Observer.after_append, htried, hcharted.made_eq]
  obtain ⟨more, hnew⟩ := charted_of_tcp hmade hcharted.sent_prefix
    ((hcharted.redirected hne).append exchanges) hplaces.symm (hleft.trans htargets) hsettles
  exact ⟨_, _, hnew⟩

/-- What becomes of an attempt leaves the errand on its course. -/
theorem charted_of_follow {move : Move}
    (hcharted : Charted attempt.servers recursive attempt.query trace sent places s)
    (hstage : s.stage = .waiting attempt wire) (hsuits : move.Suits wire.isDatagram)
    (hredirected : move = .firstTcp → Redirected attempt.query (datagrams sent) trace)
    (h : Course (s.follow attempt g move) exchanges (result, s', g')) :
    ∃ sent places, Charted attempt.servers recursive attempt.query (trace ++ exchanges) sent places
      s' ∧ (result = .error .exhausted → Spent attempt.servers recursive sent places) := by
  obtain ⟨-, -, hlast⟩ := hcharted.atLast attempt wire hstage
  -- a move without attempts leaves the cursor and the kind of attempt as they are
  have hkeep : (∀ attempt' wire', s'.stage = .waiting attempt' wire' →
      attempt' = attempt ∧ s'.round = s.round ∧ s'.slot = s.slot ∧
        wire'.isDatagram = wire.isDatagram) → exchanges = [] →
      Charted attempt.servers recursive attempt.query (trace ++ exchanges) sent places s' := by
    rintro hsame rfl
    refine hcharted.keep (fun j => rfl) fun attempt' wire' hwaiting => ?_
    obtain ⟨rfl, hround, hslot, hkind⟩ := hsame attempt' wire' hwaiting
    exact ⟨hround, hslot, wire, hstage, hkind⟩
  cases move with
  | stay wire' =>
    obtain ⟨rfl, rfl, rfl, rfl⟩ := course_triple_iff.1 h
    refine ⟨sent, places, hkeep (fun attempt' wire'' hwaiting => ?_) rfl, nofun⟩
    obtain ⟨rfl, rfl⟩ := Stage.waiting.inj hwaiting
    exact ⟨rfl, rfl, rfl, hsuits⟩
  | stayUntil deadline wire' =>
    obtain ⟨rfl, rfl, rfl, rfl⟩ := course_triple_iff.1 h
    refine ⟨sent, places, hkeep (fun attempt' wire'' hwaiting => ?_) rfl, nofun⟩
    obtain ⟨rfl, rfl⟩ := Stage.waiting.inj hwaiting
    exact ⟨rfl, rfl, rfl, hsuits⟩
  | nextUdp =>
    rw [show wire.isDatagram = true from hsuits] at hlast
    exact charted_of_nextUdp hcharted hlast h
  | firstTcp =>
    rw [show wire.isDatagram = true from hsuits] at hlast
    exact charted_of_firstTcp hcharted hlast (hredirected rfl) h
  | nextTcp =>
    rw [show wire.isDatagram = false from hsuits] at hlast
    exact charted_of_nextTcp hcharted hlast h
  | accept reply =>
    obtain ⟨rfl, rfl, rfl, rfl⟩ := course_triple_iff.1 h
    exact ⟨sent, places, hkeep nofun rfl, nofun⟩
  | overflow =>
    obtain ⟨rfl, rfl, rfl, rfl⟩ := course_triple_iff.1 h
    exact ⟨sent, places, hkeep nofun rfl, nofun⟩

/-- A step of a session leaves its errand on its course. -/
theorem charted_of_get {ready : Bool} {now : Instant} (hname : Name.IsName query.name)
    (htracks : s.Tracks query (Flight.observer.after none trace))
    (hcharted : Charted servers recursive query trace sent places s)
    (h : Course (s.get ready now g) exchanges (result, s', g')) :
    ∃ sent places, Charted servers recursive query (trace ++ exchanges) sent places s' ∧
      (result = .error .exhausted → Spent servers recursive sent places) := by
  cases hstage : s.stage with
  | idle reply =>
    have hidle : exchanges = [] ∧ s' = s ∧ result ≠ .error .exhausted := by
      unfold get at h
      rw [hstage] at h
      cases reply <;> obtain ⟨rfl, rfl, rfl, rfl⟩ := course_triple_iff.1 h <;>
        exact ⟨rfl, rfl, nofun⟩
    obtain ⟨rfl, rfl, hresult⟩ := hidle
    rw [List.append_nil]
    exact ⟨sent, places, hcharted, fun heq => absurd heq hresult⟩
  | waiting attempt wire =>
    obtain ⟨rfl, rfl, hlast⟩ := hcharted.atLast attempt wire hstage
    rw [get_waiting hstage] at h
    obtain ⟨move, moves, last, rfl, hmove, hfollow⟩ := course_seq_iff.1 h
    have hlooked : Charted attempt.servers recursive attempt.query (trace ++ moves) sent places s :=
      hcharted.keep (fun j => (suits_of_nextMove hmove).1)
        fun attempt' wire' hwaiting => ⟨rfl, rfl, wire', hwaiting, rfl⟩
    have hsuits : move.Suits wire.isDatagram := (suits_of_nextMove (j := .blank) hmove).2
    have hredirected : move = .firstTcp →
        Redirected attempt.query (datagrams sent) (trace ++ moves) := by
      rintro rfl
      rw [show wire.isDatagram = true from hsuits] at hlast
      have hmade := hcharted.made_eq
      rw [hlast.1] at hmade
      exact redirected_of_firstTcp hname htracks (hmade.trans (List.append_nil _)) hstage hmove
    rw [← List.append_assoc]
    exact charted_of_follow hlooked hstage hsuits hredirected hfollow

/-- An errand that sets out begins its itinerary. -/
theorem charted_of_start {started : Except Failure Unit}
    (h : Course (s.start servers recursive name qtype g) exchanges (started, s', g')) :
    ∃ sent, Charted servers recursive (errandQuery recursive name qtype) exchanges sent [] s' ∧
      (started = .error .exhausted → Spent servers recursive sent []) := by
  cases hlength : Name.length? name with
  | none =>
    unfold start at h
    rw [hlength] at h
    obtain ⟨rfl, hresult⟩ := course_pure_iff.1 h
    obtain ⟨rfl, hrest⟩ := Prod.mk.inj hresult
    obtain ⟨rfl, -⟩ := Prod.mk.inj hrest
    exact ⟨[], ⟨rfl, List.nil_prefix, List.nil_prefix, fun hne => absurd rfl hne, nofun⟩, nofun⟩
  | some length =>
    rw [start_eq hlength] at h
    obtain ⟨⟨turn, s₁, g₁⟩, first, last, rfl, hfirst, hlast⟩ := course_seq_iff.1 h
    obtain ⟨rfl, hresult⟩ := course_pure_iff.1 hlast
    obtain ⟨rfl, hrest⟩ := Prod.mk.inj hresult
    obtain ⟨rfl, -⟩ := Prod.mk.inj hrest
    obtain ⟨tried, rest, htargets, htried, hsettles⟩ :=
      settles_of_tryUdp (j := Journal.blank) hfirst
    rw [List.append_nil]
    have hitinerary : servers.itinerary (firstRound recursive) = [] ++ (tried ++ rest) :=
      Servers.schedule_eq_itinerary.symm.trans htargets
    obtain ⟨hnew, hspent⟩ := charted_of_udp htried hitinerary hsettles
    refine ⟨tried, hnew, fun hexhausted => hspent ?_⟩
    cases turn with
    | ok progress => exact nomatch hexhausted
    | error cause => exact congrArg _ (Except.error.inj hexhausted)

/-- Every errand is on its course. -/
theorem exists_charted (run : Errand servers recursive name qtype trace result s) :
    ∃ sent places,
      Charted servers recursive (errandQuery recursive name qtype) trace sent places s ∧
      (result = .error .exhausted → Spent servers recursive sent places) := by
  induction run with
  | @started s₀ s g g' exchanges started h =>
    obtain ⟨sent, hcharted, hspent⟩ := charted_of_start h
    refine ⟨sent, [], hcharted, fun hexhausted => hspent ?_⟩
    cases started with
    | ok _ => exact nomatch hexhausted
    | error cause => exact congrArg _ (Except.error.inj hexhausted)
  | wentOn run h ih =>
    obtain ⟨sent, places, hcharted, -⟩ := ih
    obtain ⟨hname, htracks⟩ := run.tracks
    exact charted_of_get hname htracks hcharted h

/-- Whatever it is asked and whatever the network does, an errand makes its attempts in order: its
datagrams go to the first targets of its itinerary; streams are tried only after a reply to the last
datagram that is cut off, at the first places in use, and no datagram is sent after them; and the
session is at the last attempt made. An errand that is given up for want of servers has tried the
whole itinerary and no stream, or all streams. So no target is tried twice, and at most four rounds
of datagrams are sent, three if the query is not recursive. -/
theorem attempts_inOrder (run : Errand servers recursive name qtype trace result s) :
    ∃ sent places,
      Charted servers recursive (errandQuery recursive name qtype) trace sent places s ∧
      (result = .error .exhausted → Spent servers recursive sent places) ∧
      sent.Pairwise (fun a b => a.round < b.round ∨ a.round = b.round ∧ a.slot < b.slot) ∧
      places.Pairwise (fun a b => a.2 < b.2) ∧
      sent.length ≤ (if recursive then 4 else 3) * servers.occupied.length ∧
      places.length ≤ servers.occupied.length := by
  obtain ⟨sent, places, hcharted, hspent⟩ := exists_charted run
  refine ⟨sent, places, hcharted, hspent, ?_, ?_, ?_, hcharted.tried_prefix.length_le⟩
  · refine List.Pairwise.sublist hcharted.sent_prefix.sublist ?_
    rw [← Servers.schedule_eq_itinerary]
    exact Servers.pairwise_schedule
  · exact Servers.pairwise_occupied.sublist hcharted.tried_prefix.sublist
  · have hle := hcharted.sent_prefix.length_le
    rw [Servers.length_itinerary] at hle
    cases recursive <;> exact hle

/-- Of two places the first is empty; the server in the second cuts its reply off and takes no
stream. -/
theorem attempts_inOrder_cutOff :
    ∃ trace s, Errand (.ofList [.unspecified, .localhost]) false [1, 97, 0] 1 trace
      (.error .exhausted) s ∧
      ∃ sent places,
        Charted (.ofList [.unspecified, .localhost]) false (errandQuery false [1, 97, 0] 1) trace
          sent places s ∧
        ((.error .exhausted : Except Failure Progress) = .error .exhausted →
          Spent (.ofList [.unspecified, .localhost]) false sent places) ∧
        sent.Pairwise (fun a b => a.round < b.round ∨ a.round = b.round ∧ a.slot < b.slot) ∧
        places.Pairwise (fun a b => a.2 < b.2) ∧
        sent.length ≤ (if false then 4 else 3) *
          (Servers.ofList [.unspecified, .localhost]).occupied.length ∧
        places.length ≤ (Servers.ofList [.unspecified, .localhost]).occupied.length := by
  let policy : Policy := ⟨53, .localhost, #v[0, 0, 0, 0], 0, 0⟩
  let servers : Servers := .ofList [.unspecified, .localhost]
  let attempt : Attempt := ⟨errandQuery false [1, 97, 0] 1, servers, 0x1234⟩
  let s : Session := ⟨policy, 1, 1, ⟨0⟩, .waiting attempt (.awaitingDatagram 3)⟩
  let reply : Bytes := [0x12, 0x34, 0x82, 0, 0, 1, 0, 0, 0, 0, 0, 0, 1, 97, 0, 0, 1, 0, 1]
  have hlength : Name.length? [1, 97, 0] = some 3 := by cbv
  have hschedule : servers.schedule (firstRound false) 0 =
      ⟨1, 1, .localhost⟩ :: servers.schedule 2 0 := by decide
  obtain ⟨opening, g, hstart⟩ : ∃ trace g, Course ((new policy).start servers false [1, 97, 0] 1
      { Generator.ofSeed [] with pending := [0x1234] }) trace (.ok (), s, g) :=
    exists_start ⟨1, 1, .localhost⟩ 3 ⟨0⟩ _ hlength hschedule (by cbv)
  have hquery : errandQuery false [1, 97, 0] 1 = ⟨[1, 97, 0], 1, false⟩ := errandQuery_eq hlength
  have hjudge : judgeDatagram attempt 1 (.awaitingDatagram 3) reply = .firstTcp := by
    show judgeDatagram ⟨errandQuery false [1, 97, 0] 1, servers, 0x1234⟩ 1 _ _ = _
    rw [hquery]
    cbv
  have hmove : Course (s.nextMove attempt (.awaitingDatagram 3) true ⟨0⟩)
      [⟨.receive 3 (maxReply + 1), .moved ⟨reply, by decide⟩⟩] .firstTcp :=
    course_call_iff.2 ⟨.moved ⟨reply, by decide⟩, [], rfl, course_pure_iff.2 ⟨rfl, hjudge.symm⟩⟩
  have htargets : servers.targetsFrom 1 0 = [⟨1, 1, .localhost⟩] := by decide
  obtain ⟨opens, g', hopen⟩ := exists_openLocal policy .tcp 4 g.id.2
  have hfollow : ∃ exchanges s', Course (s.follow attempt g .firstTcp) exchanges
      (.error .exhausted, s', g') := by
    show ∃ exchanges s', Course (s.tryTcp attempt.query servers (servers.targetsFrom 1 0) g)
      exchanges (.error .exhausted, s', g')
    rw [htargets]
    exact ⟨_, _, course_seq_iff.2 ⟨(.ok 4, g'), opens, _, rfl, hopen,
      .ask (c := .now) ⟨0⟩ (.ask (c := .connect 4 .localhost 53) (.failed .connectionRefused)
        (.done _))⟩⟩
  obtain ⟨exchanges, s', hfollow⟩ := hfollow
  have hget : Course (s.get true ⟨0⟩ g) _ (.error .exhausted, s', g') :=
    course_seq_iff.2 ⟨_, _, exchanges, rfl, hmove, hfollow⟩
  have hrun := Errand.wentOn (.started hstart) hget
  exact ⟨_, s', hrun, attempts_inOrder hrun⟩

end Resolver.Session
