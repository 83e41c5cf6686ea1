import Resolver.Proofs.Session.Sendings

/-!
# One message for a query

From its start on a query is sent in one and the same message, but for the ids of the attempts, whatever
the network answers and whatever else is done with the session.

Main statements: this is so for a session (`Session.sends_of_reaches`), which sends datagrams before it
opens any stream, and so field by field: the message is read as what was asked, and is recognised when it
is echoed (`Transmission.reaches_encoding`).
-/

namespace Resolver

open Dialogue

namespace Session

variable {q : Query} {sendings : List Sending} {servers : Servers} {targets : List Servers.Target}
  {policy : Policy} {transport : Transport} {s : Session} {turn : Turn} {exchanges : List Exchange}
  {g g' : Generator}

/-! ## The first attempt -/

/-- No sockets are opened but for this transport. -/
def OpensOnly (transport : Transport) (exchanges : List Exchange) : Prop :=
  ∀ exchange ∈ exchanges, ∀ other, exchange.1 = .openSocket other → other = transport

theorem OpensOnly.append {first second : List Exchange} (hfirst : OpensOnly transport first)
    (hsecond : OpensOnly transport second) : OpensOnly transport (first ++ second) :=
  List.forall_mem_append.2 ⟨hfirst, hsecond⟩

theorem opensOnly_of_openLocal {opened : Except OsError Socket}
    (h : Course (openLocal policy transport g) exchanges (opened, g')) :
    OpensOnly transport exchanges := by
  obtain ⟨reply, binds, rfl, hbinds, -⟩ := opens_of_openLocal h
  refine List.forall_mem_cons.2 ⟨fun other hopen => (Call.openSocket.inj hopen).symm, ?_⟩
  intro exchange hmem other hopen
  obtain ⟨socket, ip, port, hbind⟩ := hbinds exchange hmem
  exact nomatch hbind.symm.trans hopen

/-- An attempt is made over a socket that is open. -/
theorem opensOnly_of_approach {target : Servers.Target} {m : Bytes} {socket : Socket}
    {reception : Reception} (h : Approach policy target m socket transport exchanges reception) :
    OpensOnly transport exchanges := by
  unfold OpensOnly
  cases h <;> simp

/-- All sockets of a search are opened for its transport. -/
theorem opensOnly_of_seeks (h : s.Seeks q servers transport targets g exchanges turn) :
    OpensOnly transport exchanges := by
  induction h with
  | vain => exact nofun
  | passesOver hopen hfails hrest ih =>
    exact (opensOnly_of_openLocal hopen).append ((opensOnly_of_approach hfails).append ih)
  | waits hopen hwaits =>
    exact (opensOnly_of_openLocal hopen).append (opensOnly_of_approach hwaits)
  | overflows hopen hoverflows =>
    exact (opensOnly_of_openLocal hopen).append (opensOnly_of_approach hoverflows)
  | unbound hopen => exact opensOnly_of_openLocal hopen

/-- A search begins with a socket for its first target. -/
theorem exists_opens_of_seeks (h : s.Seeks q servers transport targets g exchanges turn)
    (htargets : targets ≠ []) :
    ∃ reply rest, exchanges = ⟨.openSocket transport, reply⟩ :: rest := by
  cases h with
  | vain => contradiction
  | passesOver hopen | waits hopen | overflows hopen | unbound hopen =>
    obtain ⟨reply, binds, rfl, -⟩ := opens_of_openLocal hopen
    exact ⟨reply, _, rfl⟩

/-- Who has a server has one to ask first. -/
theorem schedule_ne_nil (recursive : Bool) (h : servers.isEmpty = false) :
    servers.schedule (firstRound recursive) 0 ≠ [] := by
  intro hnone
  rw [Servers.schedule_eq_itinerary] at hnone
  have hlength := congrArg List.length hnone
  have hround : firstRound recursive ≤ 1 := by cases recursive <;> decide
  rw [Servers.length_itinerary, List.length_nil, Nat.mul_eq_zero] at hlength
  have hplaces : servers.occupied = [] := by
    refine List.eq_nil_of_length_eq_zero (hlength.resolve_left ?_)
    unfold roundCount
    omega
  -- a place in use would be one of the places that are occupied
  refine Bool.eq_false_iff.1 h (List.all_eq_true.2 fun ip hip => ?_)
  obtain ⟨i, hi⟩ := List.mem_iff_getElem?.1 hip
  have hplace : (ip, i) ∈ servers.slots.toList.zipIdx := List.mem_zipIdx_iff_getElem?.2 hi
  have hempty := List.filter_eq_nil_iff.1 hplaces (ip, i) hplace
  simpa using hempty

/-- A query is started with datagrams: no stream is opened, a socket is opened at once if there is any
server, and a start that succeeds has sent the whole message in the last datagram. -/
structure SetsOut (q : Query) (servers : Servers) (exchanges : List Exchange)
    (result : Except Failure Unit) : Prop where
  opensOnly : OpensOnly .udp exchanges
  first : servers.isEmpty = false → ∃ reply rest, exchanges = ⟨.openSocket .udp, reply⟩ :: rest
  sent : result = .ok () → ∃ id socket earlier, Sending.observer.after (some []) exchanges =
    some (⟨.udp, socket, [(q.message id, (q.message id).length)]⟩ :: earlier)

/-- A session that waits after it tried datagrams has just sent one. -/
theorem exists_datagram {s' : Session} {result : Except Failure Progress}
    (h : Course (s.tryUdp q servers targets g) exchanges (result, s', g'))
    (hok : ∀ cause, result ≠ .error cause) (hsends : s'.Sends q sendings) : ∃ id socket earlier,
      sendings = ⟨.udp, socket, [(q.message id, (q.message id).length)]⟩ :: earlier := by
  obtain ⟨tried, rest, -, -, hsettles⟩ := settles_of_tryUdp (j := Journal.blank) h
  cases hsettles with
  | gaveUp => exact absurd rfl (hok _)
  | @waits _ attempt wire _ _ _ _ hstage hquery hservers hwire =>
    obtain ⟨-, x, earlier, rfl, hx⟩ := hsends.waiting attempt wire hstage
    have hmessage : q.message attempt.id ≠ [] := by
      refine List.ne_nil_of_length_pos ?_
      rw [Query.length_message]
      exact Nat.succ_pos _
    cases wire with
    | awaitingDatagram socket =>
      obtain rfl := hx.eq_datagram hmessage
      exact ⟨attempt.id, socket, earlier, rfl⟩
    | connecting | sending | awaitingHigh | awaitingLow | awaitingBody =>
      exact nomatch hwire.2 rfl

/-- Whatever the length of its name, a query that is started goes out in datagrams. -/
theorem sends_of_start {recursive : Bool} {name : Bytes} {qtype : UInt16} {length : Nat}
    {result : Except Failure Unit} {s' : Session} (hlength : Name.length? name = some length)
    (h : Course (s.start servers recursive name qtype g) exchanges (result, s', g')) :
    (∃ sendings, Sending.observer.after (some []) exchanges = some sendings ∧
      s'.Sends (errandQuery recursive name qtype) sendings) ∧
    SetsOut (errandQuery recursive name qtype) servers exchanges result := by
  rw [start_eq hlength] at h
  obtain ⟨⟨turn, s₁, g₁⟩, first, last, rfl, htry, hlast⟩ := course_seq_iff.1 h
  obtain ⟨rfl, rfl, rfl, rfl⟩ := course_triple_iff.1 hlast
  rw [List.append_nil]
  have hseeks := seeks_of_tryUdp htry
  have hblank : ∀ x ∈ ([] : List Sending), ∃ id,
      x.IsOf ((errandQuery recursive name qtype).message id) := nofun
  obtain ⟨sendings, hafter, hsends⟩ := sends_of_seeks hseeks hblank
  refine ⟨⟨sendings, hafter, hsends⟩, opensOnly_of_seeks hseeks, fun hservers =>
    exists_opens_of_seeks hseeks (schedule_ne_nil recursive hservers), fun hok => ?_⟩
  obtain ⟨id, socket, earlier, rfl⟩ := exists_datagram htry (fun cause hfailed => by
    rw [hfailed] at hok
    exact nomatch hok) hsends
  exact ⟨id, socket, earlier, hafter⟩

/-! ## Runs -/

/-- What an operation exchanges with the system. -/
def Operation.trace : Operation → List Exchange
  | .start _ _ _ _ _ exchanges _ _ | .get _ _ _ exchanges _ _ => exchanges
  | .wanted _ _ | .takeReply _ | .free => []

/-- Whether an operation starts a query. -/
def Operation.isStart : Operation → Bool
  | .start .. => true
  | _ => false

/-- What some operations exchange with the system, the last of them being the first of the list. -/
def talk : List Operation → List Exchange
  | [] => []
  | operation :: earlier => talk earlier ++ operation.trace

/-- As long as no other query is started, every operation leaves a session with its query. -/
theorem sends_of_does {operation : Operation} {s' : Session} (hsends : s.Sends q sendings)
    (hstart : operation.isStart = false) (h : s.Does operation s') :
    ∃ sendings', Sending.observer.after (some sendings) operation.trace = some sendings' ∧
      s'.Sends q sendings' := by
  cases operation with
  | start => contradiction
  | get ready now g exchanges result g' => exact sends_of_get hsends h
  | wanted deadline answer =>
    obtain ⟨-, rfl⟩ := h
    exact ⟨sendings, rfl, hsends⟩
  | takeReply reply =>
    refine ⟨sendings, rfl, hsends.isOf, fun attempt wire hstage => hsends.waiting attempt wire ?_⟩
    obtain rfl : s.takeReply.2 = s' := congrArg Prod.snd h
    unfold takeReply at hstage
    split at hstage
    · exact nomatch hstage
    · exact hstage
  | free =>
    obtain rfl := h
    exact ⟨sendings, rfl, sends_of_idle none rfl hsends.isOf⟩

/-- From a start on, all that a session sends is its query. -/
theorem sends_of_reaches {later before : List Operation} {recursive : Bool} {name : Bytes}
    {qtype : UInt16} {length : Nat} {result : Except Failure Unit}
    (run : Reaches Does (new policy)
      (later ++ .start servers recursive name qtype g exchanges result g' :: before) s)
    (hlater : ∀ operation ∈ later, operation.isStart = false)
    (hlength : Name.length? name = some length) :
    (∃ sendings, Sending.observer.after (some []) (exchanges ++ talk later) = some sendings ∧
      s.Sends (errandQuery recursive name qtype) sendings) ∧
    SetsOut (errandQuery recursive name qtype) servers exchanges result := by
  induction later generalizing s with
  | nil =>
    cases run with
    | step run h =>
      rw [talk, List.append_nil]
      exact sends_of_start hlength h
  | cons operation later ih =>
    obtain ⟨hstart, hlater⟩ := List.forall_mem_cons.1 hlater
    cases run with
    | step run h =>
      obtain ⟨⟨sendings, hafter, hsends⟩, hfirst⟩ := ih run hlater
      rw [talk, ← List.append_assoc, Observer.after_append, hafter]
      exact ⟨sends_of_does hsends hstart h, hfirst⟩

end Session

namespace Transmission

open Session (Operation Reaches talk)

variable {t : Transmission} {policy : Policy}

/-- Whatever else a query does, its message stays one and the same around the ids of its attempts.

Behind the id it is some `rest`, so that with any id it is a message of `length + 16` bytes, 271 at
most, that is read as exactly the question for the name, with the flag of recursion just if that is
asked for, and its length fits in the two bytes before it on a stream. Since the query was started, this
message and nothing else was sent over every socket that was opened. The start itself opens none but
for datagrams, and one at once if there is any server; if it succeeds it has sent the message there, all
in one.

While the query is in flight, the socket opened last is that of its attempt: the message was sent there
with the id that the session names, all of it once the reply is waited for. The buffer holds it behind
its length, and no message is irrelevant that echoes it. -/
theorem reaches_encoding {now : Instant} {later before : List Operation} {servers : Servers}
    {recursive : Bool} {name : Bytes} {qtype : UInt16} {length : Nat} {g g' : Generator}
    {exchanges : List Exchange} {result : Except Failure Unit}
    (run : Reaches Does (new policy now)
      (later ++ .start servers recursive name qtype g exchanges result g' :: before) t)
    (hlater : ∀ operation ∈ later, operation.isStart = false)
    (hlength : Name.length? name = some length) :
    ∃ rest sendings,
      (∀ id, (wordBytes id ++ rest).length = length + 16 ∧
        Encodes (wordBytes id ++ rest) id ⟨name.take length, qtype, recursive⟩) ∧
      Sending.observer.after (some []) (exchanges ++ talk later) = some sendings ∧
      (∀ x ∈ sendings, ∃ id, x.IsOf (wordBytes id ++ rest)) ∧
      (∀ exchange ∈ exchanges, exchange.1 ≠ .openSocket .tcp) ∧
      (servers.isEmpty = false →
        ∃ reply more, exchanges = ⟨.openSocket .udp, reply⟩ :: more) ∧
      (result = .ok () → ∃ id socket earlier, Sending.observer.after (some []) exchanges =
        some (⟨.udp, socket, [(wordBytes id ++ rest, length + 16)]⟩ :: earlier)) ∧
      (t.state ≠ .idle → ∃ id x earlier, t.queryId? = some id ∧ sendings = x :: earlier ∧
        x.IsOf (wordBytes id ++ rest) ∧
        (∀ socket, t.state.request? = some (socket, .read) →
          Sending.total x.offers = (Sending.form (wordBytes id ++ rest) x.transport).length) ∧
        t.query = toBigEndian 2 (length + 16) ++ (wordBytes id ++ rest) ∧
        ∀ echo, Echoes echo (wordBytes id ++ rest) length → t.irrelevant? echo = some false) := by
  obtain ⟨s, hreaches, hrepresents, -⟩ := exists_reaches run
  obtain ⟨⟨sendings, hafter, hsends⟩, hopens, hfirst, hsent⟩ :=
    Session.sends_of_reaches hreaches hlater hlength
  obtain ⟨hle, hname⟩ := Name.length?_eq_some_iff.1 hlength
  have hsize : (name.take length).length = length := List.length_take_of_le hle
  rw [Session.errandQuery_eq hlength] at hsends hsent
  refine ⟨Query.headerTail recursive ++ Query.question ⟨name.take length, qtype, recursive⟩, sendings,
    fun id => ?_, hafter, hsends.isOf,
    fun exchange hmem htcp => Transport.noConfusion (hopens exchange hmem .tcp htcp), hfirst,
    fun hok => ?_, fun hstate => ?_⟩
  · have hencodes := Query.encodes_message (q := ⟨name.take length, qtype, recursive⟩) id hname
    exact ⟨hencodes.length_eq.trans (congrArg (· + 16) hsize), hencodes⟩
  · obtain ⟨id, socket, earlier, hsending⟩ := hsent hok
    rw [Query.length_message, hsize] at hsending
    exact ⟨id, socket, earlier, hsending⟩
  · cases hstage : s.stage with
    | idle reply => exact absurd (hrepresents.idle reply hstage).1 hstate
    | waiting attempt wire =>
      obtain ⟨hflight, -⟩ := hrepresents.waiting attempt wire hstage
      obtain ⟨hquery, x, earlier, hlast, hstands⟩ := hsends.waiting attempt wire hstage
      have hframe : t.query = attempt.query.framed attempt.id := hflight.aimed.query_eq
      refine ⟨attempt.id, x, earlier, queryId?_eq hframe, hlast, hstands.isOf, ?_, ?_, ?_⟩
      · intro socket hread
        rw [State.request?_eq hflight.wire_eq] at hread
        have hinterest : wire.interest = .read := congrArg Prod.snd (Option.some.inj hread)
        rw [hstands.total_eq, hstands.transport_eq]
        exact Wire.progress_of_read _ hinterest
      · rw [hframe, hquery, Query.framed, hsize]
        rfl
      · intro echo hechoes
        refine irrelevant?_of_echoes hflight.aimed ?_
        rw [hquery, hsize]
        exact hechoes

/-- A query for the name `a` that the only server was sent: an echo with the bits of a reply set, other
counts of records, the name in a capital and a byte behind the question is not irrelevant. -/
theorem reaches_encoding_hasty :
    ∃ later before, ∃ g g' : Generator, ∃ exchanges result t,
      Reaches Does (new Session.hasty ⟨0⟩)
        (later ++ .start (.ofList [.localhost]) true [1, 97, 0] 1 g exchanges result g' :: before) t ∧
      (∀ operation ∈ later, operation.isStart = false) ∧ Name.length? [1, 97, 0] = some 3 ∧
      (Servers.ofList [.localhost]).isEmpty = false ∧ t.state ≠ .idle ∧
      t.irrelevant? [0x12, 0x34, 0x84, 3, 0, 1, 9, 9, 9, 9, 9, 9, 1, 65, 0, 0, 1, 0, 1, 7] =
        some false ∧
      ∃ rest sendings,
        (∀ id, (wordBytes id ++ rest).length = 3 + 16 ∧
          Encodes (wordBytes id ++ rest) id ⟨[1, 97, 0].take 3, 1, true⟩) ∧
        Sending.observer.after (some []) (exchanges ++ talk later) = some sendings ∧
        (∀ x ∈ sendings, ∃ id, x.IsOf (wordBytes id ++ rest)) ∧
        (∀ exchange ∈ exchanges, exchange.1 ≠ .openSocket .tcp) ∧
        (∃ reply more, exchanges = ⟨.openSocket .udp, reply⟩ :: more) ∧
        (∃ id socket earlier, Sending.observer.after (some []) exchanges =
          some (⟨.udp, socket, [(wordBytes id ++ rest, 3 + 16)]⟩ :: earlier)) ∧
        ∃ id x earlier, t.queryId? = some id ∧ sendings = x :: earlier ∧
          x.IsOf (wordBytes id ++ rest) ∧
          (∀ socket, t.state.request? = some (socket, .read) →
            Sending.total x.offers = (Sending.form (wordBytes id ++ rest) x.transport).length) ∧
          t.query = toBigEndian 2 (3 + 16) ++ (wordBytes id ++ rest) ∧
          ∀ echo, Echoes echo (wordBytes id ++ rest) 3 → t.irrelevant? echo = some false := by
  have hschedule : (Servers.ofList [.localhost]).schedule (Session.firstRound true) 0 =
      ⟨0, 0, .localhost⟩ :: (Servers.ofList [.localhost]).schedule 1 0 := by decide
  obtain ⟨exchanges, g', hstart⟩ := Session.exists_start_hasty hschedule
  -- the exchanges of the session are those of the fields, which are in step with it
  obtain ⟨x, hcourse, t, rfl, hcomes⟩ := (lockstep_start (represents_new Session.hasty ⟨0⟩) _ _ _ _
    _).symm.exists_course hstart
  have hdoes : (new Session.hasty ⟨0⟩).Does (.start _ _ _ _ _ _ _ _) t := hcourse
  have run := Reaches.refl.step hdoes
  obtain ⟨hflight, -⟩ := hcomes.represents.waiting _ _ rfl
  have hlater : ∀ operation ∈ ([] : List Operation), operation.isStart = false := nofun
  have hlength : Name.length? [1, 97, 0] = some 3 := by cbv
  have hservers : (Servers.ofList [.localhost]).isEmpty = false := by decide
  obtain ⟨rest, sendings, hencodes, hafter, hisOf, hopens, hfirst, hsent, hpending⟩ :=
    reaches_encoding run hlater hlength
  obtain ⟨id, x, earlier, hid, hlast, hx, hread, hquery, hechoed⟩ := hpending hflight.state_ne
  -- the buffer shows the message that is echoed
  have hframe : t.query = toBigEndian 2 (3 + 16) ++
      [0x12, 0x34, 1, 0, 0, 1, 0, 0, 0, 0, 0, 0, 1, 97, 0, 0, 1, 0, 1] := by
    rw [hflight.aimed.query_eq, Session.errandQuery_hasty]
    decide
  have hmessage := List.append_cancel_left (hquery.symm.trans hframe)
  have hecho := hechoed [0x12, 0x34, 0x84, 3, 0, 1, 9, 9, 9, 9, 9, 9, 1, 65, 0, 0, 1, 0, 1, 7] (by
    rw [hmessage]
    exact ⟨by decide, by decide, by decide, by decide⟩)
  exact ⟨[], [], _, g', exchanges, _, t, run, hlater, hlength, hservers, hflight.state_ne, hecho,
    rest, sendings, hencodes, hafter, hisOf, hopens, hfirst hservers, hsent rfl, id, x, earlier, hid,
    hlast, hx, hread, hquery, hechoed⟩

end Transmission

end Resolver
