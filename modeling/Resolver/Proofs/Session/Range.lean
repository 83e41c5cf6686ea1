import Resolver.Proofs.Session.Timing

/-!
# The range of the clock

An errand breaks off when a deadline is past the range of the clock. Whatever the network does, that
can only come from a time its policy allows; and for each of these times there is a network that
makes an errand wait so long: the datagrams before go nowhere, or the first reply is cut off.

Main statement: while the clock has not gone beyond some reading, an errand can break off exactly if
one of the times allowed is too long from that reading on (`exists_overflow_iff`).
-/

namespace Resolver

open Dialogue

/-! ## Past the range -/

theorem Instant.add?_eq_none_iff {t : Instant} {d : Duration} :
    t.add? d = none ↔ Instant.limit ≤ t.nanos + d := by
  unfold Instant.add?
  split
  · exact iff_of_false (Option.some_ne_none _) (Nat.not_le.2 ‹_›)
  · exact iff_of_true rfl (Nat.not_lt.1 ‹_›)

theorem Instant.add?_eq_some_iff {t later : Instant} {d : Duration} :
    t.add? d = some later ↔ t.nanos + d < Instant.limit ∧ later = ⟨t.nanos + d⟩ := by
  unfold Instant.add?
  split
  · rw [Option.some_inj, eq_comm]
    exact (and_iff_right ‹_›).symm
  · exact iff_of_false nofun fun h => absurd h.1 ‹_›

/-- What is past the range of the clock from one reading on is so from every later one. -/
theorem Instant.add?_eq_none_of_le {t later : Instant} {d : Duration} (hle : t.nanos ≤ later.nanos)
    (h : t.add? d = none) : later.add? d = none := by
  rw [add?_eq_none_iff] at h ⊢
  exact Nat.le_trans h (Nat.add_le_add_right hle d)

namespace Session

variable {servers : Servers} {recursive : Bool} {name : Bytes} {qtype : UInt16} {policy : Policy}
  {transport : Transport} {s : Session} {g g' : Generator} {exchanges : List Exchange}

/-- To set up a socket takes no look at the clock. -/
theorem readings_of_openLocal {opened : Except OsError Socket}
    (h : Course (openLocal policy transport g) exchanges (opened, g')) :
    readings exchanges = [] := by
  obtain ⟨reply, binds, rfl, hbinds, -⟩ := opens_of_openLocal h
  refine List.filterMap_eq_nil_iff.2 (List.forall_mem_cons.2 ⟨rfl, fun exchange hexchange => ?_⟩)
  obtain ⟨call, reply⟩ := exchange
  obtain ⟨socket, ip, port, rfl⟩ := hbinds _ hexchange
  rfl

/-! ## Waiting too long -/

/-- When a datagram was sent, the session waits for its reply, or breaks off for want of clock. -/
def sentAt (s : Session) (query : Query) (servers : Servers) (target : Servers.Target) (id : UInt16)
    (now : Instant) (g : Generator) : Turn :=
  match now.add? (s.policy.udpTimeout target.round) with
  | none => (.error .clockOverflow, (s.aimedAt target).free, g)
  | some deadline =>
    (.ok .pending, { s.aimedAt target with
      deadline := deadline, stage := .waiting ⟨query, servers, id⟩ (.awaitingDatagram 3) }, g)

theorem sentAt_of_none {query : Query} {target : Servers.Target} {id : UInt16} {now : Instant}
    (h : now.add? (s.policy.udpTimeout target.round) = none) :
    s.sentAt query servers target id now g =
      (.error .clockOverflow, (s.aimedAt target).free, g) := by
  unfold sentAt
  rw [h]

theorem sentAt_of_some {query : Query} {target : Servers.Target} {id : UInt16}
    {now deadline : Instant}
    (h : now.add? (s.policy.udpTimeout target.round) = some deadline) :
    s.sentAt query servers target id now g = (.ok .pending, { s.aimedAt target with
      deadline := deadline, stage := .waiting ⟨query, servers, id⟩ (.awaitingDatagram 3) }, g) := by
  unfold sentAt
  rw [h]

/-- The datagrams to the targets in front of one can fail, and the one to that target go out. -/
theorem exists_tryUdp_behind (s : Session) (query : Query) (servers : Servers)
    (front : List Servers.Target) (target : Servers.Target) (rest : List Servers.Target)
    (now : Instant) (g : Generator) :
    ∃ exchanges id g', readings exchanges = [now] ∧
      Course (s.tryUdp query servers (front ++ target :: rest) g) exchanges
        (s.sentAt query servers target id now g') := by
  induction front generalizing s g with
  | nil =>
    obtain ⟨opens, g', hopen⟩ := exists_openLocal s.policy .udp 3 g.id.2
    let message := query.message g.id.1
    let taken : Transfer { n : Nat // n ≤ message.length } :=
      .moved ⟨message.length, Nat.le_refl _⟩
    let sends : List Exchange :=
      [⟨.connect 3 target.ip s.policy.port, .connected⟩, ⟨.send 3 message, taken⟩]
    have hsend : Course (sendDatagram s.policy 3 target.ip message) sends true :=
      .ask (c := .connect _ _ _) .connected
        (.ask (c := .send _ _) taken (course_pure_iff.2 ⟨rfl, (beq_self_eq_true _).symm⟩))
    refine ⟨opens ++ (sends ++ [⟨.now, now⟩]), g.id.1, g', ?_, ?_⟩
    · rw [readings_append, readings_of_openLocal hopen]
      rfl
    · unfold tryUdp
      refine course_seq_iff.2 ⟨(.ok 3, g'), opens, _, rfl, hopen, ?_⟩
      refine course_seq_iff.2 ⟨true, sends, _, rfl, hsend, ?_⟩
      refine course_call_iff.2 ⟨now, [], rfl, ?_⟩
      have haimed : (s.aimedAt target).policy = s.policy := rfl
      rw [haimed]
      cases h : now.add? (s.policy.udpTimeout target.round) with
      | none => exact sentAt_of_none h ▸ .done _
      | some deadline => exact sentAt_of_some h ▸ .done _
  | cons first front ih =>
    obtain ⟨opens, g₁, hopen⟩ := exists_openLocal s.policy .udp 3 g.id.2
    obtain ⟨more, id, g', hreadings, hmore⟩ := ih (s.aimedAt first) g₁
    let fails : Exchange := ⟨.connect 3 first.ip s.policy.port, .failed .connectionRefused⟩
    refine ⟨opens ++ fails :: more, id, g', ?_, ?_⟩
    · rw [readings_append, readings_of_openLocal hopen]
      exact hreadings
    · refine course_seq_iff.2 ⟨(.ok 3, g₁), opens, _, rfl, hopen, ?_⟩
      exact course_seq_iff.2 ⟨false, [fails], more, rfl,
        .ask (c := .connect _ _ _) (.failed .connectionRefused) (.done _), hmore⟩

/-- A stream whose deadline is past the range of the clock is not connected. -/
theorem exists_tryTcp_overflow (s : Session) (query : Query) (servers : Servers)
    (target : Servers.Target) (rest : List Servers.Target) {now : Instant} (g : Generator)
    (hnone : now.add? s.policy.tcpTimeout = none) :
    ∃ exchanges g', readings exchanges = [now] ∧
      Course (s.tryTcp query servers (target :: rest) g) exchanges
        (.error .clockOverflow, { s with slot := target.slot }.free, g') := by
  obtain ⟨opens, g', hopen⟩ := exists_openLocal s.policy .tcp 3 g.id.2
  refine ⟨opens ++ [⟨.now, now⟩], g', ?_, ?_⟩
  · rw [readings_append, readings_of_openLocal hopen]
    rfl
  · unfold tryTcp
    refine course_seq_iff.2 ⟨(.ok 3, g'), opens, _, rfl, hopen, ?_⟩
    refine course_call_iff.2 ⟨now, [], rfl, ?_⟩
    dsimp only
    rw [hnone]
    exact .done _

/-- A reply to the query for the name `a` that is cut off. -/
def cutOff (id : UInt16) : Bytes :=
  wordBytes id ++ [0x82, 0, 0, 1, 0, 0, 0, 0, 0, 0, 1, 97, 0, 0, 1, 0, 1]

theorem length_cutOff (id : UInt16) : (cutOff id).length = 19 := rfl

theorem carries_cutOff (id : UInt16) : Carries (cutOff id) id ⟨[1, 97, 0], 1, recursive⟩ := by
  obtain ⟨high, low, hid⟩ : ∃ high low, wordBytes id = [high, low] := ⟨_, _, rfl⟩
  have hname : Packet.nameAt?
      [high, low, 0x82, 0, 0, 1, 0, 0, 0, 0, 0, 0, 1, 97, 0, 0, 1, 0, 1] 12 =
        some ([1, 97, 0], 15) := by cbv
  have hbehind : ([0, 1, 0, 1] : Bytes) = wordBytes 1 ++ wordBytes 1 := by decide
  unfold cutOff
  constructor
  case header =>
    rw [hid]
    exact Nat.le_add_left 12 7
  case id_eq => rw [hid]; rfl
  case count_eq => rw [hid]; rfl
  case question =>
    rw [hid]
    exact ⟨[1, 97, 0], 15, hname, rfl, hbehind⟩

theorem judgeDatagram_cutOff (round : Nat) (wire : Wire) (id : UInt16) :
    judgeDatagram ⟨⟨[1, 97, 0], 1, recursive⟩, servers, id⟩ round wire (cutOff id) = .firstTcp := by
  have hname : Name.IsName [1, 97, 0] := by
    have hlength : Name.length? [1, 97, 0] = some 3 := by cbv
    exact (Name.length?_eq_some_iff.1 hlength).2
  have hshort : (cutOff id).length ≤ maxReply := by
    rw [length_cutOff]
    decide
  have hflags : (cutOff id)[2]? = some 0x82 := rfl
  rw [judgeDatagram_of_carries round wire hname hshort (carries_cutOff id) hflags rfl]
  exact if_pos (by decide)

/-- When the reply to its datagram is cut off, a session breaks off if the time to wait for a stream
is too long. -/
theorem exists_get_overflow {socket : Socket} {id : UInt16} {now : Instant} (g : Generator)
    (hstage : s.stage =
      .waiting ⟨⟨[1, 97, 0], 1, recursive⟩, servers, id⟩ (.awaitingDatagram socket))
    (hservers : servers.occupied ≠ []) (hnone : now.add? s.policy.tcpTimeout = none) :
    ∃ exchanges s' g', readings exchanges = [now] ∧ s'.policy = s.policy ∧
      Course (s.get true now g) exchanges (.error .clockOverflow, s', g') := by
  obtain ⟨place, places, hplaces⟩ := List.exists_cons_of_ne_nil hservers
  have htargets : servers.targetsFrom s.round 0 =
      .ofPlace s.round place :: places.map (.ofPlace s.round) := by
    rw [Servers.targetsFrom_zero, Servers.targetsOf, hplaces, List.map_cons]
  obtain ⟨exchanges, g', hreadings, htry⟩ := exists_tryTcp_overflow s ⟨[1, 97, 0], 1, recursive⟩
    servers (.ofPlace s.round place) (places.map (.ofPlace s.round)) g hnone
  have hfollow : Course (s.follow ⟨⟨[1, 97, 0], 1, recursive⟩, servers, id⟩ g .firstTcp) exchanges
      (.error .clockOverflow, { s with slot := place.2 }.free, g') := by
    show Course (s.tryTcp _ _ (servers.targetsFrom s.round 0) g) _ _
    rw [htargets]
    exact htry
  have hspace : (cutOff id).length ≤ maxReply + 1 := by
    rw [length_cutOff]
    decide
  refine ⟨⟨.receive socket (maxReply + 1), .moved ⟨cutOff id, hspace⟩⟩ :: exchanges,
    { s with slot := place.2 }.free, g', hreadings, rfl,
    course_get_datagram hstage ⟨cutOff id, hspace⟩ (List.cons_ne_nil _ _) ?_⟩
  rw [judgeDatagram_cutOff]
  exact hfollow

/-! ## Breaking off -/

/-- An errand can begin with datagrams that go nowhere, up to one that is sent. -/
theorem exists_start_sentAt {front : List Servers.Target} {target : Servers.Target}
    {rest : List Servers.Target} (s : Session) (now : Instant)
    (hitinerary : servers.itinerary 0 = front ++ target :: rest) :
    ∃ trace id g, readings trace = [now] ∧
      Course (s.start servers true [1, 97, 0] 1 (.ofSeed [])) trace
        ((s.sentAt ⟨[1, 97, 0], 1, true⟩ servers target id now g).1.map fun _ => (),
          (s.sentAt ⟨[1, 97, 0], 1, true⟩ servers target id now g).2) := by
  have hlength : Name.length? [1, 97, 0] = some 3 := by cbv
  obtain ⟨trace, id, g, hreadings, htry⟩ :=
    exists_tryUdp_behind { s.free with round := 0, slot := 0 } ⟨[1, 97, 0], 1, true⟩ servers front
      target rest now (.ofSeed [])
  rw [← hitinerary, ← Servers.schedule_eq_itinerary] at htry
  refine ⟨trace, id, g, hreadings, ?_⟩
  rw [start_eq hlength, errandQuery_eq hlength]
  exact course_seq_iff.2 ⟨_, trace, [], (List.append_nil trace).symm, htry, .done _⟩

/-- An errand can break off when the time to wait for a datagram is too long. -/
theorem exists_overflow_of_datagram {round : Nat} {now : Instant} (hservers : servers.occupied ≠ [])
    (hround : round < roundCount) (hnone : now.add? (policy.udpTimeout round) = none) :
    ∃ trace s, Errand servers true [1, 97, 0] 1 trace (.error .clockOverflow) s ∧
      s.policy = policy ∧ ∀ reading ∈ readings trace, reading = now := by
  obtain ⟨place, hplace⟩ := List.exists_mem_of_ne_nil _ hservers
  have htarget : .ofPlace round place ∈ servers.itinerary 0 :=
    List.mem_flatMap.2 ⟨round, List.mem_range'_1.2 ⟨Nat.zero_le round, by omega⟩,
      List.mem_map_of_mem hplace⟩
  obtain ⟨front, rest, hitinerary⟩ := List.append_of_mem htarget
  obtain ⟨trace, id, g, hreadings, hstart⟩ := exists_start_sentAt (new policy) now hitinerary
  rw [sentAt_of_none (s := new policy) hnone] at hstart
  refine ⟨trace, _, .started hstart, rfl, ?_⟩
  rw [hreadings]
  exact List.forall_mem_singleton.2 rfl

/-- An errand can break off when the time to wait for a stream is too long. -/
theorem exists_overflow_of_stream {now : Instant} (hservers : servers.occupied ≠ [])
    (hnone : now.add? policy.tcpTimeout = none) :
    ∃ trace s, Errand servers true [1, 97, 0] 1 trace (.error .clockOverflow) s ∧
      s.policy = policy ∧ ∀ reading ∈ readings trace, reading = now := by
  cases hfirst : now.add? (policy.udpTimeout 0) with
  | none => exact exists_overflow_of_datagram hservers (by decide) hfirst
  | some deadline =>
    obtain ⟨place, places, hplaces⟩ := List.exists_cons_of_ne_nil hservers
    obtain ⟨rest, hitinerary⟩ : ∃ rest, servers.itinerary 0 = [] ++ .ofPlace 0 place :: rest := by
      unfold Servers.itinerary Servers.targetsOf
      rw [hplaces]
      exact ⟨_, rfl⟩
    obtain ⟨trace, id, g, hreadings, hstart⟩ := exists_start_sentAt (new policy) now hitinerary
    rw [sentAt_of_some (s := new policy) hfirst] at hstart
    let waiting : Session := ⟨policy, 0, place.2, deadline,
      .waiting ⟨⟨[1, 97, 0], 1, true⟩, servers, id⟩ (.awaitingDatagram 3)⟩
    obtain ⟨exchanges, s, g', hmore, hpolicy, hget⟩ :=
      exists_get_overflow (s := waiting) g rfl hservers hnone
    refine ⟨_, s, .wentOn (.started hstart) hget, hpolicy, ?_⟩
    rw [readings_append, hreadings, hmore]
    exact List.forall_mem_cons.2 ⟨rfl, List.forall_mem_singleton.2 rfl⟩

/-- While the clock has not gone beyond some reading, an errand can break off for want of clock
exactly if one of the times that its policy allows is too long from that reading on. -/
theorem exists_overflow_iff {latest : Instant} (hservers : servers.occupied ≠ []) :
    (∃ recursive name qtype trace s,
      Errand servers recursive name qtype trace (.error .clockOverflow) s ∧ s.policy = policy ∧
        ∀ reading ∈ readings trace, reading.nanos ≤ latest.nanos) ↔
      (∃ round < roundCount, latest.add? (policy.udpTimeout round) = none) ∨
        latest.add? policy.tcpTimeout = none := by
  constructor
  · rintro ⟨recursive, name, qtype, trace, s, run, rfl, hlatest⟩
    obtain ⟨wait, now, hwait, hnone⟩ := run.overflow_iff.1 rfl
    have hread : now ∈ readings trace := map_begunWaits ▸ List.mem_map_of_mem hwait
    have htooLong := Instant.add?_eq_none_of_le (hlatest now hread) hnone
    cases wait with
    | datagram round => exact .inl ⟨round, lt_of_mem_begunWaits hwait, htooLong⟩
    | connection | reply => exact .inr htooLong
  · intro htooLong
    obtain ⟨trace, s, run, hpolicy, hreadings⟩ : ∃ trace s,
        Errand servers true [1, 97, 0] 1 trace (.error .clockOverflow) s ∧ s.policy = policy ∧
          ∀ reading ∈ readings trace, reading = latest := by
      rcases htooLong with ⟨round, hround, hnone⟩ | hnone
      · exact exists_overflow_of_datagram hservers hround hnone
      · exact exists_overflow_of_stream hservers hnone
    exact ⟨true, [1, 97, 0], 1, trace, s, run, hpolicy,
      fun reading hreading => Nat.le_of_eq (congrArg _ (hreadings reading hreading))⟩

end Session

end Resolver
