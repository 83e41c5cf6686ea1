import Resolver.Proofs.Bytes
import Resolver.Proofs.Session.Errand
import Resolver.Proofs.Session.Schedule
import Resolver.Session.Transmission

/-!
# Sessions field by field, in step with sessions

A `Transmission` asks the system what the `Session` it stands for asks, comes to the same result and
stands for the session after it. All its accesses are in range on the way.

Main statements: this is so when a query is started (`Transmission.lockstep_start`) and when the
session goes on (`Transmission.lockstep_get`).
-/

namespace Resolver

/-! ## Dialogues side by side -/

namespace Dialogue

variable {α β γ δ : Type} {R : α → β → Prop} {S : γ → δ → Prop}

/-- Two dialogues ask the same, whatever the answers, and end with results that are related. -/
inductive Lockstep (R : α → β → Prop) : Dialogue α → Dialogue β → Prop
  | done {a : α} {b : β} (h : R a b) : Lockstep R (.done a) (.done b)
  | ask {c : Call} {next : c.Reply → Dialogue α} {next' : c.Reply → Dialogue β}
      (h : ∀ reply, Lockstep R (next reply) (next' reply)) :
      Lockstep R (.ask c next) (.ask c next')

namespace Lockstep

/-- Dialogues that go on from related results in step are in step. -/
theorem bind {d : Dialogue α} {d' : Dialogue β} {f : α → Dialogue γ} {f' : β → Dialogue δ}
    (h : Lockstep R d d') (hf : ∀ a b, R a b → Lockstep S (f a) (f' b)) :
    Lockstep S (d >>= f) (d' >>= f') := by
  induction h with
  | done h => exact hf _ _ h
  | ask _ ih => exact .ask ih

/-- Dialogues that begin with the same talk are in step if they go on in step. -/
theorem bind_same (d : Dialogue α) {f : α → Dialogue γ} {f' : α → Dialogue δ}
    (hf : ∀ a, Lockstep S (f a) (f' a)) : Lockstep S (d >>= f) (d >>= f') := by
  induction d with
  | done a => exact hf a
  | ask call next ih => exact .ask ih

/-- Dialogues that receive up to as many bytes are in step if they go on in step. -/
theorem receive {socket : Socket} {space space' : Nat}
    {f : (Call.receive socket space).Reply → Dialogue γ}
    {f' : (Call.receive socket space').Reply → Dialogue δ} (hspace : space = space')
    (hblocked : Lockstep S (f .blocked) (f' .blocked))
    (hfailed : ∀ cause, Lockstep S (f (.failed cause)) (f' (.failed cause)))
    (hmoved : ∀ chunk h h', Lockstep S (f (.moved ⟨chunk, h⟩)) (f' (.moved ⟨chunk, h'⟩))) :
    Lockstep S (call (.receive socket space) >>= f) (call (.receive socket space') >>= f') := by
  subst hspace
  refine bind_same _ fun transfer => ?_
  cases transfer with
  | blocked => exact hblocked
  | failed cause => exact hfailed cause
  | moved chunk => exact hmoved chunk.val chunk.property chunk.property

theorem symm {d : Dialogue α} {d' : Dialogue β} (h : Lockstep R d d') :
    Lockstep (fun b a => R a b) d' d := by
  induction h with
  | done h => exact .done h
  | ask _ ih => exact .ask ih

/-- Each course of a dialogue is one of any dialogue in step with it. -/
theorem exists_course {d : Dialogue α} {d' : Dialogue β} {exchanges : List Exchange} {a : α}
    (h : Lockstep R d d') (hcourse : Course d exchanges a) :
    ∃ b, Course d' exchanges b ∧ R a b := by
  induction h generalizing exchanges with
  | done h =>
    cases hcourse
    exact ⟨_, .done _, h⟩
  | ask _ ih =>
    cases hcourse with
    | ask reply hrest =>
      obtain ⟨b, hb, hR⟩ := ih reply hrest
      exact ⟨b, .ask reply hb, hR⟩

end Lockstep

end Dialogue

namespace Query

variable {q : Query} {id : UInt16}

/-- A framed query is its length, its id and the rest. -/
theorem framed_eq_cons (q : Query) : ∃ high low, ∀ id,
    q.framed id = high :: low :: UInt8.ofNat (id.toNat / 256) :: UInt8.ofNat id.toNat ::
      (headerTail q.recursive ++ q.question) :=
  ⟨UInt8.ofNat ((q.name.length + 16) / 256), UInt8.ofNat (q.name.length + 16), fun _ => rfl⟩

theorem length_framed : (q.framed id).length = q.name.length + 18 := by
  rw [framed, List.length_append, length_toBigEndian, length_message]
  omega

theorem length_framed_pos : 0 < (q.framed id).length := by
  rw [length_framed]
  omega

end Query

/-- What a session waits for is what was asked. -/
def Session.Concerns (s : Session) (asked : Option (Query × Servers)) : Prop :=
  ∀ attempt wire, s.stage = .waiting attempt wire → asked = some (attempt.query, attempt.servers)

namespace Transmission

open Dialogue

variable {t : Transmission} {s : Session} {query : Query} {servers : Servers} {attempt : Attempt}
  {wire : Wire} {asked : Option (Query × Servers)}

/-! ## The query buffer -/

/-- The byte at an offset is overwritten if there is one. -/
theorem put?_append (front rest : Bytes) (old byte : UInt8) :
    put? (front ++ old :: rest) front.length byte = some (front ++ byte :: rest) := by
  unfold put?
  rw [if_pos (by rw [List.length_append, List.length_cons]; omega), List.set_append_right _ _
    (Nat.le_refl _), Nat.sub_self, List.set_cons_zero]

/-- The id of a framed query can be overwritten. -/
theorem stamp?_framed (id id' : UInt16) :
    stamp? (query.framed id) id' = some (query.framed id') := by
  obtain ⟨high, low, hframed⟩ := query.framed_eq_cons
  rw [hframed, hframed]
  refine Option.bind_eq_some_iff.2 ⟨_, put?_append [high, low] _ _ _, ?_⟩
  exact put?_append [high, low, _] _ _ _

/-- A datagram takes what is behind the length. -/
theorem from?_framed_two (id : UInt16) : from? (query.framed id) 2 = some (query.message id) := by
  unfold from?
  rw [if_pos (by rw [Query.length_framed]; omega)]
  rfl

theorem between?_framed (id : UInt16) : between? (query.framed id) 2 4 = some (wordBytes id) := by
  unfold between?
  rw [if_pos (by rw [Query.length_framed]; omega)]
  rfl

theorem from?_framed_name (id : UInt16) :
    from? (query.framed id) 14 = some (query.question) := by
  unfold from?
  rw [if_pos (by rw [Query.length_framed]; omega)]
  rfl

/-- A framed query holds its id. -/
theorem queryId?_eq {id : UInt16} (h : t.query = query.framed id) : t.queryId? = some id := by
  obtain ⟨high, low, hid⟩ := exists_wordBytes id
  unfold queryId?
  rw [h, between?_framed, hid]
  exact congrArg some (wordOf_of_wordBytes hid)

/-- What is behind a name makes no difference to what it equals. -/
theorem equal_append {name : Bytes} (h : Name.IsName name) (other rest : Bytes) :
    Name.equal other (name ++ rest) = Name.equal other name := by
  have hlength : Name.length? (name ++ rest) = some name.length := by
    rw [Name.length?_eq_some_iff, List.take_left' rfl, List.length_append]
    exact ⟨Nat.le_add_right _ _, h⟩
  unfold Name.equal
  rw [hlength, h.length?_eq]
  cases Name.length? other with
  | none => rfl
  | some length =>
    dsimp only
    rw [List.take_left' rfl, List.take_length]

/-- A reply is irrelevant unless it answers the attempt whose query is in the buffer. -/
theorem irrelevant?_eq (hquery : t.query = attempt.frame) (hqtype : t.qtype = attempt.query.qtype)
    (hname : Name.IsName attempt.query.name) (reply : Bytes) :
    t.irrelevant? reply = some (!attempt.isAnsweredBy reply) := by
  unfold irrelevant? Attempt.isAnsweredBy
  cases Packet.question? reply with
  | none => rfl
  | some q =>
    unfold Attempt.frame at hquery
    have hid : (wordBytes q.id != wordBytes attempt.id) = !(q.id == attempt.id) := by
      rw [bne, Bool.not_inj_iff, Bool.eq_iff_iff, beq_iff_eq, beq_iff_eq, wordBytes_inj]
    dsimp only
    rw [hquery, hqtype, between?_framed, from?_framed_name]
    -- the buffer goes on behind the name, with the type and the class
    show some (wordBytes q.id != wordBytes attempt.id ||
      !Name.equal q.name (attempt.query.name ++ _) || _ || _) = _
    rw [hid, equal_append hname]
    simp only [bne, Bool.not_and]

/-! ## What a transmission stands for -/

/-- How far an attempt has come, the bytes received so far without the rest of the buffer. -/
def State.wire? : State → Option Wire
  | .idle => none
  | .awaitingDatagram socket => some (.awaitingDatagram socket)
  | .connecting socket => some (.connecting socket)
  | .sending socket sent => some (.sending socket sent)
  | .awaitingHigh socket => some (.awaitingHigh socket)
  | .awaitingLow socket high => some (.awaitingLow socket high)
  | .awaitingBody socket packet received =>
    some (.awaitingBody socket packet.length (packet.take received))

/-- What a state goes on from is there: a round, the rest of the query, the rest of the buffer. -/
def InRange (t : Transmission) : State → Prop
  | .awaitingDatagram _ => t.round < roundCount
  | .sending _ sent => sent < t.query.length
  | .awaitingBody _ packet received => received < packet.length
  | .idle | .connecting _ | .awaitingHigh _ | .awaitingLow _ _ => True

/-- The fields of a query to send are set; the id is that of an earlier attempt. -/
structure Asks (t : Transmission) (query : Query) (servers : Servers) : Prop where
  isName : Name.IsName query.name
  framed : ∃ id, t.query = query.framed id
  qtype_eq : t.qtype = query.qtype
  servers_eq : t.servers = servers
  packet_eq : t.packet = none

/-- Changes of other fields leave the query to send. -/
theorem Asks.of_fields {t' : Transmission} (h : t.Asks query servers)
    (hframed : ∃ id, t'.query = query.framed id) (hqtype : t'.qtype = t.qtype)
    (hservers : t'.servers = t.servers) (hpacket : t'.packet = t.packet) :
    t'.Asks query servers :=
  ⟨h.isName, hframed, hqtype.trans h.qtype_eq, hservers.trans h.servers_eq,
    hpacket.trans h.packet_eq⟩

/-- The attempt that was made last is in the fields, and the cursor is on its server. -/
structure Aimed (t : Transmission) (attempt : Attempt) : Prop where
  asks : t.Asks attempt.query attempt.servers
  query_eq : t.query = attempt.frame
  stamped_eq : t.stamped = some attempt.id
  slot_lt : t.slot < maxServers
  occupied : (t.servers.get? t.slot).isSome

/-- Changes of other fields leave the attempt. -/
theorem Aimed.of_fields {t' : Transmission} (h : t.Aimed attempt) (hquery : t'.query = t.query)
    (hqtype : t'.qtype = t.qtype) (hservers : t'.servers = t.servers)
    (hpacket : t'.packet = t.packet) (hstamped : t'.stamped = t.stamped)
    (hslot : t'.slot = t.slot) : t'.Aimed attempt where
  asks := h.asks.of_fields (hquery ▸ h.asks.framed) hqtype hservers hpacket
  query_eq := hquery.trans h.query_eq
  stamped_eq := hstamped.trans h.stamped_eq
  slot_lt := hslot ▸ h.slot_lt
  occupied := hservers ▸ hslot ▸ h.occupied

/-- The attempt stays while its state is moved out. -/
theorem Aimed.rest (h : t.Aimed attempt) : { t with state := .idle }.Aimed attempt :=
  h.of_fields rfl rfl rfl rfl rfl rfl

/-- An attempt is in flight. -/
structure InFlight (t : Transmission) (attempt : Attempt) (wire : Wire) : Prop where
  aimed : t.Aimed attempt
  wire_eq : t.state.wire? = some wire
  inRange : t.InRange t.state

theorem InFlight.state_ne (h : t.InFlight attempt wire) : t.state ≠ .idle := by
  intro hidle
  have hwire := h.wire_eq
  rw [hidle] at hwire
  exact nomatch hwire

/-- The fields are those of a session. -/
structure Represents (t : Transmission) (s : Session) : Prop where
  policy_eq : t.policy = s.policy
  round_eq : t.round = s.round
  slot_eq : t.slot = s.slot
  idle : ∀ reply, s.stage = .idle reply → t.state = .idle ∧ t.query = [] ∧ t.packet = reply
  waiting : ∀ attempt wire, s.stage = .waiting attempt wire →
    t.InFlight attempt wire ∧ t.deadline = s.deadline

/-- After a step the fields are those of the session after it, which waits for nothing but what was
asked; after a failure nothing is left. -/
structure Comes {ρ : Type} (asked : Option (Query × Servers)) (result : Except Failure ρ)
    (t : Transmission) (s : Session) : Prop where
  represents : t.Represents s
  concerns : s.Concerns asked
  failed : ∀ cause, result = .error cause → s.stage = .idle none

/-- A step comes to the same result, with no access out of range. -/
def Agree {ρ : Type} (asked : Option (Query × Servers))
    (x : Option (Except Failure ρ × Transmission × Generator))
    (y : Except Failure ρ × Session × Generator) : Prop :=
  ∃ t, x = some (y.1, t, y.2.2) ∧ Comes asked y.1 t y.2.1

theorem agree_free {ρ : Type} {cause : Failure} {g : Generator} (hpolicy : t.policy = s.policy)
    (hround : t.round = s.round) (hslot : t.slot = s.slot) :
    Agree (ρ := ρ) asked (some (.error cause, t.free, g)) (.error cause, s.free, g) := by
  refine ⟨_, rfl, ⟨hpolicy, hround, hslot, ?_, nofun⟩, nofun, fun _ _ => rfl⟩
  intro reply hstage
  exact ⟨rfl, rfl, Stage.idle.inj hstage⟩

theorem agree_waiting {g : Generator} (attempt : Attempt) (wire : Wire)
    (hpolicy : t.policy = s.policy) (hround : t.round = s.round) (hslot : t.slot = s.slot)
    (hdeadline : t.deadline = s.deadline) (hstage : s.stage = .waiting attempt wire)
    (h : t.InFlight attempt wire) :
    Agree (some (attempt.query, attempt.servers)) (some (.ok Progress.pending, t, g))
      (.ok Progress.pending, s, g) := by
  refine ⟨t, rfl, ⟨hpolicy, hround, hslot, ?_, ?_⟩, ?_, nofun⟩
  · intro reply hidle
    exact nomatch hstage.symm.trans hidle
  · intro other wire' hother
    obtain ⟨rfl, rfl⟩ := Stage.waiting.inj (hstage.symm.trans hother)
    exact ⟨h, hdeadline⟩
  · intro other wire' hother
    obtain ⟨rfl, rfl⟩ := Stage.waiting.inj (hstage.symm.trans hother)
    rfl

/-- Whether the query has its reply does not matter to who started it. -/
theorem agree_map {x : Turn} {y : Session.Turn} (h : Agree asked x y) :
    Agree asked (x.map fun (result, t, g) => (result.map fun _ => (), t, g))
      (y.1.map fun _ => (), y.2) := by
  obtain ⟨t, rfl, hcomes⟩ := h
  refine ⟨t, rfl, hcomes.represents, hcomes.concerns, fun cause hcause => ?_⟩
  obtain ⟨result, s, g⟩ := y
  cases result with
  | ok progress => exact nomatch hcause
  | error cause' => exact hcomes.failed cause' rfl

/-! ## Making attempts -/

/-- The table of times has every round. -/
theorem udpTimeouts_getElem? (policy : Policy) {round : Nat} (h : round < roundCount) :
    policy.udpTimeouts[round]? = some (policy.udpTimeout round) := by
  unfold Policy.udpTimeout
  rw [Vector.getElem?_eq_getElem h, List.getD_eq_getElem?_getD, Vector.getElem?_toList,
    Vector.getElem?_eq_getElem h, Option.getD_some]

/-- A datagram to a server is tried in step, if what follows a failure is in step. -/
theorem lockstep_tryUdp_server {ip : Ipv4} {rest : List Servers.Target} {g : Generator}
    (h : t.Asks query servers) (hpolicy : t.policy = s.policy) (hround : t.round < roundCount)
    (hslot : t.slot < maxServers) (hip : t.servers.get? t.slot = some ip)
    (hrest : ∀ id g', Lockstep (Agree (some (query, servers)))
      ({ t with
          query := query.framed id
          stamped := some id
          slot := t.slot + 1 }.tryUdp g')
      ({ s with round := t.round, slot := t.slot }.tryUdp query servers rest g')) :
    Lockstep (Agree (some (query, servers))) (t.tryUdp g)
      (s.tryUdp query servers (⟨t.round, t.slot, ip⟩ :: rest) g) := by
  obtain ⟨old, hquery⟩ := h.framed
  obtain ⟨policy, round, slot, deadline, stage⟩ := s
  obtain rfl : t.policy = policy := hpolicy
  obtain rfl := h.servers_eq
  rw [tryUdp, if_pos hround, if_pos hslot, hip, Session.tryUdp, hquery]
  unfold Session.aimedAt
  generalize g.id = drawn
  obtain ⟨id, g₁⟩ := drawn
  dsimp only
  -- whatever id was in the buffer, the query is framed with the new one after this
  rw [stamp?_framed]
  dsimp only
  rw [from?_framed_two]
  refine Lockstep.bind_same _ fun (opened, g₂) => ?_
  cases opened with
  | error cause => exact .done (agree_free rfl rfl rfl)
  | ok socket =>
    dsimp only
    refine Lockstep.bind_same _ fun sent => ?_
    cases sent with
    | true =>
      rw [if_pos rfl, if_pos rfl]
      refine Lockstep.bind_same _ fun now => ?_
      rw [udpTimeouts_getElem? _ hround]
      dsimp only
      cases now.add? (t.policy.udpTimeout t.round) with
      | none => exact .done (agree_free rfl rfl rfl)
      | some deadline =>
        refine .done (agree_waiting ⟨query, t.servers, id⟩ _ rfl rfl rfl rfl rfl ?_)
        exact ⟨⟨h.of_fields ⟨id, rfl⟩ rfl rfl rfl, rfl, rfl, hslot,
          Option.isSome_iff_exists.2 ⟨ip, hip⟩⟩, rfl, hround⟩
    | false =>
      rw [if_neg Bool.false_ne_true, if_neg Bool.false_ne_true]
      exact hrest id g₂

/-- The loop over rounds and places makes the attempts of the schedule from the cursors on. -/
theorem lockstep_tryUdp (h : t.Asks query servers) (hidle : t.state = .idle)
    (hpolicy : t.policy = s.policy)
    (hround : t.round < roundCount ∨ t.round = roundCount ∧ t.slot = 0) (g : Generator) :
    Lockstep (Agree (some (query, servers))) (t.tryUdp g)
      (s.tryUdp query servers (servers.schedule t.round t.slot) g) := by
  -- a round counts for one more than its places, so that turning to the next one leaves less to try
  induction hleft : (roundCount - t.round) * (maxServers + 1) + (maxServers - t.slot)
    using Nat.strongRecOn generalizing t s g with
  | ind left ih =>
    obtain rfl := h.servers_eq
    by_cases hlt : t.round < roundCount
    · by_cases hslot : t.slot < maxServers
      · have hless : (roundCount - t.round) * (maxServers + 1) + (maxServers - (t.slot + 1)) <
            left := by omega
        rw [Servers.schedule_of_lt hlt, Servers.targetsFrom_of_lt hslot, List.append_assoc,
          ← Servers.schedule_of_lt hlt]
        cases hip : t.servers.get? t.slot with
        | none =>
          have hasks : { t with slot := t.slot + 1 }.Asks query t.servers :=
            h.of_fields h.framed rfl rfl rfl
          rw [tryUdp, if_pos hlt, if_pos hslot, hip]
          exact ih _ hless hasks hidle hpolicy (.inl hlt) g rfl
        | some ip =>
          refine lockstep_tryUdp_server h hpolicy hlt hslot hip fun id g' => ?_
          have hasks : { t with
              query := query.framed id
              stamped := some id
              slot := t.slot + 1 }.Asks query t.servers := h.of_fields ⟨id, rfl⟩ rfl rfl rfl
          exact ih (s := { s with round := t.round, slot := t.slot }) _ hless hasks hidle hpolicy
            (.inl hlt) g' rfl
      · have hasks : { t with round := t.round + 1, slot := 0 }.Asks query t.servers :=
          h.of_fields h.framed rfl rfl rfl
        have hless : (roundCount - (t.round + 1)) * (maxServers + 1) + (maxServers - 0) < left := by
          have hrounds : roundCount - t.round = roundCount - (t.round + 1) + 1 := by omega
          rw [hrounds, Nat.add_mul] at hleft
          omega
        have hnext : t.round + 1 < roundCount ∨ t.round + 1 = roundCount ∧ 0 = 0 := by omega
        rw [tryUdp, if_pos hlt, if_neg hslot, Servers.schedule_of_lt hlt,
          Servers.targetsFrom_of_le (Nat.not_lt.1 hslot), List.nil_append]
        exact ih _ hless hasks hidle hpolicy hnext g rfl
    · obtain ⟨hlast, hfirst⟩ := hround.resolve_left hlt
      rw [tryUdp, if_neg hlt, Servers.schedule_of_le (Nat.not_lt.1 hlt), Session.tryUdp]
      exact .done (agree_free hpolicy hlast hfirst)

/-- A stream to a server is tried in step, if what follows a failure is in step. -/
theorem lockstep_tryTcp_server {ip : Ipv4} {rest : List Servers.Target} {g : Generator}
    (h : t.Asks query servers) (hpolicy : t.policy = s.policy) (hround : t.round = s.round)
    (hslot : t.slot < maxServers) (hip : t.servers.get? t.slot = some ip)
    (hrest : ∀ id deadline g', Lockstep (Agree (some (query, servers)))
      ({ t with
          query := query.framed id
          stamped := some id
          deadline := deadline
          slot := t.slot + 1 }.tryTcp g')
      ({ s with slot := t.slot }.tryTcp query servers rest g')) :
    Lockstep (Agree (some (query, servers))) (t.tryTcp g)
      (s.tryTcp query servers (⟨t.round, t.slot, ip⟩ :: rest) g) := by
  obtain ⟨old, hquery⟩ := h.framed
  obtain ⟨policy, round, slot, deadline, stage⟩ := s
  obtain rfl : t.policy = policy := hpolicy
  obtain rfl : t.round = round := hround
  obtain rfl := h.servers_eq
  rw [tryTcp, if_pos hslot, hip, Session.tryTcp, hquery]
  generalize g.id = drawn
  obtain ⟨id, g₁⟩ := drawn
  dsimp only
  rw [stamp?_framed]
  dsimp only
  refine Lockstep.bind_same _ fun (opened, g₂) => ?_
  cases opened with
  | error cause => exact .done (agree_free rfl rfl rfl)
  | ok socket =>
    dsimp only
    refine Lockstep.bind_same _ fun now => ?_
    cases now.add? t.policy.tcpTimeout with
    | none => exact .done (agree_free rfl rfl rfl)
    | some deadline =>
      dsimp only
      refine Lockstep.bind_same _ fun connection => ?_
      cases connection with
      | connected =>
        refine .done (agree_waiting ⟨query, t.servers, id⟩ _ rfl rfl rfl rfl rfl ?_)
        exact ⟨⟨h.of_fields ⟨id, rfl⟩ rfl rfl rfl, rfl, rfl, hslot,
          Option.isSome_iff_exists.2 ⟨ip, hip⟩⟩, rfl, Query.length_framed_pos⟩
      | inProgress =>
        refine .done (agree_waiting ⟨query, t.servers, id⟩ _ rfl rfl rfl rfl rfl ?_)
        exact ⟨⟨h.of_fields ⟨id, rfl⟩ rfl rfl rfl, rfl, rfl, hslot,
          Option.isSome_iff_exists.2 ⟨ip, hip⟩⟩, rfl, trivial⟩
      | failed cause => exact hrest id deadline g₂

/-- The loop over the places makes the attempts from the cursor on. -/
theorem lockstep_tryTcp (h : t.Asks query servers) (hidle : t.state = .idle)
    (hpolicy : t.policy = s.policy) (hround : t.round = s.round) (hslot : t.slot ≤ maxServers)
    (g : Generator) :
    Lockstep (Agree (some (query, servers))) (t.tryTcp g)
      (s.tryTcp query servers (servers.targetsFrom t.round t.slot) g) := by
  induction hleft : maxServers - t.slot generalizing t s g with
  | zero =>
    have hlast : t.slot = maxServers := by omega
    rw [tryTcp, if_neg (by omega), Servers.targetsFrom_of_le (by omega), Session.tryTcp]
    exact .done (agree_free hpolicy hround hlast)
  | succ left ih =>
    obtain rfl := h.servers_eq
    have hlt : t.slot < maxServers := by omega
    have hless : maxServers - (t.slot + 1) = left := by omega
    rw [Servers.targetsFrom_of_lt hlt]
    cases hip : t.servers.get? t.slot with
    | none =>
      have hasks : { t with slot := t.slot + 1 }.Asks query t.servers :=
        h.of_fields h.framed rfl rfl rfl
      rw [tryTcp, if_pos hlt, hip]
      exact ih hasks hidle hpolicy hround hlt g hless
    | some ip =>
      refine lockstep_tryTcp_server h hpolicy hround hlt hip fun id deadline g' => ?_
      have hasks : { t with
          query := query.framed id
          stamped := some id
          deadline := deadline
          slot := t.slot + 1 }.Asks query t.servers := h.of_fields ⟨id, rfl⟩ rfl rfl rfl
      exact ih (s := { s with slot := t.slot }) hasks hidle hpolicy hround hlt g' hless

theorem lockstep_thisUdp (h : t.Asks query servers) (hpolicy : t.policy = s.policy)
    (hround : t.round < roundCount) (g : Generator) :
    Lockstep (Agree (some (query, servers))) (t.thisUdp g)
      (s.tryUdp query servers (servers.schedule t.round t.slot) g) := by
  have hasks : { t with state := .idle }.Asks query servers :=
    h.of_fields h.framed rfl rfl rfl
  exact lockstep_tryUdp hasks rfl hpolicy (.inl hround) g

theorem lockstep_thisTcp (h : t.Asks query servers) (hpolicy : t.policy = s.policy)
    (hround : t.round = s.round) (hslot : t.slot ≤ maxServers) (g : Generator) :
    Lockstep (Agree (some (query, servers))) (t.thisTcp g)
      (s.tryTcp query servers (servers.targetsFrom t.round t.slot) g) := by
  have hasks : { t with state := .idle, packet := none }.Asks query servers :=
    h.of_fields h.framed rfl rfl h.packet_eq.symm
  exact lockstep_tryTcp hasks rfl hpolicy hround hslot g

/-! ## Starting -/

/-- A query is put into the buffer as it is framed, with the id zero. -/
theorem asks_asking {name : Bytes} (t : Transmission) (servers : Servers) (recursive : Bool)
    (qtype : UInt16) (hname : Name.IsName name) (hpacket : t.packet = none) :
    (t.asking servers recursive name qtype).Asks ⟨name, qtype, recursive⟩ servers :=
  ⟨hname, ⟨0, rfl⟩, rfl, rfl, hpacket⟩

/-- Starting a query comes to the same, whatever was done before. -/
theorem lockstep_start (h : t.Represents s) (servers : Servers) (recursive : Bool) (name : Bytes)
    (qtype : UInt16) (g : Generator) :
    Lockstep (Agree (some (Session.errandQuery recursive name qtype, servers)))
      (t.start servers recursive name qtype g) (s.start servers recursive name qtype g) := by
  unfold start Session.start
  cases hlength : Name.length? name with
  | none => exact .done (agree_free h.policy_eq h.round_eq h.slot_eq)
  | some length =>
    obtain ⟨hle, hname⟩ := Name.length?_eq_some_iff.1 hlength
    have hslice : between? name 0 length = some (name.take length) :=
      if_pos ⟨Nat.zero_le _, hle⟩
    have hasks := asks_asking t.free servers recursive qtype hname rfl
    have hround : (t.free.asking servers recursive (name.take length) qtype).round <
        roundCount := by
      show (if recursive then 0 else 1) < roundCount
      cases recursive <;> decide
    rw [Session.errandQuery_eq hlength]
    dsimp only
    rw [hslice]
    dsimp only
    split
    · exact Lockstep.bind (lockstep_thisTcp
        (s := { s.free with round := if recursive then 0 else 1, slot := 0 })
        hasks h.policy_eq rfl (Nat.zero_le _) g) fun _ _ hagree => .done (agree_map hagree)
    · exact Lockstep.bind (lockstep_thisUdp
        (s := { s.free with round := if recursive then 0 else 1, slot := 0 })
        hasks h.policy_eq hround g) fun _ _ hagree => .done (agree_map hagree)

/-! ## Looking at the socket -/

/-- What a look at the socket comes to, by what becomes of the attempt. -/
inductive Sees (t : Transmission) : Look → Session.Move → Prop
  | stay {state : State} {wire : Wire} (hwire : state.wire? = some wire)
      (hrange : t.InRange state) :
      Sees t (some (t, state, .wait)) (.stay wire)
  | stayUntil {state : State} {wire : Wire} (deadline : Instant) (hwire : state.wire? = some wire)
      (hrange : t.InRange state) :
      Sees t (some ({ t with deadline := deadline }, state, .wait)) (.stayUntil deadline wire)
  | nextUdp (hround : t.round < roundCount) : Sees t (some (t, .idle, .nextUdp)) .nextUdp
  | firstTcp : Sees t (some (t, .idle, .firstTcp)) .firstTcp
  | nextTcp : Sees t (some (t, .idle, .nextTcp)) .nextTcp
  | accept (reply : Bytes) : Sees t (some (t, .idle, .accept reply)) (.accept reply)
  | overflow : Sees t (some (t, .idle, .overflow)) .overflow

variable {socket : Socket}

theorem sees_judgeDatagram (h : t.Aimed attempt) (hround : t.round < roundCount) (reply : Bytes) :
    Sees t (t.judgeDatagram socket reply)
      (Session.judgeDatagram attempt t.round (.awaitingDatagram socket) reply) := by
  have hstays : Sees t (some (t, .awaitingDatagram socket, .wait))
    (.stay (.awaitingDatagram socket)) := .stay rfl hround
  unfold judgeDatagram Session.judgeDatagram
  rw [irrelevant?_eq h.query_eq h.asks.qtype_eq h.asks.isName]
  dsimp only
  split
  · exact hstays
  · split
    · exact hstays
    · split
      · exact .firstTcp
      · split
        · split
          · exact hstays
          · exact .nextUdp hround
        · exact .accept reply

theorem sees_judgeMessage (h : t.Aimed attempt) (reply : Bytes) :
    Sees t (t.judgeMessage reply) (Session.judgeMessage attempt reply) := by
  unfold judgeMessage Session.judgeMessage
  rw [irrelevant?_eq h.query_eq h.asks.qtype_eq h.asks.isName]
  dsimp only
  cases attempt.isAnsweredBy reply <;> cases Packet.wantsTcp reply <;>
    cases Packet.serverFailed reply
  case true.false.false => exact .accept reply
  all_goals exact .nextTcp

theorem lockstep_awaitingDatagram (h : t.Aimed attempt) (hround : t.round < roundCount) :
    Lockstep (Sees t) (t.step (.awaitingDatagram socket))
      (Session.stepWire t.policy attempt t.round (.awaitingDatagram socket)) := by
  have hstays : Sees t (some (t, .awaitingDatagram socket, .wait))
    (.stay (.awaitingDatagram socket)) := .stay rfl hround
  unfold step Session.stepWire Session.stepDatagram
  refine Lockstep.bind_same _ fun transfer => ?_
  cases transfer with
  | blocked => exact .done hstays
  | failed cause =>
    dsimp only
    split
    · exact .done hstays
    · exact .done (.nextUdp hround)
  | moved chunk =>
    obtain ⟨reply, hspace⟩ := chunk
    cases reply with
    | nil => exact .done (.nextUdp hround)
    | cons byte reply => exact .done (sees_judgeDatagram h hround _)

theorem lockstep_sending {sent : Nat} (h : t.Aimed attempt) (hsent : sent < t.query.length) :
    Lockstep (Sees t) (t.step (.sending socket sent))
      (Session.stepWire t.policy attempt t.round (.sending socket sent)) := by
  have hrest : from? t.query sent = some (t.query.drop sent) := if_pos (Nat.le_of_lt hsent)
  unfold step Session.stepWire
  dsimp only
  rw [hrest]
  have hquery : attempt.query.framed attempt.id = t.query := h.query_eq.symm
  rw [hquery]
  refine Lockstep.bind_same _ fun transfer => ?_
  cases transfer with
  | blocked => exact .done (.stay rfl hsent)
  | failed cause => exact .done .nextTcp
  | moved n =>
    obtain ⟨n, hn⟩ := n
    cases n with
    | zero => exact .done .nextTcp
    | succ n =>
      show Lockstep (Sees t) (ite (sent + (n + 1) = t.query.length) _ _)
        (ite (sent + (n + 1) = t.query.length) _ _)
      split
      · refine Lockstep.bind_same _ fun now => ?_
        cases now.add? t.policy.tcpTimeout with
        | none => exact .done .overflow
        | some deadline => exact .done (.stayUntil deadline rfl trivial)
      · refine .done (.stay rfl ?_)
        rw [List.length_drop] at hn
        show sent + (n + 1) < t.query.length
        omega

/-- Bytes that come in overwrite as many of a buffer, and there is a rest of it if they do not reach
its end. -/
theorem fill {packet chunk : Bytes} {received : Nat} (hreceived : received < packet.length)
    (hchunk : chunk.length ≤ packet.length - received) :
    let filled := packet.take received ++ (chunk ++ (packet.drop received).drop chunk.length)
    filled.length = packet.length ∧
      filled.take (received + chunk.length) = packet.take received ++ chunk ∧
      (packet.length ≤ received + chunk.length → filled = packet.take received ++ chunk) := by
  have htaken : (packet.take received).length = received :=
    List.length_take_of_le (Nat.le_of_lt hreceived)
  refine ⟨?_, ?_, fun hfull => ?_⟩
  · simp only [List.length_append, List.length_drop, htaken]
    omega
  · rw [← List.append_assoc, List.take_left' (by rw [List.length_append, htaken])]
  · rw [List.drop_drop, List.drop_eq_nil_of_le hfull, List.append_nil]

theorem lockstep_awaitingBody {packet : Bytes} {received : Nat} (h : t.Aimed attempt)
    (hreceived : received < packet.length) :
    Lockstep (Sees t) (t.step (.awaitingBody socket packet received))
      (Session.stepWire t.policy attempt t.round
        (.awaitingBody socket packet.length (packet.take received))) := by
  have hrest : from? packet received = some (packet.drop received) :=
    if_pos (Nat.le_of_lt hreceived)
  have htaken : (packet.take received).length = received :=
    List.length_take_of_le (Nat.le_of_lt hreceived)
  unfold step Session.stepWire
  dsimp only
  rw [hrest]
  refine Lockstep.receive (by rw [List.length_drop, htaken]) (.done (.stay rfl hreceived))
    (fun _ => .done .nextTcp) fun chunk hchunk _ => ?_
  cases chunk with
  | nil => exact .done .nextTcp
  | cons byte chunk =>
    rw [List.length_drop] at hchunk
    obtain ⟨hlength, hfront, hwhole⟩ := fill hreceived hchunk
    have hnew : (packet.take received ++ byte :: chunk).length =
        received + (byte :: chunk).length := by
      rw [List.length_append, htaken]
    dsimp only
    rw [hlength, hnew]
    split
    · next hpart =>
      refine .done (.stay ?_ ?_)
      · show some (Wire.awaitingBody socket _ _) = some (Wire.awaitingBody socket _ _)
        rw [hlength, hfront]
      · show received + (byte :: chunk).length < List.length _
        rw [hlength]
        exact hpart
    · next hfull =>
      rw [hwhole (Nat.not_lt.1 hfull)]
      exact .done (sees_judgeMessage h _)

/-- A look at the socket of an attempt comes to the same in every state. -/
theorem lockstep_step {state : State} (h : t.Aimed attempt) (hwire : state.wire? = some wire)
    (hrange : t.InRange state) :
    Lockstep (Sees t) (t.step state) (Session.stepWire t.policy attempt t.round wire) := by
  cases state with
  | idle => exact nomatch hwire
  | awaitingDatagram socket =>
    obtain rfl := Option.some.inj hwire
    exact lockstep_awaitingDatagram h hrange
  | connecting socket =>
    obtain rfl := Option.some.inj hwire
    unfold step Session.stepWire
    refine Lockstep.bind_same _ fun connected => ?_
    cases connected with
    | true =>
      refine .done (.stay rfl ?_)
      show 0 < t.query.length
      rw [h.query_eq]
      exact Query.length_framed_pos
    | false => exact .done .nextTcp
  | sending socket sent =>
    obtain rfl := Option.some.inj hwire
    exact lockstep_sending h hrange
  | awaitingHigh socket =>
    obtain rfl := Option.some.inj hwire
    unfold step Session.stepWire
    refine Lockstep.receive rfl (.done (.stay rfl trivial)) (fun _ => .done .nextTcp) ?_
    intro chunk hchunk _
    cases chunk with
    | nil => exact .done .nextTcp
    | cons high rest => exact .done (.stay rfl trivial)
  | awaitingLow socket high =>
    obtain rfl := Option.some.inj hwire
    unfold step Session.stepWire
    refine Lockstep.receive rfl (.done (.stay rfl trivial)) (fun _ => .done .nextTcp) ?_
    intro chunk hchunk _
    cases chunk with
    | nil => exact .done .nextTcp
    | cons low rest =>
      dsimp only
      split
      · exact .done .nextTcp
      · next hlength =>
        refine .done (.stay ?_ ?_)
        · show some (Wire.awaitingBody socket _ _) = some (Wire.awaitingBody socket _ _)
          rw [List.length_replicate, List.take_zero]
        · show 0 < List.length _
          rw [List.length_replicate]
          exact Nat.pos_of_ne_zero hlength
  | awaitingBody socket packet received =>
    obtain rfl := Option.some.inj hwire
    exact lockstep_awaitingBody h hrange

/-- A look at the attempt in flight comes to the same. -/
theorem lockstep_look (h : t.InFlight attempt wire) (hpolicy : t.policy = s.policy)
    (hround : t.round = s.round) (hdeadline : t.deadline = s.deadline) (ready : Bool)
    (now : Instant) :
    Lockstep (Sees { t with state := .idle }) (t.look ready now)
      (s.nextMove attempt wire ready now) := by
  unfold look Session.nextMove
  rw [← hpolicy, ← hround, ← hdeadline]
  cases ready with
  | true => exact lockstep_step h.aimed.rest h.wire_eq h.inRange
  | false =>
    rw [if_neg Bool.false_ne_true, if_neg Bool.false_ne_true]
    dsimp only
    split
    · exact .done (.stay h.wire_eq h.inRange)
    · have hwire := h.wire_eq
      have hrange := h.inRange
      cases hstate : t.state with
      | idle =>
        rw [hstate] at hwire
        exact nomatch hwire
      | awaitingDatagram socket =>
        rw [hstate] at hwire hrange
        obtain rfl := Option.some.inj hwire
        exact .done (.nextUdp hrange)
      | connecting | sending | awaitingHigh | awaitingLow | awaitingBody =>
        rw [hstate] at hwire
        obtain rfl := Option.some.inj hwire
        exact .done .nextTcp

/-! ## Going on -/

/-- What becomes of an attempt is carried out to the same end. -/
theorem lockstep_follow {look : Look} {move : Session.Move} (h : t.Aimed attempt)
    (hpolicy : t.policy = s.policy) (hround : t.round = s.round)
    (hslot : t.slot = s.slot) (hdeadline : t.deadline = s.deadline) (hsees : Sees t look move)
    (g : Generator) :
    Lockstep (Agree (some (attempt.query, attempt.servers)))
      (match look with
        | none => pure none
        | some (t, next, verdict) => follow { t with state := next } g verdict)
      (s.follow attempt g move) := by
  obtain ⟨policy, round, slot, deadline, stage⟩ := s
  obtain rfl : t.policy = policy := hpolicy
  obtain rfl : t.round = round := hround
  obtain rfl : t.slot = slot := hslot
  obtain rfl : t.deadline = deadline := hdeadline
  cases hsees with
  | @stay state wire hwire hrange =>
    refine .done (agree_waiting attempt wire rfl rfl rfl rfl rfl ?_)
    exact ⟨h.of_fields rfl rfl rfl rfl rfl rfl, hwire, hrange⟩
  | @stayUntil state wire deadline hwire hrange =>
    refine .done (agree_waiting attempt wire rfl rfl rfl rfl rfl ?_)
    exact ⟨h.of_fields rfl rfl rfl rfl rfl rfl, hwire, hrange⟩
  | nextUdp hlt =>
    exact lockstep_thisUdp (t := { t with state := .idle, slot := t.slot + 1 })
      (h.asks.of_fields h.asks.framed rfl rfl rfl) rfl hlt g
  | firstTcp =>
    exact lockstep_thisTcp (t := { t with state := .idle, slot := 0 })
      (h.asks.of_fields h.asks.framed rfl rfl rfl) rfl rfl (Nat.zero_le _) g
  | nextTcp =>
    exact lockstep_thisTcp (t := { t with state := .idle, slot := t.slot + 1 })
      (h.asks.of_fields h.asks.framed rfl rfl rfl) rfl rfl h.slot_lt g
  | accept reply =>
    refine .done ⟨_, rfl, ⟨rfl, rfl, rfl, fun other hother => ⟨rfl, rfl, ?_⟩, nofun⟩, nofun, nofun⟩
    exact Stage.idle.inj hother
  | overflow => exact .done (agree_free rfl rfl rfl)

/-- Letting a session go on comes to the same. -/
theorem lockstep_get (h : t.Represents s) (hasked : s.Concerns asked) (ready : Bool) (now : Instant)
    (g : Generator) : Lockstep (Agree asked) (t.get ready now g) (s.get ready now g) := by
  cases hstage : s.stage with
  | idle reply =>
    obtain ⟨hidle, -, hpacket⟩ := h.idle reply hstage
    unfold get Session.get
    rw [if_pos hidle, hpacket, hstage]
    cases reply with
    | none => exact .done ⟨t, rfl, h, hasked, fun _ _ => hstage⟩
    | some reply => exact .done ⟨t, rfl, h, hasked, nofun⟩
  | waiting attempt wire =>
    obtain ⟨hflight, hdeadline⟩ := h.waiting attempt wire hstage
    obtain rfl := hasked attempt wire hstage
    rw [Session.get_waiting hstage]
    unfold get
    rw [if_neg hflight.state_ne]
    exact Lockstep.bind (lockstep_look hflight h.policy_eq h.round_eq hdeadline ready now)
      fun look move hsees => lockstep_follow hflight.aimed.rest h.policy_eq h.round_eq h.slot_eq
        hdeadline hsees g

end Transmission

end Resolver
