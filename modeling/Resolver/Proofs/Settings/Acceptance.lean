import Resolver.Proofs.Session.Range
import Resolver.Settings.Basic

/-!
# Accepted settings

Settings are checked where they are read, and kept to where sessions run. What is accepted is what
sessions can keep to: every server listed has a place and is asked, and no wait takes less than a
second. One thing is not checked, that a wait is not too long: past the range of the clock there is
no deadline, and an errand breaks off.

Main statements: the settings accepted are the ones that make sense, and an errand under them asks
the servers and waits as they say (`accepted_honoured`); errands under them never break off for want
of clock exactly if their times to wait are in its range (`keepsTime_iff`).
-/

namespace Resolver.Settings

open Dialogue Session

variable {settings : Settings} {servers : Servers} {recursive : Bool} {name : Bytes}
  {qtype : UInt16} {trace : List Exchange} {result : Except Failure Progress} {s : Session}

/-! ## The check -/

/-- Settings make sense. -/
structure Sensible (settings : Settings) : Prop where
  someServer : settings.servers ≠ []
  roomForAll : settings.servers.length ≤ maxServers
  specified : .unspecified ∉ settings.servers
  udpTimeouts : 0 ∉ settings.udpTimeouts
  tcpTimeout : settings.tcpTimeout ≠ 0
  maxInflight : settings.maxInflight ≠ 0

/-- The settings accepted are the ones that make sense. -/
theorem validate_eq_ok_iff : settings.validate = .ok () ↔ settings.Sensible := by
  unfold validate
  constructor
  · intro h
    split at h
    case isTrue => contradiction
    rename_i hsome
    split at h
    case isTrue => contradiction
    rename_i hroom
    split at h
    case h_1 => contradiction
    rename_i hnone
    split at h
    case isTrue => contradiction
    rename_i hpositive
    split at h
    case isTrue => contradiction
    rename_i hinflight
    refine ⟨hsome, Nat.not_lt.1 hroom, fun hmem => ?_, fun hmem => ?_, fun hzero => ?_, hinflight⟩
    · exact List.find?_eq_none.1 hnone _ hmem (decide_eq_true rfl)
    · exact hpositive (.inl (Vector.contains_iff_mem.2 hmem))
    · exact hpositive (.inr hzero)
  · rintro ⟨hsome, hroom, hspecified, hudp, htcp, hinflight⟩
    have hnone : settings.servers.find? (· = .unspecified) = none :=
      List.find?_eq_none.2 fun ip hmem hip => hspecified (of_decide_eq_true hip ▸ hmem)
    have hpositive : ¬ (settings.udpTimeouts.contains 0 = true ∨ settings.tcpTimeout = 0) := by
      rintro (hmem | hzero)
      · exact hudp (Vector.contains_iff_mem.1 hmem)
      · exact htcp hzero
    rw [if_neg hsome, if_neg (Nat.not_lt.2 hroom), hnone]
    dsimp only
    rw [if_neg hpositive, if_neg hinflight]

/-! ## Servers in their places -/

/-- The places hold the servers listed, and after them none. -/
theorem toList_slots (h : settings.Sensible) : settings.serverList.slots.toList =
    settings.servers ++ List.replicate (maxServers - settings.servers.length) .unspecified := by
  have hroom := h.roomForAll
  refine List.ext_getElem? fun i => ?_
  unfold serverList Servers.ofList
  rw [Vector.getElem?_toList, Vector.getElem?_ofFn, List.getElem?_append, List.getElem?_replicate]
  split
  case isTrue hi =>
    rw [List.getD_eq_getElem?_getD]
    split
    case isTrue hlisted => rw [List.getElem?_eq_getElem hlisted, Option.getD_some]
    case isFalse hbehind =>
      rw [List.getElem?_eq_none (Nat.not_lt.1 hbehind), Option.getD_none, if_pos (by omega)]
  case isFalse hi => rw [if_neg (by omega), if_neg (by omega)]

/-- Every server listed is in its place, and the other places are empty. -/
theorem get?_serverList (h : settings.Sensible) (i : Nat) :
    settings.serverList.get? i = settings.servers[i]? := by
  unfold Servers.get?
  rw [← Vector.getElem?_toList, toList_slots h, List.getElem?_append]
  split
  case isTrue hi =>
    rw [List.getElem?_eq_getElem hi, Option.filter_some, if_pos]
    exact decide_eq_true fun hip => h.specified (hip ▸ List.getElem_mem hi)
  case isFalse hi =>
    rw [List.getElem?_eq_none (Nat.not_lt.1 hi), List.getElem?_replicate]
    split <;> rfl

/-- The places in use are the servers listed. -/
theorem occupied_serverList (h : settings.Sensible) :
    settings.serverList.occupied = settings.servers.zipIdx := by
  have hlisted : ∀ place ∈ settings.servers.zipIdx, decide (place.1 ≠ .unspecified) = true := by
    intro place hplace
    exact decide_eq_true fun hip => h.specified (hip ▸ List.fst_mem_of_mem_zipIdx hplace)
  have hbehind : ∀ place ∈ (List.replicate (maxServers - settings.servers.length)
      Ipv4.unspecified).zipIdx settings.servers.length,
      ¬ decide (place.1 ≠ .unspecified) = true := by
    intro place hplace
    rw [List.eq_of_mem_replicate (List.fst_mem_of_mem_zipIdx hplace)]
    exact of_decide_eq_false rfl
  unfold Servers.occupied
  rw [toList_slots h, List.zipIdx_append, List.filter_append, Nat.zero_add,
    List.filter_eq_self.2 hlisted, List.filter_eq_nil_iff.2 hbehind, List.append_nil]

/-! ## Asking in turn -/

/-- Whom an errand asks with datagrams and in which round, if it asks everyone: in each round the
servers listed, in their order. -/
def agenda (settings : Settings) (recursive : Bool) : List (Nat × Ipv4) :=
  (List.range' (firstRound recursive) (roundCount - firstRound recursive)).flatMap fun round =>
    settings.servers.map fun ip => (round, ip)

theorem map_itinerary (h : settings.Sensible) (recursive : Bool) :
    (settings.serverList.itinerary (firstRound recursive)).map
      (fun target => (target.round, target.ip)) = settings.agenda recursive := by
  unfold Servers.itinerary Servers.targetsOf agenda
  rw [occupied_serverList h, List.map_flatMap]
  congr 1
  funext round
  rw [List.map_map]
  calc settings.servers.zipIdx.map _
      = (settings.servers.zipIdx.map Prod.fst).map fun ip => (round, ip) := by
        rw [List.map_map]
        rfl
    _ = settings.servers.map fun ip => (round, ip) := by rw [List.zipIdx_map_fst]

/-! ## Waiting -/

/-- How many seconds settings say to wait. -/
def seconds (settings : Settings) : Wait → Nat
  | .datagram r => (settings.udpTimeouts[r]?.getD 0).toNat
  | .connection | .reply => settings.tcpTimeout.toNat

theorem seconds_datagram {round : Nat} (h : round < roundCount) :
    settings.seconds (.datagram round) = settings.udpTimeouts[round].toNat := by
  show (settings.udpTimeouts[round]?.getD 0).toNat = _
  rw [Vector.getElem?_eq_getElem h, Option.getD_some]

/-- Sessions wait as long as settings say. -/
theorem allowance_policy (wait : Wait) :
    settings.policy.allowance wait = Duration.seconds (settings.seconds wait) := by
  cases wait with
  | connection | reply => rfl
  | datagram round =>
    show (settings.udpTimeouts.map fun secs => Duration.seconds secs.toNat).toList.getD round 0 =
      Duration.seconds (settings.udpTimeouts[round]?.getD 0).toNat
    rw [List.getD_eq_getElem?_getD, Vector.getElem?_toList, Vector.getElem?_map]
    cases settings.udpTimeouts[round]? with
    | none => rfl
    | some secs => rfl

/-- No wait of an errand takes no time. -/
theorem seconds_pos (h : settings.Sensible) {wait : Wait} {now : Instant}
    (hwait : (wait, now) ∈ begunWaits servers recursive trace) : 0 < settings.seconds wait := by
  have hpos : ∀ secs : UInt64, secs ≠ 0 → 0 < secs.toNat := fun secs hsecs =>
    Nat.pos_of_ne_zero fun hzero => hsecs (UInt64.toNat_inj.1 hzero)
  cases wait with
  | connection | reply => exact hpos _ h.tcpTimeout
  | datagram round =>
    rw [seconds_datagram (lt_of_mem_begunWaits hwait)]
    exact hpos _ fun hzero => h.udpTimeouts (hzero ▸ Vector.getElem_mem _)

/-! ## Keeping to settings -/

/-- An errand has asked these servers, with datagrams and over streams, as settings say. -/
structure AsksInTurn (settings : Settings) (recursive : Bool) (trace : List Exchange)
    (result : Except Failure Progress) (s : Session) (sent : List (Nat × Ipv4))
    (tried : List Ipv4) : Prop where
  made_eq : (Journal.observer.after .blank trace).made =
    sent.map (fun attempt => (.udp, attempt.2)) ++ tried.map fun ip => (.tcp, ip)
  /-- Every round asks the servers listed in their order, and so do the streams. -/
  sent_prefix : sent <+: settings.agenda recursive
  tried_prefix : tried <+: settings.servers
  /-- No server is left out before the errand is given up. -/
  spent : result = .error .exhausted →
    sent = settings.agenda recursive ∧ tried = [] ∨ tried = settings.servers
  /-- The session waits for the attempt made last. -/
  last : ∀ attempt wire, s.stage = .waiting attempt wire →
    if wire.isDatagram then tried = [] ∧ ∃ ip, sent.getLast? = some (s.round, ip) else tried ≠ []

/-- An errand has waited as settings say. -/
structure WaitsAsSet (settings : Settings) (recursive : Bool) (trace : List Exchange)
    (result : Except Failure Progress) (s : Session) : Prop where
  /-- The waits begin at the readings of the clock, and each takes a second at least. -/
  begun : (begunWaits settings.serverList recursive trace).map Prod.snd = readings trace
  positive : ∀ wait now, (wait, now) ∈ begunWaits settings.serverList recursive trace →
    1 ≤ settings.seconds wait
  /-- The wait begun last is the one for the session's attempt, and the deadline is as many seconds
  behind its beginning as settings say. -/
  deadline : result = .ok .pending → ∃ attempt wire before now, s.stage = .waiting attempt wire ∧
    begunWaits settings.serverList recursive trace = before ++ [(wire.wait s.round, now)] ∧
    s.deadline = ⟨now.nanos + Duration.seconds (settings.seconds (wire.wait s.round))⟩
  /-- Before the deadline time changes nothing, and then the attempt is given up. -/
  patience : ∀ attempt wire now g, s.stage = .waiting attempt wire →
    s.get false now g = if now.before s.deadline then pure (.ok .pending, s, g)
      else s.follow attempt g (if wire.isDatagram then .nextUdp else .nextTcp)
  /-- The errand breaks off where a wait has no deadline in the range of the clock. -/
  overflow_iff : result = .error .clockOverflow ↔ ∃ wait now,
    (wait, now) ∈ begunWaits settings.serverList recursive trace ∧
      Instant.limit ≤ now.nanos + Duration.seconds (settings.seconds wait)

theorem exists_asksInTurn (h : settings.Sensible)
    (run : Errand settings.serverList recursive name qtype trace result s) :
    ∃ sent tried, settings.AsksInTurn recursive trace result s sent tried := by
  obtain ⟨targets, places, hcharted, hspent⟩ := exists_charted run
  have hplaces : settings.serverList.occupied.map Prod.fst = settings.servers := by
    rw [occupied_serverList h, List.zipIdx_map_fst]
  refine ⟨targets.map fun target => (target.round, target.ip), places.map Prod.fst, ?_⟩
  constructor
  case made_eq =>
    rw [hcharted.made_eq, datagrams, streams, List.map_map, List.map_map]
    rfl
  case sent_prefix =>
    rw [← map_itinerary h]
    exact hcharted.sent_prefix.map _
  case tried_prefix =>
    rw [← hplaces]
    exact hcharted.tried_prefix.map _
  case spent =>
    intro hexhausted
    rcases hspent hexhausted with ⟨rfl, rfl⟩ | rfl
    · exact .inl ⟨map_itinerary h recursive, rfl⟩
    · exact .inr hplaces
  case last =>
    intro attempt wire hstage
    obtain ⟨-, -, hlast⟩ := hcharted.atLast _ _ hstage
    cases hkind : wire.isDatagram with
    | true =>
      rw [hkind] at hlast
      obtain ⟨rfl, target, htarget, hround, -⟩ := hlast
      refine ⟨rfl, target.ip, ?_⟩
      rw [List.getLast?_map, htarget, hround]
      rfl
    | false =>
      rw [hkind] at hlast
      obtain ⟨ip, hplace⟩ := hlast
      intro hnone
      obtain rfl := List.map_eq_nil_iff.1 hnone
      cases hplace

theorem waitsAsSet (h : settings.Sensible)
    (run : Errand settings.serverList recursive name qtype trace result s)
    (hpolicy : s.policy = settings.policy) : settings.WaitsAsSet recursive trace result s := by
  constructor
  case begun => exact map_begunWaits
  case positive => exact fun wait now hwait => seconds_pos h hwait
  case deadline =>
    rintro rfl
    cases run.timed with
    | ended hended => exact absurd rfl hended
    | @waits _ attempt wire hstage =>
      obtain ⟨before, now, hbegun, hdeadline⟩ := run.deadline hstage
      rw [hpolicy, allowance_policy, Instant.add?_eq_some_iff] at hdeadline
      exact ⟨attempt, wire, before, now, hstage, hbegun, hdeadline.2⟩
  case patience =>
    intro attempt wire now g hstage
    rw [get_false_eq hstage]
    split
    · exact follow_stay hstage g
    · rfl
  case overflow_iff =>
    rw [run.overflow_iff, hpolicy]
    simp only [allowance_policy, Instant.add?_eq_none_iff]

/-- Settings are accepted exactly if they make sense. Under accepted settings every server listed
has its place, and an errand asks the servers in their order and waits for each attempt as many
seconds as settings say, unless a wait has no deadline in the range of the clock. -/
theorem accepted_honoured (settings : Settings) :
    (settings.validate = .ok () ↔ settings.Sensible) ∧
      (settings.validate = .ok () →
        (1 ≤ settings.servers.length ∧ settings.servers.length ≤ 16) ∧
        (∀ i, settings.serverList.get? i = settings.servers[i]?) ∧
        ∀ recursive name qtype trace result s,
          Errand settings.serverList recursive name qtype trace result s →
          s.policy = settings.policy →
          (∃ sent tried, settings.AsksInTurn recursive trace result s sent tried) ∧
            settings.WaitsAsSet recursive trace result s) := by
  refine ⟨validate_eq_ok_iff, fun haccepted => ?_⟩
  have h := validate_eq_ok_iff.1 haccepted
  refine ⟨⟨List.length_pos_iff.2 h.someServer, h.roomForAll⟩, get?_serverList h, ?_⟩
  intro recursive name qtype trace result s run hpolicy
  exact ⟨exists_asksInTurn h run, waitsAsSet h run hpolicy⟩

/-- A query under the settings used where nothing is set waits for the one server. -/
theorem accepted_honoured_standard :
    standard.validate = .ok () ∧ ∃ trace s,
      Errand standard.serverList true [1, 97, 0] 1 trace (.ok .pending) s ∧
      s.policy = standard.policy ∧
      (∃ sent tried, standard.AsksInTurn true trace (.ok .pending) s sent tried) ∧
        standard.WaitsAsSet true trace (.ok .pending) s := by
  have haccepted : standard.validate = .ok () := by cbv
  have hlength : Name.length? [1, 97, 0] = some 3 := by cbv
  have hschedule : standard.serverList.schedule (firstRound true) 0 =
      ⟨0, 0, .localhost⟩ :: standard.serverList.schedule 1 0 := by decide
  have hdeadline : (⟨0⟩ : Instant).add? (standard.policy.udpTimeout 0) =
      some ⟨Duration.seconds 1⟩ := by cbv
  let attempt : Attempt :=
    ⟨errandQuery true [1, 97, 0] 1, standard.serverList, (Generator.ofSeed []).id.1⟩
  obtain ⟨trace, g, hstart⟩ : ∃ trace g, Course
      ((new standard.policy).start standard.serverList true [1, 97, 0] 1 (.ofSeed [])) trace
      (.ok (), ⟨standard.policy, 0, 0, _, .waiting attempt (.awaitingDatagram 3)⟩, g) :=
    exists_start ⟨0, 0, .localhost⟩ 3 ⟨0⟩ (.ofSeed []) hlength hschedule hdeadline
  have run := Errand.started hstart
  obtain ⟨-, -, hhonoured⟩ := (accepted_honoured standard).2 haccepted
  exact ⟨haccepted, trace, _, run, rfl, hhonoured _ _ _ _ _ _ run rfl⟩

/-! ## The range of the clock -/

/-- Settings by which every wait is past the range of the clock. -/
def boundless : Settings :=
  { standard with
    udpTimeouts := .replicate roundCount 0xFFFFFFFFFFFFFFFF, tcpTimeout := 0xFFFFFFFFFFFFFFFF }

theorem seconds_boundless {wait : Wait} {now : Instant}
    (hwait : (wait, now) ∈ begunWaits servers recursive trace) :
    boundless.seconds wait = 0xFFFFFFFFFFFFFFFF := by
  cases wait with
  | connection | reply => rfl
  | datagram round =>
    rw [seconds_datagram (lt_of_mem_begunWaits hwait), boundless, Vector.getElem_replicate]
    rfl

/-- These settings are accepted, but no errand under them waits for anything: it breaks off where
the first wait would begin. -/
theorem boundless_breaksOff :
    boundless.validate = .ok () ∧
      (∃ trace s, Errand boundless.serverList true [1, 97, 0] 1 trace (.error .clockOverflow) s ∧
        s.policy = boundless.policy) ∧
      ∀ recursive name qtype trace s,
        Errand boundless.serverList recursive name qtype trace (.ok .pending) s →
        s.policy ≠ boundless.policy := by
  refine ⟨by cbv, ?_, ?_⟩
  · have hservers : boundless.serverList.occupied ≠ [] := by decide
    have hnone : (⟨0⟩ : Instant).add? boundless.policy.tcpTimeout = none := by decide
    obtain ⟨trace, s, run, hpolicy, -⟩ := exists_overflow_of_stream hservers hnone
    exact ⟨trace, s, run, hpolicy⟩
  · intro recursive name qtype trace s run hpolicy
    cases run.timed with
    | ended hended => exact absurd rfl hended
    | waits hstage =>
      obtain ⟨before, now, hbegun, hdeadline⟩ := run.deadline hstage
      have hlong := seconds_boundless (hbegun ▸ List.mem_append_right before List.mem_cons_self)
      rw [hpolicy, allowance_policy, hlong, Instant.add?_eq_some_iff] at hdeadline
      obtain ⟨hlt, -⟩ := hdeadline
      unfold Duration.seconds Instant.limit at hlt
      omega

/-- While the clock has not gone beyond a reading, every deadline that an errand under settings
computes is in its range, and no errand breaks off for want of clock. -/
def KeepsTime (settings : Settings) (latest : Instant) : Prop :=
  ∀ recursive name qtype trace result s,
    Errand settings.serverList recursive name qtype trace result s → s.policy = settings.policy →
    (∀ reading ∈ readings trace, reading.nanos ≤ latest.nanos) →
    result ≠ .error .clockOverflow ∧
      ∀ wait now, (wait, now) ∈ begunWaits settings.serverList recursive trace →
        ∃ deadline, now.add? (settings.policy.allowance wait) = some deadline

theorem keepsTime_iff_not_exists {latest : Instant} : settings.KeepsTime latest ↔
    ¬ ∃ recursive name qtype trace s,
      Errand settings.serverList recursive name qtype trace (.error .clockOverflow) s ∧
        s.policy = settings.policy ∧ ∀ reading ∈ readings trace, reading.nanos ≤ latest.nanos := by
  constructor
  · rintro hkeeps ⟨recursive, name, qtype, trace, s, run, hpolicy, hlatest⟩
    exact (hkeeps _ _ _ _ _ _ run hpolicy hlatest).1 rfl
  · intro hnever recursive name qtype trace result s run hpolicy hlatest
    have hresult : result ≠ .error .clockOverflow := by
      rintro rfl
      exact hnever ⟨recursive, name, qtype, trace, s, run, hpolicy, hlatest⟩
    refine ⟨hresult, fun wait now hwait => ?_⟩
    cases hdeadline : now.add? (settings.policy.allowance wait) with
    | some deadline => exact ⟨deadline, rfl⟩
    | none => exact absurd (run.overflow_iff.2 ⟨wait, now, hwait, hpolicy ▸ hdeadline⟩) hresult

/-- The deadlines under accepted settings are in the range of the clock exactly if no time to wait
is too long from the latest reading on. -/
theorem keepsTime_iff {settings : Settings} (h : settings.validate = .ok ()) (latest : Instant) :
    settings.KeepsTime latest ↔
      (∀ secs ∈ settings.udpTimeouts, latest.nanos + Duration.seconds secs.toNat < Instant.limit) ∧
        latest.nanos + Duration.seconds settings.tcpTimeout.toNat < Instant.limit := by
  have hsensible := validate_eq_ok_iff.1 h
  have hservers : settings.serverList.occupied ≠ [] := by
    rw [occupied_serverList hsensible]
    exact mt List.zipIdx_eq_nil_iff.1 hsensible.someServer
  have htimeout : ∀ round (hround : round < roundCount),
      settings.policy.udpTimeout round = Duration.seconds settings.udpTimeouts[round].toNat := by
    intro round hround
    rw [← seconds_datagram hround]
    exact allowance_policy (.datagram round)
  rw [keepsTime_iff_not_exists, exists_overflow_iff hservers]
  simp only [not_or, not_exists, not_and, Instant.add?_eq_none_iff, Nat.not_le]
  refine and_congr_left fun _ => ⟨fun hrounds secs hsecs => ?_, fun hall round hround => ?_⟩
  · obtain ⟨round, hround, rfl⟩ := Vector.mem_iff_getElem.1 hsecs
    rw [← htimeout round hround]
    exact hrounds round hround
  · rw [htimeout round hround]
    exact hall _ (Vector.getElem_mem hround)

/-- The settings used where nothing is set keep time until the last minute of the clock. -/
theorem keepsTime_standard :
    standard.validate = .ok () ∧ standard.KeepsTime ⟨Duration.seconds 0x7FFFFFFFFFFFFFC4⟩ := by
  have haccepted : standard.validate = .ok () := by cbv
  have hudp : ∀ round : Fin roundCount, Duration.seconds 0x7FFFFFFFFFFFFFC4 +
      Duration.seconds standard.udpTimeouts[round].toNat < Instant.limit := by decide
  refine ⟨haccepted, (keepsTime_iff haccepted _).2 ⟨fun secs hsecs => ?_, by decide⟩⟩
  obtain ⟨round, hround, rfl⟩ := Vector.mem_iff_getElem.1 hsecs
  exact hudp ⟨round, hround⟩

/-- Settings by which streams are waited for past the range of the clock. -/
def patient : Settings :=
  { standard with tcpTimeout := 0xFFFFFFFFFFFFFFFF }

/-- These settings are accepted, but whatever the clock reads, there is a network with which an
errand under them breaks off. -/
theorem patient_breaksOff :
    patient.validate = .ok () ∧ ∀ now : Instant, ∃ trace s,
      Errand patient.serverList true [1, 97, 0] 1 trace (.error .clockOverflow) s ∧
        s.policy = patient.policy ∧ ∀ reading ∈ readings trace, reading = now := by
  refine ⟨by cbv, fun now => exists_overflow_of_stream (by decide) ?_⟩
  exact Instant.add?_eq_none_iff.2 (Nat.le_trans (by decide) (Nat.le_add_left _ _))

end Resolver.Settings
