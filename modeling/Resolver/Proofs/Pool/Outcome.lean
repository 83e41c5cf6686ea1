import Resolver.Proofs.Pool.Iteration

/-!
# One outcome for all

The turnstile of a slot and the stage of its session are set apart from each other, and clients come
and go at any time. Whoever is told first how a query ended, everyone else who has a handle on the
slot, or gets one later, is told the same until the last handle is given back.

Main statements: the turnstile of a slot always fits its session (`Run.consistent`), a slot whose
outcome is known keeps it as long as there is a handle on it (`Meanwhile.settled`), and so all
clients of a slot share one outcome (`outcome_shared`).
-/

namespace Resolver

/-! ## Sessions that went on -/

/-- What the session of a slot is doing, by the turnstile of the slot. -/
def Turnstile.Fits (session : Session) : Turnstile → Prop
  | .needsWait | .needsGet => session.Waits
  | .answered => ∃ reply, session.stage = .idle (some reply)
  | .failed => session.stage = .idle none

/-- The outcome of a slot is known. -/
def Turnstile.Settled (turnstile : Turnstile) : Prop :=
  turnstile = .answered ∨ turnstile = .failed

/-- What is told of a slot without letting its session go on. -/
def Turnstile.told? : Turnstile → Option (Except PoolError Progress)
  | .needsWait => some (.ok .pending)
  | .needsGet => none
  | .answered => some (.ok .done)
  | .failed => some (.error (.session .exhausted))

/-- What is told of a slot shows its turnstile. -/
theorem Turnstile.told?_inj {turnstile turnstile' : Turnstile}
    (h : turnstile.told? = turnstile'.told?) : turnstile = turnstile' := by
  cases turnstile <;> cases turnstile' <;> first | rfl | exact nomatch h

namespace Session

open Dialogue

variable {query : Query} {servers : Servers} {s s' : Session} {g g' : Generator}
  {attempt : Attempt} {exchanges : List Exchange} {now : Instant} {ready : Bool}
  {outcome : Except Failure Progress}

theorem Waits.reply?_eq_none (h : s.Waits) : s.reply? = none := by
  obtain ⟨attempt, wire, hstage⟩ := h
  unfold reply?
  rw [hstage]

/-- When targets were tried, the session waits for one of them or holds nothing. -/
theorem fits_of_settles {transport : Transport} {tried rest : List Servers.Target}
    (h : Settles transport query servers tried rest outcome s) :
    (Turnstile.after outcome).Fits s := by
  cases h with
  | waits _ _ _ hstage => exact ⟨_, _, hstage⟩
  | gaveUp hstage => exact hstage

theorem fits_of_follow {move : Move}
    (h : Course (s.follow attempt g move) exchanges (outcome, s', g')) :
    (Turnstile.after outcome).Fits s' := by
  cases move with
  | stay wire =>
    obtain ⟨-, rfl, rfl, -⟩ := course_triple_iff.1 h
    exact ⟨_, _, rfl⟩
  | stayUntil deadline wire =>
    obtain ⟨-, rfl, rfl, -⟩ := course_triple_iff.1 h
    exact ⟨_, _, rfl⟩
  | nextUdp =>
    obtain ⟨_, _, -, -, hsettles⟩ := settles_of_tryUdp (j := Journal.blank) h
    exact fits_of_settles hsettles
  | firstTcp | nextTcp =>
    obtain ⟨_, _, -, -, hsettles⟩ := settles_of_tryTcp (j := Journal.blank)
      (fun _ => Servers.round_of_mem_targetsFrom) h
    exact fits_of_settles hsettles
  | accept reply =>
    obtain ⟨-, rfl, rfl, -⟩ := course_triple_iff.1 h
    exact ⟨reply, rfl⟩
  | overflow =>
    obtain ⟨-, rfl, rfl, -⟩ := course_triple_iff.1 h
    rfl

/-- A session that went on waits, holds its reply, or holds nothing, as its result says. -/
theorem fits_of_get (h : Course (s.get ready now g) exchanges (outcome, s', g')) :
    (Turnstile.after outcome).Fits s' := by
  unfold get at h
  split at h
  · next reply hstage =>
    obtain ⟨-, rfl, rfl, -⟩ := course_triple_iff.1 h
    exact ⟨reply, hstage⟩
  · next hstage =>
    obtain ⟨-, rfl, rfl, -⟩ := course_triple_iff.1 h
    exact hstage
  · obtain ⟨move, moves, last, -, -, hfollow⟩ := course_seq_iff.1 h
    exact fits_of_follow hfollow

end Session

namespace Pool

open Dialogue

variable {capacity : Nat} {policy : Policy} {p p' p₁ p₂ : Pool} {i : Handle}
  {shared shared' : SharedQuery} {held held₁ held₂ held' : List Ticket} {returned : Option Ticket}
  {g g' : Generator} {exchanges : List Exchange} {now : Instant} {ready : Bool}
  {result : Except PoolError Progress} {told : Except PoolError Progress}

/-! ## Turnstiles and sessions -/

/-- The turnstile of each slot fits its session. -/
def Consistent (p : Pool) : Prop :=
  ∀ i shared, p.slot? i = some shared → shared.turnstile.Fits shared.session

theorem Consistent.new : (Pool.new capacity policy).Consistent := by
  intro i shared hslot
  have hmem := List.mem_of_getElem? (slot?_eq_some_iff.1 hslot)
  exact nomatch List.eq_of_mem_replicate hmem

theorem Consistent.step (hc : p.Consistent) (hstep : Step p held returned p' held') :
    p'.Consistent := by
  intro i shared hslot
  have hpasses := hstep.passes.2 i
  rw [hslot] at hpasses
  generalize hbefore : p.slot? i = before at hpasses
  cases hpasses with
  | stays => exact hc i shared hbefore
  | opens key hsession => exact Session.waits_of_start hsession
  | joins shared => exact hc i shared hbefore
  | @waits shared hturnstile =>
    have hwaits := hc i shared hbefore
    rw [hturnstile] at hwaits
    exact hwaits
  | goesOn _ hsession => exact Session.fits_of_get hsession
  | leaves shared => exact hc i shared hbefore

theorem Run.consistent (run : Run capacity policy p held) : p.Consistent := by
  induction run with
  | new => exact .new
  | step _ hstep ih => exact ih.step hstep

/-! ## What clients are told -/

/-- Where the session is not to go on, everyone is told the same, and nothing changes. -/
theorem get_of_told? (hslot : p.slot? i = some shared)
    (htold : shared.turnstile.told? = some told) (ready : Bool) (now : Instant) (g : Generator) :
    p.get i ready now g = .done (told, p, g) := by
  unfold get
  rw [hslot]
  dsimp only
  cases hturnstile : shared.turnstile with
  | needsGet =>
    rw [hturnstile] at htold
    contradiction
  | failed | needsWait | answered =>
    rw [hturnstile] at htold
    obtain rfl := Option.some.inj htold
    rfl

/-- After a client was told something, the slot is such that everyone else is told it as well; only
the cause of a failure is told to one client alone. -/
theorem told?_of_get (hslot : p.slot? i = some shared)
    (h : Course (p.get i ready now g) exchanges (result, p', g')) :
    ∃ shared', p'.slot? i = some shared' ∧
      shared'.turnstile.told? = some (result.mapError fun _ => .session .exhausted) := by
  cases hturnstile : shared.turnstile with
  | needsGet =>
    unfold get at h
    rw [hslot] at h
    dsimp only at h
    rw [hturnstile] at h
    obtain ⟨⟨outcome, session, g₁⟩, first, last, -, -, hlast⟩ := course_seq_iff.1 h
    obtain ⟨-, rfl, rfl, -⟩ := course_triple_iff.1 hlast
    refine ⟨_, slot?_setSlot_self _ (lt_capacity hslot), ?_⟩
    rcases outcome with cause | _ | _ <;> rfl
  | failed | needsWait | answered =>
    rw [get_of_told? hslot (by rw [hturnstile]; rfl)] at h
    obtain ⟨-, rfl, rfl, -⟩ := course_triple_iff.1 h
    exact ⟨shared, hslot, by rw [hturnstile]; rfl⟩

/-! ## As long as there is a handle -/

/-- Some steps of clients during which there is always a handle on a slot. -/
inductive Meanwhile (i : Handle) (p : Pool) (held : List Ticket) : Pool → List Ticket → Prop
  | start : Meanwhile i p held p held
  | step {p₁ p₂ : Pool} {held₁ held₂ : List Ticket} {returned : Option Ticket}
      (before : Meanwhile i p held p₁ held₁) (h : Step p₁ held₁ returned p₂ held₂)
      (hheld : ∃ t ∈ held₂, t.handle = i) : Meanwhile i p held p₂ held₂

/-- Once the outcome is known, a slot in use keeps its session and its turnstile. -/
theorem Passes.of_settled (h : Passes (some shared) (some shared'))
    (hsettled : shared.turnstile.Settled) :
    shared'.session = shared.session ∧ shared'.turnstile = shared.turnstile := by
  cases h with
  | stays | joins | leaves => exact ⟨rfl, rfl⟩
  | waits hturnstile | goesOn hturnstile =>
    rcases hsettled with hsettled | hsettled <;> exact nomatch hturnstile.symm.trans hsettled

/-- As long as there is a handle on it, a slot whose outcome is known keeps this outcome, whatever
clients do. -/
theorem Meanwhile.settled (h : Meanwhile i p held p₂ held₂) (run : Run capacity policy p held)
    (hslot : p.slot? i = some shared) (hsettled : shared.turnstile.Settled) :
    Run capacity policy p₂ held₂ ∧ ∃ shared₂, p₂.slot? i = some shared₂ ∧
      shared₂.session = shared.session ∧ shared₂.turnstile = shared.turnstile := by
  induction h with
  | start => exact ⟨run, shared, hslot, rfl, rfl⟩
  | @step p₁ p₂ held₁ held₂ returned before hstep hheld ih =>
    obtain ⟨run₁, shared₁, hslot₁, hsession₁, hturnstile₁⟩ := ih
    have run₂ : Run capacity policy p₂ held₂ := .step run₁ hstep
    refine ⟨run₂, ?_⟩
    cases hslot₂ : p₂.slot? i with
    | none =>
      obtain ⟨t, ht, hhandle⟩ := hheld
      exact absurd hhandle (run₂.balanced.1.slot?_eq_none_iff.1 hslot₂ t ht)
    | some shared₂ =>
      have hpasses := hstep.passes.2 i
      rw [hslot₁, hslot₂] at hpasses
      rw [← hturnstile₁] at hsettled
      obtain ⟨hsession, hturnstile⟩ := hpasses.of_settled hsettled
      exact ⟨shared₂, rfl, hsession.trans hsession₁, hturnstile.trans hturnstile₁⟩

/-- As long as there is a handle on it, everyone is told the same of a slot whose outcome is known,
and sees the same reply or none. -/
theorem Meanwhile.tells (h : Meanwhile i p held p₂ held₂) (run : Run capacity policy p held)
    (hslot : p.slot? i = some shared) (hsettled : shared.turnstile.Settled)
    (htold : shared.turnstile.told? = some told) :
    (p₂.slot? i).map SharedQuery.turnstile = some shared.turnstile ∧
      p₂.reply? i = shared.session.reply? ∧
      ∀ ready now g, p₂.get i ready now g = .done (told, p₂, g) := by
  obtain ⟨-, shared₂, hslot₂, hsession, hturnstile⟩ := h.settled run hslot hsettled
  rw [← hturnstile] at htold
  refine ⟨?_, ?_, get_of_told? hslot₂ htold⟩
  · rw [hslot₂, Option.map_some, hturnstile]
  · unfold reply?
    rw [hslot₂, Option.bind_some, hsession]

/-- A client that has been told the outcome leaves the slot with this outcome. -/
theorem exists_settled {t : Ticket} (run : Run capacity policy p held) (ht : t ∈ held)
    (h : Course (p.get t.handle ready now g) exchanges (result, p₁, g')) :
    Run capacity policy p₁ held ∧ ∃ shared, p₁.slot? t.handle = some shared ∧
      shared.turnstile.Fits shared.session ∧
      shared.turnstile.told? = some (result.mapError fun _ => .session .exhausted) := by
  have run₁ : Run capacity policy p₁ held := .step run (.get ht h)
  obtain ⟨shared, hslot, -⟩ := run.balanced.1.denotes t ht
  obtain ⟨shared₁, hslot₁, htold⟩ := told?_of_get hslot h
  exact ⟨run₁, shared₁, hslot₁, run₁.consistent _ _ hslot₁, htold⟩

/-- In any pool that clients have used, the session of a slot waits for an attempt, and there is no
reply to see, until a client is told the outcome. From then on the outcome of the slot is the same
for everyone who has a handle on it, whether it was got before or after, until the last handle is
given back: if the client was told that the reply is there, everyone is told so and sees the same
bytes; if it was told of an error, everyone is told that all servers were tried in vain, and there
is no reply. -/
theorem outcome_shared (run : Run capacity policy p held) :
    (∀ i shared, p.slot? i = some shared →
      shared.turnstile = .needsWait ∨ shared.turnstile = .needsGet →
      shared.session.Waits ∧ p.reply? i = none) ∧
    ∀ t ∈ held, ∀ ready now g exchanges result p₁ g',
      Course (p.get t.handle ready now g) exchanges (result, p₁, g') →
      (result = .ok .done → ∃ reply, ∀ p₂ held₂, Meanwhile t.handle p₁ held p₂ held₂ →
        (p₂.slot? t.handle).map SharedQuery.turnstile = some .answered ∧
        ∀ t₂ ∈ held₂, t₂.handle = t.handle → p₂.reply? t₂.handle = some reply ∧
          ∀ ready now g, p₂.get t₂.handle ready now g = .done (.ok .done, p₂, g)) ∧
      ∀ cause, result = .error cause → ∀ p₂ held₂, Meanwhile t.handle p₁ held p₂ held₂ →
        (p₂.slot? t.handle).map SharedQuery.turnstile = some .failed ∧
        ∀ t₂ ∈ held₂, t₂.handle = t.handle → p₂.reply? t₂.handle = none ∧
          ∀ ready now g,
            p₂.get t₂.handle ready now g = .done (.error (.session .exhausted), p₂, g) := by
  refine ⟨?_, ?_⟩
  · intro i shared hslot hopen
    have hwaits := run.underway i shared hslot hopen
    refine ⟨hwaits, ?_⟩
    unfold reply?
    rw [hslot, Option.bind_some, hwaits.reply?_eq_none]
  intro t ht ready now g exchanges result p₁ g' hget
  obtain ⟨run₁, shared, hslot, hfits, htold⟩ := exists_settled run ht hget
  refine ⟨?_, ?_⟩
  · rintro rfl
    have hanswered : shared.turnstile = .answered := Turnstile.told?_inj htold
    rw [hanswered] at hfits
    obtain ⟨reply, hstage⟩ := hfits
    refine ⟨reply, fun p₂ held₂ hmeanwhile => ?_⟩
    obtain ⟨hturnstile, hreply, htells⟩ := hmeanwhile.tells run₁ hslot (.inl hanswered) htold
    rw [hanswered] at hturnstile
    refine ⟨hturnstile, fun t₂ _ hhandle => ?_⟩
    rw [hhandle, hreply, Session.reply?, hstage]
    exact ⟨rfl, htells⟩
  · rintro cause rfl p₂ held₂ hmeanwhile
    have hfailed : shared.turnstile = .failed := Turnstile.told?_inj htold
    rw [hfailed] at hfits
    obtain ⟨hturnstile, hreply, htells⟩ := hmeanwhile.tells run₁ hslot (.inr hfailed) htold
    have hstage : shared.session.stage = .idle none := hfits
    rw [hfailed] at hturnstile
    refine ⟨hturnstile, fun t₂ _ hhandle => ?_⟩
    rw [hhandle, hreply, Session.reply?, hstage]
    exact ⟨rfl, htells⟩

/-! ## A reply for all -/

/-- A client of a query in flight can be handed the socket and let the session go on to its reply. -/
theorem exists_answered {t : Ticket} {session : Session} (run : Run capacity policy p held)
    (ht : t ∈ held) (hslot : p.slot? t.handle = some shared)
    (hturnstile : shared.turnstile = .needsWait)
    (h : Course (shared.session.get ready now g) exchanges (.ok .done, session, g')) :
    ∃ p₁ p₂, Run capacity policy p₁ held ∧ p₁.refs t.handle = shared.refs ∧
      Course (p₁.get t.handle ready now g) exchanges (.ok .done, p₂, g') ∧
      p₂.slot? t.handle = some { shared with session := session, turnstile := .answered } := by
  have hwanted : (p.wanted t.handle now).2.2 =
      p.setSlot t.handle (some { shared with turnstile := .needsGet }) := by
    unfold wanted
    rw [hslot]
    dsimp only
    rw [if_pos hturnstile]
  have run₁ := Run.step run (.wait ht now)
  rw [hwanted] at run₁
  have hslot₁ := slot?_setSlot_self (some { shared with turnstile := .needsGet }) (lt_capacity hslot)
  refine ⟨_, _, run₁, ?_, ?_, slot?_setSlot_self _ (lt_capacity hslot₁)⟩
  · rw [refs_of_slot? hslot₁]
  unfold get
  rw [hslot₁]
  exact course_seq_iff.2 ⟨_, _, [], (List.append_nil _).symm, h, .done _⟩

/-- A query in flight can be joined. -/
theorem exists_join {name control : Bytes} {qtype : UInt16} (servers : Servers) (recursive : Bool)
    (run : Run capacity policy p held) (hslot : p.slot? i = some shared)
    (hkey : key? name qtype control = some shared.key) :
    ∃ p', Step p held none p' (⟨name, qtype, control, i⟩ :: held) := by
  have hfind := (run.balanced.1.find?_iff shared.key i).2 ⟨shared, hslot, rfl⟩
  have hsharer : p.sharer? shared.key = some (i, shared) :=
    Option.bind_eq_some_iff.2 ⟨i, hfind, Option.bind_eq_some_iff.2 ⟨shared, hslot, rfl⟩⟩
  exact ⟨_, .start (course_start_of_sharer? servers recursive (.ofSeed []) hkey hsharer)⟩

/-- A session whose datagram is out gets its reply. -/
theorem exists_reply (now : Instant) (g : Generator) :
    ∃ exchanges reply, Course (Session.get ⟨⟨53, .localhost, #v[1, 1, 1, 1], 0, 0⟩, 0, 0, ⟨1⟩,
        .waiting ⟨Session.errandQuery true [1, 97, 0] 1, .ofList [.localhost], 0x1234⟩
          (.awaitingDatagram 3)⟩ true now g) exchanges
      (.ok .done, ⟨⟨53, .localhost, #v[1, 1, 1, 1], 0, 0⟩, 0, 0, ⟨1⟩, .idle (some reply)⟩, g) := by
  let reply : Bytes := [0x12, 0x34, 0x80, 0, 0, 1, 0, 0, 0, 0, 0, 0, 1, 97, 0, 0, 1, 0, 1]
  let attempt : Attempt := ⟨⟨[1, 97, 0], 1, true⟩, .ofList [.localhost], 0x1234⟩
  have hquery : Session.errandQuery true [1, 97, 0] 1 = ⟨[1, 97, 0], 1, true⟩ :=
    Session.errandQuery_eq (show Name.length? [1, 97, 0] = some 3 by cbv)
  have hjudge : Session.judgeDatagram attempt 0 (.awaitingDatagram 3) reply = .accept reply := by
    cbv
  have hmove : Course (Session.stepDatagram attempt 0 3)
      [⟨.receive 3 (maxReply + 1), .moved ⟨reply, by decide⟩⟩] (.accept reply) :=
    course_call_iff.2 ⟨.moved ⟨reply, by decide⟩, [], rfl, course_pure_iff.2 ⟨rfl, hjudge.symm⟩⟩
  rw [Session.get_waiting rfl, hquery]
  exact ⟨_, reply, course_seq_iff.2 ⟨_, _, [], rfl, hmove, .done _⟩⟩

/-- The reply comes in for two clients, and a third joins them only after that. -/
theorem outcome_shared_joined :
    ∃ p held t g exchanges p₁ t₂ p₂ reply,
      Run 1 ⟨53, .localhost, #v[1, 1, 1, 1], 0, 0⟩ p held ∧ p.refs t.handle = 2 ∧ t ∈ held ∧
      Course (p.get t.handle true ⟨0⟩ g) exchanges (.ok .done, p₁, g) ∧
      Step p₁ held none p₂ (t₂ :: held) ∧ t₂ = ⟨[1, 65, 0], 1, [0], t.handle⟩ ∧
      p₁.reply? t.handle = some reply ∧ p₂.reply? t₂.handle = some reply ∧
      ∀ ready now g, p₂.get t₂.handle ready now g = .done (.ok .done, p₂, g) := by
  obtain ⟨p₀, held, hrun₀, hslot₀⟩ := exists_pair
  obtain ⟨t, ht, hhandle⟩ : ∃ t ∈ held, t.handle = 0 := by
    have hpos : 0 < held.countP (·.handle = 0) := by
      rw [← hrun₀.balanced.1.refs_eq, refs_of_slot? hslot₀]
      decide
    obtain ⟨t, ht, heq⟩ := List.countP_pos_iff.1 hpos
    exact ⟨t, ht, of_decide_eq_true heq⟩
  have hslot := (congrArg p₀.slot? hhandle).trans hslot₀
  obtain ⟨exchanges, reply, hsession⟩ := exists_reply ⟨0⟩ (.ofSeed [])
  obtain ⟨p, p₁, hrun, hrefs, hget, hslot₁⟩ := exists_answered hrun₀ ht hslot rfl hsession
  have hkey : key? [1, 65, 0] 1 [0] = some ⟨[1, 97, 0], 1, [0]⟩ := by cbv
  obtain ⟨p₂, hjoin⟩ := exists_join (.ofList []) true (.step hrun (.get ht hget)) hslot₁ hkey
  obtain ⟨reply', hshared⟩ := ((outcome_shared hrun).2 t ht _ _ _ _ _ _ _ hget).1 rfl
  have hfirst := (hshared _ _ .start).2 t ht rfl
  have hthird := (hshared _ _ (.step .start hjoin ⟨_, List.mem_cons_self, rfl⟩)).2 _
    List.mem_cons_self rfl
  exact ⟨p, held, t, _, exchanges, p₁, _, p₂, reply', hrun, hrefs, ht, hget, hjoin, rfl, hfirst.1,
    hthird.1, hthird.2⟩

end Pool

end Resolver
