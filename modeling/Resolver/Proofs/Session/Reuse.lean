import Resolver.Proofs.Session.Lifecycle
import Resolver.Proofs.Session.Recognition

/-!
# Sessions that are used again

A session is started over and over, in whatever state the query before left it. Some fields are set
by the start itself, some by the operations it passes through, and some only once an attempt is made.

Main statements: whatever was done with a session, a start comes to what it comes to in a new one, and
after a start that succeeds both are the same session in every field, so that the same is true of
whatever is done then (`Transmission.reaches_interchangeable`).
-/

namespace Resolver

open Dialogue

/-! ## Results that are alike -/

namespace Session

variable {s s' : Session} {query : Query} {servers : Servers} {targets : List Servers.Target}
  {policy : Policy} {operation : Operation} {operations : List Operation}

/-- Two results, each with what is left, are alike: they are the same, or they are the same failure,
and what that leaves may differ. -/
inductive Alike {σ ρ : Type} : (x y : Except Failure ρ × σ × Generator) → Prop
  | same (x : Except Failure ρ × σ × Generator) : Alike x x
  | failed (cause : Failure) (s s' : σ) (g : Generator) :
      Alike (.error cause, s, g) (.error cause, s', g)

/-- Whether the query has its reply does not matter to who started it. -/
theorem Alike.started {σ : Type} {x y : Except Failure Progress × σ × Generator} (h : Alike x y) :
    Alike (x.1.map fun _ => (), x.2) (y.1.map fun _ => (), y.2) := by
  cases h with
  | same => exact .same _
  | failed cause s s' g => exact .failed cause s s' g

theorem Alike.result_eq {σ ρ : Type} {x y : Except Failure ρ × σ × Generator} (h : Alike x y) :
    y.1 = x.1 ∧ y.2.2 = x.2.2 ∧ ∀ r, x.1 = .ok r → y.2.1 = x.2.1 := by
  cases h with
  | same => exact ⟨rfl, rfl, fun _ _ => rfl⟩
  | failed cause s s' g => exact ⟨rfl, rfl, nofun⟩

/-! ## Sessions of one policy -/

/-- A search for a server that takes a datagram takes nothing from the session but its policy. -/
theorem alike_tryUdp (hpolicy : s.policy = s'.policy) (g : Generator) :
    Lockstep Alike (s.tryUdp query servers targets g) (s'.tryUdp query servers targets g) := by
  induction targets generalizing s s' g with
  | nil => exact .done (.failed .exhausted _ _ g)
  | cons target rest ih =>
    have haimed : (s.aimedAt target).policy = (s'.aimedAt target).policy := hpolicy
    unfold tryUdp
    dsimp only
    rw [haimed]
    apply Lockstep.bind_same
    rintro ⟨opened, g₁⟩
    cases opened with
    | error cause => exact .done (.failed _ _ _ g₁)
    | ok socket =>
      apply Lockstep.bind_same
      intro sent
      cases sent with
      | false =>
        rw [if_neg Bool.false_ne_true, if_neg Bool.false_ne_true]
        exact ih haimed g₁
      | true =>
        apply Lockstep.bind_same
        intro now
        cases now.add? ((s'.aimedAt target).policy.udpTimeout target.round) with
        | none => exact .done (.failed _ _ _ g₁)
        | some deadline => exact .done (.same _)

/-- A start takes nothing from the session but its policy. -/
theorem alike_start (hpolicy : s.policy = s'.policy) (servers : Servers) (recursive : Bool)
    (name : Bytes) (qtype : UInt16) (g : Generator) :
    Lockstep Alike (s.start servers recursive name qtype g)
      (s'.start servers recursive name qtype g) := by
  cases hlength : Name.length? name with
  | none =>
    unfold start
    rw [hlength]
    exact .done (.failed .badName _ _ g)
  | some length =>
    rw [start_eq hlength, start_eq hlength]
    refine Lockstep.bind (alike_tryUdp ?_ g) ?_
    · exact hpolicy
    · intro x y halike
      exact .done halike.started

end Session

/-! ## Field by field -/

namespace Transmission

open Session (Alike Operation Reaches)

variable {t t' : Transmission} {policy : Policy}

/-- A search for a server that takes a datagram sets the deadline before the session waits, and writes
the id that was written last. -/
theorem alike_tryUdp (t : Transmission) (deadline : Instant) (stamped : Option UInt16)
    (g : Generator) :
    Lockstep (Option.Rel Alike) (t.tryUdp g)
      ({ t with deadline := deadline, stamped := stamped }.tryUdp g) := by
  induction t, g using tryUdp.induct generalizing stamped with
  | case1 t g hround hslot hip ih =>
    rw [tryUdp.eq_def t, tryUdp.eq_def { t with deadline := deadline, stamped := stamped }]
    simp only [if_pos hround, if_pos hslot, hip]
    exact ih stamped
  | case2 t g hround hslot ip hip id g₁ hid hnone =>
    rw [tryUdp.eq_def t, tryUdp.eq_def { t with deadline := deadline, stamped := stamped }]
    simp only [if_pos hround, if_pos hslot, hip, hid, hnone]
    exact .done .none
  | case3 t g hround hslot ip hip id g₁ hid query hstamp t₁ ih =>
    rw [tryUdp.eq_def t, tryUdp.eq_def { t with deadline := deadline, stamped := stamped }]
    simp only [if_pos hround, if_pos hslot, hip, hid, hstamp]
    apply Lockstep.bind_same
    rintro ⟨opened, g₂⟩
    cases opened with
    | error cause => exact .done (.some (.failed _ _ _ g₂))
    | ok socket =>
      dsimp only
      cases from? query 2 with
      | none => exact .done .none
      | some message =>
        apply Lockstep.bind_same
        intro sent
        cases sent with
        | false => exact ih g₂ (some id)
        | true =>
          apply Lockstep.bind_same
          intro now
          cases t.policy.udpTimeouts[t.round]? with
          | none => exact .done .none
          | some timeout =>
            dsimp only
            cases now.add? timeout with
            | none => exact .done (.some (.failed _ _ _ g₂))
            | some deadline => exact .done (.some (.same _))
  | case4 t g hround hslot ih =>
    rw [tryUdp.eq_def t, tryUdp.eq_def { t with deadline := deadline, stamped := stamped }]
    simp only [if_pos hround, if_neg hslot]
    exact ih stamped
  | case5 t g hround =>
    rw [tryUdp.eq_def t, tryUdp.eq_def { t with deadline := deadline, stamped := stamped }]
    simp only [if_neg hround]
    exact .done (.some (.failed .exhausted _ _ g))

/-- A start takes nothing from the session but its policy. -/
theorem alike_start (hpolicy : t.policy = t'.policy) (servers : Servers) (recursive : Bool)
    (name : Bytes) (qtype : UInt16) (g : Generator) :
    Lockstep (Option.Rel Alike) (t.start servers recursive name qtype g)
      (t'.start servers recursive name qtype g) := by
  unfold start
  dsimp only
  cases hlength : Name.length? name with
  | none => exact .done (.some (.failed .badName _ _ g))
  | some length =>
    dsimp only
    cases between? name 0 length with
    | none => exact .done .none
    | some name =>
      dsimp only
      rw [if_neg (Session.not_maxDatagram_lt hlength), if_neg (Session.not_maxDatagram_lt hlength)]
      -- the query, the servers and the cursors are set by the start, the rest by what it frees
      have hfields : { t'.free.asking servers recursive name qtype with state := .idle } =
          { t.free.asking servers recursive name qtype with
            state := .idle, deadline := t'.deadline, stamped := t'.stamped } := by
        unfold asking free
        rw [hpolicy]
      unfold thisUdp
      rw [hfields]
      apply Lockstep.bind (alike_tryUdp _ t'.deadline t'.stamped g)
      intro x y hrel
      cases hrel with
      | none => exact .done .none
      | some halike => exact .done (.some halike.started)

end Transmission

/-! ## Starts among other operations -/

namespace Session

section Interchange

variable {σ : Type} {Does : σ → Operation → σ → Prop} {s s' u : σ} {later before : List Operation}

/-- Every course that a start takes on the first session it takes on the second one too, and unless it
fails both are the same after it. -/
def Restarts (Does : σ → Operation → σ → Prop) (s s' : σ) : Prop :=
  ∀ servers recursive name qtype g exchanges result g' u,
    Does s (.start servers recursive name qtype g exchanges result g') u →
      ∃ u', Does s' (.start servers recursive name qtype g exchanges result g') u' ∧
        (result = .ok () → u' = u)

/-- Whoever starts a query may have either session: a start takes the same courses to the same results
on both, and if it succeeds, all that can be done after it can be done on both, with what is answered
and what comes of it, and leaves the same session. -/
structure Interchangeable (Does : σ → Operation → σ → Prop) (s s' : σ) : Prop where
  start_iff : ∀ servers recursive name qtype g exchanges result g',
    (∃ u, Does s (.start servers recursive name qtype g exchanges result g') u) ↔
      ∃ u, Does s' (.start servers recursive name qtype g exchanges result g') u
  later_iff : ∀ servers recursive name qtype g exchanges g' later u,
    Reaches Does s (later ++ [.start servers recursive name qtype g exchanges (.ok ()) g']) u ↔
      Reaches Does s' (later ++ [.start servers recursive name qtype g exchanges (.ok ()) g']) u

/-- What is done after some operations is done from where they lead to. -/
theorem reaches_append_iff : Reaches Does s (later ++ before) u ↔
    ∃ mid, Reaches Does s before mid ∧ Reaches Does mid later u := by
  constructor
  · intro run
    induction later generalizing u with
    | nil => exact ⟨u, run, .refl⟩
    | cons operation later ih =>
      cases run with
      | step run h =>
        obtain ⟨mid, hbefore, hlater⟩ := ih run
        exact ⟨mid, hbefore, hlater.step h⟩
  · rintro ⟨mid, hbefore, hlater⟩
    induction hlater with
    | refl => exact hbefore
    | step _ h ih => exact ih.step h

/-- A run that begins with a start that succeeds can be made from the second session as well. -/
theorem Restarts.reaches (h : Restarts Does s s') {servers : Servers} {recursive : Bool}
    {name : Bytes} {qtype : UInt16} {g g' : Generator} {exchanges : List Exchange}
    (run : Reaches Does s
      (later ++ [.start servers recursive name qtype g exchanges (.ok ()) g']) u) :
    Reaches Does s' (later ++ [.start servers recursive name qtype g exchanges (.ok ()) g']) u := by
  obtain ⟨mid, hstart, hlater⟩ := reaches_append_iff.1 run
  cases hstart with
  | step none hdoes =>
    cases none
    obtain ⟨mid', hdoes', hsame⟩ := h _ _ _ _ _ _ _ _ _ hdoes
    rw [← hsame rfl] at hlater
    exact reaches_append_iff.2 ⟨mid', .step .refl hdoes', hlater⟩

theorem interchangeable_of_restarts (h : Restarts Does s s') (h' : Restarts Does s' s) :
    Interchangeable Does s s' where
  start_iff servers recursive name qtype g exchanges result g' := by
    constructor
    · rintro ⟨u, hdoes⟩
      obtain ⟨u', hdoes', -⟩ := h _ _ _ _ _ _ _ _ u hdoes
      exact ⟨u', hdoes'⟩
    · rintro ⟨u, hdoes⟩
      obtain ⟨u', hdoes', -⟩ := h' _ _ _ _ _ _ _ _ u hdoes
      exact ⟨u', hdoes'⟩
  later_iff servers recursive name qtype g exchanges g' later u := ⟨h.reaches, h'.reaches⟩

end Interchange

variable {s s' : Session} {policy : Policy} {operation : Operation} {operations : List Operation}

theorem restarts_of_policy_eq (hpolicy : s.policy = s'.policy) : Restarts Does s s' := by
  intro servers recursive name qtype g exchanges result g' u hdoes
  obtain ⟨y, hcourse, halike⟩ :=
    (alike_start hpolicy servers recursive name qtype g).exists_course hdoes
  obtain ⟨hresult, hgenerator, hsame⟩ := halike.result_eq
  obtain ⟨result', u', g''⟩ := y
  obtain rfl : result' = result := hresult
  obtain rfl : g'' = g' := hgenerator
  exact ⟨u', hcourse, hsame ()⟩

/-! ## The policy stays -/

theorem policy_of_seeks {query : Query} {servers : Servers} {transport : Transport}
    {targets : List Servers.Target} {g : Generator} {exchanges : List Exchange} {turn : Turn}
    (h : s.Seeks query servers transport targets g exchanges turn) : turn.2.1.policy = s.policy := by
  induction h with
  | vain => cases transport <;> rfl
  | passesOver _ _ _ ih => exact ih
  | waits | overflows | unbound => rfl

theorem policy_of_follow {attempt : Attempt} {move : Move} {g : Generator}
    {exchanges : List Exchange} {turn : Turn} (h : Course (s.follow attempt g move) exchanges turn) :
    turn.2.1.policy = s.policy := by
  cases move with
  | stay | stayUntil | accept | overflow =>
    obtain ⟨rfl, rfl⟩ := course_pure_iff.1 h
    rfl
  | nextUdp =>
    have hsearch : Course (tryUdp { s with round := s.round, slot := s.slot } attempt.query
      attempt.servers (attempt.servers.schedule s.round (s.slot + 1)) g) exchanges turn := h
    exact policy_of_seeks (seeks_of_tryUdp hsearch)
  | firstTcp =>
    have hsearch : Course (tryTcp { s with slot := s.slot } attempt.query attempt.servers
      (attempt.servers.targetsFrom s.round 0) g) exchanges turn := h
    exact policy_of_seeks (seeks_of_tryTcp (fun _ => Servers.round_of_mem_targetsFrom) hsearch)
  | nextTcp =>
    have hsearch : Course (tryTcp { s with slot := s.slot } attempt.query attempt.servers
      (attempt.servers.targetsFrom s.round (s.slot + 1)) g) exchanges turn := h
    exact policy_of_seeks (seeks_of_tryTcp (fun _ => Servers.round_of_mem_targetsFrom) hsearch)

theorem policy_of_start {servers : Servers} {recursive : Bool} {name : Bytes} {qtype : UInt16}
    {g : Generator} {exchanges : List Exchange} {x : Except Failure Unit × Session × Generator}
    (h : Course (s.start servers recursive name qtype g) exchanges x) :
    x.2.1.policy = s.policy := by
  cases hlength : Name.length? name with
  | none =>
    unfold start at h
    rw [hlength] at h
    obtain ⟨rfl, rfl⟩ := course_pure_iff.1 h
    rfl
  | some length =>
    rw [start_eq hlength] at h
    obtain ⟨turn, searches, rest, rfl, hsearch, hrest⟩ := course_seq_iff.1 h
    obtain ⟨rfl, rfl⟩ := course_pure_iff.1 hrest
    exact policy_of_seeks (s := s.free) (seeks_of_tryUdp hsearch)

theorem policy_of_get {ready : Bool} {now : Instant} {g : Generator} {exchanges : List Exchange}
    {turn : Turn} (h : Course (s.get ready now g) exchanges turn) : turn.2.1.policy = s.policy := by
  cases hstage : s.stage with
  | idle reply =>
    unfold get at h
    rw [hstage] at h
    cases reply <;> obtain ⟨rfl, rfl⟩ := course_pure_iff.1 h <;> rfl
  | waiting attempt wire =>
    rw [get_waiting hstage] at h
    obtain ⟨move, looks, rest, rfl, -, hfollow⟩ := course_seq_iff.1 h
    exact policy_of_follow hfollow

theorem policy_of_does (h : s.Does operation s') : s'.policy = s.policy := by
  cases operation with
  | start => exact policy_of_start h
  | get => exact policy_of_get h
  | wanted deadline answer =>
    obtain ⟨-, rfl⟩ := h
    rfl
  | takeReply reply =>
    obtain rfl : s.takeReply.2 = s' := congrArg Prod.snd h
    unfold takeReply
    split <;> rfl
  | free =>
    obtain rfl := h
    rfl

/-- Nothing that is done with a session changes its policy. -/
theorem policy_of_reaches (run : Reaches Does (new policy) operations s) : s.policy = policy := by
  induction run with
  | refl => rfl
  | step _ h ih => exact (policy_of_does h).trans ih

end Session

/-! ## Reuse -/

namespace Transmission

open Session (Alike Operation Reaches Restarts Interchangeable)

variable {t t' : Transmission} {policy : Policy} {operations : List Operation}

theorem restarts_of_policy_eq (hpolicy : t.policy = t'.policy) : Restarts Does t t' := by
  intro servers recursive name qtype g exchanges result g' u hdoes
  obtain ⟨y, hcourse, hrel⟩ :=
    (alike_start hpolicy servers recursive name qtype g).exists_course hdoes
  cases hrel with
  | some halike =>
    rename_i y
    obtain ⟨hresult, hgenerator, hsame⟩ := halike.result_eq
    obtain ⟨result', u', g''⟩ := y
    obtain rfl : result' = result := hresult
    obtain rfl : g'' = g' := hgenerator
    exact ⟨u', hcourse, hsame ()⟩

/-- Whatever was done with a session, it is interchangeable with a new one of its policy for whoever
starts a query: a start has a result on either, and there it has the same one, and once it has
succeeded nothing tells them apart any more, field by field. -/
theorem reaches_interchangeable {now : Instant} (now' : Instant)
    (run : Reaches Does (new policy now) operations t) :
    (∀ servers recursive name qtype g exchanges x,
      Course (t.start servers recursive name qtype g) exchanges x → x.isSome) ∧
    Interchangeable Does t (new policy now') ∧
    ∀ s, Reaches Session.Does (Session.new policy) operations s →
      Interchangeable Session.Does s (Session.new policy) := by
  obtain ⟨s, hreaches, hrepresents, -⟩ := exists_reaches run
  have hpolicy : t.policy = policy :=
    hrepresents.policy_eq.trans (Session.policy_of_reaches hreaches)
  refine ⟨?_, ?_, ?_⟩
  · intro servers recursive name qtype g exchanges x hcourse
    obtain ⟨y, -, u, rfl, -⟩ :=
      (lockstep_start hrepresents servers recursive name qtype g).exists_course hcourse
    rfl
  · apply Session.interchangeable_of_restarts
    · exact restarts_of_policy_eq hpolicy
    · exact restarts_of_policy_eq hpolicy.symm
  · intro s hreaches
    have hpolicy := Session.policy_of_reaches hreaches
    apply Session.interchangeable_of_restarts
    · exact Session.restarts_of_policy_eq hpolicy
    · exact Session.restarts_of_policy_eq hpolicy.symm

/-- While a session waits for its first server it is started for another name, and at the same time so
is a new session. -/
theorem reaches_interchangeable_hasty :
    ∃ operations t, Reaches Does (new Session.hasty ⟨0⟩) operations t ∧
      t.state.request? = some (3, .read) ∧
      (∀ servers recursive name qtype g exchanges x,
        Course (t.start servers recursive name qtype g) exchanges x → x.isSome) ∧
      Interchangeable Does t (new Session.hasty ⟨5⟩) ∧
      (∀ s, Reaches Session.Does (Session.new Session.hasty) operations s →
        Interchangeable Session.Does s (Session.new Session.hasty)) ∧
      ∃ exchanges g g' u,
        t.Does (.start (.ofList [.localhost]) false [1, 98, 0] 1 g exchanges (.ok ()) g') u ∧
        (new Session.hasty ⟨5⟩).Does
          (.start (.ofList [.localhost]) false [1, 98, 0] 1 g exchanges (.ok ()) g') u := by
  have hfirst : (Servers.ofList [.localhost]).schedule (Session.firstRound true) 0 =
      ⟨0, 0, .localhost⟩ :: (Servers.ofList [.localhost]).schedule 1 0 := by decide
  have hsecond : (Servers.ofList [.localhost]).schedule (Session.firstRound false) 0 =
      ⟨1, 0, .localhost⟩ :: (Servers.ofList [.localhost]).schedule 2 0 := by decide
  obtain ⟨exchanges, g, hstart⟩ := Session.exists_start_hasty hfirst
  obtain ⟨x, hcourse, t, rfl, hcomes⟩ := (lockstep_start (represents_new Session.hasty ⟨0⟩) _ _ _ _
    _).symm.exists_course hstart
  have hdoes : (new Session.hasty ⟨0⟩).Does (.start _ _ _ _ _ _ _ _) t := hcourse
  have run := Reaches.refl.step hdoes
  obtain ⟨hsome, hfields, hsessions⟩ := reaches_interchangeable ⟨5⟩ run
  obtain ⟨hflight, -⟩ := hcomes.represents.waiting _ _ rfl
  refine ⟨_, t, run, State.request?_eq hflight.wire_eq, hsome, hfields, hsessions, ?_⟩
  -- the session that is waited for takes the second query, and so does the new one
  let s : Session := ⟨Session.hasty, 0, 0, ⟨0⟩, .waiting
    ⟨Session.errandQuery true [1, 97, 0] 1, .ofList [.localhost], 4660⟩ (.awaitingDatagram 3)⟩
  have hlength : Name.length? [1, 98, 0] = some 3 := by cbv
  have hdeadline : (⟨1⟩ : Instant).add? (Session.hasty.udpTimeout 1) = some ⟨1⟩ := by decide
  obtain ⟨exchanges', g', hagain⟩ :=
    @Session.exists_start _ _ _ 1 s 3 _ _ ⟨1, 0, .localhost⟩ 4 ⟨1⟩ g hlength hsecond hdeadline
  obtain ⟨x, hcourse, u, rfl, -⟩ :=
    (lockstep_start hcomes.represents _ _ _ _ _).symm.exists_course hagain
  have hagain : t.Does (.start _ _ _ _ _ _ (.ok ()) _) u := hcourse
  have hnew := (hfields.later_iff _ _ _ _ _ _ _ [] u).1 (Reaches.refl.step hagain)
  cases hnew with
  | step hrefl hnew =>
    cases hrefl
    exact ⟨exchanges', g, g', u, hagain, hnew⟩

end Transmission

end Resolver
