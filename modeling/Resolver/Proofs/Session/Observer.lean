import Resolver.Session.Basic

/-!
# Observers of a talk

The exchanges of a talk with the operating system show what a session does: the sockets it opens, the
connections it asks for, what it sends and receives and when it reads the clock. An observer takes
notice of these one after the other, and of no other exchange.

Main statements: how the courses of a dialogue begin (`Dialogue.course_call_iff`), what setting up a
socket asks of the system (`Session.opens_of_openLocal`), and that an observer takes notice of the
opening alone (`Observer.exists_after_of_openLocal`).
-/

namespace Resolver

namespace Dialogue

variable {α β : Type} {exchanges : List Exchange}

theorem course_pure_iff {a b : α} :
    Course (pure a : Dialogue α) exchanges b ↔ exchanges = [] ∧ b = a := by
  constructor
  · intro h
    cases h
    exact ⟨rfl, rfl⟩
  · rintro ⟨rfl, rfl⟩
    exact .done b

theorem course_triple_iff {γ : Type} {a a' : α} {b b' : β} {c c' : γ} :
    Course (pure (a, b, c) : Dialogue (α × β × γ)) exchanges (a', b', c') ↔
      exchanges = [] ∧ a' = a ∧ b' = b ∧ c' = c := by
  rw [course_pure_iff, Prod.mk.injEq, Prod.mk.injEq]

/-- A dialogue that begins with a question goes on with the answer. -/
theorem course_call_iff {c : Call} {f : c.Reply → Dialogue β} {b : β} :
    Course (call c >>= f) exchanges b ↔
      ∃ reply rest, exchanges = ⟨c, reply⟩ :: rest ∧ Course (f reply) rest b := by
  constructor
  · intro h
    cases h with
    | ask reply h => exact ⟨reply, _, rfl, h⟩
  · rintro ⟨reply, rest, rfl, h⟩
    exact .ask reply h

theorem course_seq_iff {d : Dialogue α} {f : α → Dialogue β} {b : β} :
    Course (d >>= f) exchanges b ↔
      ∃ a first second, exchanges = first ++ second ∧ Course d first a ∧ Course (f a) second b :=
  course_bind_iff

end Dialogue

/-! ## Setting up a socket -/

namespace Session

open Dialogue

variable {policy : Policy} {transport : Transport} {socket : Socket} {g g' : Generator}
  {exchanges : List Exchange}

/-- The exchange gives a socket a local address. -/
def IsBind (exchange : Exchange) : Prop :=
  ∃ socket ip port, exchange.1 = .bind socket ip port

/-- Something is received, or it is asked whether a connection has been made. -/
def IsLook (exchange : Exchange) : Prop :=
  (∃ socket space transfer, exchange = ⟨.receive socket space, transfer⟩) ∨
    ∃ socket connected, exchange = ⟨.isConnected socket, connected⟩

theorem binds_of_bindLocal {tries : Nat} {bound : Except OsError Unit}
    (h : Course (bindLocal policy socket tries g) exchanges (bound, g')) :
    ∀ exchange ∈ exchanges, IsBind exchange := by
  induction tries generalizing g exchanges with
  | zero =>
    rw [bindLocal] at h
    obtain ⟨reply, rest, rfl, hrest⟩ := course_call_iff.1 h
    obtain ⟨rfl, -⟩ := course_pure_iff.1 hrest
    exact List.forall_mem_singleton.2 ⟨_, _, _, rfl⟩
  | succ tries ih =>
    rw [bindLocal] at h
    generalize g.below portCount = drawn at h
    obtain ⟨offset, g₁⟩ := drawn
    obtain ⟨reply, rest, rfl, hrest⟩ := course_call_iff.1 h
    refine List.forall_mem_cons.2 ⟨⟨_, _, _, rfl⟩, ?_⟩
    cases reply with
    | ok _ =>
      obtain ⟨rfl, -⟩ := course_pure_iff.1 hrest
      exact List.forall_mem_nil _
    | error cause => exact ih hrest

/-- Setting up a socket is opening it and then binding it. -/
theorem opens_of_openLocal {opened : Except OsError Socket}
    (h : Course (openLocal policy transport g) exchanges (opened, g')) :
    ∃ reply binds, exchanges = ⟨.openSocket transport, reply⟩ :: binds ∧
      (∀ exchange ∈ binds, IsBind exchange) ∧ ∀ socket, opened = .ok socket → reply = .ok socket := by
  unfold openLocal at h
  obtain ⟨reply, rest, rfl, hrest⟩ := course_call_iff.1 h
  refine ⟨reply, rest, rfl, ?_⟩
  cases reply with
  | error cause =>
    obtain ⟨rfl, hresult⟩ := course_pure_iff.1 hrest
    exact ⟨List.forall_mem_nil _,
      fun socket hopened => nomatch hopened.symm.trans (Prod.mk.inj hresult).1⟩
  | ok socket =>
    obtain ⟨⟨bound, g₁⟩, binds, last, rfl, hbind, hlast⟩ := course_seq_iff.1 hrest
    have hbinds := binds_of_bindLocal hbind
    cases bound with
    | error cause =>
      obtain ⟨rfl, hresult⟩ := course_pure_iff.1 hlast
      rw [List.append_nil]
      exact ⟨hbinds, fun socket hopened => nomatch hopened.symm.trans (Prod.mk.inj hresult).1⟩
    | ok _ =>
      obtain ⟨rfl, hresult⟩ := course_pure_iff.1 hlast
      rw [List.append_nil]
      exact ⟨hbinds, fun socket hopened => (Prod.mk.inj hresult).1.symm.trans hopened⟩

end Session

/-! ## Observers -/

/-- What an observer makes of the exchanges it takes notice of. Where nothing else is said, it makes
nothing of them. -/
structure Observer (σ : Type) where
  /-- A socket was opened. -/
  opened : σ → Transport → Socket → σ
  /-- A connection was asked for. -/
  connected : σ → Ipv4 → σ := fun x _ => x
  /-- Bytes were offered to be sent. -/
  sent : σ → Socket → (bytes : Bytes) → Transfer { n : Nat // n ≤ bytes.length } → σ :=
    fun x _ _ _ => x
  /-- Bytes were asked for, as many as there was space for. -/
  received : σ → Socket → (space : Nat) → Transfer { bytes : Bytes // bytes.length ≤ space } → σ :=
    fun x _ _ _ => x
  /-- The clock was read. -/
  read : σ → Instant → σ := fun x _ => x

namespace Observer

open Dialogue

variable {σ : Type} {exchanges : List Exchange}

/-- What is seen after one more exchange. -/
def observe (o : Observer σ) (x : σ) : Exchange → σ
  | ⟨.openSocket transport, .ok socket⟩ => o.opened x transport socket
  | ⟨.connect _ ip _, _⟩ => o.connected x ip
  | ⟨.send socket bytes, transfer⟩ => o.sent x socket bytes transfer
  | ⟨.receive socket space, transfer⟩ => o.received x socket space transfer
  | ⟨.now, now⟩ => o.read x now
  | _ => x

/-- What is seen after some more exchanges. -/
def after (o : Observer σ) (x : σ) (exchanges : List Exchange) : σ :=
  exchanges.foldl o.observe x

variable (o : Observer σ)

@[simp]
theorem after_nil (x : σ) : o.after x [] = x := rfl

theorem after_cons (x : σ) (exchange : Exchange) (rest : List Exchange) :
    o.after x (exchange :: rest) = o.after (o.observe x exchange) rest := rfl

theorem after_append (x : σ) (first second : List Exchange) :
    o.after x (first ++ second) = o.after (o.after x first) second :=
  List.foldl_append

/-- What an observer takes no notice of changes nothing. -/
theorem after_of_unnoticed (x : σ)
    (h : ∀ exchange ∈ exchanges, ∀ y, o.observe y exchange = y) : o.after x exchanges = x := by
  induction exchanges with
  | nil => rfl
  | cons exchange rest ih =>
    obtain ⟨hfirst, hrest⟩ := List.forall_mem_cons.1 h
    rw [after_cons, hfirst]
    exact ih hrest

/-- No observer takes notice of binding. -/
theorem after_of_binds (x : σ) (h : ∀ exchange ∈ exchanges, Session.IsBind exchange) :
    o.after x exchanges = x := by
  refine o.after_of_unnoticed x fun exchange hmem y => ?_
  obtain ⟨call, reply⟩ := exchange
  obtain ⟨socket, ip, port, rfl⟩ := h _ hmem
  rfl

/-- An observer that takes no notice of what is received takes none of looks at a socket. -/
theorem after_of_looks
    (hreceived : ∀ x socket space transfer, o.received x socket space transfer = x) (x : σ)
    (h : ∀ exchange ∈ exchanges, Session.IsLook exchange) : o.after x exchanges = x := by
  refine o.after_of_unnoticed x fun exchange hmem y => ?_
  rcases h _ hmem with ⟨socket, space, transfer, rfl⟩ | ⟨socket, connected, rfl⟩
  · exact hreceived y socket space transfer
  · rfl

variable {policy : Policy} {transport : Transport} {g g' : Generator}

/-- Of a socket that is set up, an observer sees that it is opened, if it is. -/
theorem exists_after_of_openLocal {opened : Except OsError Socket} (x : σ)
    (h : Course (Session.openLocal policy transport g) exchanges (opened, g')) :
    ∃ reply, o.after x exchanges = o.observe x ⟨.openSocket transport, reply⟩ ∧
      ∀ socket, opened = .ok socket → reply = .ok socket := by
  obtain ⟨reply, binds, rfl, hbinds, hopened⟩ := Session.opens_of_openLocal h
  exact ⟨reply, o.after_of_binds _ hbinds, hopened⟩

theorem after_of_openLocal {socket : Socket} (x : σ)
    (h : Course (Session.openLocal policy transport g) exchanges (.ok socket, g')) :
    o.after x exchanges = o.opened x transport socket := by
  obtain ⟨reply, hafter, hopened⟩ := o.exists_after_of_openLocal x h
  obtain rfl := hopened socket rfl
  exact hafter

end Observer

end Resolver
