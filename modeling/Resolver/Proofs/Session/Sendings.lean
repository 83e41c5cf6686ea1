import Resolver.Proofs.Session.Encoding
import Resolver.Proofs.Session.Lifecycle
import Resolver.Proofs.Session.Streaming

/-!
# What a query puts on the network

Every attempt opens a socket and offers its message there: whole in a datagram, or behind its length
and piece by piece over a stream. What was offered to each socket shows in the talk with the operating
system.

Main statements: a search for a server offers the query to every socket it opens and leaves the session
where its last sending stands (`Session.sends_of_seeks`), and the session keeps to its query whenever it
goes on (`Session.sends_of_get`).
-/

namespace Resolver

open Dialogue

/-! ## Sendings -/

/-- A socket since it was opened. -/
structure Sending where
  transport : Transport
  socket : Socket
  /-- What was offered to be sent, the last first, each with the number of bytes taken of it. -/
  offers : List (Bytes × Nat)
  deriving DecidableEq, Repr

namespace Sending

/-- How many bytes were taken of what was offered. -/
def count {bytes : Bytes} : Transfer { n : Nat // n ≤ bytes.length } → Nat
  | .moved n => n.val
  | .blocked | .failed _ => 0

/-- Bytes are offered to the socket opened last, if it is this one. -/
def offer? (socket : Socket) (bytes : Bytes) (n : Nat) : List Sending → Option (List Sending)
  | x :: earlier =>
    if x.socket = socket then some ({ x with offers := (bytes, n) :: x.offers } :: earlier) else none
  | [] => none

/-- Sees the sockets that were opened, the last one first, and what was offered to each; `none` if bytes
were offered to another socket than the one opened last. -/
def observer : Observer (Option (List Sending)) where
  opened sendings transport socket := sendings.map (⟨transport, socket, []⟩ :: ·)
  sent sendings socket bytes transfer := sendings.bind (offer? socket bytes (count transfer))

/-- A message as a transport carries it. -/
def form (m : Bytes) : Transport → Bytes
  | .udp => m
  | .tcp => toBigEndian 2 m.length ++ m

/-- How many bytes were taken of some offers. -/
def total : List (Bytes × Nat) → Nat
  | [] => 0
  | (_, n) :: earlier => n + total earlier

/-- Every offer is what the ones before it left of the bytes to send. -/
def Pieces (whole : Bytes) : List (Bytes × Nat) → Prop
  | [] => True
  | (bytes, _) :: earlier => bytes = whole.drop (total earlier) ∧ Pieces whole earlier

/-- A message, and nothing else, is sent over the socket, in one datagram or piece by piece. -/
structure IsOf (x : Sending) (m : Bytes) : Prop where
  pieces : Pieces (form m x.transport) x.offers
  single : x.transport = .udp → x.offers.length ≤ 1

end Sending

namespace Wire

/-- How the attempt was made. -/
def transport (wire : Wire) : Transport :=
  if wire.isDatagram then .udp else .tcp

/-- How many of the bytes to send are taken. -/
def progress (whole : Bytes) : Wire → Nat
  | .connecting _ => 0
  | .sending _ sent => sent
  | .awaitingDatagram _ | .awaitingHigh _ | .awaitingLow _ _ | .awaitingBody _ _ _ => whole.length

/-- An attempt that waits for its reply has sent all there is to send. -/
theorem progress_of_read {wire : Wire} (whole : Bytes) (h : wire.interest = .read) :
    wire.progress whole = whole.length := by
  cases wire with
  | connecting | sending => exact nomatch h
  | awaitingDatagram | awaitingHigh | awaitingLow | awaitingBody => rfl

end Wire

namespace Sending

/-- A message is sent over the socket of an attempt, as far as the attempt has come. -/
structure StandsAt (x : Sending) (m : Bytes) (wire : Wire) : Prop where
  isOf : x.IsOf m
  transport_eq : x.transport = wire.transport
  socket_eq : x.socket = wire.socket
  total_eq : total x.offers = wire.progress (form m wire.transport)

variable {sendings : Option (List Sending)} {earlier : List Sending} {x : Sending} {m bytes : Bytes}
  {policy : Policy} {transport : Transport} {socket : Socket} {wire : Wire}
  {exchanges : List Exchange} {g g' : Generator}

theorem observe_send (h : x.socket = socket) (transfer : Transfer { n : Nat // n ≤ bytes.length }) :
    observer.observe (some (x :: earlier)) ⟨.send socket bytes, transfer⟩ =
      some ({ x with offers := (bytes, count transfer) :: x.offers } :: earlier) :=
  if_pos h

/-! ## Making an attempt -/

/-- Nothing was offered yet. -/
theorem isOf_of_nil (m : Bytes) (h : x.offers = []) : x.IsOf m := by
  constructor
  · rw [h]
    trivial
  · intro _
    rw [h]
    exact Nat.zero_le 1

/-- A datagram was offered once. -/
theorem isOf_datagram (socket : Socket) (m : Bytes) (n : Nat) : IsOf ⟨.udp, socket, [(m, n)]⟩ m :=
  ⟨⟨rfl, trivial⟩, fun _ => Nat.le_refl 1⟩

/-- A socket that was set up is the one opened last, and nothing was offered to it. -/
theorem after_of_openLocal
    (h : Course (Session.openLocal policy transport g) exchanges (.ok socket, g')) :
    observer.after (some earlier) exchanges = some (⟨transport, socket, []⟩ :: earlier) :=
  observer.after_of_openLocal (some earlier) h

/-- When no socket can be set up, nothing was offered. -/
theorem exists_after_of_openLocal (earlier : List Sending) {opened : Except OsError Socket}
    (h : Course (Session.openLocal policy transport g) exchanges (opened, g')) :
    ∃ fresh, observer.after (some earlier) exchanges = some (fresh ++ earlier) ∧
      ∀ x ∈ fresh, x.offers = [] := by
  obtain ⟨reply, hafter, -⟩ := observer.exists_after_of_openLocal (some earlier) h
  rw [hafter]
  cases reply with
  | error cause => exact ⟨[], rfl, nofun⟩
  | ok socket => exact ⟨[⟨transport, socket, []⟩], rfl, List.forall_mem_singleton.2 rfl⟩

/-- An attempt offers its message to its socket at most, and if the session waits for it, it stands
where it should. -/
theorem after_of_approach (earlier : List Sending) {target : Servers.Target}
    {reception : Session.Reception}
    (h : Session.Approach policy target m socket transport exchanges reception) :
    ∃ x, observer.after (some (⟨transport, socket, []⟩ :: earlier)) exchanges =
        some (x :: earlier) ∧
      x.IsOf m ∧ ∀ deadline wire, reception = .waits deadline wire → x.StandsAt m wire := by
  cases h with
  | unconnected => exact ⟨_, rfl, isOf_of_nil m rfl, nofun⟩
  | unsent => exact ⟨_, observe_send rfl _, isOf_datagram socket m _, nofun⟩
  | sent hwhole =>
    refine ⟨_, observe_send rfl _, isOf_datagram socket m _, fun deadline wire hwaits => ?_⟩
    obtain ⟨rfl, rfl⟩ := Session.Reception.waits.inj hwaits
    exact ⟨isOf_datagram socket m _, rfl, rfl, hwhole⟩
  | sentTooLate => exact ⟨_, observe_send rfl _, isOf_datagram socket m _, nofun⟩
  | refused => exact ⟨_, rfl, isOf_of_nil m rfl, nofun⟩
  | connected =>
    refine ⟨_, rfl, isOf_of_nil m rfl, fun deadline wire hwaits => ?_⟩
    obtain ⟨rfl, rfl⟩ := Session.Reception.waits.inj hwaits
    exact ⟨isOf_of_nil m rfl, rfl, rfl, rfl⟩
  | inProgress =>
    refine ⟨_, rfl, isOf_of_nil m rfl, fun deadline wire hwaits => ?_⟩
    obtain ⟨rfl, rfl⟩ := Session.Reception.waits.inj hwaits
    exact ⟨isOf_of_nil m rfl, rfl, rfl, rfl⟩
  | tooLate => exact ⟨_, rfl, isOf_of_nil m rfl, nofun⟩

/-! ## Looking at the socket -/

/-- What is left of a message is offered to the stream that it is sent over. -/
theorem StandsAt.send {sent : Nat} (h : x.StandsAt m (.sending socket sent)) (earlier : List Sending)
    (transfer : Transfer { n : Nat // n ≤ ((form m .tcp).drop sent).length }) :
    ∃ x', observer.observe (some (x :: earlier)) ⟨.send socket ((form m .tcp).drop sent), transfer⟩ =
        some (x' :: earlier) ∧
      ∀ wire : Wire, wire.transport = .tcp → wire.socket = socket →
        wire.progress (form m .tcp) = sent + count transfer → x'.StandsAt m wire := by
  obtain ⟨⟨hpieces, hsingle⟩, htransport, hsocket, htotal⟩ := h
  replace htransport : x.transport = .tcp := htransport
  replace htotal : total x.offers = sent := htotal
  refine ⟨_, observe_send hsocket transfer, fun wire hstream hsame hprogress => ?_⟩
  constructor
  case isOf =>
    refine ⟨⟨?_, hpieces⟩, fun hdatagram => nomatch htransport.symm.trans hdatagram⟩
    rw [htotal, htransport]
  case transport_eq => exact htransport.trans hstream.symm
  case socket_eq => exact hsocket.trans hsame.symm
  case total_eq =>
    show count transfer + total x.offers = _
    rw [hstream, hprogress, htotal, Nat.add_comm]

/-- An attempt that reads has sent all of its message, and stands there for as long as it reads. -/
theorem StandsAt.readsOn {wire' : Wire} (h : x.StandsAt m wire) (hreads : Session.ReadsStream wire)
    (hreads' : Session.ReadsStream wire') (hsocket : wire'.socket = wire.socket) :
    x.StandsAt m wire' := by
  have htransport : ∀ {w : Wire}, Session.ReadsStream w → w.transport = .tcp := fun hw => by
    unfold Wire.transport
    rw [hw.2]
    rfl
  constructor
  case isOf => exact h.isOf
  case transport_eq => rw [h.transport_eq, htransport hreads, htransport hreads']
  case socket_eq => exact h.socket_eq.trans hsocket.symm
  case total_eq =>
    rw [h.total_eq, Wire.progress_of_read _ hreads.1, Wire.progress_of_read _ hreads'.1,
      htransport hreads, htransport hreads']

/-- A datagram whose reply is waited for was sent once, as a whole. -/
theorem StandsAt.eq_datagram (h : x.StandsAt m (.awaitingDatagram socket)) (hm : m ≠ []) :
    x = ⟨.udp, socket, [(m, m.length)]⟩ := by
  obtain ⟨transport, socket', offers⟩ := x
  obtain ⟨⟨hpieces, hsingle⟩, htransport, hsocket, htotal⟩ := h
  obtain rfl : transport = .udp := htransport
  obtain rfl : socket' = socket := hsocket
  match offers, hpieces, hsingle rfl, htotal with
  | [], _, _, hzero => exact absurd (List.eq_nil_of_length_eq_zero hzero.symm) hm
  | [(bytes, n)], ⟨hbytes, _⟩, _, hall =>
    obtain rfl : bytes = m := hbytes
    obtain rfl : n = bytes.length := hall
    rfl

end Sending

namespace Session

open Sending (StandsAt)

variable {q : Query} {sendings : List Sending} {earlier : List Sending} {x : Sending}
  {attempt : Attempt} {wire : Wire} {servers : Servers} {targets : List Servers.Target}
  {policy : Policy} {transport : Transport} {round : Nat} {move : Move} {s : Session} {turn : Turn}
  {exchanges : List Exchange} {g g' : Generator}

/-- An attempt that goes on waiting stands where this is so. -/
def Move.Keeps (P : Wire → Prop) : Move → Prop
  | .stay wire | .stayUntil _ wire => P wire
  | .nextUdp | .firstTcp | .nextTcp | .accept _ | .overflow => True

variable {P : Wire → Prop}

theorem keeps_of_ends {datagram : Bool} (h : move.Ends datagram) : move.Keeps P := by
  cases move with
  | stay | stayUntil | overflow => exact h.elim
  | nextUdp | firstTcp | nextTcp | accept => trivial

/-- In these exchanges the socket opened last was offered nothing but the message, and an attempt that
goes on waiting stands where that has come to. -/
def OffersOnly (m : Bytes) (x : Sending) (exchanges : List Exchange) (move : Move) : Prop :=
  ∀ earlier, ∃ x', Sending.observer.after (some (x :: earlier)) exchanges = some (x' :: earlier) ∧
    x'.IsOf m ∧ move.Keeps (x'.StandsAt m)

/-- An attempt that sends its message over a stream offers what is left of it. -/
theorem exists_offer {socket : Socket} {sent : Nat}
    (hx : x.StandsAt (attempt.query.message attempt.id) (.sending socket sent))
    (earlier : List Sending) (transfer :
      Transfer { n : Nat // n ≤ ((attempt.query.framed attempt.id).drop sent).length }) :
    ∃ x', Sending.observer.observe (some (x :: earlier))
        ⟨.send socket ((attempt.query.framed attempt.id).drop sent), transfer⟩ =
          some (x' :: earlier) ∧
      x'.IsOf (attempt.query.message attempt.id) ∧
      ∀ wire : Wire, wire.transport = .tcp → wire.socket = socket →
        wire.progress (attempt.query.framed attempt.id) = sent + Sending.count transfer →
        x'.StandsAt (attempt.query.message attempt.id) wire := by
  revert transfer
  rw [framed_eq]
  intro transfer
  obtain ⟨x', hobserve, hstands⟩ := hx.send earlier transfer
  exact ⟨x', hobserve,
    (hstands (.sending socket (sent + Sending.count transfer)) rfl rfl rfl).isOf, hstands⟩

/-- Whether its socket is looked at or only the clock, an attempt offers nothing but its message. -/
theorem offersOnly_of_nextMove {ready : Bool} {now : Instant}
    (hx : x.StandsAt (attempt.query.message attempt.id) wire)
    (h : Course (s.nextMove attempt wire ready now) exchanges move) :
    OffersOnly (attempt.query.message attempt.id) x exchanges move := by
  intro earlier
  have hquiet : ∀ {looks}, (∀ exchange ∈ looks, IsLook exchange) →
      Sending.observer.after (some (x :: earlier)) looks = some (x :: earlier) :=
    fun hlooks => Sending.observer.after_of_looks (fun _ _ _ _ => rfl) _ hlooks
  cases glance_of_nextMove h with
  | stays hlooks => exact ⟨x, hquiet hlooks, hx.isOf, hx⟩
  | ends hlooks hends => exact ⟨x, hquiet hlooks, hx.isOf, keeps_of_ends hends⟩
  | connects hlooks =>
    exact ⟨x, hquiet hlooks, hx.isOf, hx.isOf, hx.transport_eq, hx.socket_eq, hx.total_eq⟩
  | readsOn hlooks hreads hreads' hsocket =>
    exact ⟨x, hquiet hlooks, hx.isOf, hx.readsOn hreads hreads' hsocket⟩
  | @blocked socket sent =>
    obtain ⟨x', hobserve, hisOf, hstands⟩ := exists_offer hx earlier .blocked
    exact ⟨x', hobserve, hisOf, hstands (.sending socket sent) rfl rfl rfl⟩
  | @fails socket sent transfer =>
    obtain ⟨x', hobserve, hisOf, -⟩ := exists_offer hx earlier transfer
    exact ⟨x', hobserve, hisOf, trivial⟩
  | @sendsOn socket sent n =>
    obtain ⟨x', hobserve, hisOf, hstands⟩ := exists_offer hx earlier (.moved n)
    exact ⟨x', hobserve, hisOf, hstands (.sending socket (sent + n)) rfl rfl rfl⟩
  | @sent socket sent _ _ n hwhole =>
    obtain ⟨x', hobserve, hisOf, hstands⟩ := exists_offer hx earlier (.moved n)
    exact ⟨x', hobserve, hisOf, hstands (.awaitingHigh socket) rfl rfl hwhole.symm⟩
  | @sentTooLate socket sent _ n =>
    obtain ⟨x', hobserve, hisOf, -⟩ := exists_offer hx earlier (.moved n)
    exact ⟨x', hobserve, hisOf, trivial⟩

/-! ## The invariant -/

/-- All sendings are of the query, each with an id of its own, and the attempt that a session waits for
is the last of them. -/
structure Sends (s : Session) (q : Query) (sendings : List Sending) : Prop where
  isOf : ∀ x ∈ sendings, ∃ id, x.IsOf (q.message id)
  waiting : ∀ attempt wire, s.stage = .waiting attempt wire → attempt.query = q ∧
    ∃ x earlier, sendings = x :: earlier ∧ x.StandsAt (q.message attempt.id) wire

/-- A session that waits for nothing has only to have sent the query. -/
theorem sends_of_idle (reply : Option Bytes) (hstage : s.stage = .idle reply)
    (hisOf : ∀ x ∈ sendings, ∃ id, x.IsOf (q.message id)) : s.Sends q sendings :=
  ⟨hisOf, fun _ _ hwaiting => nomatch hstage.symm.trans hwaiting⟩

theorem sends_of_waiting (hstage : s.stage = .waiting attempt wire) (hquery : attempt.query = q)
    (hx : x.StandsAt (q.message attempt.id) wire)
    (hisOf : ∀ y ∈ x :: earlier, ∃ id, y.IsOf (q.message id)) : s.Sends q (x :: earlier) := by
  refine ⟨hisOf, fun other wire' hother => ?_⟩
  obtain ⟨rfl, rfl⟩ := Stage.waiting.inj (hstage.symm.trans hother)
  exact ⟨hquery, x, earlier, rfl, hx⟩

/-- A search offers the query to every socket that it opens. -/
theorem sends_of_seeks (h : s.Seeks q servers transport targets g exchanges turn)
    (hisOf : ∀ x ∈ sendings, ∃ id, x.IsOf (q.message id)) :
    ∃ sendings', Sending.observer.after (some sendings) exchanges = some sendings' ∧
      turn.2.1.Sends q sendings' := by
  -- the induction passes over the targets that fail at once, each with a sending more
  induction h generalizing sendings with
  | vain =>
    refine ⟨sendings, rfl, sends_of_idle none ?_ hisOf⟩
    cases transport <;> rfl
  | passesOver hopen hfails hrest ih =>
    obtain ⟨x, hafter, hx, -⟩ := Sending.after_of_approach sendings hfails
    rw [Observer.after_append, Sending.after_of_openLocal hopen, Observer.after_append, hafter]
    exact ih (List.forall_mem_cons.2 ⟨⟨_, hx⟩, hisOf⟩)
  | waits hopen hwaits =>
    obtain ⟨x, hafter, hx, hstands⟩ := Sending.after_of_approach sendings hwaits
    rw [Observer.after_append, Sending.after_of_openLocal hopen, hafter]
    exact ⟨_, rfl, sends_of_waiting rfl rfl (hstands _ _ rfl)
      (List.forall_mem_cons.2 ⟨⟨_, hx⟩, hisOf⟩)⟩
  | overflows hopen hoverflows =>
    obtain ⟨x, hafter, hx, -⟩ := Sending.after_of_approach sendings hoverflows
    rw [Observer.after_append, Sending.after_of_openLocal hopen, hafter]
    exact ⟨_, rfl, sends_of_idle _ rfl (List.forall_mem_cons.2 ⟨⟨_, hx⟩, hisOf⟩)⟩
  | unbound hopen =>
    obtain ⟨fresh, hafter, hfresh⟩ := Sending.exists_after_of_openLocal sendings hopen
    refine ⟨_, hafter, sends_of_idle _ rfl (List.forall_mem_append.2 ⟨fun x hx => ?_, hisOf⟩)⟩
    exact ⟨0, Sending.isOf_of_nil _ (hfresh x hx)⟩

/-- Whatever becomes of its attempt, a session sends nothing but the query. -/
theorem sends_of_follow (hisOf : ∀ y ∈ x :: earlier, ∃ id, y.IsOf (attempt.query.message id))
    (hkeeps : move.Keeps (x.StandsAt (attempt.query.message attempt.id)))
    (h : Course (s.follow attempt g move) exchanges turn) :
    ∃ sendings, Sending.observer.after (some (x :: earlier)) exchanges = some sendings ∧
      turn.2.1.Sends attempt.query sendings := by
  cases move with
  | stay wire =>
    obtain ⟨rfl, rfl⟩ := course_pure_iff.1 h
    exact ⟨_, rfl, sends_of_waiting rfl rfl hkeeps hisOf⟩
  | stayUntil deadline wire =>
    obtain ⟨rfl, rfl⟩ := course_pure_iff.1 h
    exact ⟨_, rfl, sends_of_waiting rfl rfl hkeeps hisOf⟩
  | nextUdp => exact sends_of_seeks (seeks_of_tryUdp h) hisOf
  | firstTcp | nextTcp =>
    exact sends_of_seeks (seeks_of_tryTcp (fun _ => Servers.round_of_mem_targetsFrom) h) hisOf
  | accept reply =>
    obtain ⟨rfl, rfl⟩ := course_pure_iff.1 h
    exact ⟨_, rfl, sends_of_idle _ rfl hisOf⟩
  | overflow =>
    obtain ⟨rfl, rfl⟩ := course_pure_iff.1 h
    exact ⟨_, rfl, sends_of_idle _ rfl hisOf⟩

/-- A session that goes on keeps to its query. -/
theorem sends_of_get {ready : Bool} {now : Instant} (hsends : s.Sends q sendings)
    (h : Course (s.get ready now g) exchanges turn) :
    ∃ sendings', Sending.observer.after (some sendings) exchanges = some sendings' ∧
      turn.2.1.Sends q sendings' := by
  cases hstage : s.stage with
  | idle reply =>
    unfold get at h
    rw [hstage] at h
    cases reply <;> obtain ⟨rfl, rfl⟩ := course_pure_iff.1 h <;> exact ⟨sendings, rfl, hsends⟩
  | waiting attempt wire =>
    obtain ⟨rfl, x, earlier, rfl, hx⟩ := hsends.waiting attempt wire hstage
    rw [get_waiting hstage] at h
    obtain ⟨move, moves, rest, rfl, hmove, hfollow⟩ := course_seq_iff.1 h
    obtain ⟨x', hafter, hisOf, hkeeps⟩ := offersOnly_of_nextMove hx hmove earlier
    rw [Observer.after_append, hafter]
    refine sends_of_follow ?_ hkeeps hfollow
    exact List.forall_mem_cons.2 ⟨⟨_, hisOf⟩, (List.forall_mem_cons.1 hsends.isOf).2⟩

end Session

end Resolver
