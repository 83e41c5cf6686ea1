import Resolver.Proofs.Session.Observer

/-!
# What passes over a socket

The exchanges of a talk with the operating system show which socket was opened last and what was
sent and received on it since. A socket is known by its number only from its opening on, since the
system may give the number of a closed socket to the next one.

Main statements: what opening and sending a datagram leave to be seen (`after_of_openLocal`,
`after_of_sendDatagram`).
-/

namespace Resolver

/-- A socket since it was opened. -/
structure Flight where
  transport : Transport
  socket : Socket
  /-- The bytes that were taken to be sent, piece by piece. -/
  sent : List Bytes
  /-- The bytes that were received, piece by piece, each behind the number there was space for. -/
  received : List (Nat × Bytes)
  deriving DecidableEq, Repr

namespace Flight

open Dialogue

/-- Sees the socket opened last, and what was moved on it since. -/
def observer : Observer (Option Flight) where
  opened _ transport socket := some ⟨transport, socket, [], []⟩
  sent flight socket bytes
    | .moved n => flight.map fun f =>
      if f.socket = socket then { f with sent := f.sent ++ [bytes.take n.val] } else f
    | .blocked | .failed _ => flight
  received flight socket space
    | .moved bytes => flight.map fun f =>
      if f.socket = socket then { f with received := f.received ++ [(space, bytes.val)] } else f
    | .blocked | .failed _ => flight

variable {flight : Option Flight} {exchanges : List Exchange} {f : Flight} {socket : Socket}

/-! ## On the socket itself -/

theorem after_send {bytes : Bytes} (h : f.socket = socket) (n : { n : Nat // n ≤ bytes.length }) :
    observer.after (some f) [⟨.send socket bytes, .moved n⟩] =
      some { f with sent := f.sent ++ [bytes.take n.val] } := by
  show some (if f.socket = socket then { f with sent := f.sent ++ [bytes.take n.val] } else f) = _
  rw [if_pos h]

theorem after_receive {space : Nat} (h : f.socket = socket)
    (chunk : { bytes : Bytes // bytes.length ≤ space }) :
    observer.after (some f) [⟨.receive socket space, .moved chunk⟩] =
      some { f with received := f.received ++ [(space, chunk.val)] } := by
  show some (if f.socket = socket then
    { f with received := f.received ++ [(space, chunk.val)] } else f) = _
  rw [if_pos h]

/-! ## Opening and sending -/

/-- A socket that was opened and bound is the one opened last, and nothing has passed over it. -/
theorem after_of_openLocal {policy : Policy} {transport : Transport} {g g' : Generator}
    (h : Course (Session.openLocal policy transport g) exchanges (.ok socket, g')) :
    observer.after flight exchanges = some ⟨transport, socket, [], []⟩ :=
  observer.after_of_openLocal flight h

/-- A datagram that went out whole is the next to be sent. -/
theorem after_of_sendDatagram {policy : Policy} {ip : Ipv4} {message : Bytes}
    (h : Course (Session.sendDatagram policy f.socket ip message) exchanges true) :
    observer.after (some f) exchanges = some { f with sent := f.sent ++ [message] } := by
  unfold Session.sendDatagram at h
  obtain ⟨connection, rest, rfl, hconnect⟩ := course_call_iff.1 h
  cases connection with
  | connected =>
    obtain ⟨transfer, rest, rfl, hsend⟩ := course_call_iff.1 hconnect
    cases transfer with
    | moved n =>
      obtain ⟨rfl, hwhole⟩ := course_pure_iff.1 hsend
      -- a datagram of which only a part was taken does not count as sent
      have hlength : n.val = message.length := by simpa using hwhole.symm
      show observer.after (some f) [⟨.send f.socket message, .moved n⟩] = _
      rw [after_send rfl, hlength, List.take_length]
    | blocked => exact nomatch (course_pure_iff.1 hsend).2
    | failed cause => exact nomatch (course_pure_iff.1 hsend).2
  | inProgress => exact nomatch (course_pure_iff.1 hconnect).2
  | failed cause => exact nomatch (course_pure_iff.1 hconnect).2

end Flight

end Resolver
