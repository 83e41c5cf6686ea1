import Resolver.Packet
import Resolver.Session.Servers

/-!
# Queries

The message of a query, as it is sent in a datagram and over a stream, and the check whether a
reply answers it.
-/

namespace Resolver

/-- What is asked. -/
structure Query where
  /-- The name in wire form, nothing behind it. -/
  name : Bytes
  qtype : UInt16
  /-- Whether the server is to ask other servers itself. -/
  recursive : Bool
  deriving DecidableEq, Repr

namespace Query

/-- The header bytes between id and question: the flags, one question and no records. -/
def headerTail (recursive : Bool) : Bytes :=
  [if recursive then 1 else 0, 0, 0, 1, 0, 0, 0, 0, 0, 0]

/-- The question section. -/
def question (q : Query) : Bytes :=
  q.name ++ (wordBytes q.qtype ++ wordBytes Packet.classInternet)

/-- The message with a given id. -/
def message (q : Query) (id : UInt16) : Bytes :=
  wordBytes id ++ (headerTail q.recursive ++ q.question)

theorem length_message (q : Query) (id : UInt16) : (q.message id).length = q.name.length + 16 := by
  unfold message headerTail question
  simp only [List.length_append, length_wordBytes, List.length_cons, List.length_nil]
  omega

/-- The message as a stream carries it, behind its length. -/
def framed (q : Query) (id : UInt16) : Bytes :=
  toBigEndian 2 (q.name.length + 16) ++ q.message id

/-- The longest message that is sent in a datagram. -/
def maxDatagram : Nat := 512

end Query

/-- A query as it was last sent. -/
structure Attempt where
  query : Query
  servers : Servers
  /-- The id of the attempt in flight. -/
  id : UInt16
  deriving DecidableEq, Repr

namespace Attempt

/-- Whether a reply carries the attempt's id and exactly its question, letter case aside. -/
def isAnsweredBy (a : Attempt) (reply : Bytes) : Bool :=
  match Packet.question? reply with
  | some q =>
    q.id == a.id && Name.equal q.name a.query.name && q.qtype == a.query.qtype &&
      q.qclass == Packet.classInternet
  | none => false

end Attempt

end Resolver
