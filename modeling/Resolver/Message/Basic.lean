import Resolver.Message.RecordData

/-!
# Messages

A message as far as it is shown to people: its response code and its answers. The whole message
has to be well formed for that, also the parts that are not shown.
-/

namespace Resolver

/-- A record of a message. -/
structure Message.Record where
  name : Message.Labels
  type : UInt16
  qclass : UInt16
  ttl : Nat
  data : Option Message.RecordData
  deriving DecidableEq, Repr

/-- What a message says. -/
structure Message where
  /-- The response code with the high bits that an option record adds. -/
  code : Nat
  answers : List Message.Record
  deriving DecidableEq, Repr

namespace Message

open Reader

/-- The type of records that carry options. -/
def optionsType : UInt16 := 41

/-- Reads a record. -/
def readRecord (message : Bytes) : Reader Record := do
  let name ← readName message
  let type ← word
  if type = optionsType ∧ name ≠ [] then flaw (.optionsNotAtRoot (nameText name))
  else
    let qclass ← word
    let ttl ← number 4
    let length ← number 2
    let left := (← place).rest.length
    if left < length then flaw (.dataTooLong length left)
    else if length = 0 then return ⟨name, type, qclass, ttl, none⟩
    else return ⟨name, type, qclass, ttl, some (← readData message type length)⟩

/-- Reads a question, of which nothing is shown. -/
def readQuestion (message : Bytes) : Reader Unit := do
  let _ ← readName message
  let _ ← word
  let _ ← word
  return ()

/-- Reads additional records: the high bits of the response code, which the one record with options
among them holds. -/
def readAdditional (message : Bytes) :
    (count : Nat) → (high : Option Nat) → Place → Except Flaw (Option Nat) × Place
  | 0, high, p => (.ok high, p)
  | count + 1, high, p =>
    match readRecord message p with
    | (.error e, p) => (.error e, p)
    | (.ok r, p) =>
      if r.type = optionsType then
        if high.isSome then (.error (.other "more than one edns record present"), p)
        else readAdditional message count (some (r.ttl / 0x1000000)) p
      else readAdditional message count high p

/-- The kinds of requests that are known. -/
def operations : List Nat :=
  [0, 2, 4, 5]

/-- Reads a message. -/
def readMessage (message : Bytes) : Reader Message := do
  let _ ← word
  let operation := (← byte).toNat / 8 % 16
  if operation ∉ operations then flaw (.other s!"unknown OpCode: {operation}")
  else
    let low := (← byte).toNat % 16
    let questions ← number 2
    let answers ← number 2
    let authorities ← number 2
    let additional ← number 2
    let _ ← times (readQuestion message) questions []
    let records ← times (readRecord message) answers []
    let _ ← times (readRecord message) authorities []
    let high ← readAdditional message additional none
    return ⟨16 * high.getD 0 + low, records⟩

/-- The message that bytes stand for. -/
def ofBytes (bytes : Bytes) : Except Flaw Message :=
  (readMessage bytes ⟨bytes, 0⟩).1

/-- The name of a record's class. In records with options its place holds a size. -/
def Record.classText (r : Record) : String :=
  if r.type = optionsType then "OPT" else className r.qclass

/-- The text of a record. -/
def Record.toText (r : Record) : String :=
  s!"{nameText r.name} {r.ttl} {r.classText} {typeName r.type}" ++
    match r.data with
    | some data => " " ++ data.toText
    | none => ""

/-- The text of a message: a line with the response code and the number of answers, and a line for
each answer. -/
def toText (m : Message) : String :=
  s!";; rcode {responseText m.code} answers {m.answers.length}\n" ++
    String.join (m.answers.map fun r => r.toText ++ "\n")

end Message

end Resolver
