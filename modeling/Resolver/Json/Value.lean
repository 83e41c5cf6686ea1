import Resolver.Json.Lexer
import Resolver.Text.Quoted

/-!
# Reading wanted values

Readers for values of a given kind. A value of another kind is a problem that says what was found
and what was expected.
-/

namespace Resolver.Json

/-! ## Descriptions -/

/-- How floating-point numbers appear in descriptions. -/
def floatStyle : FloatStyle := ⟨16, 4, true⟩

/-- What a number is called in descriptions. -/
def Number.description : Number → String
  | .natural n => s!"integer \x60{n}\x60"
  | .negative n => s!"integer \x60-{n}\x60"
  | .float minus x => s!"floating point \x60{floatStyle.format minus x}\x60"

/-- The problem that something of the wrong kind was found. -/
def wrongKind (found expected : String) : Problem :=
  .unwanted s!"invalid type: {found}, expected {expected}"

/-- The problem that something of the right kind does not fit. -/
def wrongValue (found expected : String) : Problem :=
  .unwanted s!"invalid value: {found}, expected {expected}"

/-- Reads what stands in place of an expected value far enough to say what it is. -/
def refuse {α : Type} (expected : String) : Reader α := fun c =>
  match c.rest with
  | [] => c.faultNext .endInValue
  | b :: _ =>
    if b = 110 then do
      let (_, c) ← literal nullTail c.next
      c.fault (wrongKind "null" expected)
    else if b = 116 then do
      let (_, c) ← literal trueTail c.next
      c.fault (wrongKind "boolean \x60true\x60" expected)
    else if b = 102 then do
      let (_, c) ← literal falseTail c.next
      c.fault (wrongKind "boolean \x60false\x60" expected)
    else if b = 45 then do
      let (n, c) ← number true c.next
      c.fault (wrongKind n.description expected)
    else if Cursor.isDigit b then do
      let (n, c) ← number false c
      c.fault (wrongKind n.description expected)
    else if b = 34 then do
      let (s, c) ← string c.next
      c.fault (wrongKind s!"string {Quoted.encode s}" expected)
    else if b = 91 then c.fault (wrongKind "sequence" expected)
    else if b = 123 then c.fault (wrongKind "map" expected)
    else c.faultNext .expectedValue

/-! ## Single values -/

/-- Reads a natural number up to `greatest`; `kind` is what such numbers are called. -/
def natural (kind : String) (greatest : Nat) : Reader Nat := fun c => do
  let c := c.skipBlanks
  if c.peek = 45 ∨ Cursor.isDigit c.peek then
    let (n, c) ← if c.peek = 45 then number true c.next else number false c
    match n with
    | .natural n =>
      if n ≤ greatest then return (n, c)
      else c.fault (wrongValue (Number.natural n).description kind)
    | .negative n => c.fault (wrongValue (Number.negative n).description kind)
    | .float _ _ => c.fault (wrongKind n.description kind)
  else refuse kind c

/-- Reads a string and makes something of it; `kind` is what is expected and `problem` what is
wrong when nothing can be made of it. -/
def stringAs {α : Type} (kind : String) (problem : String) (make? : String → Option α) :
    Reader α := fun c => do
  let c := c.skipBlanks
  if c.peek = 34 then
    let (s, c) ← string c.next
    match make? s with
    | some a => return (a, c)
    | none => c.fault (.unwanted problem)
  else refuse kind c

/-- Reads a string; `kind` is what is expected. -/
def stringOf (kind : String) : Reader String :=
  stringAs kind "" some

/-- Reads a value or `null`. -/
def optional {α : Type} (read : Reader α) : Reader (Option α) := fun c => do
  let c := c.skipBlanks
  if c.peek = 110 then
    let (_, c) ← literal nullTail c.next
    return (none, c)
  else
    let (a, c) ← read c
    return (some a, c)

/-! ## Lists -/

/-- Whether another element of a list follows; goes to where it begins. -/
def hasElement (first : Bool) : Reader Bool := fun c =>
  let c := c.skipBlanks
  match c.rest with
  | [] => c.faultNext .endInList
  | b :: _ =>
    if b = 93 then .ok (false, c)
    else if first then .ok (true, c)
    else if b = 44 then
      let c := c.next.skipBlanks
      match c.rest with
      | [] => c.faultNext .endInValue
      | x :: _ => if x = 93 then c.faultNext .trailingComma else .ok (true, c)
    else c.faultNext .expectedListEnd

/-- Goes over the closing bracket of a list. -/
def endList (c : Cursor) : Except Fault Cursor :=
  let c := c.skipBlanks
  match c.rest with
  | [] => c.faultNext .endInList
  | b :: _ =>
    if b = 93 then .ok c.next
    else if b = 44 then
      let c := c.next.skipBlanks
      if c.peek = 93 then c.faultNext .trailingComma else c.faultNext .trailingCharacters
    else c.faultNext .trailingCharacters

/-- The offset at which looking for the closing bracket of a list stops. -/
def endListOffset (c : Cursor) : Nat :=
  let c := c.skipBlanks
  if c.peek = 93 then c.next.offset
  else if c.peek = 44 then c.next.skipBlanks.offset
  else c.offset

/-- Reads the elements that are left in a list, up to `limit` of them, behind the elements `seen`
(last first). -/
def elements {α : Type} (read : Reader α) : (limit : Nat) → List α → Reader (List α)
  | 0, seen, c => .ok (seen.reverse, c)
  | limit + 1, seen, c => do
    let (more, c) ← hasElement seen.isEmpty c
    if more then
      let (a, c) ← read c
      elements read limit (a :: seen) c
    else return (seen.reverse, c)

/-- Reads a list of any length. -/
def listOf {α : Type} (read : Reader α) : Reader (List α) := fun c => do
  let c := c.skipBlanks
  if c.peek = 91 then
    let (as, c) ← elements read (c.rest.length + 1) [] c.next
    let c ← endList c
    return (as, c)
  else refuse "a sequence" c

/-- Reads a list of exactly `count` elements. -/
def listOfLength {α : Type} (count : Nat) (read : Reader α) : Reader (List α) := fun c => do
  let c := c.skipBlanks
  let expected := s!"an array of length {count}"
  if c.peek = 91 then
    let (as, c) ← elements read count [] c.next
    if as.length < count then
      throw ⟨.unwanted s!"invalid length {as.length}, expected {expected}", endListOffset c⟩
    let c ← endList c
    return (as, c)
  else refuse expected c

/-! ## Objects -/

/-- The key of the next member of an object; none at its end. -/
def nextKey (first : Bool) : Reader (Option String) := fun c =>
  let key := fun (c : Cursor) =>
    match c.rest with
    | [] => c.faultNext .endInValue
    | b :: _ =>
      if b = 34 then do
        let (s, c) ← string c.next
        return (some s, c)
      else if b = 125 then c.faultNext .trailingComma
      else c.faultNext .keyNotString
  let c := c.skipBlanks
  match c.rest with
  | [] => c.faultNext .endInObject
  | b :: _ =>
    if b = 125 then .ok (none, c)
    else if first then key c
    else if b = 44 then key c.next.skipBlanks
    else c.faultNext .expectedObjectEnd

/-- Goes over the colon behind a key. -/
def colon (c : Cursor) : Except Fault Cursor :=
  let c := c.skipBlanks
  match c.rest with
  | [] => c.faultNext .endInObject
  | b :: _ => if b = 58 then .ok c.next else c.faultNext .expectedColon

/-- The offset at which looking for the closing bracket of an object stops. -/
def endObjectOffset (c : Cursor) : Nat :=
  let c := c.skipBlanks
  if c.peek = 125 then c.next.offset else c.offset

/-! ## Records and documents -/

/-- A member of a record of type `α`: its key, and a reader that takes the value in. -/
structure Member (α : Type) where
  key : String
  take : α → Reader α

/-- Reads the members that are left in an object into a record. A known key must not come twice;
members with other keys are gone over. There is fuel for one step a byte. -/
def membersOf {α : Type} (members : List (Member α)) :
    (fuel : Nat) → (first : Bool) → (seen : List String) → α → Reader α
  | 0, _, _, a, c => .ok (a, c)
  | fuel + 1, first, seen, a, c => do
    let (key, c) ← nextKey first c
    match key with
    | none => return (a, c.next)
    | some key =>
      match members.find? (·.key = key) with
      | some member =>
        if key ∈ seen then
          throw ⟨.unwanted s!"duplicate field \x60{key}\x60", endObjectOffset c⟩
        let (a, c) ← member.take a (← colon c)
        membersOf members fuel false (key :: seen) a c
      | none =>
        let c ← skipValue fuel (← colon c)
        membersOf members fuel false seen a c

/-- Reads the values that are left in a list as the members of a record in their order; members at
the end may be left out. -/
def membersInOrder {α : Type} : List (Member α) → (first : Bool) → α → Reader α
  | [], _, a, c => .ok (a, c)
  | member :: members, first, a, c => do
    let (more, c) ← hasElement first c
    if more then
      let (a, c) ← member.take a c
      membersInOrder members false a c
    else return (a, c)

/-- Reads a record, from an object or from a list; `kind` is what is expected, and members left out
stay as they are in `blank`. -/
def record {α : Type} (kind : String) (members : List (Member α)) (blank : α) : Reader α :=
  fun c => do
    let c := c.skipBlanks
    if c.peek = 91 then
      let (a, c) ← membersInOrder members true blank c.next
      let c ← endList c
      return (a, c)
    else if c.peek = 123 then membersOf members (c.rest.length + 1) true [] blank c.next
    else refuse kind c

/-- Reads a whole text; nothing but blanks may follow the value. -/
def document {α : Type} (read : Reader α) (text : Bytes) : Except Fault α := do
  let (a, c) ← read (Cursor.start text)
  let c := c.skipBlanks
  if c.rest = [] then return a else c.faultNext .trailingCharacters

end Resolver.Json
