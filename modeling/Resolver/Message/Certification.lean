import Resolver.Message.WrittenName
import Resolver.Url.Basic

/-!
# Who may certify a name

A record on certification has a tag and a value. Known tags allow an issuer, under conditions, or
tell where to report what went wrong; the value of any other tag is kept as it is.
-/

namespace Resolver.Message

/-- What is asked of an issuer, by a key. -/
structure Condition where
  key : String
  value : String
  deriving DecidableEq, Repr

/-- The text of a condition. -/
def Condition.toText (condition : Condition) : String :=
  if condition.value = "" then condition.key else condition.key ++ "=" ++ condition.value

/-- What a record on certification says. -/
inductive Certification
  /-- Who may certify a name. -/
  | issue (name : Option WrittenName) (conditions : List Condition)
  /-- Who may certify all names below a name. -/
  | issueWild (name : Option WrittenName) (conditions : List Condition)
  /-- Where to report what went wrong. -/
  | report (url : Url)
  | unknown (tag value : Bytes)
  deriving DecidableEq, Repr

namespace Certification

/-! ## Conditions -/

/-- Where the reading of conditions is, with the characters of a key and a value, last first. -/
inductive Spot
  | between
  | key (key : List Char)
  | value (key value : List Char)
  deriving DecidableEq, Repr

/-- Whether one of the first 256 characters is a letter or a number. -/
def isKeyChar (c : Char) : Bool :=
  c.isAlphanum || c ∈ ['ª', '²', '³', 'µ', '¹', 'º', '¼', '½', '¾'] ||
    ('À' ≤ c && c ≤ 'ÿ' && c ≠ '×' && c ≠ '÷')

/-- A condition, from the characters of its key and its value, last first. -/
def conditionOf (key value : List Char) : Condition :=
  ⟨String.ofList key.reverse, String.ofList value.reverse⟩

/-- Reads a character of conditions, behind the conditions `seen`, last first. A hyphen can stand
in a key from its third character on. -/
def step (state : List Condition × Spot) (c : Char) : Except Flaw (List Condition × Spot) :=
  let (seen, spot) := state
  match spot with
  | .between =>
    if c ∈ [';', ' ', '\t'] then .ok (seen, .between)
    else if isKeyChar c then .ok (seen, .key [c])
    else badKey c
  | .key key =>
    if c = '=' then .ok (seen, .value key [])
    else if isKeyChar c || (c == '-' && 1 < key.length) then .ok (seen, .key (c :: key))
    else badKey c
  | .value key value =>
    if c = ';' then .ok (conditionOf key value :: seen, .between)
    else .ok (seen, .value key (c :: value))
where
  /-- A character that cannot stand in a key. -/
  badKey (c : Char) : Except Flaw (List Condition × Spot) :=
    .error (.other ("bad character in CAA issuer key: " ++ String.singleton c))

/-- Reads conditions, in which each byte is a character. -/
def conditionsOf (bytes : Bytes) : Except Flaw (List Condition) := do
  match ← (bytes.map fun b => Char.ofNat b.toNat).foldlM step ([], .between) with
  | (seen, .between) => return seen.reverse
  | (seen, .value key value) => return (conditionOf key value :: seen).reverse
  | (_, .key key) =>
    .error (.other ("key missing value: " ++ String.ofList key.reverse))

/-! ## Values -/

/-- The byte between the parts of an issuer's value. -/
def semicolon : UInt8 := 59

/-- Reads an issuer's name, if there is one, and the conditions behind it. -/
def issuerOf (value : Bytes) : Except Flaw (Option WrittenName × List Condition) := do
  let bytes := value.takeWhile (· ≠ semicolon)
  let name ← if bytes = [] then pure none else some <$> (textOf bytes >>= WrittenName.ofText)
  return (name, ← conditionsOf (value.drop (bytes.length + 1)))

/-- Reads where to report. -/
def reportOf (value : Bytes) : Except Flaw Url := do
  match Url.ofText? (← textOf value) with
  | some url => return url
  | none => .error (.other "url parsing error")

/-- What a tag and a value say. Capitals in a known tag do not count. -/
def ofTag (tag value : Bytes) : Except Flaw Certification := do
  let known := lowerBytes tag
  if known = Utf8.encode "issue" then
    let (name, conditions) ← issuerOf value
    return .issue name conditions
  else if known = Utf8.encode "issuewild" then
    let (name, conditions) ← issuerOf value
    return .issueWild name conditions
  else if known = Utf8.encode "iodef" then return .report (← reportOf value)
  else return .unknown tag value

/-- The text of an issuer's value. -/
def issuerText (name : Option WrittenName) (conditions : List Condition) : String :=
  let front := match name, conditions with
    | none, [] => ";"
    | none, _ => ""
    | some name, _ => name.toText
  front ++ String.join (conditions.map fun condition => "; " ++ condition.toText)

/-- The text of what a record says. -/
def toText : Certification → String
  | issue name conditions => "issue \"" ++ issuerText name conditions ++ "\""
  | issueWild name conditions => "issuewild \"" ++ issuerText name conditions ++ "\""
  | report url => "iodef \"" ++ url.toText ++ "\""
  | unknown tag value => Utf8.decodeLossy tag ++ " \"" ++ Utf8.decodeLossy value ++ "\""

end Certification

end Resolver.Message
