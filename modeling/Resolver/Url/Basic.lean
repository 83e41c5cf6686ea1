import Resolver.Url.Host
import Resolver.Url.Path

/-!
# Addresses of documents

An address has a scheme, and behind it a host with what is needed to get in, a path, a query and a
fragment. Reading one makes it uniform: schemes and domains get small letters, standard ports are
left out, paths are gone along, and characters that must not stand there are escaped.
-/

namespace Resolver

/-- Where the documents of a host are to be had. -/
structure Url.Authority where
  user : String
  password : String
  host : Url.Host
  port : Option Nat
  deriving DecidableEq, Repr

/-- The address of a document. -/
structure Url where
  scheme : String
  authority : Option Url.Authority
  path : String
  query : Option String
  fragment : Option String
  deriving DecidableEq, Repr

namespace Url

/-! ## Schemes -/

/-- The schemes that are known besides the file system, with their standard ports. -/
def knownSchemes : List (String × Nat) :=
  [("http", 80), ("https", 443), ("ws", 80), ("wss", 443), ("ftp", 21)]

/-- The kind of a scheme. -/
def Kind.ofScheme (scheme : String) : Kind :=
  if scheme = "file" then .file
  else if (knownSchemes.lookup scheme).isSome then .known
  else .other

/-- Whether a character can stand in a scheme behind its first letter. -/
def isSchemeChar (c : Char) : Bool :=
  c.isAlphanum || c == '+' || c == '-' || c == '.'

/-- The scheme in front of a text, and what is behind its colon. -/
def scheme? (text : List Char) : Option (String × List Char) :=
  let name := text.takeWhile isSchemeChar
  match text.dropWhile isSchemeChar with
  | ':' :: rest =>
    if name.head?.any Char.isAlpha then
      some (String.ofList (name.map International.lower), rest)
    else none
  | _ => none

/-! ## Authorities -/

/-- Whether a character ends an authority. -/
def Kind.endsAuthority (kind : Kind) (c : Char) : Bool :=
  kind.isSlash c || c == '?' || c == '#'

/-- A user with a password, and what is behind the last at-sign of an authority. -/
def splitUser (kind : Kind) (text : List Char) : Option (List Char) × List Char :=
  let authority := text.takeWhile fun c => !kind.endsAuthority c
  let rest := text.dropWhile fun c => !kind.endsAuthority c
  if authority.contains '@' then
    let host := (authority.reverse.takeWhile (· ≠ '@')).reverse
    (some (authority.take (authority.length - host.length - 1)), host ++ rest)
  else (none, text)

/-- Splits a host from what is behind it. A colon in brackets is part of the host. -/
def splitHost (kind : Kind) (inside : Bool) (seen : List Char) :
    List Char → List Char × List Char
  | [] => (seen.reverse, [])
  | c :: rest =>
    if kind.endsAuthority c ∨ (c = ':' ∧ inside = false) then (seen.reverse, c :: rest)
    else splitHost kind (c = '[' ∨ (inside ∧ c ≠ ']')) (c :: seen) rest

/-- The greatest port. -/
def maxPort : Nat := 65535

/-- Reads a port behind its colon, and what is behind it. -/
def port? (text : List Char) : Option (Option Nat × List Char) :=
  let digits := text.takeWhile Char.isDigit
  let rest := text.dropWhile Char.isDigit
  let n := digits.foldl (fun n c => 10 * n + (c.toNat - 48)) 0
  if maxPort < n ∨ rest.head?.any (fun c => c ∉ ['/', '\\', '?', '#']) then none
  else some (if digits = [] then none else some n, rest)

/-- Reads a host and a port, and what is behind them. -/
def hostAndPort? (scheme : String) (kind : Kind) (text : List Char) :
    Option (Host × Option Nat × List Char) := do
  let (name, rest) := splitHost kind false [] text
  let host ← if kind = .other then Host.ofPlainText? name else Host.ofText? name
  match rest with
  | ':' :: rest =>
    if host = .empty then none
    else
      let (port, rest) ← port? rest
      return (host, if port = knownSchemes.lookup scheme then none else port, rest)
  | rest => return (host, none, rest)

/-- Reads an authority behind its slashes, and what is behind it. A user needs a host. -/
def authority? (scheme : String) (kind : Kind) (text : List Char) :
    Option (Authority × List Char) := do
  let (user, rest) := splitUser kind text
  let name := (user.getD []).takeWhile (· ≠ ':')
  let password := ((user.getD []).dropWhile (· ≠ ':')).drop 1
  let (host, port, behind) ← hostAndPort? scheme kind rest
  let nobody := user = some [] ∧ rest.head?.any kind.endsAuthority
  if nobody ∨ (host = .empty ∧ (name ≠ [] ∨ password ≠ [])) then none
  else
    let escaped := fun text => String.ofList (escape isEscapedInUser text)
    return (⟨escaped name, escaped password, host, port⟩, behind)

/-- The text of an authority. -/
def Authority.toText (a : Authority) : String :=
  let password := if a.password = "" then "" else ":" ++ a.password
  let user := if a.user = "" ∧ a.password = "" then "" else a.user ++ password ++ "@"
  user ++ a.host.toText ++
    match a.port with
    | some port => s!":{port}"
    | none => ""

/-! ## Behind the authority -/

/-- Splits a path from the query and the fragment behind it. -/
def splitPath (text : List Char) : List Char × List Char :=
  let inPath := fun c => c ≠ '?' && c ≠ '#'
  (text.takeWhile inPath, text.dropWhile inPath)

/-- The query and the fragment in what is behind a path. -/
def queryAndFragment (kind : Kind) (text : List Char) : Option String × Option String :=
  let query := text.takeWhile (· ≠ '#')
  let isEscapedHere := fun c => isEscapedInQuery c || (kind.isSpecial && c == '\'')
  (match query with
    | '?' :: query => some (String.ofList (escape isEscapedHere query))
    | _ => none,
    match text.dropWhile (· ≠ '#') with
    | '#' :: fragment => some (String.ofList (escape isEscapedInFragment fragment))
    | _ => none)

/-- A text without one slash in front. -/
def withoutSlash (kind : Kind) : List Char → List Char
  | [] => []
  | c :: rest => if kind.isSlash c then rest else c :: rest

/-- The path behind an authority. Only under a scheme that is not known it can be empty. -/
def pathBehind (kind : Kind) (text : List Char) : List Char × Bool :=
  if kind = .other ∧ text = [] then ([], false) else Path.ofText kind (withoutSlash kind text)

/-- The address with an authority. -/
def behindAuthority (scheme : String) (kind : Kind) (authority : Authority) (text : List Char) :
    Url :=
  let (path, rest) := splitPath text
  let (path, hasDrive) := pathBehind kind path
  let (query, fragment) := queryAndFragment kind rest
  let authority := if hasDrive then { authority with host := .empty } else authority
  ⟨scheme, some authority, String.ofList path, query, fragment⟩

/-! ## Whole addresses -/

/-- No host, user or port. -/
def Authority.empty : Authority :=
  ⟨"", "", .empty, none⟩

/-- Reads an address in the file system, behind its scheme. -/
def file? (text : List Char) : Option Url := do
  match text with
  | a :: b :: rest =>
    if Kind.isSlash .file a && Kind.isSlash .file b then
      let name := rest.takeWhile fun c => !Kind.endsAuthority .file c
      if Path.isDrive name then return behindAuthority "file" .file .empty rest
      else
        let host ← if name = [] then some .empty else Host.ofText? name
        let host := if host = .domain "localhost" then .empty else host
        return behindAuthority "file" .file { Authority.empty with host := host }
          (rest.drop name.length)
    else return behindAuthority "file" .file .empty text
  | text => return behindAuthority "file" .file .empty text

/-- Reads an address without an authority, behind its scheme. Where its path does not start with a
slash it is any text. -/
def bare (scheme : String) (text : List Char) : Url :=
  let (path, rest) := splitPath text
  let path := match path with
    | '/' :: path => (Path.ofText .other path).1
    | path => escape isEscaped path
  let (query, fragment) := queryAndFragment .other rest
  ⟨scheme, none, String.ofList path, query, fragment⟩

/-- Reads an address behind its scheme. -/
def ofParts? (scheme : String) (text : List Char) : Option Url := do
  match Kind.ofScheme scheme with
  | .file => file? text
  | .known =>
    let (authority, rest) ← authority? scheme .known (text.dropWhile (Kind.isSlash .known))
    return behindAuthority scheme .known authority rest
  | .other =>
    match text with
    | '/' :: '/' :: rest =>
      let (authority, rest) ← authority? scheme .other rest
      return behindAuthority scheme .other authority rest
    | text => return bare scheme text

/-- A text without control characters and blanks at its ends, tabs and line ends. -/
def cleaned (text : String) : List Char :=
  let isBlank := fun c : Char => c.toNat ≤ 0x20
  let front := text.toList.dropWhile isBlank
  (front.reverse.dropWhile isBlank).reverse.filter fun c => c ∉ ['\t', '\n', '\x0d']

/-- The address that a text stands for. -/
def ofText? (text : String) : Option Url := do
  let (scheme, rest) ← scheme? (cleaned text)
  ofParts? scheme rest

/-- The text of an address. A path that could be taken for an authority has a dot in front. -/
def toText (url : Url) : String :=
  let place := match url.authority with
    | some authority => "//" ++ authority.toText
    | none => if url.path.startsWith "//" then "/." else ""
  let query := match url.query with
    | some query => "?" ++ query
    | none => ""
  let fragment := match url.fragment with
    | some fragment => "#" ++ fragment
    | none => ""
  url.scheme ++ ":" ++ place ++ url.path ++ query ++ fragment

end Url

end Resolver
