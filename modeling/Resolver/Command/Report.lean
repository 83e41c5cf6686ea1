import Resolver.Cache.Basic
import Resolver.Database.Reader
import Resolver.Session.Basic

/-!
# Reports

What a command leaves behind: the text it prints and the way it ends. A failure is a chain of
causes, each the reason for the one before it.
-/

namespace Resolver

/-- How a command ends. -/
inductive Ending
  | success
  /-- It cannot do what was asked, for the causes that follow, the innermost last. -/
  | failure (problem : String) (causes : List String)
  /-- What was asked is not clear. -/
  | misuse
  /-- It broke off at a computation that has no result. -/
  | panic
  /-- It was stopped at once, what it has in memory being damaged. -/
  | abort
  deriving DecidableEq, Repr

/-- The outcome of a command. -/
structure Report where
  output : String
  ending : Ending
  deriving DecidableEq, Repr

namespace Ending

/-- The exit code. -/
def exitCode : Ending → Nat
  | success => 0
  | failure _ _ => 1
  | misuse => 2
  | panic => 101
  | abort => 134

/-- A text whose lines after the first are indented. -/
def indented (indent : String) (text : String) : String :=
  text.replace "\n" ("\n" ++ indent)

/-- Several causes, a numbered paragraph each. -/
def numbered (causes : List String) : String :=
  String.join (causes.mapIdx fun i cause =>
    let number := toString i
    String.ofList (List.replicate (5 - number.length) ' ') ++ number ++ ": " ++
      indented "       " cause ++ "\n")

/-- The text for a failure: the problem, and its causes behind a heading. They have numbers unless
there is just one. -/
def errorText : Ending → String
  | failure problem causes =>
    s!"Error: {problem}\n" ++
      match causes with
      | [] => ""
      | [cause] => "\nCaused by:\n    " ++ indented "    " cause ++ "\n"
      | causes => "\nCaused by:\n" ++ numbered causes
  | _ => ""

end Ending

/-- The chain of causes of a failed read. -/
def ReadError.causes : ReadError → List String
  | .outside pos len => [ReadError.message (.outside pos len)]
  | .system cause => [ReadError.message (.system cause), cause.message]

/-- The chain of causes of a cache that could not be made. -/
def Cache.MemoryError.causes (cause : Cache.MemoryError) : List String :=
  [s!"cannot allocate cache arena: {cause.message}", cause.message]

/-- The chain of causes of a failed session. -/
def Failure.causes : Failure → List String
  | .socket cause => [Failure.message (.socket cause), cause.message]
  | failure => [failure.message]

end Resolver
