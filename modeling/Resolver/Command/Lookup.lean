import Resolver.Command.Report
import Resolver.Text.Blank

/-!
# Looking keys up

The commands that answer from a database: `get` prints the values of one key, `lookup` those of
each key that a line of input holds.
-/

namespace Resolver.Lookup

/-- The database at a path, as the system opened it. -/
def opened (path : String) (content : Except OsError Content) : Except Ending Database :=
  match content with
  | .ok content => .ok (Database.ofContent content)
  | .error cause => .error (.failure s!"open database {path}" (ReadError.system cause).causes)

/-- Prints the values of a key, a line each. A key without values is a failure. -/
def get (db : Database) (key : String) : Report :=
  match db.getAll (Utf8.encode key) with
  | .error e => ⟨"", .failure "database lookup" e.causes⟩
  | .ok [] => ⟨"", .failure s!"key not found: {key}" []⟩
  | .ok values => ⟨String.join (values.map fun v => Utf8.decodeLossy v ++ "\n"), .success⟩

/-- The answer to a line of input: its key with each value of it. Blanks behind the key do not
count. A key whose values cannot be read has no answer. -/
def answer (db : Database) (line : String) : String :=
  let key := Blank.trimEnd line
  match db.getAll (Utf8.encode key) with
  | .error _ => ""
  | .ok [] => s!"{key}: not found\n"
  | .ok values => String.join (values.map fun v => s!"{key}: {Utf8.decodeLossy v}\n")

/-- The line feed. -/
def lineFeed : UInt8 := 10

/-- The carriage return. -/
def carriageReturn : UInt8 := 13

/-- The lines of a text behind the characters of a line, last one first, and the lines `seen`, last
one first. Lines keep their line feeds; the last may have none. -/
def linesFrom (line : Bytes) (seen : List Bytes) : Bytes → List Bytes
  | [] => (if line = [] then seen else line.reverse :: seen).reverse
  | b :: rest =>
    if b = lineFeed then linesFrom [] ((b :: line).reverse :: seen) rest
    else linesFrom (b :: line) seen rest

/-- The lines of a text. -/
def lines (text : Bytes) : List Bytes :=
  linesFrom [] [] text

/-- What a line holds in front of its line feed, and of the carriage return before that. -/
def withoutEnd (line : Bytes) : Bytes :=
  match line.reverse with
  | b :: c :: rest =>
    if b ≠ lineFeed then line
    else if c = carriageReturn then rest.reverse
    else (c :: rest).reverse
  | [b] => if b = lineFeed then [] else line
  | [] => line

/-- The answers to lines of input, last one first, and how it ends. It stops at a line that is not
text. -/
def answers (db : Database) : List Bytes → List String → List String × Ending
  | [], seen => (seen, .success)
  | line :: rest, seen =>
    match Utf8.decode? (withoutEnd line) with
    | .error e => (seen, .failure "read stdin" [e.message])
    | .ok line => answers db rest (answer db line :: seen)

/-- Answers every line of an input. -/
def run (db : Database) (input : Bytes) : Report :=
  let (texts, ending) := answers db (lines input) []
  ⟨String.join texts.reverse, ending⟩

end Resolver.Lookup
