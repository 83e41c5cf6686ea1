import Resolver.Command.Basic

/-!
# The program

Carries out a command line: reads files and standard input, prints and exits. Sockets are out of
its reach, so every attempt to open one is refused.
-/

namespace Resolver.Main

/-- The refusal that an error of a file operation stands for. -/
def refusal : IO.Error → OsError
  | .alreadyExists _ code _ | .otherError code _ | .resourceBusy code _
  | .resourceVanished code _ | .unsupportedOperation code _ | .hardwareFault code _
  | .unsatisfiedConstraints code _ | .illegalOperation code _ | .protocolError code _
  | .timeExpired code _ | .interrupted _ code _ | .noFileOrDirectory _ code _
  | .invalidArgument _ code _ | .permissionDenied _ code _ | .resourceExhausted _ code _
  | .inappropriateType _ code _ | .noSuchThing _ code _ => .refused code.toNat
  | .unexpectedEof | .userError _ => .refused 5

/-- What stands at a path. -/
def readFile (path : String) : IO (Except OsError Content) := do
  try
    return .ok (.file ⟨← IO.FS.readBinFile path⟩)
  catch e =>
    if refusal e = .isDirectory then return .ok .directory else return .error (refusal e)

/-- The answer to a question of a dialogue. The time of day only serves to compare moments of one
run, so any clock that goes on does. Memory is taken as granted, there being no way to ask for it. -/
def answer : (c : Call) → IO c.Reply
  | .allocate _ => return true
  | .now => return ⟨← IO.monoNanosNow⟩
  | .wallClock => return Tai64.ofUnix (Duration.wholeSeconds (← IO.monoNanosNow))
  | .openSocket _ => return .error .unsupported
  | .bind _ _ _ => return .error .unsupported
  | .connect _ _ _ => return .failed .unsupported
  | .isConnected _ => return false
  | .send _ _ => return .failed .unsupported
  | .receive _ _ => return .failed .unsupported
  | .await _ _ _ => return .error .unsupported

/-- Holds a dialogue. -/
def converse {α : Type} : Dialogue α → IO α
  | .done a => return a
  | .ask call next => do
    let reply ← answer call
    converse (next reply)

/-- Reads up to a line feed or to the end of the input; nothing is left at the end. -/
partial def readLine (stdin : IO.FS.Stream) (line : ByteArray) : IO ByteArray := do
  let byte ← stdin.read 1
  if byte.isEmpty then return line
  else if byte.data.contains Lookup.lineFeed then return line ++ byte
  else readLine stdin (line ++ byte)

/-- Answers the lines of the input as they come. The database is opened anew before each, so that
one that was replaced is noticed; if it cannot be opened, the last one goes on serving. -/
partial def answerLines (path : String) (db : Database) : IO Ending := do
  let line ← readLine (← IO.getStdin) .empty
  if line.isEmpty then return .success
  else
    let db := match ← readFile path with
      | .ok content => Database.ofContent content
      | .error _ => db
    let report := Lookup.run db line.toList
    IO.print report.output
    (← IO.getStdout).flush
    match report.ending with
    | .success => answerLines path db
    | ending => return ending

/-- Tells how a command ended. -/
def finish (ending : Ending) : IO UInt32 := do
  match ending with
  | .misuse => IO.eprint (Help.page .program).toText
  | ending => IO.eprint ending.errorText
  return UInt32.ofNat ending.exitCode

/-- Prints a report. -/
def print (report : Report) : IO UInt32 := do
  IO.print report.output
  (← IO.getStdout).flush
  finish report.ending

/-- Carries out what is left to do for a command. -/
def carryOut : Task → IO UInt32
  | .report r => print r
  | .talk dialogue => do print (← converse dialogue)
  | .answer path db => do finish (← answerLines path db)

end Resolver.Main

/-- Runs the command line. -/
def main (args : List String) : IO UInt32 := do
  let seed ← IO.getRandomBytes 32
  Resolver.Main.carryOut (← Resolver.Task.ofArguments Resolver.Main.readFile seed.toList args)
