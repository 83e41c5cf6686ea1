import Resolver.Command.Arguments
import Resolver.Command.Asking
import Resolver.Command.Help
import Resolver.Command.Lookup
import Resolver.Settings.File

/-!
# Commands

From a command line to what is to be done: reading the settings file it names, opening the
database, and handing over to the command. Files are read in whatever monad the caller reads them
in; all else is left to be carried out.
-/

namespace Resolver

/-- What is left to do for a command. -/
inductive Task
  /-- Nothing but to report. -/
  | report (r : Report)
  /-- Talk with the network. -/
  | talk (dialogue : Dialogue Report)
  /-- Answer keys from the database at a path, which is open. -/
  | answer (path : String) (db : Database)

namespace Task

/-- Nothing is left to do after a failure. -/
def failed (ending : Ending) : Task :=
  .report ⟨"", ending⟩

end Task

/-- The contents of a path as a file. -/
def Content.bytes : Content → Except OsError Bytes
  | .file block => .ok block.toList
  | .directory => .error .isDirectory

/-- What stands at a path. The system cannot be asked about one with a NUL character. -/
def contentAt {m : Type → Type} [Monad m] (readFile : String → m (Except OsError Content))
    (path : String) : m (Except OsError Content) :=
  if path.toList.contains '\x00' then return .error .nulInName else readFile path

/-- The settings in a file, the standard ones if there is no file. -/
def settingsOf {m : Type → Type} [Monad m] (readFile : String → m (Except OsError Content)) :
    Option String → m (Except Ending Settings)
  | none => return .ok .standard
  | some path => do
    match SettingsFile.load ((← contentAt readFile path).bind Content.bytes) with
    | .ok file => return .ok file.settings
    | .error refusal => return .error (.failure "load config" (refusal.messages path))

namespace Command

/-- The most waits for the reply to one query. More than this takes longer than anybody waits. -/
def maxWaits : Nat := 0x4000000000000000

/-- The query command under given settings. The random source starts from `seed`. -/
def queryTask (settings : Settings) (seed : Bytes) (type : String) (names : List String)
    (servers : List Ipv4) (recursive : Bool) : Task :=
  match Message.typeOfName? type.toUpper with
  | none =>
    let cause := s!"record type string unknown: {type.toUpper}"
    .failed (.failure s!"unknown record type: {type}" [cause])
  | some qtype =>
    let servers := if servers = [] then settings.serverList else Servers.ofList servers
    .talk do
      let (shown, stop) ← Asking.runFrom settings ⟨qtype, servers, recursive⟩ maxWaits names
        (Generator.ofSeed seed)
      return Asking.report qtype shown stop

/-- What is left to do for a command under given settings. -/
def task {m : Type → Type} [Monad m] (readFile : String → m (Except OsError Content))
    (settings : Settings) (seed : Bytes) : Command → m Task
  | query type names servers recursive =>
    return queryTask settings seed type names servers recursive
  | get file key => do
    match Lookup.opened file (← contentAt readFile file) with
    | .ok db => return .report (Lookup.get db key)
    | .error ending => return .failed ending
  | lookup file => do
    match file.or settings.dataPath with
    | none =>
      return .failed (.failure "no database file given and settings.data_path unset" [])
    | some path =>
      match Lookup.opened path (← contentAt readFile path) with
      | .ok db => return .answer path db
      | .error ending => return .failed ending

end Command

/-- What is left to do for a command line. The settings are read before anything else is done. -/
def Task.ofArguments {m : Type → Type} [Monad m] (readFile : String → m (Except OsError Content))
    (seed : Bytes) (args : List String) : m Task :=
  match Arguments.read args with
  | .help topic => return .report ⟨(Help.page topic).toText, .success⟩
  | .version => return .report ⟨Help.versionText, .success⟩
  | .unclear => return .failed .misuse
  | .invocation i => do
    match ← settingsOf readFile i.config with
    | .error ending => return .failed ending
    | .ok settings => i.command.task readFile settings seed

end Resolver
