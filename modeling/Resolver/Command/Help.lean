import Resolver.Command.Arguments

/-!
# Help

Descriptions of the command line. A page says what something is for, how it is called, and what can
stand in its place, a line each with the meanings below each other.
-/

namespace Resolver.Help

/-- How the program is called. -/
def program : String :=
  "cachecore"

/-- The text that tells the version. -/
def versionText : String :=
  s!"{program} 0.1.0\n"

/-- Something that can be written, and what it means. -/
structure Entry where
  form : String
  meaning : String
  deriving DecidableEq, Repr

/-- A list of things that can be written. -/
structure Section where
  heading : String
  entries : List Entry
  deriving DecidableEq, Repr

/-- A description. -/
structure Page where
  purpose : String
  usage : String
  sections : List Section
  deriving DecidableEq, Repr

/-- The text of a list: the forms are filled up with spaces to the longest, and two more. -/
def Section.toText (s : Section) : String :=
  let width := s.entries.foldl (fun n e => max n e.form.length) 0
  s!"{s.heading}:\n" ++ String.join (s.entries.map fun e =>
    "  " ++ e.form ++ String.ofList (List.replicate (width + 2 - e.form.length) ' ') ++
      e.meaning ++ "\n")

/-- The text of a description. -/
def Page.toText (p : Page) : String :=
  s!"{p.purpose}\n\nUsage: {program} {p.usage}\n" ++
    String.join (p.sections.map fun s => "\n" ++ s.toText)

/-- The switch that asks for help. -/
def helpEntry : Entry :=
  ⟨"-h, --help", "Print help"⟩

/-- What the command that asks for help is for. -/
def helpPurpose : String :=
  "Print this message or the help of the given subcommand(s)"

/-- The switches of a command that only knows the one for help. -/
def onlyHelp : Section :=
  ⟨"Options", [helpEntry]⟩

/-- What `query` is for. -/
def queryPurpose : String :=
  "Send queries upstream, caching answers; repeated names hit the cache"

/-- What `get` is for. -/
def getPurpose : String :=
  "Print every value stored under a key"

/-- What `lookup` is for. -/
def lookupPurpose : String :=
  "Answer keys read from stdin, reloading the database when it is replaced"

/-- The description of a topic. -/
def page : Arguments.Topic → Page
  | .program => ⟨"DNS cache core diagnostics", "[OPTIONS] <COMMAND>",
      [⟨"Commands", [⟨"query", queryPurpose⟩, ⟨"get", getPurpose⟩, ⟨"lookup", lookupPurpose⟩,
          ⟨"help", helpPurpose⟩]⟩,
        ⟨"Options", [⟨"-c, --config <CONFIG>", "配置文件路径（JSON，可选）"⟩,
          ⟨"    --debug", "启用调试日志"⟩, helpEntry, ⟨"-V, --version", "Print version"⟩]⟩]⟩
  | .query => ⟨queryPurpose, "query [OPTIONS] <QTYPE> <NAMES>...",
      [⟨"Arguments", [⟨"<QTYPE>", "Record type, e.g. A, AAAA, MX"⟩, ⟨"<NAMES>...", ""⟩]⟩,
        ⟨"Options", [⟨"-s, --server <SERVERS>", "上游服务器（可重复，最多16个）；缺省取配置。"⟩,
          ⟨"    --recursive", "Set RD and allow the full retry schedule"⟩, helpEntry]⟩]⟩
  | .get => ⟨getPurpose, "get <FILE> <KEY>",
      [⟨"Arguments", [⟨"<FILE>", ""⟩, ⟨"<KEY>", ""⟩]⟩, onlyHelp]⟩
  | .lookup => ⟨lookupPurpose, "lookup [FILE]", [⟨"Arguments", [⟨"[FILE]", ""⟩]⟩, onlyHelp]⟩
  | .help => ⟨helpPurpose, "help [COMMAND]...",
      [⟨"Arguments", [⟨"[COMMAND]...", "Print help for the subcommand(s)"⟩]⟩]⟩

end Resolver.Help
