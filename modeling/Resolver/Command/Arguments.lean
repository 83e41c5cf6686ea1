import Resolver.Net.Address

/-!
# Arguments

The command line: switches for all commands, the name of a command, and its own switches and
operands in any order. What follows `--` is an operand whatever it looks like.

Arguments are read from the left, and the first that asks for help or cannot be meant decides.
-/

namespace Resolver

/-- What is to be done. -/
inductive Command
  /-- Ask servers for names. -/
  | query (type : String) (names : List String) (servers : List Ipv4) (recursive : Bool)
  /-- Print the values of a key. -/
  | get (file key : String)
  /-- Answer the keys of the input. -/
  | lookup (file : Option String)
  deriving DecidableEq, Repr

/-- What a command line asks for. -/
structure Invocation where
  /-- The settings file. -/
  config : Option String
  command : Command
  deriving DecidableEq, Repr

namespace Arguments

/-! ## Switches -/

/-- A switch. -/
inductive Switch
  | config
  | debug
  | server
  | recursive
  | help
  | version
  deriving DecidableEq, Repr

/-- Whether a value goes with a switch. -/
def Switch.takesValue : Switch → Bool
  | config | server => true
  | _ => false

/-- The switches that are known at a place, by letter and by name. -/
structure Known where
  letters : List (Char × Switch)
  names : List (String × Switch)

/-- The switches in front of the command. -/
def Known.common : Known :=
  ⟨[('c', .config), ('h', .help), ('V', .version)],
    [("config", .config), ("debug", .debug), ("help", .help), ("version", .version)]⟩

/-- The switches of `query`. -/
def Known.ofQuery : Known :=
  ⟨[('s', .server), ('h', .help)],
    [("server", .server), ("recursive", .recursive), ("help", .help)]⟩

/-- The switches of commands without their own. -/
def Known.ofOthers : Known :=
  ⟨[('h', .help)], [("help", .help)]⟩

/-! ## Single arguments -/

/-- What an argument looks like. -/
inductive Form
  | operand
  | endOfSwitches
  | switch (s : Switch) (value : Option String)
  | unknown
  deriving DecidableEq, Repr

/-- A text with its first `=` as separator. -/
def splitAtEquals (text : List Char) : List Char × Option (List Char) :=
  match text.dropWhile (· ≠ '=') with
  | [] => (text, none)
  | _ :: value => (text.takeWhile (· ≠ '='), some value)

/-- The form of an argument. A name may have its value behind an equals sign, a letter directly
behind it or behind an equals sign. -/
def form (known : Known) (arg : String) : Form :=
  match arg.toList with
  | ['-', '-'] => .endOfSwitches
  | '-' :: '-' :: rest =>
    let (name, value) := splitAtEquals rest
    match known.names.lookup (String.ofList name) with
    | some s =>
      if s.takesValue = false ∧ value.isSome then .unknown
      else .switch s (value.map String.ofList)
    | none => .unknown
  | '-' :: letter :: rest =>
    match known.letters.lookup letter with
    | some s =>
      if s.takesValue then
        match rest with
        | [] => .switch s none
        | '=' :: value => .switch s (some (String.ofList value))
        | value => .switch s (some (String.ofList value))
      else .switch s none
    | none => .unknown
  | _ => .operand

/-- A piece of a command line. -/
inductive Word
  | operand (text : String)
  | switch (s : Switch) (value : String)
  /-- What cannot be meant. -/
  | mistake
  deriving DecidableEq, Repr

/-- The words of the arguments behind a command. The value of a switch must not look like a
switch. -/
def words (known : Known) : List String → List Word
  | [] => []
  | arg :: rest =>
    match form known arg with
    | .operand => .operand arg :: words known rest
    | .endOfSwitches => rest.map .operand
    | .unknown => [.mistake]
    | .switch s (some value) => .switch s value :: words known rest
    | .switch s none =>
      if s.takesValue then
        match rest with
        | [] => [.mistake]
        | value :: rest =>
          if form known value = .operand then .switch s value :: words known rest
          else [.mistake]
      else .switch s "" :: words known rest

/-! ## Commands -/

/-- What help can be asked for about. -/
inductive Topic
  | program
  | query
  | get
  | lookup
  | help
  deriving DecidableEq, Repr

/-- The topic of a command, by its name. -/
def Topic.ofName? : String → Option Topic
  | "query" => some query
  | "get" => some get
  | "lookup" => some lookup
  | "help" => some help
  | _ => none

/-- What a command line comes to. -/
inductive Reading
  | invocation (i : Invocation)
  | help (topic : Topic)
  | version
  /-- It is not clear what is meant. -/
  | unclear
  deriving DecidableEq, Repr

/-- What was found behind a command. -/
structure Found where
  operands : List String
  servers : List Ipv4
  recursive : Bool
  deriving DecidableEq, Repr

/-- The most operands of a command; none if there is no limit. -/
def Topic.operandLimit : Topic → Option Nat
  | get => some 2
  | lookup => some 1
  | _ => none

/-- The switches of a command. -/
def Topic.known : Topic → Known
  | query => .ofQuery
  | _ => .ofOthers

/-- Whether an operand is accepted behind so many others: a path, which comes first, must not be
empty. -/
def Topic.accepts (topic : Topic) (before : Nat) (text : String) : Bool :=
  match topic, before with
  | get, 0 | lookup, 0 => text != ""
  | _, _ => !topic.operandLimit.any (· ≤ before)

/-- The command with what was found behind its name. -/
def Topic.command? (topic : Topic) (found : Found) : Option Command :=
  match topic, found.operands with
  | query, type :: names =>
    if names = [] then none else some (.query type names found.servers found.recursive)
  | get, [file, key] => some (.get file key)
  | lookup, [] => some (.lookup none)
  | lookup, [file] => some (.lookup (some file))
  | _, _ => none

/-- Takes in the words behind the name of a command, behind what was found before them. -/
def gather (config : Option String) (topic : Topic) : Found → List Word → Reading
  | found, [] =>
    match topic.command? found with
    | some command => .invocation ⟨config, command⟩
    | none => .unclear
  | found, .operand text :: rest =>
    if topic.accepts found.operands.length text then
      gather config topic { found with operands := found.operands ++ [text] } rest
    else .unclear
  | found, .switch .server value :: rest =>
    match Ipv4.ofDotted? value with
    | some ip => gather config topic { found with servers := found.servers ++ [ip] } rest
    | none => .unclear
  | found, .switch .recursive _ :: rest =>
    if found.recursive then .unclear
    else gather config topic { found with recursive := true } rest
  | _, .switch .help _ :: _ => .help topic
  | _, .switch _ _ :: _ => .unclear
  | _, .mistake :: _ => .unclear

/-- Reads a command line from the name of its command on. Help can be asked for about any command
by its name. -/
def readCommand (config : Option String) (name : String) (rest : List String) : Reading :=
  match Topic.ofName? name, rest with
  | some .help, [] => .help .program
  | some .help, [about] =>
    match Topic.ofName? about with
    | some topic => .help topic
    | none => .unclear
  | some .help, _ => .unclear
  | some topic, rest => gather config topic ⟨[], [], false⟩ (words topic.known rest)
  | none, _ => .unclear

/-- Reads a command line behind a settings file and the switch for debugging, if they were given.
Neither may be given twice. -/
def readFrom (config : Option String) (debug : Bool) : List String → Reading
  | [] => .unclear
  | arg :: rest =>
    match form .common arg with
    | .operand => readCommand config arg rest
    | .switch .help _ => .help .program
    | .switch .version _ => .version
    | .switch .debug _ => if debug then .unclear else readFrom config true rest
    | .switch .config (some path) =>
      if path = "" ∨ config.isSome then .unclear else readFrom (some path) debug rest
    | .switch .config none =>
      match rest with
      | [] => .unclear
      | path :: rest =>
        if path = "" ∨ config.isSome ∨ form .common path ≠ .operand then .unclear
        else readFrom (some path) debug rest
    | _ => .unclear

/-- Reads a command line. -/
def read (args : List String) : Reading :=
  readFrom none false args

end Arguments

end Resolver
