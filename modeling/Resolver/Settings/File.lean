import Resolver.Json.Value
import Resolver.Settings.Basic

/-!
# Settings files

A settings file is a JSON object with a version and an object of settings; both may be left out,
and so may any setting. In place of an object a list of its values in their order is accepted.
-/

namespace Resolver

/-- What a settings file holds. -/
structure SettingsFile where
  version : Option String
  settings : Settings
  deriving DecidableEq, Repr

namespace SettingsFile

/-- Why a settings file gives no settings. -/
inductive Refusal
  /-- It could not be read. -/
  | unreadable (cause : OsError)
  /-- It is not text. -/
  | notText
  /-- It is not what a settings file looks like. -/
  | malformed (text : Bytes) (fault : Json.Fault)
  /-- What it sets makes no sense. -/
  | nonsense (cause : Settings.Nonsense)
  deriving DecidableEq, Repr

/-- The wording of a refusal, from the outermost to the innermost cause. -/
def Refusal.messages (path : String) : Refusal → List String
  | unreadable cause => [s!"read config file: {path}", cause.message]
  | notText => [s!"read config file: {path}", "stream did not contain valid UTF-8"]
  | malformed text fault => [s!"parse config file: {path}", fault.message text]
  | nonsense cause => [s!"invalid config file: {path}", cause.message]

/-- Reads an address. -/
def address : Json.Reader Ipv4 :=
  Json.stringAs "IPv4 address" "invalid IPv4 address syntax" Ipv4.ofDotted?

/-- Reads a number of 64 bits. -/
def word64 (kind : String) : Json.Reader UInt64 := fun c => do
  let (n, c) ← Json.natural kind maxWord64 c
  return (UInt64.ofNat n, c)

/-- Takes the value that a reader gives into a record. -/
def member {α β : Type} (key : String) (read : Json.Reader β) (put : α → β → α) :
    Json.Member α :=
  ⟨key, fun a c => do
    let (b, c) ← read c
    return (put a b, c)⟩

/-- The settings in their order. -/
def settingsMembers : List (Json.Member Settings) :=
  [member "cache_size" (word64 "usize") fun s n => { s with cacheSize := n },
    member "servers" (Json.listOf address) fun s ips => { s with servers := ips },
    member "server_port" (Json.natural "u16" 65535) fun s n =>
      { s with serverPort := UInt16.ofNat n },
    member "local_ip" address fun s ip => { s with localIp := ip },
    member "udp_timeouts_secs" (Json.listOfLength roundCount (word64 "u64")) fun s ns =>
      { s with udpTimeouts := Vector.ofFn fun i => ns.getD i.val 0 },
    member "tcp_timeout_secs" (word64 "u64") fun s n => { s with tcpTimeout := n },
    member "bind_attempts" (Json.natural "u32" 4294967295) fun s n =>
      { s with bindAttempts := UInt32.ofNat n },
    member "max_inflight" (word64 "usize") fun s n => { s with maxInflight := n },
    member "data_path" (Json.optional (Json.stringOf "path string")) fun s path =>
      { s with dataPath := path }]

/-- Reads settings. -/
def readSettings : Json.Reader Settings :=
  Json.record "struct Settings" settingsMembers .standard

/-- The parts of a settings file in their order. -/
def fileMembers : List (Json.Member SettingsFile) :=
  [member "version" (Json.optional (Json.stringOf "a string")) fun f version =>
      { f with version := version },
    member "settings" readSettings fun f settings => { f with settings := settings }]

/-- Reads the contents of a settings file. -/
def ofText (text : Bytes) : Except Json.Fault SettingsFile :=
  Json.document (Json.record "struct EngineConfig" fileMembers ⟨none, .standard⟩) text

/-- The settings file with the given contents, as the system read them. -/
def load (contents : Except OsError Bytes) : Except Refusal SettingsFile :=
  match contents with
  | .error cause => .error (.unreadable cause)
  | .ok bytes =>
    match Utf8.decode? bytes with
    | .error _ => .error .notText
    | .ok _ =>
      match ofText bytes with
      | .error fault => .error (.malformed bytes fault)
      | .ok file =>
        match file.settings.validate with
        | .error cause => .error (.nonsense cause)
        | .ok () => .ok file

end SettingsFile

end Resolver
