import Resolver.Cache.Basic
import Resolver.Command.Report
import Resolver.Message.Basic
import Resolver.Session.Resolution
import Resolver.Settings.Basic

/-!
# Asking for names

The command `query` asks for one name after another and shows a packet for each: the one a server
sends, or the one that is still in the cache from an earlier name of the same command. Packets with
a positive time to live go into the cache.
-/

namespace Resolver.Asking

/-! ## Requests and what comes of them -/

/-- What is asked for, and whom. -/
structure Request where
  qtype : UInt16
  servers : Servers
  recursive : Bool
  deriving DecidableEq, Repr

/-- Where a packet comes from. -/
inductive Source
  /-- It is in the cache, for so many more seconds. -/
  | cache (ttl : Nat)
  | server
  deriving DecidableEq, Repr

/-- A packet that is shown for a name. -/
structure Shown where
  name : String
  source : Source
  packet : Bytes
  deriving DecidableEq, Repr

/-- Why no more names are asked for. -/
inductive Stop
  /-- There is no cache to begin with. -/
  | noCache (cause : Cache.MemoryError)
  /-- The text is no name. -/
  | badName (name : String)
  /-- The query could not be sent. -/
  | notStarted (name : String) (cause : Failure)
  /-- The query got no reply. -/
  | unanswered (name : String) (cause : Failure)
  /-- The packet shown last cannot be taken apart. -/
  | undecodable (flaw : Message.Flaw)
  /-- The cache cannot go on. -/
  | damaged (cause : Damage)
  /-- The waits allowed were used up. -/
  | interrupted
  deriving DecidableEq, Repr

/-! ## Asking -/

/-- What is kept from name to name. -/
structure State where
  cache : Cache
  session : Session
  generator : Generator

/-- Prepares what there is before the first name. The cache draws its hash key before it asks for
memory. -/
def State.start (settings : Settings) (g : Generator) : Dialogue (Except Stop State) := do
  let (key, g) := g.key128
  let capacity := settings.cacheSize.toNat
  let granted ← Dialogue.call (.allocate (Cache.sizeFor capacity))
  match Cache.create capacity key granted with
  | .error cause => return .error (.noCache cause)
  | .ok cache => return .ok ⟨cache, Session.new settings.policy, g⟩

/-- The cache after a packet from a server. -/
def remember (cache : Cache) (now : Tai64) (key packet : Bytes) : Except Damage Cache :=
  match Packet.minAnswerTtl? packet with
  | some ttl => if 0 < ttl then cache.set now key packet ttl else .ok cache
  | none => .ok cache

/-- Asks the servers for a name in wire form, with at most `waits` waits, and puts the packet they
send into the cache under a key. -/
def fromServers (request : Request) (waits : Nat) (name : String) (wire key : Bytes)
    (st : State) : Dialogue (Except Stop (Shown × State)) := do
  let (started, session, g) ←
    st.session.start request.servers request.recursive wire request.qtype st.generator
  match started with
  | .error cause => return .error (.notStarted name cause)
  | .ok () =>
    let (outcome, session, g) ← session.resolve g waits
    match outcome with
    | .unfinished => return .error .interrupted
    | .failure cause => return .error (.unanswered name cause)
    | .reply packet =>
      let now ← Dialogue.call .wallClock
      match remember st.cache now key packet with
      | .error cause => return .error (.damaged cause)
      | .ok cache => return .ok (⟨name, .server, packet⟩, ⟨cache, session.free, g⟩)

/-- Gets the packet for a name: from the cache if it is there, else from a server. -/
def ask (request : Request) (waits : Nat) (name : String) (st : State) :
    Dialogue (Except Stop (Shown × State)) :=
  match Name.ofDotted? name with
  | none => return .error (.badName name)
  | some wire =>
    match Packet.cacheKey? request.qtype wire with
    | none => return .error (.badName name)
    | some key => do
      let now ← Dialogue.call .wallClock
      match st.cache.get now key with
      | .error cause => return .error (.damaged cause)
      | .ok (some hit) => return .ok (⟨name, .cache hit.ttl, hit.data⟩, st)
      | .ok none => fromServers request waits name wire key st

/-- Asks for names in turn: the packets shown, and why it stopped if it did. A packet that cannot be
taken apart is the last one. -/
def run (request : Request) (waits : Nat) :
    List String → State → Dialogue (List Shown × Option Stop)
  | [], _ => return ([], none)
  | name :: names, st => do
    match ← ask request waits name st with
    | .error stop => return ([], some stop)
    | .ok (shown, st) =>
      match Message.ofBytes shown.packet with
      | .error flaw => return ([shown], some (.undecodable flaw))
      | .ok _ =>
        let (more, stop) ← run request waits names st
        return (shown :: more, stop)

/-- Prepares what there is to be and asks for names in turn. -/
def runFrom (settings : Settings) (request : Request) (waits : Nat) (names : List String)
    (g : Generator) : Dialogue (List Shown × Option Stop) := do
  match ← State.start settings g with
  | .error stop => return ([], some stop)
  | .ok st => run request waits names st

/-! ## Reporting -/

/-- Where a packet comes from, in words. -/
def Source.toText : Source → String
  | cache ttl => s!"from cache, ttl {ttl}"
  | server => "from upstream"

/-- The text for a packet. -/
def Shown.toText (qtype : UInt16) (s : Shown) : String :=
  s!";; {s.name} {Message.typeName qtype} {s.source.toText}\n" ++
    match Message.ofBytes s.packet with
    | .ok message => message.toText
    | .error _ => ""

/-- How the command ends when it stops early. -/
def Stop.ending (qtype : UInt16) : Stop → Ending
  | noCache cause => .failure "allocate cache" cause.causes
  | badName name => .failure s!"invalid name: {name}" []
  | notStarted _ .clockOverflow | unanswered _ .clockOverflow => .panic
  | damaged _ => .abort
  | notStarted name cause => .failure s!"start query for {name}" cause.causes
  | unanswered name cause => .failure s!"query {name} {Message.typeName qtype}" cause.causes
  | undecodable flaw => .failure "decode reply" [flaw.message]
  | interrupted => .failure "interrupted" []

/-- The report on what was shown. -/
def report (qtype : UInt16) (shown : List Shown) (stop : Option Stop) : Report :=
  ⟨String.join (shown.map (Shown.toText qtype)),
    match stop with
    | some stop => stop.ending qtype
    | none => .success⟩

end Resolver.Asking
