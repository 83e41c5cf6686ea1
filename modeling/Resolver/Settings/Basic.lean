import Resolver.Session.Basic

/-!
# Settings

What can be set for a resolver, the values used when it is not, and the check that settings make
sense. Settings that pass the check are what sessions run under: every listed server gets its own
place, and no time to wait is zero.
-/

namespace Resolver

/-- What can be set. -/
structure Settings where
  /-- The bytes of the answer cache. -/
  cacheSize : UInt64
  /-- The servers that are asked. -/
  servers : List Ipv4
  /-- The port of the servers. -/
  serverPort : UInt16
  /-- The local address to send from. -/
  localIp : Ipv4
  /-- The seconds to wait for a datagram, by round. -/
  udpTimeouts : Vector UInt64 roundCount
  /-- The seconds to wait for a connection and for the reply over it. -/
  tcpTimeout : UInt64
  /-- The random local ports tried before the choice is left to the system. -/
  bindAttempts : UInt32
  /-- The number of queries that can be under way at once. -/
  maxInflight : UInt64
  /-- The database to look keys up in when none is named. -/
  dataPath : Option String
  deriving DecidableEq, Repr

namespace Settings

/-- What is used where nothing is set. -/
def standard : Settings where
  cacheSize := 1000000
  servers := [.localhost]
  serverPort := 53
  localIp := .unspecified
  udpTimeouts := #v[1, 3, 11, 45]
  tcpTimeout := 10
  bindAttempts := 10
  maxInflight := 220
  dataPath := none

/-- The times and addresses that sessions keep to. -/
def policy (s : Settings) : Policy where
  port := s.serverPort
  localIp := s.localIp
  udpTimeouts := s.udpTimeouts.map fun secs => Duration.seconds secs.toNat
  tcpTimeout := Duration.seconds s.tcpTimeout.toNat
  bindAttempts := s.bindAttempts.toNat

/-- The servers in their places. -/
def serverList (s : Settings) : Servers :=
  Servers.ofList s.servers

/-- Why settings make no sense. -/
inductive Nonsense
  | noServer
  | tooManyServers (count : Nat)
  | unspecifiedServer (ip : Ipv4)
  | zeroTimeout
  | zeroInflight
  deriving DecidableEq, Repr

/-- The wording of a failed check. -/
def Nonsense.message : Nonsense → String
  | noServer => "settings.servers is empty"
  | tooManyServers count =>
    s!"settings.servers lists {count} servers, at most {maxServers} are used"
  | unspecifiedServer ip => s!"settings.servers contains unspecified address {ip.toDotted}"
  | zeroTimeout => "timeouts must be at least one second"
  | zeroInflight => "settings.max_inflight must be positive"

/-- Checks that settings make sense. -/
def validate (s : Settings) : Except Nonsense Unit :=
  if s.servers = [] then .error .noServer
  else if maxServers < s.servers.length then .error (.tooManyServers s.servers.length)
  else match s.servers.find? (· = .unspecified) with
    | some ip => .error (.unspecifiedServer ip)
    | none =>
      if s.udpTimeouts.contains 0 ∨ s.tcpTimeout = 0 then .error .zeroTimeout
      else if s.maxInflight = 0 then .error .zeroInflight
      else .ok ()

end Settings

end Resolver
