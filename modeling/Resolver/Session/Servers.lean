import Resolver.Net.Address

/-!
# Servers

A list of sixteen places for server addresses. A place with the address 0.0.0.0 is empty. The
places left to try are computed from here, so that the order of attempts is a list that can be
looked at.
-/

namespace Resolver

/-- The number of places for servers. -/
def maxServers : Nat := 16

/-- The number of rounds in which datagrams are sent. -/
def roundCount : Nat := 4

/-- Sixteen places for server addresses. -/
structure Servers where
  slots : Vector Ipv4 maxServers
  deriving DecidableEq, Repr

namespace Servers

/-- The first sixteen of a list of addresses; places that are left stay empty. -/
def ofList (ips : List Ipv4) : Servers :=
  ⟨Vector.ofFn fun i => ips.getD i.val .unspecified⟩

/-- The block form: the sixteen addresses in network order, 64 bytes. -/
def toBlock (s : Servers) : Bytes :=
  s.slots.toList.flatMap Ipv4.octets

/-- The servers with a given block form. -/
def ofBlock (block : Bytes) : Servers :=
  ofList (Ipv4.groups block)

/-- The address in a place that exists and is not empty. -/
def get? (s : Servers) (slot : Nat) : Option Ipv4 :=
  (s.slots[slot]?).filter (· ≠ .unspecified)

/-- Whether every place is empty. -/
def isEmpty (s : Servers) : Bool :=
  s.slots.toList.all (· = .unspecified)

/-- An attempt to make: the round, the place and the address there. -/
structure Target where
  round : Nat
  slot : Nat
  ip : Ipv4
  deriving DecidableEq, Repr

/-- The attempts of one round from a place on, places ascending and empty ones left out. -/
def targetsFrom (s : Servers) (round slot : Nat) : List Target :=
  (List.range' slot (maxServers - slot)).filterMap fun i =>
    (s.get? i).map fun ip => ⟨round, i, ip⟩

/-- The attempts from a place of a round to the end of the last round. -/
def schedule (s : Servers) (round slot : Nat) : List Target :=
  if round < roundCount then
    s.targetsFrom round slot ++
      (List.range' (round + 1) (roundCount - (round + 1))).flatMap fun r => s.targetsFrom r 0
  else []

end Servers

end Resolver
