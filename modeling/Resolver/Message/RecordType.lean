import Resolver.Bytes

/-!
# Record types and other numbers with names

The names of record types, classes and response codes.
-/

namespace Resolver.Message

/-- The record types that have names. -/
def recordTypes : List (UInt16 × String) :=
  [(0, "ZERO"), (1, "A"), (2, "NS"), (5, "CNAME"), (6, "SOA"), (10, "NULL"), (12, "PTR"),
    (13, "HINFO"), (15, "MX"), (16, "TXT"), (24, "SIG"), (25, "KEY"), (28, "AAAA"), (33, "SRV"),
    (35, "NAPTR"), (41, "OPT"), (43, "DS"), (44, "SSHFP"), (46, "RRSIG"), (47, "NSEC"),
    (48, "DNSKEY"), (50, "NSEC3"), (51, "NSEC3PARAM"), (52, "TLSA"), (59, "CDS"),
    (60, "CDNSKEY"), (61, "OPENPGPKEY"), (62, "CSYNC"), (64, "SVCB"), (65, "HTTPS"),
    (250, "TSIG"), (251, "IXFR"), (252, "AXFR"), (255, "ANY"), (257, "CAA"), (65305, "ANAME")]

/-- The types that cannot be asked for by name. -/
def unaskable : List String :=
  ["ZERO", "OPT", "IXFR"]

/-- The name of a record type. -/
def typeName (t : UInt16) : String :=
  (recordTypes.lookup t).getD "Unknown"

/-- The record type with a name, in capitals. A star asks for any. -/
def typeOfName? (name : String) : Option UInt16 :=
  if name = "*" then some 255
  else if name ∈ unaskable then none
  else (recordTypes.find? (·.2 = name)).map (·.1)

/-- The name of a class. -/
def className (c : UInt16) : String :=
  match c with
  | 1 => "IN"
  | 3 => "CH"
  | 4 => "HS"
  | 254 => "NONE"
  | 255 => "ANY"
  | _ => "UNKNOWN"

/-- The wording of a response code. -/
def responseText (code : Nat) : String :=
  match code with
  | 0 => "No Error"
  | 1 => "Form Error"
  | 2 => "Server Failure"
  | 3 => "Non-Existent Domain"
  | 4 => "Not Implemented"
  | 5 => "Query Refused"
  | 6 => "Name should not exist"
  | 7 => "RR Set should not exist"
  | 8 => "RR Set does not exist"
  | 9 => "Not authorized"
  | 10 => "Name not in zone"
  | 16 => "TSIG Failure"
  | 17 => "Key not recognized"
  | 18 => "Signature out of time window"
  | 19 => "Bad TKEY mode"
  | 20 => "Duplicate key name"
  | 21 => "Algorithm not supported"
  | 22 => "Bad truncation"
  | 23 => "Bad server cookie"
  | _ => "Unknown response code"

end Resolver.Message
