import Resolver.Message.Certification
import Resolver.Message.RecordType
import Resolver.Net.Address6
import Resolver.Text.Digits

/-!
# The data of records

What records of the known types hold, reading it out of a message and writing it as text. Types
without a form of their own are kept as bytes and written in base 64.
-/

namespace Resolver.Message

/-- What is said about a service besides where it is. -/
inductive Parameter
  /-- The keys that have to be understood. -/
  | mandatory (keys : List UInt16)
  | protocols (names : List String)
  | noDefaultProtocol
  | port (port : UInt16)
  | ipv4Hint (ips : List Ipv4)
  | encryptedHello (config : Bytes)
  | ipv6Hint (ips : List Ipv6)
  | unknown (value : Bytes)
  deriving DecidableEq, Repr

/-- The address of a client's network, as far as it is told. -/
structure ClientNetwork where
  address : String
  sourceBits : UInt8
  scopeBits : UInt8
  deriving DecidableEq, Repr

/-- The data of a record. -/
inductive RecordData
  | ipv4 (ip : Ipv4)
  | ipv6 (ip : Ipv6)
  | host (name : Labels)
  | mailExchange (preference : UInt16) (exchange : Labels)
  | authority (server mailbox : Labels) (serial : Nat) (refresh retry expire : Int)
      (minimum : Nat)
  | service (priority weight port : UInt16) (target : Labels)
  | naming (order preference : UInt16) (flags services pattern : Bytes) (replacement : Labels)
  | text (strings : List Bytes)
  | hostInfo (cpu system : Bytes)
  | certification (critical : Bool) (content : Certification)
  | fingerprint (algorithm kind : UInt8) (digest : Bytes)
  | certificate (usage selector matching : UInt8) (content : Bytes)
  | synchronisation (serial : Nat) (flags : UInt16) (types : List UInt16)
  | binding (priority : UInt16) (target : Labels) (parameters : List (UInt16 × Parameter))
  | options (options : List (UInt16 × Bytes))
  | nothing
  | raw (bytes : Bytes)
  deriving DecidableEq, Repr

/-! ## Reading -/

namespace Reader

/-- Reads an address of four bytes. -/
def ipv4 : Reader Ipv4 := do
  return ⟨← byte, ← byte, ← byte, ← byte⟩

/-- Reads an address of eight groups. -/
def ipv6 : Reader Ipv6 := fun p =>
  match times word 8 [] p with
  | (.ok groups, p) => (.ok ⟨groups⟩, p)
  | (.error e, p) => (.error e, p)

/-- Reads a signed number of 32 bits. -/
def signed : Reader Int := do
  let n ← number 4
  return if n < 0x80000000 then (n : Int) else (n : Int) - 0x100000000

end Reader

open Reader

/-- Whether a byte is an ASCII letter or digit. -/
def isAlphanumeric (b : UInt8) : Bool :=
  (48 ≤ b && b ≤ 57) || (65 ≤ b && b ≤ 90) || (97 ≤ b && b ≤ 122)

/-- Reads a rule for rewriting names. -/
def readNaming (message : Bytes) : Reader RecordData := do
  let order ← word
  let preference ← word
  let flags ← shortString
  if !flags.all isAlphanumeric then flaw (.other "flags are not within range [a-zA-Z0-9]")
  else
    let services ← shortString
    let pattern ← shortString
    return .naming order preference flags services pattern (← readName message)

/-- The longest tag of a record on certification. -/
def maxTag : Nat := 15

/-- Reads a byte of a tag. -/
def readTagByte : Reader UInt8 := do
  let b ← byte
  if isAlphanumeric b then return b else flaw (.other "CAA tag character(s) out of bounds")

/-- Reads who may certify a name, in `length` bytes. -/
def readCertification (length : Nat) : Reader RecordData := do
  let flags ← byte
  let tagLength := (← byte).toNat
  if length < tagLength + 2 then flaw (.other "CAA tag character(s) out of bounds")
  else if tagLength = 0 ∨ maxTag < tagLength then
    flaw (.other "CAA tag length out of bounds, 1-15")
  else
    let tag ← times readTagByte tagLength []
    let value ← bytes (length - tagLength - 2)
    match Certification.ofTag tag value with
    | .ok content => return .certification (flags &&& 128 != 0) content
    | .error e => flaw e

/-- A byte of a list of types: blocks of bits, each behind its number and its length. -/
inductive BlockByte
  | number (block : UInt8)
  | size (block length : UInt8)
  | bits (block length : UInt8) (index : Nat) (byte : UInt8)
  deriving DecidableEq, Repr

/-- A byte of bits in its place. A block has a low byte of types only for its first 32 bytes. -/
def bitsAt (block length : UInt8) (index : Nat) (b : UInt8) : Reader BlockByte :=
  if 32 ≤ index ∧ b ≠ 0 then flaw (.other "block len or left out of bounds in NSEC(3)")
  else if length = 0 then flaw (.other "block left out of bounds in NSEC(3)")
  else return .bits block length index b

/-- Reads a byte of a list of types. -/
def readBlockByte (before : Option BlockByte) : Reader BlockByte := do
  let b ← byte
  match before with
  | none => return .number b
  | some (.number block) => return .size block b
  | some (.size block length) => bitsAt block length 0 b
  | some (.bits block length index _) =>
    if index + 1 < length.toNat then bitsAt block length (index + 1) b else return .number b

/-- The types that a byte of a list stands for. Its bits count from the highest. -/
def BlockByte.types : BlockByte → List UInt16
  | bits block _ index b =>
    (List.range 8).filterMap fun i =>
      if b.toNat.testBit (7 - i) then some (UInt16.ofNat (256 * block.toNat + 8 * index + i))
      else none
  | _ => []

/-- Reads flags for copying into a parent zone. Of the low byte only the last two bits may be
set; the high byte does not count. -/
def readSynchronisationFlags : Reader UInt16 := do
  let flags ← word
  if flags &&& 0xFC = 0 then return flags &&& 3
  else
    let digits := String.ofList (Nat.toDigits 2 flags.toNat)
    flaw (.other s!"csync flags should be 0b000000**: {digits}")

/-- Reads which types a parent zone is to copy, in `length` bytes. -/
def readSynchronisation (length : Nat) : Reader RecordData := do
  let serial ← number 4
  let flags ← readSynchronisationFlags
  let stop := (← place).index + (length - 6)
  let blocks ← fill 1 stop readBlockByte length []
  return .synchronisation serial flags (blocks.flatMap BlockByte.types)

/-- Reads the name of a protocol. -/
def readProtocol : Reader String := do
  match textOf (← shortString) with
  | .ok name => return name
  | .error e => flaw e

/-- Reads the value of a parameter. -/
def readParameter (key : UInt16) : Reader Parameter := do
  match key with
  | 0 =>
    let keys ← toEnd word
    if keys = [] then flaw (.other "Mandatory expects at least one value")
    else return .mandatory keys
  | 1 =>
    let names ← toEnd readProtocol
    if names = [] then flaw (.other "Alpn expects at least one value") else return .protocols names
  | 2 =>
    if (← place).rest = [] then return .noDefaultProtocol
    else flaw (.other "Alpn expects at least one value")
  | 3 => return .port (← word)
  | 4 => return .ipv4Hint (← toEnd ipv4)
  | 5 =>
    let length := (← word).toNat
    if (← place).rest.length < length then
      flaw (.other "ECH value length exceeds max size of u16::MAX")
    else return .encryptedHello (← bytes length)
  | 6 => return .ipv6Hint (← toEnd ipv6)
  | _ => return .unknown (← place).rest

/-- Reads a parameter, which must have a greater key than the one before it. -/
def readKeyed (before : Option (UInt16 × Parameter)) : Reader (UInt16 × Parameter) := do
  let key ← word
  let length := (← word).toNat
  let left := (← place).rest.length
  if left < length then
    flaw (.other s!"length of SvcParamValue ({length}) exceeds remainder in RDATA ({left})")
  else
    let value ← bytes length
    let parameter ← inside value (readParameter key)
    if before.any fun (last, _) => key ≤ last then flaw (.other "SvcParams out of order")
    else return (key, parameter)

/-- Reads where a service is and how to reach it, in `length` bytes. -/
def readBinding (message : Bytes) (length : Nat) : Reader RecordData := do
  let start := (← place).index
  let priority ← word
  let target ← readName message
  let parameters ← fill 4 (start + length) readKeyed length []
  return .binding priority target parameters

/-- The code of the option that tells a client's network. -/
def clientNetworkCode : UInt16 := 8

/-- The number of bytes that hold the first `bits` bits of an address. -/
def prefixBytes (bits : UInt8) : Nat :=
  (bits.toNat + 7) / 8

/-- Reads the sizes of a client's network and the first bytes of its address, which has `width`
bytes. -/
def readPrefix (width : Nat) : Reader (UInt8 × UInt8 × Bytes) := do
  let sourceBits ← byte
  let scopeBits ← byte
  if width < prefixBytes sourceBits then flaw (.other "Invalid address length")
  else return (sourceBits, scopeBits, ← times byte (prefixBytes sourceBits) [])

/-- Reads the address of a client's network. Bytes that are not told are zero. -/
def readClientNetwork : Reader ClientNetwork := do
  match ← word with
  | 1 =>
    let (sourceBits, scopeBits, head) ← readPrefix 4
    let ip : Ipv4 := ⟨head.getD 0 0, head.getD 1 0, head.getD 2 0, head.getD 3 0⟩
    return ⟨ip.toDotted, sourceBits, scopeBits⟩
  | 2 =>
    let (sourceBits, scopeBits, head) ← readPrefix 16
    let ip : Ipv6 := ⟨(List.range 8).map fun i =>
      wordOf (head.getD (2 * i) 0) (head.getD (2 * i + 1) 0)⟩
    return ⟨ip.toText, sourceBits, scopeBits⟩
  | _ => flaw (.other "Invalid family type.")

/-- Options with one more; an older one with the same code gives way. -/
def withOption (options : List (UInt16 × Bytes)) (code : UInt16) (value : Bytes) :
    List (UInt16 × Bytes) :=
  options.filter (·.1 ≠ code) ++ [(code, value)]

/-- Reads options, each behind a code and a length, until `length` bytes from `start` were read.
If the last one is not whole there, none counts. -/
def optionsFrom (start length : Nat) :
    (fuel : Nat) → List (UInt16 × Bytes) → Place → Except Flaw (List (UInt16 × Bytes)) × Place
  | 0, options, p => (.ok options, p)
  | fuel + 1, options, p =>
    if length ≤ p.index - start then (.ok options, p)
    else match word p with
      | (.error e, p) => (.error e, p)
      | (.ok code, p) =>
        if length ≤ p.index - start then (.ok [], p)
        else match word p with
          | (.error e, p) => (.error e, p)
          | (.ok size, p) =>
            if length < size.toNat then
              (.error (.other "OPT value length exceeds rdata length"), p)
            else
              let left := length - (p.index - start)
              match times byte (min size.toNat left) [] p with
              | (.error e, p) => (.error e, p)
              | (.ok value, p) =>
                if left < size.toNat then (.ok [], p)
                else if code = clientNetworkCode then
                  match inside value readClientNetwork p with
                  | (.error e, p) => (.error e, p)
                  | (.ok _, p) => optionsFrom start length fuel (withOption options code value) p
                else optionsFrom start length fuel (withOption options code value) p

/-- Reads the data of a record of a type, which takes `length` bytes. -/
def readByType (message : Bytes) (type : UInt16) (length : Nat) : Reader RecordData := do
  match type with
  | 0 => return .nothing
  | 1 => return .ipv4 (← ipv4)
  | 2 | 5 | 12 | 65305 => return .host (← readName message)
  | 6 =>
    let server ← readName message
    let mailbox ← readName message
    return .authority server mailbox (← number 4) (← signed) (← signed) (← signed) (← number 4)
  | 13 => return .hostInfo (← shortString) (← shortString)
  | 15 => return .mailExchange (← word) (← readName message)
  | 16 => return .text (← within length shortString)
  | 28 => return .ipv6 (← ipv6)
  | 33 => return .service (← word) (← word) (← word) (← readName message)
  | 35 => readNaming message
  | 41 =>
    let start := (← place).index
    return .options (← optionsFrom start length length [])
  | 44 => return .fingerprint (← byte) (← byte) (← bytes (length - 2))
  | 52 => return .certificate (← byte) (← byte) (← byte) (← bytes (length - 3))
  | 62 => readSynchronisation length
  | 64 | 65 => readBinding message length
  | 257 => readCertification length
  | _ => return .raw (← bytes length)

/-- The types that only questions have. -/
def questionTypes : List UInt16 :=
  [251, 252, 255]

/-- Reads the data of a record, which must take exactly the `length` bytes it is said to. That is
checked also when the data has a flaw, and counts before it. -/
def readData (message : Bytes) (type : UInt16) (length : Nat) : Reader RecordData := fun p =>
  if type ∈ questionTypes then (.error (.unknownType type), p)
  else
    let (data, after) := readByType message type length p
    let read := after.index - p.index
    if read = length then (data, after) else (.error (.wrongDataLength read length), after)

/-! ## Writing -/

/-- The name of a parameter's key. -/
def parameterName (key : UInt16) : String :=
  match key with
  | 0 => "mandatory"
  | 1 => "alpn"
  | 2 => "no-default-alpn"
  | 3 => "port"
  | 4 => "ipv4hint"
  | 5 => "echconfig"
  | 6 => "ipv6hint"
  | n => if 65280 ≤ n then s!"key{n.toNat}" else s!"unknown{n.toNat}"

/-- Texts, each with a comma behind it. -/
def withCommas (texts : List String) : String :=
  String.join (texts.map (· ++ ","))

/-- The text of a parameter's value. -/
def Parameter.toText : Parameter → String
  | mandatory keys => withCommas (keys.map parameterName)
  | protocols names => withCommas names
  | noDefaultProtocol => ""
  | port p => s!"{p.toNat}"
  | ipv4Hint ips => withCommas (ips.map Ipv4.toDotted)
  | encryptedHello config => "\"" ++ Digits.base64 config ++ "\""
  | ipv6Hint ips => withCommas (ips.map Ipv6.toText)
  | unknown value => "\"" ++ Utf8.decodeLossy value ++ "\","

/-- The name of an option. -/
def optionName (code : UInt16) : String :=
  match code with
  | 0 => "Zero"
  | 1 => "LLQ"
  | 2 => "UL"
  | 3 => "NSID"
  | 5 => "DAU"
  | 6 => "DHU"
  | 7 => "N3U"
  | 8 => "Subnet"
  | 9 => "Expire"
  | 10 => "Cookie"
  | 11 => "Keepalive"
  | 12 => "Padding"
  | 13 => "Chain"
  | n => s!"Unknown({n.toNat})"

/-- Text in braces. -/
def braced (text : String) : String :=
  "\x7b" ++ text ++ "\x7d"

/-- The text of an option's value. -/
def optionText (code : UInt16) (value : Bytes) : String :=
  match code == clientNetworkCode, (readClientNetwork ⟨value, 0⟩).1 with
  | true, .ok n =>
    "Subnet(ClientSubnet " ++ braced (s!" address: {n.address}, source_prefix: " ++
      s!"{n.sourceBits.toNat}, scope_prefix: {n.scopeBits.toNat} ") ++ ")"
  | _, _ =>
    let items := String.intercalate ", " (value.map fun b => s!"{b.toNat}")
    s!"Unknown({code.toNat}, [{items}])"

/-- The text of a record's data. -/
def RecordData.toText : RecordData → String
  | ipv4 ip => ip.toDotted
  | ipv6 ip => ip.toText
  | host name => nameText name
  | mailExchange preference exchange => s!"{preference.toNat} {nameText exchange}"
  | authority server mailbox serial refresh retry expire minimum =>
    s!"{nameText server} {nameText mailbox} {serial} {refresh} {retry} {expire} {minimum}"
  | service priority weight port target =>
    s!"{priority.toNat} {weight.toNat} {port.toNat} {nameText target}"
  | naming order preference flags services pattern replacement =>
    let quoted := fun b => "\"" ++ Utf8.decodeLossy b ++ "\""
    s!"{order.toNat} {preference.toNat} {quoted flags} {quoted services} {quoted pattern} " ++
      nameText replacement
  | text strings => String.join (strings.map Utf8.decodeLossy)
  | hostInfo cpu system => s!"{Utf8.decodeLossy cpu} {Utf8.decodeLossy system}"
  | certification critical content => s!"{if critical then 128 else 0} {content.toText}"
  | fingerprint algorithm kind digest =>
    s!"{algorithm.toNat} {kind.toNat} {Digits.hex digest}"
  | certificate usage selector matching content =>
    s!"{usage.toNat} {selector.toNat} {matching.toNat} {Digits.hex content}"
  | synchronisation serial flags types =>
    s!"{serial} {flags.toNat}" ++ String.join (types.map fun t => " " ++ typeName t)
  | binding priority target parameters =>
    s!"{priority.toNat} {nameText target}" ++ String.join (parameters.map fun (key, value) =>
      " " ++ parameterName key ++ "=" ++ value.toText)
  | options list =>
    let items := list.map fun (code, value) => optionName code ++ ": " ++ optionText code value
    "OPT " ++ braced (" options: " ++ braced (String.intercalate ", " items) ++ " ")
  | nothing => ""
  | raw bytes => Digits.base64 bytes

end Resolver.Message
