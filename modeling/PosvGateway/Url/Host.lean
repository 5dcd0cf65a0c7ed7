import PosvGateway.Idna.Domain
import PosvGateway.Net.IpAddress
import PosvGateway.Url.Escape

/-!
# Hosts of URLs

A host is a domain name or an address of the internet. In the well-known schemes a name that ends in
a number is an address of version 4, whose one to four numbers may be decimal, octal or
hexadecimal; in any other scheme a host is a name as it stands.
-/

namespace PosvGateway

/-- Why a text is no URL. -/
inductive UrlError where
  /-- There is no scheme. -/
  | relativeWithoutBase
  | emptyHost
  /-- The host is no domain name. -/
  | invalidDomainName
  /-- A character must not be in a host. -/
  | invalidDomainCharacter
  | invalidIpv4
  | invalidIpv6
  | invalidPort
  deriving DecidableEq, Repr

/-- The wording of an error. -/
def UrlError.message : UrlError → String
  | .relativeWithoutBase => "relative URL without a base"
  | .emptyHost => "empty host"
  | .invalidDomainName => "invalid international domain name"
  | .invalidDomainCharacter => "invalid domain character"
  | .invalidIpv4 => "invalid IPv4 address"
  | .invalidIpv6 => "invalid IPv6 address"
  | .invalidPort => "invalid port number"

namespace Url

/-- The host of a URL. -/
inductive Host where
  | domain (name : String)
  | address (a : IpAddress)
  deriving DecidableEq

namespace Host

/-- A host as text. -/
def text : Host → String
  | .domain name => name
  | .address (.v4 bytes) => IpAddress.dotted bytes.bytes
  | .address (.v6 bytes) => "[" ++ IpAddress.compressed (IpAddress.groups bytes.bytes) ++ "]"

/-! ### Addresses -/

/-- A number of an address of version 4: octal after a zero, hexadecimal after `0x`. -/
def readNumber? (part : List Char) : Option Nat :=
  let digits (base : Nat) (text : List Char) : Option Nat :=
    (text.mapM (Numeral.digit? base)).map (·.foldl (fun n d => n * base + d) 0)
  match part with
  | [] => none
  | '0' :: 'x' :: text | '0' :: 'X' :: text => digits 16 text
  | '0' :: c :: text => digits 8 (c :: text)
  | text => digits 10 text

/-- The parts of a name between its points, without an empty last one. -/
def labels (name : List Char) : List (List Char) :=
  let parts := Text.split (· = '.') name
  if 1 < parts.length ∧ parts.getLast? = some [] then parts.dropLast else parts

/-- The last label of a name is a number. -/
def endsInNumber (name : List Char) : Bool :=
  match (labels name).getLast? with
  | some part => (part ≠ [] && part.all Char.isDigit) || (readNumber? part).isSome
  | none => false

/-- Reads an address of version 4 of up to four numbers: the last fills the bytes that are left. -/
def readV4 (name : List Char) : Except UrlError Host :=
  match (labels name).mapM readNumber? with
  | none => .error .invalidIpv4
  | some numbers =>
    let front := numbers.dropLast
    let last := numbers.getLastD 0
    let left := 4 - front.length
    if 4 < numbers.length ∨ 1 <<< (8 * left) ≤ last ∨ front.any (256 ≤ ·) then
      .error .invalidIpv4
    else
      let bytes := front.map UInt8.ofNat ++ Bytes.ofNatSized left last
      (Octets.ofBytes? 4 bytes).elim (.error .invalidIpv4) fun o => .ok (.address (.v4 o))

/-- Reads an address of version 6 in square brackets, of which the first was taken off. -/
def readBracketed (text : List Char) : Except UrlError Host :=
  if text.getLast? = some ']' then
    (IpAddress.readV6? text.dropLast).elim (.error .invalidIpv6) fun o => .ok (.address (.v6 o))
  else .error .invalidIpv6

/-! ### Names -/

/-- Must not be in any host. -/
def isForbidden (c : Char) : Bool :=
  c.toNat = 0 || c.toNat = 9 || c.toNat = 10 || c.toNat = 13 || " #/:<>?@[\\]^|".contains c

/-- Must not be in a domain name. -/
def isForbiddenInName (c : Char) : Bool :=
  isForbidden c || c.toNat < 0x20 || c = '%' || c.toNat = 0x7f

/-- Reads a domain name, or an address of version 4, with its escapes resolved. -/
def readName (name : List Char) : Except UrlError Host :=
  match Idna.toAscii? isForbiddenInName name with
  | none => .error .invalidDomainName
  | some [] => .error .emptyHost
  | some ascii => if endsInNumber ascii then readV4 ascii else .ok (.domain (String.ofList ascii))

/-- Reads a host in one of the well-known schemes. -/
def read (text : List Char) : Except UrlError Host :=
  match text with
  | '[' :: text => readBracketed text
  | text =>
    match String.fromUTF8? ⟨(unescape text).toArray⟩ with
    | none => .error .invalidDomainName
    | some name => readName name.toList

/-- Reads a host in any other scheme. -/
def readOpaque (text : List Char) : Except UrlError Host :=
  match text with
  | '[' :: text => readBracketed text
  | text =>
    if text.any isForbidden then .error .invalidDomainCharacter
    else .ok (.domain (String.ofList (escape isControl text)))

end Host

end Url

end PosvGateway
