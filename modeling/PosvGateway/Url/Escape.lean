import PosvGateway.Numeral.Basic
import PosvGateway.Octets

/-!
# Percent escapes

Inside a URL a byte may be written as a percent sign and two hexadecimal digits. Each part of a URL
has characters of its own that must be written so; those other than ASCII always are.
-/

namespace PosvGateway.Url

/-- Control characters and all that is not ASCII. -/
def isControl (c : Char) : Bool := c.toNat < 0x20 || 0x7e < c.toNat

/-- What is escaped in a fragment. -/
def isFragmentEscape (c : Char) : Bool := isControl c || " \"<>`".contains c

/-- What is escaped in a query. -/
def isQueryEscape (special : Bool) (c : Char) : Bool :=
  isControl c || " \"#<>".contains c || (special && c = '\'')

/-- What is escaped in a path. -/
def isPathEscape (c : Char) : Bool := isFragmentEscape c || "#?\x7b\x7d".contains c

/-- What is escaped in a user's name and password. -/
def isCredentialEscape (c : Char) : Bool := isPathEscape c || "/:;=@[\\]^|".contains c

/-- A byte as an escape. -/
def escapeByte (b : UInt8) : List Char :=
  ['%', (Nat.digitChar (b.toNat / 16)).toUpper, (Nat.digitChar (b.toNat % 16)).toUpper]

/-- A text with the escapes it needs. -/
def escape (needed : Char → Bool) (text : List Char) : List Char :=
  text.flatMap fun c =>
    if needed c then (String.utf8EncodeChar c).flatMap escapeByte else [c]

/-- The bytes of a text, with its escapes resolved. -/
def unescape : List Char → Bytes
  | [] => []
  | '%' :: a :: b :: text =>
    match Numeral.digit? 16 a, Numeral.digit? 16 b with
    | some high, some low => UInt8.ofNat (16 * high + low) :: unescape text
    | _, _ => 0x25 :: unescape (a :: b :: text)
  | c :: text => String.utf8EncodeChar c ++ unescape text

end PosvGateway.Url
