import PosvGateway.Json.Value

/-!
# JSON text

`Json.render` writes a value without blanks and with its members in key order. Quotes,
backslashes and control characters are escaped, every other character stands for itself.
-/

namespace PosvGateway

/-- A number as text. -/
def JsonNumber.render : JsonNumber → String
  | .integer n => Numeral.signedDecimal n
  | .real x => x.text

namespace Json

/-- A character inside a string literal. -/
def renderChar (c : Char) : String :=
  match c with
  | '"' => "\\\""
  | '\\' => "\\\\"
  | '\x08' => "\\b"
  | '\x0c' => "\\f"
  | '\n' => "\\n"
  | '\r' => "\\r"
  | '\t' => "\\t"
  | c =>
    if c.toNat < 0x10 then "\\u000" ++ String.ofList (Nat.toDigits 16 c.toNat)
    else if c.toNat < 0x20 then "\\u00" ++ String.ofList (Nat.toDigits 16 c.toNat)
    else String.singleton c

/-- A string literal. -/
def renderString (s : String) : String :=
  "\"" ++ s.foldl (fun text c => text ++ renderChar c) "" ++ "\""

mutual

/-- A value as text. -/
def render : Json → String
  | .null => "null"
  | .bool true => "true"
  | .bool false => "false"
  | .number n => n.render
  | .string s => renderString s
  | .array items => "[" ++ renderItems items ++ "]"
  | .object members => "\x7b" ++ renderMembers members ++ "\x7d"

/-- The items of an array, with commas between them. -/
def renderItems : List Json → String
  | [] => ""
  | [item] => render item
  | item :: items => render item ++ "," ++ renderItems items

/-- The members of an object, with commas between them. -/
def renderMembers : List (String × Json) → String
  | [] => ""
  | [(key, value)] => renderString key ++ ":" ++ render value
  | (key, value) :: members =>
    renderString key ++ ":" ++ render value ++ "," ++ renderMembers members

end

end Json

end PosvGateway
