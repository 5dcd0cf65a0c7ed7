import PosvGateway.Text.Unprintable

/-!
# Quoted literals in messages

Messages show a value that was refused between quotes, with escapes for what would not be seen.
`stringLiteral` writes a text between double quotes and `charLiteral` a character between single
quotes.
-/

namespace PosvGateway.Text

/-- The escapes that a character needs wherever it is quoted, if it needs any. -/
def commonEscape? (c : Char) : Option String :=
  match c with
  | '\x00' => some "\\0"
  | '\t' => some "\\t"
  | '\n' => some "\\n"
  | '\r' => some "\\r"
  | '\\' => some "\\\\"
  | c =>
    if isUnprintable c then
      some ("\\u\x7b" ++ String.ofList (Nat.toDigits 16 c.toNat) ++ "\x7d")
    else none

/-- A character within double quotes. -/
def inDoubleQuotes (c : Char) : String :=
  if c = '"' then "\\\"" else (commonEscape? c).getD (String.singleton c)

/-- A character within single quotes. -/
def inSingleQuotes (c : Char) : String :=
  if c = '\'' then "\\'" else (commonEscape? c).getD (String.singleton c)

/-- A text between double quotes. -/
def stringLiteral (text : String) : String :=
  "\"" ++ String.join (text.toList.map inDoubleQuotes) ++ "\""

/-- A character between single quotes. -/
def charLiteral (c : Char) : String := "'" ++ inSingleQuotes c ++ "'"

end PosvGateway.Text
