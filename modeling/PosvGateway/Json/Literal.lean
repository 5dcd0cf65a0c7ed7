import PosvGateway.Json.Value

/-!
# The literals of a JSON text

The scanners of what stands between the brackets of a JSON text: blanks, words, numbers and
strings. Each takes the text from the literal on and returns the literal and the text behind it; a
number keeps its spelling.
-/

namespace PosvGateway

/-- A number as it is spelled. -/
structure NumberLiteral where
  /-- There is a minus sign. -/
  negative : Bool
  /-- The digits in front of the point, without leading zeros. -/
  whole : List Char
  /-- The digits behind the point, if there is one. -/
  fraction : Option (List Char)
  /-- The exponent, if there is one. -/
  exponent : Option Int
  deriving DecidableEq, Repr

/-- The greatest exponent that is kept in full. -/
def maxExponent : Nat := 0x7fffffff

/-- The number is other than zero, and its exponent exceeds `maxExponent` before its last digit: the
number is given up there. -/
def NumberLiteral.overruns (literal : NumberLiteral) : Bool :=
  let isZero := (literal.whole ++ literal.fraction.getD []).all (· = '0')
  !isZero && (maxExponent : Int) < literal.exponent.getD 0 / 10

/-- A string literal. -/
inductive StringLiteral where
  /-- The text that it spells. -/
  | text (content : String)
  /-- It spells no text, as half of a surrogate pair is without the other. With `atEnd` that half is
  the first one of its pair, and nothing is behind it. -/
  | unpaired (atEnd : Bool)
  deriving DecidableEq, Repr

/-- The text of a literal that spells one. -/
def StringLiteral.text? : StringLiteral → Option String
  | .text content => some content
  | .unpaired _ => none

namespace Document

/-! ### Blanks, words and numbers -/

/-- The characters that may stand between tokens. -/
def isBlank (c : Char) : Bool := c = ' ' || c = '\n' || c = '\t' || c = '\r'

/-- The text after its leading blanks. -/
def skipBlanks (text : List Char) : List Char := text.dropWhile isBlank

/-- The text after `word`, if it starts with it. -/
def expect? : List Char → List Char → Option (List Char)
  | [], text => some text
  | c :: word, d :: text => if c = d then expect? word text else none
  | _ :: _, [] => none

/-- The value of decimal digits. -/
def digitsValue (digits : List Char) : Nat :=
  digits.foldl (fun acc c => acc * 10 + (c.toNat - '0'.toNat)) 0

/-- The part of a number behind its point, if it has one, and the rest. -/
def scanFraction? (text : List Char) : Option (Option (List Char) × List Char) :=
  match text with
  | '.' :: text =>
    let digits := text.takeWhile Char.isDigit
    if digits.isEmpty then none else some (some digits, text.dropWhile Char.isDigit)
  | text => some (none, text)

/-- The exponent digits and the rest. -/
def scanExponentDigits? (negative : Bool) (text : List Char) : Option (Option Int × List Char) :=
  let digits := text.takeWhile Char.isDigit
  if digits.isEmpty then none
  else
    let magnitude : Int := digitsValue digits
    some (some (if negative then -magnitude else magnitude), text.dropWhile Char.isDigit)

/-- The exponent of a number, if it has one, and the rest. -/
def scanExponent? (text : List Char) : Option (Option Int × List Char) :=
  match text with
  | 'e' :: '-' :: text | 'E' :: '-' :: text => scanExponentDigits? true text
  | 'e' :: '+' :: text | 'E' :: '+' :: text => scanExponentDigits? false text
  | 'e' :: text | 'E' :: text => scanExponentDigits? false text
  | text => some (none, text)

/-- The digits in front of the point, of which a zero is the only one, and the rest. -/
def scanWhole? (text : List Char) : Option (List Char × List Char) :=
  match text with
  | '0' :: c :: text => if c.isDigit then none else some (['0'], c :: text)
  | ['0'] => some (['0'], [])
  | text =>
    let digits := text.takeWhile Char.isDigit
    if digits.isEmpty then none else some (digits, text.dropWhile Char.isDigit)

/-- A number without its sign, and the rest. -/
def scanNumber? (negative : Bool) (text : List Char) : Option (NumberLiteral × List Char) := do
  let (whole, text) ← scanWhole? text
  let (fraction, text) ← scanFraction? text
  let (exponent, text) ← scanExponent? text
  return (⟨negative, whole, fraction, exponent⟩, text)

/-! ### Strings -/

/-- The value of four hexadecimal digits. -/
def unit? (a b c d : Char) : Option Nat := do
  let a ← Numeral.digit? 16 a
  let b ← Numeral.digit? 16 b
  let c ← Numeral.digit? 16 c
  let d ← Numeral.digit? 16 d
  return ((a * 16 + b) * 16 + c) * 16 + d

/-- The character of an escape other than a code unit. -/
def escape? (c : Char) : Option Char :=
  match c with
  | '"' => some '"'
  | '\\' => some '\\'
  | '/' => some '/'
  | 'b' => some '\x08'
  | 'f' => some '\x0c'
  | 'n' => some '\n'
  | 'r' => some '\r'
  | 't' => some '\t'
  | _ => none

/-- Reads a string literal after its opening quote: `content` holds the characters so far, the last
one first, unless half of a surrogate pair was among them. The answer is the literal and the text
after its closing quote. -/
def scanString? (content : Option (List Char)) : List Char → Option (StringLiteral × List Char)
  | [] => none
  | '"' :: text =>
    match content with
    | some chars => some (.text (String.ofList chars.reverse), text)
    | none => some (.unpaired false, text)
  | '\\' :: 'u' :: a :: b :: c :: d :: '\\' :: 'u' :: e :: f :: g :: h :: text =>
    match unit? a b c d, unit? e f g h with
    | some high, some low =>
      if 0xd800 ≤ high ∧ high < 0xdc00 ∧ 0xdc00 ≤ low ∧ low < 0xe000 then
        let c := Char.ofNat (0x10000 + (high - 0xd800) * 0x400 + (low - 0xdc00))
        scanString? (content.map (c :: ·)) text
      else if 0xd800 ≤ high ∧ high < 0xe000 then
        scanString? none ('\\' :: 'u' :: e :: f :: g :: h :: text)
      else
        scanString? (content.map (Char.ofNat high :: ·)) ('\\' :: 'u' :: e :: f :: g :: h :: text)
    | _, _ => none
  | '\\' :: 'u' :: a :: b :: c :: d :: text =>
    match unit? a b c d with
    | some unit =>
      if content.isSome ∧ 0xd800 ≤ unit ∧ unit < 0xdc00 ∧ text.head? = some '"' then
        some (.unpaired true, text.drop 1)
      else if 0xd800 ≤ unit ∧ unit < 0xe000 then scanString? none text
      else scanString? (content.map (Char.ofNat unit :: ·)) text
    | none => none
  | '\\' :: c :: text =>
    match escape? c with
    | some c => scanString? (content.map (c :: ·)) text
    | none => none
  | c :: text =>
    if c = '\\' ∨ c.toNat < 0x20 then none else scanString? (content.map (c :: ·)) text
termination_by text => text.length

end Document

end PosvGateway
