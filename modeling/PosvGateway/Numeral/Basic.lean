import PosvGateway.Uint256

/-!
# Numbers as text

The spellings of integers that the ledger's formats share, each with its exact causes of refusal.

* `decimal`, `signedDecimal` and `hex` write a number;
* `readUnsigned` reads a bounded number in one base: an optional plus sign, then digits;
* `readUint256` reads an amount in base ten, or in the base that a leading `0x`, `0o` or `0b`
  names, with underscores skipped;
* `readInt256?` reads a balance: an optional sign, then decimal digits.
-/

namespace PosvGateway.Numeral

/-! ### Writing -/

/-- The decimal digits of `n`. -/
def decimal (n : Nat) : String := String.ofList (Nat.toDigits 10 n)

/-- The decimal digits of `z`, after a minus sign if it is below zero. -/
def signedDecimal (z : Int) : String :=
  if z < 0 then "-" ++ decimal z.natAbs else decimal z.natAbs

/-- `0x` and the hexadecimal digits of `n`, in lower case. -/
def hex (n : Nat) : String := "0x" ++ String.ofList (Nat.toDigits 16 n)

/-! ### Digits -/

/-- The value of a digit: `0` to `9`, then the letters in either case from ten on. -/
def digitValue? (c : Char) : Option Nat :=
  if '0' ≤ c ∧ c ≤ '9' then some (c.toNat - '0'.toNat)
  else if 'a' ≤ c ∧ c ≤ 'z' then some (c.toNat - 'a'.toNat + 10)
  else if 'A' ≤ c ∧ c ≤ 'Z' then some (c.toNat - 'A'.toNat + 10)
  else none

/-- The value of `c` as a digit of `base`. -/
def digit? (base : Nat) (c : Char) : Option Nat :=
  match digitValue? c with
  | some d => if d < base then some d else none
  | none => none

/-! ### Bounded numbers -/

/-- Why a bounded number could not be read. -/
inductive Fault where
  /-- There is no text. -/
  | empty
  /-- A character is no digit. -/
  | invalidDigit
  /-- The number exceeds its bound. -/
  | overflow
  deriving DecidableEq, Repr

/-- The wording of a fault. -/
def Fault.message : Fault → String
  | .empty => "cannot parse integer from empty string"
  | .invalidDigit => "invalid digit found in string"
  | .overflow => "number too large to fit in target type"

/-- Reads the digits `cs` after a number `acc`; the first character at fault decides. -/
def readDigits (base bound : Nat) : List Char → Nat → Except Fault Nat
  | [], acc => .ok acc
  | c :: cs, acc =>
    match digit? base c with
    | none => .error .invalidDigit
    | some d => if acc * base + d ≤ bound then readDigits base bound cs (acc * base + d)
                else .error .overflow

/-- Reads a number of at most `bound`: an optional plus sign and at least one digit of `base`. -/
def readUnsigned (base bound : Nat) (text : List Char) : Except Fault Nat :=
  match text with
  | [] => .error .empty
  | ['+'] => .error .invalidDigit
  | '+' :: digits => readDigits base bound digits 0
  | digits => readDigits base bound digits 0

/-! ### Amounts and balances -/

/-- Why an amount could not be read. -/
inductive WordFault where
  /-- A byte, given as the character of its number, is no digit of the base. -/
  | invalidDigit (c : Char)
  /-- The number is `2 ^ 256` or more. -/
  | overflow
  deriving DecidableEq, Repr

/-- The wording of a fault. -/
def WordFault.message : WordFault → String
  | .invalidDigit c => "invalid digit: " ++ String.singleton c
  | .overflow => "the value is too large to fit the target type"

/-- An amount is read byte by byte: the bytes of `text` in UTF-8, each as the character of its
number, so that a fault names the first byte of a character beyond ASCII, not the character. -/
def octetChars (text : List Char) : List Char :=
  text.flatMap fun c => (String.utf8EncodeChar c).map fun b => Char.ofNat b.toNat

/-- The digits of an amount in base ten come in groups of this many: the most that always fit in
64 bits. -/
def groupSize : Nat := 19

/-- Reads digits from the most significant on, skipping underscores, after a number `acc`. The
number is held against its limit where a group of `groupSize` digits is complete, `left` digits
from here, and at the end of the text: a character that is no digit wins over an excess that its
own group brings. -/
def readForward (base : Nat) : List Char → (left : Nat) → (acc : Nat) → Except WordFault Nat
  | [], _, acc => if acc < Uint256.size then .ok acc else .error .overflow
  | c :: cs, left, acc =>
    if c = '_' then readForward base cs left acc
    else match digit? base c with
    | none => .error (.invalidDigit c)
    | some d =>
      if 1 < left then readForward base cs (left - 1) (acc * base + d)
      else if acc * base + d < Uint256.size then readForward base cs groupSize (acc * base + d)
      else .error .overflow

/-- Reads digits from the least significant on, skipping underscores: `cs` is the text reversed,
`weight` the weight of its next digit and `acc` the number so far. -/
def readBackward (base : Nat) : List Char → Nat → Nat → Except WordFault Nat
  | [], _, acc => .ok acc
  | c :: cs, weight, acc =>
    if c = '_' then readBackward base cs weight acc
    else match digit? base c with
    | none => .error (.invalidDigit c)
    | some d => if acc + d * weight < Uint256.size then
                  readBackward base cs (weight * base) (acc + d * weight)
                else .error .overflow

/-- Reads an amount in base ten. -/
def readDecimal (text : List Char) : Except WordFault Uint256 :=
  (readForward 10 (octetChars text) groupSize 0).map (BitVec.ofNat 256)

/-- Reads an amount in a base that is a power of two, from the last digit on. -/
def readBinaryBase (base : Nat) (text : List Char) : Except WordFault Uint256 :=
  (readBackward base (octetChars text).reverse 1 0).map (BitVec.ofNat 256)

/-- Reads an amount in the base its prefix names, ten if there is none. No digits spell zero. -/
def readUint256 (text : String) : Except WordFault Uint256 :=
  match text.toList with
  | '0' :: 'x' :: digits => readBinaryBase 16 digits
  | '0' :: 'X' :: digits => readBinaryBase 16 digits
  | '0' :: 'o' :: digits => readBinaryBase 8 digits
  | '0' :: 'O' :: digits => readBinaryBase 8 digits
  | '0' :: 'b' :: digits => readBinaryBase 2 digits
  | '0' :: 'B' :: digits => readBinaryBase 2 digits
  | digits => readDecimal digits

/-- Reads a balance: an optional sign, then an amount in base ten. -/
def readInt256? (text : String) : Option Int256 :=
  match text.toList with
  | '-' :: digits => (readDecimal digits).toOption.bind fun v => Int256.ofInt? (-v.toNat)
  | '+' :: digits => (readDecimal digits).toOption.bind fun v => Int256.ofInt? v.toNat
  | digits => (readDecimal digits).toOption.bind fun v => Int256.ofInt? v.toNat

end PosvGateway.Numeral
