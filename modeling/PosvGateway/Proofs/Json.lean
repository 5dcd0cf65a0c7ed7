import PosvGateway.Proofs.Outcome
import PosvGateway.Json.Scalars

/-!
# Texts by their characters

A text that is built from its characters is read without taking it apart into characters again, so
that the kernel can read long texts.

* `Document.ofChars`, `Document.ofCharsTo` : takes the characters of a text apart, all the way or
  down to some level;
* `Reader.run_ofList`, `Reader.runTo_ofList`, `Reader.decode_ofList` : how a text with these
  characters is read;
* `Chars.array`, `Chars.object`, `Chars.quoted` : the characters of JSON without blanks.
-/

namespace PosvGateway

namespace Document

/-- Takes the characters of a text apart down to `levels` levels of containers. -/
def ofCharsTo (levels : Nat) (chars : List Char) : Document × Bool :=
  let text := skipBlanks chars
  match scanValue (3 * text.length + 4) levels text with
  | (document, some rest) => (document, (skipBlanks rest).isEmpty)
  | (document, none) => (document, false)

/-- Takes the characters of a text apart. -/
def ofChars (chars : List Char) : Document × Bool := ofCharsTo (chars.length + 1) chars

theorem parseTo_ofList (levels : Nat) (chars : List Char) :
    parseTo levels (String.ofList chars) = ofCharsTo levels chars := by
  rw [parseTo, String.toList_ofList]
  rfl

theorem parse_ofList (chars : List Char) : parse (String.ofList chars) = ofChars chars := by
  rw [parse, parseTo_ofList, String.length_ofList, ofChars]

end Document

namespace Reader

variable {α : Type} {reader : Reader α} {chars : List Char} {a : α}

theorem run_ofList (h : (reader.finish (Document.ofChars chars)).toOption = some a) :
    reader.run (String.ofList chars) = .ok a := by
  rw [run, Document.parse_ofList, Except.toOption_eq_some.mp h]

theorem runTo_ofList {levels : Nat}
    (h : (reader.finish (Document.ofCharsTo levels chars)).toOption = some a) :
    reader.runTo levels (String.ofList chars) = .ok a := by
  rw [runTo, Document.parseTo_ofList, Except.toOption_eq_some.mp h]

theorem decode_ofList (h : (reader.finish (Document.ofChars chars)).toOption = some a)
    (what : String) : reader.decode what (String.ofList chars) = .ok a := by
  rw [decode, run_ofList h]

end Reader

/-! ### Building texts -/

namespace Chars

/-- The characters of a JSON array. -/
def array (items : List (List Char)) : List Char := '[' :: [','].intercalate items ++ [']']

/-- The characters of a JSON object. -/
def object (members : List (String × List Char)) : List Char :=
  '\x7b' :: [','].intercalate (members.map fun (name, value) =>
    '"' :: name.toList ++ '"' :: ':' :: value) ++ ['\x7d']

/-- The characters of a text between quotes. -/
def quoted (text : String) : List Char := '"' :: (text.toList ++ ['"'])

/-- The characters of an address whose digits are all alike, without a mark. -/
def uniformAddress (digit : Char) : List Char := '"' :: (List.replicate 40 digit ++ ['"'])

end Chars

end PosvGateway
