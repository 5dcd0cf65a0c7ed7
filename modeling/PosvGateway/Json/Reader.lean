import PosvGateway.Json.Document

/-!
# Reading JSON texts into types

A `Reader α` reads a document as an `α`. Containers may nest 127 deep. A misfit is either one of
the text's grammar or one of its shape; of two the one that comes first in the text counts, and a
member that is missing counts last.

* `Reader.list`, `Reader.option` and `Reader.table` read arrays, values that may be null, and
  objects with arbitrary keys;
* `Reader.json` reads any value, `Reader.object` any object;
* `Reader.run` reads a whole text.
-/

namespace PosvGateway

/-! ### Numbers -/

/-- The integer that a literal spells without a point or an exponent; minus zero is none. -/
def NumberLiteral.integer? (literal : NumberLiteral) : Option Int :=
  match literal.fraction, literal.exponent with
  | none, none =>
    let n : Int := Document.digitsValue literal.whole
    if literal.negative then (if n = 0 then none else some (-n)) else some n
  | _, _ => none

/-- Takes digits into a mantissa while it stays below `2 ^ 64`, and returns what is left. -/
def takeMantissa : List Char → Nat → Nat × List Char
  | [], mantissa => (mantissa, [])
  | c :: digits, mantissa =>
    let next := mantissa * 10 + (c.toNat - '0'.toNat)
    if next < UInt64.size then takeMantissa digits next else (mantissa, c :: digits)

/-- The double that a literal spells, if it is finite: its leading digits as far as they fit 64
bits, scaled by a power of ten. Digits in front of the point that do not fit are taken as zeros,
those behind it are dropped. -/
def NumberLiteral.double? (literal : NumberLiteral) : Option Binary64 :=
  let (mantissa, cut) := takeMantissa literal.whole 0
  let fraction := literal.fraction.getD []
  let (mantissa, dropped) := takeMantissa fraction mantissa
  let taken : Int := (fraction.length : Int) - dropped.length
  Binary64.ofScientific? literal.negative mantissa
    ((cut.length : Int) - taken + literal.exponent.getD 0)

/-- The number that a literal spells: an integer of 64 bits where it is one, and a double
otherwise, if it is finite. -/
def NumberLiteral.value? (literal : NumberLiteral) : Option JsonNumber :=
  match literal.integer? with
  | some n =>
    if -0x8000000000000000 ≤ n ∧ n < UInt64.size then some (.integer n)
    else literal.double?.map .real
  | none => literal.double?.map .real

/-! ### Readers -/

/-- Why a JSON text could not be read. -/
inductive Misfit where
  /-- A value has the wrong type or is out of range. -/
  | shape
  /-- The text breaks the grammar, or nests too deep. -/
  | grammar
  /-- A member is missing. -/
  | missing
  deriving DecidableEq, Repr

/-- The wording of a misfit. -/
def Misfit.message : Misfit → String
  | .shape => "unexpected value"
  | .grammar => "malformed text"
  | .missing => "missing member"

/-- The number of containers that may be nested. -/
def maxDepth : Nat := 127

/-- Reads a document as an `α`; the number tells how many containers may still be entered. -/
abbrev Reader (α : Type) := Nat → Document → Except Misfit α

namespace Reader

variable {α β : Type}

/-! ### Scalars -/

/-- The misfit of a document where another type is wanted. A string that spells no text and a number
that is too large break the grammar. -/
def misfit : Document → Misfit
  | .broken | .string (.unpaired _) => .grammar
  | .number literal => if literal.value?.isNone then .grammar else .shape
  | _ => .shape

/-- A text. -/
def text : Reader String := fun _ doc =>
  match doc with
  | .string (.text s) => .ok s
  | doc => .error (misfit doc)

/-- A truth value. -/
def bool : Reader Bool := fun _ doc =>
  match doc with
  | .bool b => .ok b
  | doc => .error (misfit doc)

/-- A text that `parse` understands. -/
def parsed (parse : String → Option α) : Reader α := fun depth doc =>
  match text depth doc with
  | .error e => .error e
  | .ok s => (parse s).elim (.error .shape) .ok

/-- An integer from `low` to `high`. -/
def integer (low high : Int) : Reader Int := fun _ doc =>
  match doc with
  | .number literal =>
    match literal.integer? with
    | some n => if low ≤ n ∧ n ≤ high then .ok n else .error (misfit doc)
    | none => .error (misfit doc)
  | doc => .error (misfit doc)

/-- An integer of 64 bits with a sign. -/
def int64 : Reader Int := integer (-0x8000000000000000) 0x7fffffffffffffff

/-- A natural number below a bound. -/
def natural (bound : Nat) : Reader Nat := fun depth doc =>
  (integer 0 (bound - 1) depth doc).map Int.toNat

/-- A natural number of 32 bits. -/
def uint32 : Reader Nat := natural UInt32.size

/-- A byte. -/
def byte : Reader UInt8 := fun depth doc => (natural UInt8.size depth doc).map UInt8.ofNat

/-- A value that may be null. -/
def option (reader : Reader α) : Reader (Option α) := fun depth doc =>
  match doc with
  | .null => .ok none
  | doc => (reader depth doc).map some

/-- A value that was not opened. -/
def unopened : Reader String := fun _ doc =>
  match doc with
  | .raw s => .ok s
  | doc => .error (misfit doc)

/-! ### Containers -/

/-- The items of an array, each read. -/
def items (reader : Reader α) (depth : Nat) : List Document → Except Misfit (List α)
  | [] => .ok []
  | item :: rest =>
    match reader depth item with
    | .error e => .error e
    | .ok a => (items reader depth rest).map (a :: ·)

/-- An array. -/
def list (reader : Reader α) : Reader (List α) := fun depth doc =>
  match doc, depth with
  | .array docs, depth + 1 => items reader depth docs
  | .array _, 0 => .error .grammar
  | doc, _ => .error (misfit doc)

/-- The members of an object, each read. -/
def entries (reader : Reader α) (depth : Nat) :
    List (Option String × Document) → Except Misfit (List (String × α))
  | [] => .ok []
  | (none, _) :: _ => .error .grammar
  | (some key, doc) :: rest =>
    match reader depth doc with
    | .error e => .error e
    | .ok a => (entries reader depth rest).map ((key, a) :: ·)

/-- An object with arbitrary keys, as a map in key order; of a repeated key the last value
counts. -/
def table (reader : Reader α) : Reader (OrderedMap String α) := fun depth doc =>
  match doc, depth with
  | .object members, depth + 1 => (entries reader depth members).map OrderedMap.ofList
  | .object _, 0 => .error .grammar
  | doc, _ => .error (misfit doc)

/-! ### Values -/

mutual

/-- Any value. -/
def json (depth : Nat) (doc : Document) : Except Misfit Json :=
  match doc, depth with
  | .null, _ => .ok .null
  | .bool b, _ => .ok (.bool b)
  | .number literal, _ => literal.value?.elim (.error .grammar) fun n => .ok (.number n)
  | .string (.text s), _ => .ok (.string s)
  | .array docs, depth + 1 => (jsonItems depth docs).map .array
  | .object members, depth + 1 =>
    (jsonMembers depth members).map fun members => .object (OrderedMap.ofList members)
  | _, _ => .error .grammar

/-- The items of an array. -/
def jsonItems (depth : Nat) (docs : List Document) : Except Misfit (List Json) :=
  match docs with
  | [] => .ok []
  | doc :: docs =>
    match json depth doc with
    | .error e => .error e
    | .ok value => (jsonItems depth docs).map (value :: ·)

/-- The members of an object. -/
def jsonMembers (depth : Nat) (members : List (Option String × Document)) :
    Except Misfit (List (String × Json)) :=
  match members with
  | [] => .ok []
  | (none, _) :: _ => .error .grammar
  | (some key, doc) :: members =>
    match json depth doc with
    | .error e => .error e
    | .ok value => (jsonMembers depth members).map ((key, value) :: ·)

end

/-- Any object, as its members in key order. -/
def object : Reader Json.Members := table json

/-! ### Whole texts -/

/-- Reads a text that was taken apart: what follows its value breaks the grammar. -/
def finish (reader : Reader α) (parsed : Document × Bool) : Except Misfit α :=
  match reader maxDepth parsed.1 with
  | .error e => .error e
  | .ok a => if parsed.2 then .ok a else .error .grammar

/-- Reads a whole text. -/
def run (reader : Reader α) (text : String) : Except Misfit α :=
  reader.finish (Document.parse text)

/-- Reads a whole text, opening only so many levels of containers. -/
def runTo (levels : Nat) (reader : Reader α) (text : String) : Except Misfit α :=
  reader.finish (Document.parseTo levels text)

end Reader

namespace Json

/-- Reads a text as a JSON value. -/
def parse? (text : String) : Option Json := (Reader.run Reader.json text).toOption

end Json

end PosvGateway
