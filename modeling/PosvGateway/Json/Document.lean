import PosvGateway.Json.Literal

/-!
# JSON texts

A `Document` is a JSON text taken apart but not yet understood: members keep the order and the
repetitions of the text, numbers their spelling. A text that breaks the grammar becomes a document
that ends in `broken` where it breaks, so that a reader going through it in order meets a misfit
and the break in the order of the text.

* `Document.parse` takes a whole text apart;
* `Document.parseTo levels` opens only so many levels of containers and keeps what lies deeper as
  raw text.
-/

namespace PosvGateway

/-- A JSON text taken apart. -/
inductive Document where
  | null
  | bool (b : Bool)
  | number (literal : NumberLiteral)
  | string (literal : StringLiteral)
  | array (items : List Document)
  /-- The members in the order of the text; a key may spell no text. -/
  | object (members : List (Option String × Document))
  /-- A value that was not opened. -/
  | raw (text : String)
  /-- The text breaks the grammar here. -/
  | broken
  deriving Repr, Inhabited

namespace Document

/-! ### Breaks -/

mutual

/-- The document ends in a break of the grammar. -/
def isBroken : Document → Bool
  | .array items => anyBroken items
  | .object members => anyBrokenMember members
  | .broken => true
  | _ => false

/-- One of the documents ends in a break. -/
def anyBroken : List Document → Bool
  | [] => false
  | item :: items => isBroken item || anyBroken items

/-- The value of one of the members ends in a break. -/
def anyBrokenMember : List (Option String × Document) → Bool
  | [] => false
  | (_, value) :: members => isBroken value || anyBrokenMember members

end

/-! ### Values -/

/-- A value at the start of a text and the text behind it, which is missing where the value is
broken. -/
abbrev Scan (α : Type) := α × Option (List Char)

/-- A scalar value at the start of a text. -/
def scanScalar (text : List Char) : Scan Document :=
  match text with
  | '"' :: text =>
    match scanString? (some []) text with
    | some (literal, rest) => (.string literal, some rest)
    | none => (.broken, none)
  | '-' :: text =>
    match scanNumber? true text with
    | some (literal, rest) => (.number literal, some rest)
    | none => (.broken, none)
  | 'n' :: text =>
    match expect? ['u', 'l', 'l'] text with
    | some rest => (.null, some rest)
    | none => (.broken, none)
  | 't' :: text =>
    match expect? ['r', 'u', 'e'] text with
    | some rest => (.bool true, some rest)
    | none => (.broken, none)
  | 'f' :: text =>
    match expect? ['a', 'l', 's', 'e'] text with
    | some rest => (.bool false, some rest)
    | none => (.broken, none)
  | text =>
    match scanNumber? false text with
    | some (literal, rest) => (.number literal, some rest)
    | none => (.broken, none)

/-- A key, with the colon behind it. -/
def scanKey (text : List Char) : Option (Option String) × Option (List Char) :=
  match text with
  | '"' :: text =>
    match scanString? (some []) text with
    | some (key, rest) =>
      match skipBlanks rest with
      | ':' :: rest => (some key.text?, some (skipBlanks rest))
      | _ => (some key.text?, none)
    | none => (none, none)
  | _ => (none, none)

mutual

/-- A value at the start of a text without leading blanks. Containers are opened while `levels`
is not zero; at zero the value is skipped and kept as text. The first argument bounds the steps. -/
def scanValue : Nat → Nat → List Char → Scan Document
  | 0, _, _ => (.broken, none)
  | steps + 1, 0, text =>
    match scanOpened steps text.length text with
    | (_, some rest) => (.raw (String.ofList (text.take (text.length - rest.length))), some rest)
    | (_, none) => (.broken, none)
  | steps + 1, levels + 1, text => scanOpened steps (levels + 1) text

/-- A value at the start of a text, opened. -/
def scanOpened : Nat → Nat → List Char → Scan Document
  | 0, _, _ => (.broken, none)
  | steps + 1, levels, text =>
    match text with
    | '[' :: text =>
      match skipBlanks text with
      | ']' :: rest => (.array [], some rest)
      | text =>
        let (items, rest) := scanItems steps (levels - 1) text
        (.array items, rest)
    | '\x7b' :: text =>
      match skipBlanks text with
      | '\x7d' :: rest => (.object [], some rest)
      | text =>
        let (members, rest) := scanMembers steps (levels - 1) text
        (.object members, rest)
    | text => scanScalar text

/-- The items of an array from one of them on. -/
def scanItems : Nat → Nat → List Char → Scan (List Document)
  | 0, _, _ => ([.broken], none)
  | steps + 1, levels, text =>
    match scanValue steps levels text with
    | (item, none) => ([item], none)
    | (item, some rest) =>
      match skipBlanks rest with
      | ',' :: rest =>
        let (items, rest) := scanItems steps levels (skipBlanks rest)
        (item :: items, rest)
      | ']' :: rest => ([item], some rest)
      | _ => ([item, .broken], none)

/-- The members of an object from one of them on. -/
def scanMembers : Nat → Nat → List Char → Scan (List (Option String × Document))
  | 0, _, _ => ([(none, .broken)], none)
  | steps + 1, levels, text =>
    match scanKey text with
    | (none, _) => ([(none, .broken)], none)
    | (some key, none) => ([(key, .broken)], none)
    | (some key, some text) =>
      match scanValue steps levels text with
      | (value, none) => ([(key, value)], none)
      | (value, some rest) =>
        match skipBlanks rest with
        | ',' :: rest =>
          let (members, rest) := scanMembers steps levels (skipBlanks rest)
          ((key, value) :: members, rest)
        | '\x7d' :: rest => ([(key, value)], some rest)
        | _ => ([(key, value), (none, .broken)], none)

end

/-- Takes a text apart down to `levels` levels of containers. The second component tells whether
the text ends where its value does. -/
def parseTo (levels : Nat) (text : String) : Document × Bool :=
  let chars := skipBlanks text.toList
  match scanValue (3 * chars.length + 4) levels chars with
  | (document, some rest) => (document, (skipBlanks rest).isEmpty)
  | (document, none) => (document, false)

/-- Takes a text apart. -/
def parse (text : String) : Document × Bool := parseTo (text.length + 1) text

end Document

end PosvGateway
