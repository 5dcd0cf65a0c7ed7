import PosvGateway.Idna.Mapping
import PosvGateway.Idna.Punycode
import PosvGateway.Unicode.Bidi
import PosvGateway.Unicode.Composition
import PosvGateway.Unicode.Joining

/-!
# Labels of domain names

A label is the part of a domain name between two points. One that is not ASCII is written after the
mark `xn--` in Punycode. `Label.read?` reads a label that is mapped and composed, written so or not;
`Label.isDirected` is the rule for names with letters that are written from right to left.
-/

namespace PosvGateway.Idna

open Unicode

/-- A label. -/
structure Label where
  /-- The characters it spells. -/
  content : List Char
  /-- How it is written in ASCII. -/
  ascii : List Char
  deriving DecidableEq, Repr

namespace Label

/-- The mark in front of a label in Punycode. -/
def mark : List Char := ['x', 'n', '-', '-']

/-- The greatest number of characters behind the mark that is read. -/
def decodeLimit : Nat := 2000

/-- The greatest number of characters that is written in Punycode. -/
def encodeLimit : Nat := 1000

/-- The text is ASCII. -/
def isAscii (text : List Char) : Bool := text.all fun c => decide (c.toNat < 0x80)

/-! ### Joiners -/

/-- The first letter that is not transparent joins in one of the ways. -/
def joins (ways : List JoiningType) : List Char → Bool
  | [] => false
  | c :: text =>
    if ways.contains (joiningType c) then true
    else if joiningType c = .transparent then joins ways text
    else false

/-- Every joiner is behind a virama, or is a non-joiner that keeps two letters apart; `front` is the
text in front, the last character first. -/
def joinersFit (front : List Char) : List Char → Bool
  | [] => true
  | c :: text =>
    let fits : Bool :=
      match front with
      | [] => false
      | d :: _ =>
        isVirama d
          || (c = '\u200c' && joins [.left, .dual] front && joins [.right, .dual] text)
    (!(c = '\u200c' || c = '\u200d') || fits) && joinersFit (c :: front) text

/-! ### Direction -/

/-- The character makes a name one of both directions. -/
def turns (c : Char) : Bool :=
  [.right, .arabicLetter, .arabicNumber].contains (bidiClass c)

/-- The classes that a label in either direction may hold. -/
def sharedClasses : List BidiClass :=
  [.europeanNumber, .europeanSeparator, .europeanTerminator, .commonSeparator, .nonspacingMark,
   .boundary, .neutral]

/-- A label of these classes is one that is written from left to right; `last` is the last of them
that is no mark. -/
def isLeftToRight (classes : List BidiClass) (last : BidiClass) : Bool :=
  classes.all (fun k => k = .left || sharedClasses.contains k)
    && [.left, .europeanNumber].contains last

/-- A label of these classes is one that is written from right to left, with numbers of one
kind. -/
def isRightToLeft (classes : List BidiClass) (last : BidiClass) : Bool :=
  let letters : List BidiClass := [.right, .arabicLetter]
  classes.all (fun k => letters.contains k || k = .arabicNumber || sharedClasses.contains k)
    && (letters.contains last || [.europeanNumber, .arabicNumber].contains last)
    && !(classes.contains .europeanNumber && classes.contains .arabicNumber)

/-- The label may be part of a name of both directions: it begins with a letter, ends with a letter
or a number, and all between is of its direction. -/
def isDirected (label : Label) : Bool :=
  match label.content.map bidiClass with
  | [] => true
  | first :: rest =>
    let last := (rest.reverse.find? (· ≠ .nonspacingMark)).getD first
    if first = .left then isLeftToRight (first :: rest) last
    else if first = .right ∨ first = .arabicLetter then isRightToLeft (first :: rest) last
    else false

/-! ### Reading -/

/-- A label of these characters may be in a name: it begins with no combining mark, and its joiners
are where they are needed. -/
def isWellFormed (content : List Char) : Bool :=
  !(content.head?.any isMark) && joinersFit [] content

/-- Reads what is behind the mark. It must spell a label in the form that a label has after it was
mapped and composed. -/
def readPunycode? (text : List Char) : Option Label := do
  guard (isAscii text && decide (text.length ≤ decodeLimit) && text.getLast?.any (· ≠ '-'))
  let content ← Punycode.decode? text
  guard (content.all fun c => map? c = some [c])
  guard (normalize content = content && !mark.isPrefixOf content && isWellFormed content
    && decide (content.length ≤ encodeLimit))
  return ⟨content, mark ++ text⟩

/-- Reads a label without the mark. -/
def readPlain? (content : List Char) : Option Label :=
  if isAscii content then some ⟨content, content⟩
  else if isWellFormed content && decide (content.length ≤ encodeLimit) then
    some ⟨content, mark ++ Punycode.encode content⟩
  else none

/-- Reads a label. -/
def read? (text : List Char) : Option Label :=
  if mark.isPrefixOf text then readPunycode? (text.drop mark.length) else readPlain? text

end Label

end PosvGateway.Idna
