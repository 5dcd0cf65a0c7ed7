import PosvGateway.Text.Split

/-!
# Media types

The content type of a request is a type and a subtype with a slash between them, and parameters
after semicolons. `MediaType.isJson` accepts `application/json`, and any subtype of `application`
that has the suffix `json` after a plus sign.
-/

namespace PosvGateway

/-- A media type without its parameters, in lower case. -/
structure MediaType where
  type : String
  subtype : String
  /-- What follows the last plus sign of the subtype. -/
  suffix : Option String
  deriving DecidableEq, Repr

namespace MediaType

/-- A character of a token. -/
def isTokenChar (c : Char) : Bool := c.isAlphanum || "!#$%&'*+-.^_`|~".contains c

/-- A character within quotes; all others are ASCII too. A backslash is one like any other. -/
def isQuotedChar (c : Char) : Bool := 0x20 ≤ c.toNat && c.toNat < 0x7f

/-- What follows the closing quote of a text in quotes. The `first` character is never the closing
quote. -/
def afterQuoted? : (first : Bool) → List Char → Option (List Char)
  | _, [] => none
  | first, c :: text =>
    if c = '"' && !first then some text
    else if isQuotedChar c then afterQuoted? false text
    else none

/-- What follows the value of a parameter and the semicolon after it. -/
def afterValue? (text : List Char) : Option (List Char) :=
  match text with
  | '"' :: text =>
    match afterQuoted? true text with
    | none => none
    | some text =>
      match text.dropWhile (· = ' ') with
      | [] => some []
      | ';' :: text => some text
      | _ => none
  | text =>
    match text.span isTokenChar with
    | (_, []) => some []
    | (_ :: _, ';' :: text) => some text
    | _ => none

/-- What follows a semicolon is a list of parameters, which may be empty; blanks may stand in front
of each. The fuel is more than the number of characters. -/
def areParameters : (fuel : Nat) → List Char → Bool
  | 0, _ => false
  | fuel + 1, text =>
    match text.dropWhile (· = ' ') with
    | [] => true
    | text =>
      match text.span isTokenChar with
      | (_ :: _, '=' :: text) => (afterValue? text).any (areParameters fuel)
      | _ => false

/-- The suffix of a subtype: what follows its last plus sign, if that is not its first
character. -/
def cutSuffix (subtype : List Char) : List Char × Option (List Char) :=
  match Text.cutAt? (· = '+') (subtype.drop 1).reverse with
  | some (suffix, front) => (subtype.take 1 ++ front.reverse, some suffix.reverse)
  | none => (subtype, none)

/-- Reads a media type. -/
def read? (text : String) : Option MediaType :=
  let lower (cs : List Char) : String := String.ofList (cs.map Char.toLower)
  match text.toList.span isTokenChar with
  | (c :: type, '/' :: rest) =>
    let (subtype, parameters) := rest.span isTokenChar
    let (front, suffix) := cutSuffix subtype
    let answer : MediaType := ⟨lower (c :: type), lower front, suffix.map lower⟩
    match subtype, parameters with
    | _, [] => some answer
    | _ :: _, ';' :: parameters =>
      if areParameters (parameters.length + 1) parameters then some answer else none
    | _, _ => none
  | _ => none

/-- The media type is one of JSON. -/
def isJson (m : MediaType) : Bool :=
  m.type = "application" && (m.subtype = "json" || m.suffix = some "json")

end MediaType

end PosvGateway
