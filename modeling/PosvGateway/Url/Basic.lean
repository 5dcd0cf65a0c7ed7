import PosvGateway.Url.Host

/-!
# URLs

`Url.parse` reads a URL that stands on its own and `Url.text` writes it in its normal form: the
scheme in lower case, the host normalised, the number behind it left out where it is the scheme's
own, the path without dot segments, and everything else with the escapes it needs.
-/

namespace PosvGateway

namespace Url

/-- The part of a URL that names a server. -/
structure Authority where
  /-- The user's name and, after a colon, the password. -/
  credentials : String := ""
  host : Host
  /-- The number behind the host. -/
  portNumber : Option Nat := none
  deriving DecidableEq

/-- The path of a URL. -/
inductive Path where
  /-- The segments, each with a slash in front. -/
  | segments (list : List String)
  /-- A text without structure. -/
  | opaqueText (text : String)
  deriving DecidableEq

end Url

/-- A URL. -/
structure Url where
  scheme : String
  authority : Option Url.Authority
  path : Url.Path
  query : Option String
  fragment : Option String
  deriving DecidableEq

namespace Url

/-! ### Writing -/

/-- The server part as text. -/
def Authority.text (a : Authority) : String :=
  (if a.credentials.isEmpty then "" else a.credentials ++ "@") ++ a.host.text
    ++ (a.portNumber.elim "" fun n => ":" ++ Numeral.decimal n)

/-- The path as text. -/
def Path.text : Path → String
  | .segments list => String.join (list.map ("/" ++ ·))
  | .opaqueText text => text

/-- A path that would be taken for a server part. -/
def Path.isAmbiguous : Path → Bool
  | .segments ("" :: _ :: _) => true
  | _ => false

/-- The text of a URL. -/
def text (u : Url) : String :=
  u.scheme ++ ":"
    ++ (match u.authority with
        | some a => "//" ++ a.text
        | none => if u.path.isAmbiguous then "/." else "")
    ++ u.path.text ++ (u.query.elim "" ("?" ++ ·)) ++ (u.fragment.elim "" ("#" ++ ·))

/-! ### Schemes -/

/-- The numbers that belong to the well-known schemes; a file has none. -/
def defaultPort? : String → Option (Option Nat)
  | "http" | "ws" => some (some 80)
  | "https" | "wss" => some (some 443)
  | "ftp" => some (some 21)
  | "file" => some none
  | _ => none

/-- The scheme is one of the well-known ones. -/
def isSpecial (scheme : String) : Bool := (defaultPort? scheme).isSome

/-- Ends the server part, and separates the segments of a path. -/
def isSlash (special : Bool) (c : Char) : Bool := c = '/' || (special && c = '\\')

/-- The scheme of a text, and what follows its colon. -/
def readScheme (text : List Char) : Except UrlError (String × List Char) :=
  match Text.cutAt? (· = ':') text with
  | some (c :: scheme, rest) =>
    if c.isAlpha && scheme.all fun c => c.isAlphanum || "+-.".contains c then
      .ok (String.ofList ((c :: scheme).map Char.toLower), rest)
    else .error .relativeWithoutBase
  | _ => .error .relativeWithoutBase

/-! ### The server part -/

/-- Cuts a text at its last at sign. -/
def cutCredentials (text : List Char) : Option (List Char) × List Char :=
  match Text.cutAt? (· = '@') text.reverse with
  | some (host, credentials) => (some credentials.reverse, host.reverse)
  | none => (none, text)

/-- The user's name and password; an empty password is left out. -/
def readCredentials (text : List Char) : String :=
  let escaped (part : List Char) : String := String.ofList (escape isCredentialEscape part)
  match Text.cutAt? (· = ':') text with
  | some (name, []) => escaped name
  | some (name, password) => escaped name ++ ":" ++ escaped password
  | none => escaped text

/-- Cuts a text at its first colon outside of square brackets. -/
def cutNumber : Bool → List Char → List Char × Option (List Char)
  | _, [] => ([], none)
  | inside, c :: text =>
    if c = ':' ∧ !inside then ([], some text)
    else
      let inside := if c = '[' then true else if c = ']' then false else inside
      let (host, number) := cutNumber inside text
      (c :: host, number)

/-- Reads the number behind a host, which is left out where it is the scheme's own. A backslash
behind its digits begins the path, which is returned. -/
def readPortNumber (scheme : String) (text : List Char) :
    Except UrlError (Option Nat × List Char) :=
  let digits := text.takeWhile Char.isDigit
  let rest := text.dropWhile Char.isDigit
  let number := digits.foldl (fun n c => n * 10 + (c.toNat - '0'.toNat)) 0
  if 65535 < number ∨ rest.head?.any (· ≠ '\\') then .error .invalidPort
  else if digits = [] ∨ defaultPort? scheme = some (some number) then .ok (none, rest)
  else .ok (some number, rest)

/-- Reads the server part, and returns the part of the path that it ran into. Credentials that are
empty need a host unless the whole text ends with them. -/
def readAuthority (scheme : String) (text : List Char) (atEnd : Bool) :
    Except UrlError (Authority × List Char) := do
  let (credentials, rest) := cutCredentials text
  if credentials = some [] ∧ rest = [] ∧ !atEnd then throw .emptyHost
  let (host, number) := cutNumber false rest
  if host = [] ∧ (isSpecial scheme ∨ number.isSome) then throw .emptyHost
  let name ← if isSpecial scheme then Host.read host else Host.readOpaque host
  let (portNumber, rest) ← readPortNumber scheme (number.getD [])
  let credentials := credentials.elim "" readCredentials
  if host = [] ∧ credentials ≠ "" then throw .emptyHost
  return ({ credentials, host := name, portNumber }, rest)

/-- This machine, which is not named. -/
def unnamed : Authority := { host := .domain "" }

/-- The server of a file; there is none for this machine. -/
def readFileServer? (text : List Char) : Except UrlError (Option Authority) :=
  if text = [] then .ok none
  else match Host.read text with
  | .ok (.domain "localhost") => .ok none
  | .ok host => .ok (some { host })
  | .error e => .error e

/-! ### The path -/

/-- The segment that stands for the one it is in. -/
def isSingleDot (segment : List Char) : Bool :=
  [".", "%2e"].contains (String.ofList (segment.map Char.toLower))

/-- The segment that stands for the one above. -/
def isDoubleDot (segment : List Char) : Bool :=
  ["..", ".%2e", "%2e.", "%2e%2e"].contains (String.ofList (segment.map Char.toLower))

/-- A letter with a colon or a bar names a drive. -/
def isDrive (segment : List Char) : Bool :=
  match segment with
  | [letter, mark] => letter.isAlpha && (mark = ':' || mark = '|')
  | _ => false

/-- The path cannot be left from this segment towards the one above: it begins with a drive. -/
def isDriveRoot (segment : String) : Bool :=
  isDrive (segment.toList.take 2) && (segment.toList.drop 2).head?.all (· = '\\')

/-- The segments without the last one, unless that is a drive; they are reversed. -/
def parent : List String → List String
  | [] => []
  | last :: front => if isDriveRoot last then last :: front else front

/-- A segment as it is written. The drive at the root of a file's path takes a colon. -/
def writeSegment (isRootOfFile : Bool) (segment : List Char) : String :=
  match segment with
  | [letter, _] =>
    if isRootOfFile && isDrive segment then String.ofList [letter, ':']
    else String.ofList (escape isPathEscape segment)
  | segment => String.ofList (escape isPathEscape segment)

/-- Resolves the dot segments; `done` are the segments so far, last first. -/
def resolve (file : Bool) : List (List Char) → List String → List String
  | [], done => done.reverse
  | segment :: segments, done =>
    let tail := if segments = [] then [""] else []
    if isDoubleDot segment then resolve file segments (tail ++ parent done)
    else if isSingleDot segment then resolve file segments (tail ++ done)
    else resolve file segments (writeSegment (file && done.isEmpty) segment :: done)

/-- The text without a slash in front. -/
def dropSlash (special : Bool) (text : List Char) : List Char :=
  match text with
  | c :: rest => if isSlash special c then rest else text
  | [] => []

/-- Reads a path, with or without its first slash. -/
def readPath (special : Bool) (text : List Char) : Path :=
  .segments (resolve false (Text.split (isSlash special) (dropSlash special text)) [])

/-! ### Files -/

/-- The segments from the first one that is not empty. -/
def dropEmpty : List String → List String
  | "" :: segment :: segments => dropEmpty (segment :: segments)
  | segments => segments

/-- A file of a server: what follows the slash behind the server's name is read as its path. A path
that begins with a drive is one of this machine. -/
def readFile (server : Option Authority) (text : List Char) : Authority × Path :=
  let segments := resolve true (Text.split (isSlash true) text) []
  let onDrive := segments.head?.any fun segment => isDrive segment.toList
  (if onDrive then unnamed else server.getD unnamed, .segments (dropEmpty segments))

/-- Reads what follows the scheme of a file, up to the query. -/
def readFileHierarchy (text : List Char) : Except UrlError (Authority × Path) := do
  match text with
  | a :: b :: rest =>
    if isSlash true a && isSlash true b then
      let (name, path) := rest.span fun c => !isSlash true c
      if isDrive name then return readFile none rest
      else match ← readFileServer? name with
      | none => return readFile none path
      | some server => return readFile (some server) (dropSlash true path)
    else return readFile none (dropSlash true text)
  | text => return readFile none (dropSlash true text)

/-! ### The whole -/

/-- Reads what follows the scheme, up to the query; `atEnd` tells that nothing is behind it. -/
def readHierarchy (scheme : String) (text : List Char) (atEnd : Bool) :
    Except UrlError (Option Authority × Path) := do
  let special := isSpecial scheme
  let server (text : List Char) : List Char × List Char := text.span fun c => !isSlash special c
  if scheme = "file" then
    let (authority, path) ← readFileHierarchy text
    return (some authority, path)
  else if special then
    let (name, path) := server (text.dropWhile (isSlash true))
    let (authority, _) ← readAuthority scheme name (atEnd && path.isEmpty)
    return (some authority, readPath true path)
  else match text with
  | '/' :: '/' :: text =>
    let (name, path) := server text
    let (authority, rest) ← readAuthority scheme name (atEnd && path.isEmpty)
    let path := rest ++ path
    return (some authority, if path = [] then .segments [] else readPath false path)
  | '/' :: _ => return (none, readPath false text)
  | text => return (none, .opaqueText (String.ofList (escape isControl text)))

/-- The text between the blanks and control characters around it, without tabs and line breaks. -/
def trim (text : List Char) : List Char :=
  let isBlank (c : Char) : Bool := c.toNat ≤ 0x20
  let inner := ((text.dropWhile isBlank).reverse.dropWhile isBlank).reverse
  inner.filter fun c => !(c = '\t' || c = '\n' || c = '\r')

/-- Cuts a text at the first `mark`, if there is one. -/
def cutOff (mark : Char) (text : List Char) : List Char × Option (List Char) :=
  match Text.cutAt? (· = mark) text with
  | some (front, rest) => (front, some rest)
  | none => (text, none)

/-- Reads a URL. -/
def parse (text : String) : Except UrlError Url := do
  let (scheme, text) ← readScheme (trim text.toList)
  let (rest, fragment) := cutOff '#' text
  let (rest, query) := cutOff '?' rest
  let (authority, path) ← readHierarchy scheme rest (rest.length == text.length)
  let escaped (needed : Char → Bool) (part : List Char) : String :=
    String.ofList (escape needed part)
  return { scheme, authority, path, query := query.map (escaped (isQueryEscape (isSpecial scheme))),
           fragment := fragment.map (escaped isFragmentEscape) }

end Url

end PosvGateway
