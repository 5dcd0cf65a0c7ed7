/-!
# Splitting text

`split` cuts a text at every separator, and `cutAt?` at the first one.
-/

namespace PosvGateway.Text

/-- The parts of a text between the characters that separate; there is always one. -/
def split (separates : Char → Bool) : List Char → List (List Char)
  | [] => [[]]
  | c :: text =>
    if separates c then [] :: split separates text
    else match split separates text with
    | part :: parts => (c :: part) :: parts
    | [] => [[c]]

/-- The text in front of the first character that separates, and what follows that. -/
def cutAt? (separates : Char → Bool) : List Char → Option (List Char × List Char)
  | [] => none
  | c :: text =>
    if separates c then some ([], text)
    else (cutAt? separates text).map fun (front, rest) => (c :: front, rest)

end PosvGateway.Text
