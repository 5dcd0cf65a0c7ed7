import PosvGateway.Idna.Label
import PosvGateway.Text.Split

/-!
# Domain names in ASCII

`toAscii?` reads a domain name in any script and writes it in ASCII: its characters are mapped and
composed, and each of its labels is written in Punycode if it must be.
-/

namespace PosvGateway.Idna

/-- The labels of a domain name; in a name with letters from right to left all must keep to the
rule of direction. -/
def labels? (name : List Char) : Option (List Label) := do
  let mapped ← name.mapM map?
  let labels ← (Text.split (· = '.') (Unicode.normalize mapped.flatten)).mapM Label.read?
  guard (labels.all Label.isDirected || !(labels.any fun l => l.content.any Label.turns))
  return labels

/-- The ASCII form of a domain name, whose labels must not spell a forbidden character. -/
def toAscii? (forbidden : Char → Bool) (name : List Char) : Option (List Char) := do
  let labels ← labels? name
  guard (!(labels.any fun l => l.content.any forbidden))
  return List.intercalate ['.'] (labels.map Label.ascii)

end PosvGateway.Idna
