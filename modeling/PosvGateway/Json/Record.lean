import PosvGateway.Json.Reader

/-!
# Records in JSON

A record has members of fixed names and types. `Fields α` describes them in their declared order,
with `Fields.required`, `Fields.defaulted` and `Fields.optional`.

* `Fields.record` reads a record: from an object, in any order, with unknown members skipped and no
  known member twice, or from an array in the declared order;
* `Fields.keyedRecord` refuses the array.
-/

namespace PosvGateway

/-- What is left to read of a record: the members of an object, or the items of an array from the
one at a place on. -/
inductive RecordSource where
  | members (members : List (Option String × Document))
  | items (place : Nat) (items : List Document)

/-- A misfit of a record at the place of a member or an item. -/
structure RecordMisfit where
  misfit : Misfit
  place : Nat

/-- Of two misfits the earlier one; a missing member comes last. -/
def RecordMisfit.first (a b : RecordMisfit) : RecordMisfit :=
  if a.misfit = .missing then b
  else if b.misfit = .missing then a
  else if b.place < a.place then b else a

/-- The members of a record in their declared order. -/
structure Fields (α : Type) where
  /-- Reads them from a source and leaves what was not read. -/
  read : Nat → RecordSource → Except RecordMisfit α × RecordSource

namespace Fields

variable {α β : Type}

/-- Applies what was read to what was read. -/
def both : Except RecordMisfit (α → β) → Except RecordMisfit α → Except RecordMisfit β
  | .ok f, .ok a => .ok (f a)
  | .ok _, .error e => .error e
  | .error e, .ok _ => .error e
  | .error e, .error e' => .error (e.first e')

instance : Applicative Fields where
  pure a := ⟨fun _ source => (.ok a, source)⟩
  seq f a := ⟨fun depth source =>
    let (f, source) := f.read depth source
    let (a, source) := (a ()).read depth source
    (both f a, source)⟩

/-- The values of a member, with their places. -/
def valuesOf (name : String) (members : List (Option String × Document)) :
    List (Document × Nat) :=
  members.zipIdx.filterMap fun (member, place) =>
    if member.1 = some name then some (member.2, place) else none

/-- Reads the value at a place. -/
def readAt (reader : Reader α) (depth : Nat) (doc : Document) (place : Nat) :
    Except RecordMisfit α :=
  match reader depth doc with
  | .ok a => .ok a
  | .error misfit => .error ⟨misfit, place⟩

/-- A member that is not there. -/
def absence (absent : Option α) : Except RecordMisfit α :=
  absent.elim (.error ⟨.missing, 0⟩) .ok

/-- A member that stands for `absent` where it is missing; without that it must be there. It may
not be there twice. -/
def member (name : String) (absent : Option α) (reader : Reader α) : Fields α :=
  ⟨fun depth source =>
    match source with
    | .members members =>
      match valuesOf name members with
      | [] => (absence absent, source)
      | [(doc, place)] => (readAt reader depth doc place, source)
      | (doc, place) :: (_, again) :: _ =>
        (readAt reader depth doc place >>= fun _ => .error ⟨.shape, again⟩, source)
    | .items _ [] => (absence absent, source)
    | .items place (doc :: docs) => (readAt reader depth doc place, .items (place + 1) docs)⟩

/-- A member that must be there. -/
def required (name : String) (reader : Reader α) : Fields α := member name none reader

/-- A member that stands for a default where it is missing. -/
def defaulted (name : String) (default : α) (reader : Reader α) : Fields α :=
  member name (some default) reader

/-- A member that may be missing or null. -/
def optional (name : String) (reader : Reader α) : Fields (Option α) :=
  member name (some none) (Reader.option reader)

/-- What is wrong with the rest of a record: an item too many, a break or a key that spells
nothing. -/
def restMisfit? : RecordSource → Option RecordMisfit
  | .members members =>
    (members.findIdx? fun member => member.1.isNone || member.2.isBroken).map (⟨.grammar, ·⟩)
  | .items _ [] => none
  | .items place (_ :: _) => some ⟨.grammar, place⟩

/-- The answer of a record, of which a rest is left. A missing member is a misfit of its shape. -/
def settle (source : RecordSource) (answer : Except RecordMisfit α) : Except Misfit α :=
  let misfit (e : RecordMisfit) : Misfit := if e.misfit = .missing then .shape else e.misfit
  match answer, restMisfit? source with
  | .ok a, none => .ok a
  | .ok _, some e => .error (misfit e)
  | .error e, none => .error (misfit e)
  | .error e, some e' => .error (misfit (e.first e'))

/-- Reads a record. -/
def record (fields : Fields α) : Reader α := fun depth doc =>
  match doc, depth with
  | .object members, depth + 1 =>
    let (answer, source) := fields.read depth (.members members)
    settle source answer
  | .array docs, depth + 1 =>
    let (answer, source) := fields.read depth (.items 0 docs)
    settle source answer
  | .object _, 0 | .array _, 0 => .error .grammar
  | doc, _ => .error (Reader.misfit doc)

/-- Reads a record that must be an object. -/
def keyedRecord (fields : Fields α) : Reader α := fun depth doc =>
  match doc with
  | .array _ => .error .shape
  | doc => fields.record depth doc

end Fields

end PosvGateway
