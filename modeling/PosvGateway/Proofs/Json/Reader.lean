import PosvGateway.Json.Record
import PosvGateway.Proofs.Outcome

/-!
# Readers put together

What a reader makes of a document may be put into another form afterwards or member by member:
`Reader.map` goes through readers and records alike.

* `Reader.table_eq_map` : a table is the map of the members of an object, in the order of the text
  (`Reader.members`);
* `Fields.record_optional_map` : the same for the one member of a record.
-/

namespace PosvGateway

variable {α β : Type}

namespace Reader

/-- Reads a value, and puts it into another form. -/
def map (f : α → β) (reader : Reader α) : Reader β := fun depth doc => (reader depth doc).map f

/-- An object with arbitrary keys, as its members in the order of the text. -/
def members (reader : Reader α) : Reader (List (String × α)) := fun depth doc =>
  match doc, depth with
  | .object members, depth + 1 => entries reader depth members
  | .object _, 0 => .error .grammar
  | doc, _ => .error (misfit doc)

theorem table_eq_map (reader : Reader α) :
    table reader = (members reader).map OrderedMap.ofList := by
  funext depth doc
  cases doc with
  | object members => cases depth <;> rfl
  | _ => rfl

theorem entries_map (f : α → β) (reader : Reader α) (depth : Nat)
    (members : List (Option String × Document)) :
    entries (reader.map f) depth members =
      (entries reader depth members).map (List.map fun entry => (entry.1, f entry.2)) := by
  induction members with
  | nil => rfl
  | cons member members ih =>
    obtain ⟨key, doc⟩ := member
    cases key with
    | none => rfl
    | some key =>
      rw [entries, entries, map, ih]
      cases reader depth doc with
      | error e => rfl
      | ok a => cases entries reader depth members <;> rfl

theorem members_map (f : α → β) (reader : Reader α) :
    members (reader.map f) = (members reader).map (List.map fun entry => (entry.1, f entry.2)) := by
  funext depth doc
  rw [map, members.eq_def, members.eq_def]
  split
  · exact entries_map f reader _ _
  · rfl
  · rfl

theorem map_map {γ : Type} (g : β → γ) (f : α → β) (reader : Reader α) :
    (reader.map f).map g = reader.map (g ∘ f) := by
  funext depth doc
  rw [map, map, map]
  cases reader depth doc <;> rfl

theorem option_map (f : α → β) (reader : Reader α) :
    option (reader.map f) = (option reader).map (Option.map f) := by
  funext depth doc
  rw [map, option.eq_def, option.eq_def]
  split
  · rfl
  · rw [map]
    cases reader depth _ <;> rfl

theorem finish_eq_ok {reader : Reader α} {parsed : Document × Bool} {a : α} :
    reader.finish parsed = .ok a ↔ reader maxDepth parsed.1 = .ok a ∧ parsed.2 = true := by
  rw [finish]
  cases reader maxDepth parsed.1 <;> cases parsed.2 <;> simp

theorem finish_map (f : α → β) (reader : Reader α) (parsed : Document × Bool) :
    (reader.map f).finish parsed = (reader.finish parsed).map f := by
  rw [finish, finish, map]
  cases reader maxDepth parsed.1 with
  | error e => rfl
  | ok a =>
    simp only [Except.map]
    split <;> rfl

end Reader

namespace Fields

theorem readAt_map (f : α → β) (reader : Reader α) (depth : Nat) (doc : Document) (place : Nat) :
    readAt (reader.map f) depth doc place = (readAt reader depth doc place).map f := by
  rw [readAt, readAt, Reader.map]
  cases reader depth doc <;> rfl

theorem read_member_map (f : α → β) (name : String) (absent : Option α) (reader : Reader α)
    (depth : Nat) (source : RecordSource) :
    (member name (absent.map f) (reader.map f)).read depth source =
      (((member name absent reader).read depth source).1.map f,
        ((member name absent reader).read depth source).2) := by
  have habsence : absence (absent.map f) = (absence absent).map f := by cases absent <;> rfl
  rw [member, member]
  cases source with
  | items place docs =>
    cases docs with
    | nil => exact congrArg (·, _) habsence
    | cons doc docs => exact congrArg (·, _) (readAt_map f reader depth doc place)
  | members members =>
    simp only
    split
    · exact congrArg (·, _) habsence
    · exact congrArg (·, _) (readAt_map f reader depth _ _)
    · rw [readAt_map]
      cases readAt reader depth _ _ <;> rfl

theorem settle_map (f : α → β) (source : RecordSource) (answer : Except RecordMisfit α) :
    settle source (answer.map f) = (settle source answer).map f := by
  rw [settle.eq_def, settle.eq_def]
  cases answer <;> cases restMisfit? source <;> rfl

theorem record_optional_map (f : α → β) (name : String) (reader : Reader α) :
    (optional name (reader.map f)).record = (optional name reader).record.map (Option.map f) := by
  have hread := read_member_map (Option.map f) name (some none) reader.option
  funext depth doc
  rw [Reader.map, record.eq_def, record.eq_def, optional, optional, Reader.option_map]
  rw [Option.map_some, Option.map_none] at hread
  split
  · simp only [hread]
    exact settle_map _ _ _
  · simp only [hread]
    exact settle_map _ _ _
  · rfl
  · rfl
  · rfl

end Fields

end PosvGateway
