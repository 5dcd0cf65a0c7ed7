import PosvGateway.Json.Record
import PosvGateway.Proofs.Json.Spelling

/-!
# Records are read from objects

A record is read from the document of an object member by member, in whatever order the object
lists them.

* `Json.mem_of_lookup`, `Json.lookup_of_mem` : what is found under a key of an object;
* `Json.TellsOptional` : what is told of a value that may be missing;
* `Fields.Reads` : what fields read from an object, which they leave as it is;
* `Fields.reads_member`, `Fields.reads_absent`, `Fields.reads_seq` : the parts of a record;
* `Fields.record_of_reads` : **a record is what its fields read**.
-/

namespace PosvGateway

namespace Json

/-! ### Members of an object -/

variable {members : List (String × Json)} {key : String} {value : Json}

theorem mem_of_lookup (h : members.lookup key = some value) : (key, value) ∈ members := by
  obtain ⟨front, back, rfl, -⟩ := List.lookup_eq_some_iff.mp h
  exact List.mem_append_right _ List.mem_cons_self

theorem lookup_of_mem (hkeys : (members.map Prod.fst).Nodup) (h : (key, value) ∈ members) :
    members.lookup key = some value := by
  induction members with
  | nil => cases h
  | cons member members ih =>
    obtain ⟨hhead, htail⟩ := List.nodup_cons.mp hkeys
    rcases List.mem_cons.mp h with rfl | h
    · exact List.lookup_cons_self
    · have hne : (key == member.1) = false :=
        beq_false_of_ne fun heq => hhead (heq ▸ List.mem_map_of_mem h)
      rw [List.lookup_cons, hne]
      exact ih htail h

theorem ne_of_lookup_eq_none (h : members.lookup key = none) {member : String × Json}
    (hmember : member ∈ members) : member.1 ≠ key := by
  have hne := List.lookup_eq_none_iff.mp h member hmember
  exact (bne_iff_ne.mp hne).symm

theorem memberDocuments_eq_map (members : List (String × Json)) :
    memberDocuments members = members.map fun member => (some member.1, member.2.document) := by
  induction members with
  | nil => rfl
  | cons member members ih =>
    obtain ⟨key, value⟩ := member
    rw [memberDocuments, ih]
    rfl

theorem membersExact_iff : MembersExact members ↔ ∀ member ∈ members, member.2.IsExact := by
  induction members with
  | nil => exact iff_of_true trivial nofun
  | cons member members ih =>
    obtain ⟨key, value⟩ := member
    rw [MembersExact, ih, List.forall_mem_cons]

theorem membersDepth_le_iff {n : Nat} :
    membersDepth members ≤ n ↔ ∀ member ∈ members, member.2.depth ≤ n := by
  induction members with
  | nil => exact iff_of_true (Nat.zero_le n) nofun
  | cons member members ih =>
    obtain ⟨key, value⟩ := member
    rw [membersDepth, Nat.max_le, ih, List.forall_mem_cons]

/-- How a value that may be missing is told: where there is none, the member is missing or null. -/
def TellsOptional {α : Type} (write : α → Json) : Option α → Option Json → Prop
  | some a, member => member = some (write a)
  | none, member => member = none ∨ member = some .null

theorem tellsOptional_map {α : Type} (write : α → Json) (a : Option α) :
    TellsOptional write a (a.map write) := by
  cases a with
  | none => exact .inl rfl
  | some a => exact rfl

end Json

namespace Fields

variable {α β : Type} {members : List (String × Json)} {depth : Nat}

/-! ### Members of a record -/

/-- The values of a member, with their places from `start` on. -/
def valuesFrom (name : String) (start : Nat) (members : List (Option String × Document)) :
    List (Document × Nat) :=
  (members.zipIdx start).filterMap fun (member, place) =>
    if member.1 = some name then some (member.2, place) else none

theorem valuesFrom_cons (name key : String) (start : Nat) (doc : Document)
    (members : List (Option String × Document)) :
    valuesFrom name start ((some key, doc) :: members) =
      if key = name then (doc, start) :: valuesFrom name (start + 1) members
      else valuesFrom name (start + 1) members := by
  rw [valuesFrom, List.zipIdx_cons, List.filterMap_cons, valuesFrom]
  simp only [Option.some.injEq]
  split <;> simp_all

theorem valuesFrom_eq_nil {name : String} (h : members.lookup name = none) (start : Nat) :
    valuesFrom name start (Json.memberDocuments members) = [] := by
  induction members generalizing start with
  | nil => rfl
  | cons member members ih =>
    have hne := Json.ne_of_lookup_eq_none h List.mem_cons_self
    rw [List.lookup_cons, beq_false_of_ne hne.symm] at h
    rw [Json.memberDocuments, valuesFrom_cons, if_neg hne, ih h]

/-- The value of a member of an object is found once. -/
theorem exists_valuesFrom (hkeys : (members.map Prod.fst).Nodup) {name : String} {value : Json}
    (h : members.lookup name = some value) (start : Nat) :
    ∃ place, valuesFrom name start (Json.memberDocuments members) = [(value.document, place)] := by
  induction members generalizing start with
  | nil => cases h
  | cons member members ih =>
    obtain ⟨key, value'⟩ := member
    obtain ⟨hhead, htail⟩ := List.nodup_cons.mp hkeys
    rw [Json.memberDocuments, valuesFrom_cons]
    by_cases hname : key = name
    · have hrest : members.lookup name = none := by
        refine List.lookup_eq_none_iff.mpr fun member hmember => bne_iff_ne.mpr fun heq => hhead ?_
        exact List.mem_map.mpr ⟨member, hmember, (hname.trans heq).symm⟩
      rw [hname, List.lookup_cons_self] at h
      cases h
      exact ⟨start, by rw [if_pos hname, valuesFrom_eq_nil hrest]⟩
    · rw [List.lookup_cons, beq_false_of_ne (Ne.symm hname)] at h
      rw [if_neg hname]
      exact ih htail h (start + 1)

/-- Fields read a value from an object, which they leave as it is. -/
def Reads (fields : Fields α) (depth : Nat) (members : List (String × Json)) (a : α) : Prop :=
  fields.read depth (.members (Json.memberDocuments members)) =
    (.ok a, .members (Json.memberDocuments members))

theorem reads_seq {f : Fields (α → β)} {fields : Fields α} {g : α → β} {a : α}
    (hf : f.Reads depth members g) (ha : fields.Reads depth members a) :
    (f <*> fields).Reads depth members (g a) := by
  simp only [Reads] at hf ha ⊢
  simp only [Seq.seq, hf, ha]
  rfl

theorem reads_map (f : α → β) {fields : Fields α} {a : α} (ha : fields.Reads depth members a) :
    (f <$> fields).Reads depth members (f a) := by
  have hf : (pure f : Fields (α → β)).Reads depth members f := rfl
  exact reads_seq hf ha

theorem reads_member (hkeys : (members.map Prod.fst).Nodup) {name : String} {absent : Option α}
    {reader : Reader α} {value : Json} {a : α} (h : members.lookup name = some value)
    (hread : reader depth value.document = .ok a) :
    (member name absent reader).Reads depth members a := by
  obtain ⟨place, hplace⟩ := exists_valuesFrom hkeys h 0
  have hvalues : valuesOf name (Json.memberDocuments members) = [(value.document, place)] := hplace
  simp only [Reads, member, hvalues, readAt, hread]

theorem reads_absent {name : String} {reader : Reader α} {a : α} (h : members.lookup name = none) :
    (member name (some a) reader).Reads depth members a := by
  have hvalues : valuesOf name (Json.memberDocuments members) = [] := valuesFrom_eq_nil h 0
  simp only [Reads, member, hvalues]
  rfl

/-- A member that may be null is read as nothing where it is missing or null. -/
theorem reads_optional (hkeys : (members.map Prod.fst).Nodup) {name : String} {reader : Reader α}
    {write : α → Json} (hread : ∀ a, Reader.option reader depth (write a).document = .ok (some a))
    {a : Option α} (h : Json.TellsOptional write a (members.lookup name)) :
    (optional name reader).Reads depth members a := by
  cases a with
  | none =>
    rcases h with habsent | hnull
    · exact reads_absent habsent
    · exact reads_member hkeys hnull rfl
  | some a => exact reads_member hkeys h (hread a)

/-- **A record is what its fields read.** -/
theorem record_of_reads {fields : Fields α} {a : α} (hexact : Json.MembersExact members)
    (h : fields.Reads depth members a) :
    fields.record (depth + 1) (Json.object members).document = .ok a := by
  have hrest : restMisfit? (.members (Json.memberDocuments members)) = none := by
    rw [restMisfit?, Option.map_eq_none_iff, List.findIdx?_eq_none_iff, Json.memberDocuments_eq_map]
    intro doc hdoc
    obtain ⟨member, hmember, rfl⟩ := List.mem_map.mp hdoc
    have hvalue := Json.membersExact_iff.mp hexact member hmember
    simp only [Option.isNone_some, Document.isBroken_document _ hvalue, Bool.or_self]
  rw [Reads] at h
  rw [Json.document, record]
  simp only [h, settle, hrest]

end Fields

end PosvGateway
