import PosvGateway.Proofs.Reward

/-!
# Reports with a split

A report of rewards is an object, whose member for the split may be missing or null. Where a report
is read, its document shows whether there is a split.

* `Fields.cases_of_record_optional` : what a record of one optional member is read from;
* `Rewards.TellsSplit` : the text of a report tells a split;
* `Rewards.isSome_iff_tellsSplit` : **a report has a split just where its text tells one**.
-/

namespace PosvGateway

/-! ### Records of one member -/

namespace Fields

variable {α : Type} {name : String}

/-- The values that a document gives a record for its first member. -/
def candidates (name : String) : Document → List Document
  | .object members => (valuesOf name members).map Prod.fst
  | .array docs => docs
  | _ => []

theorem mem_candidates_object {members : List (Option String × Document)} {doc : Document} :
    doc ∈ candidates name (.object members) ↔ (some name, doc) ∈ members := by
  simp only [candidates, valuesOf, List.mem_map, List.mem_filterMap, Prod.exists,
    Option.ite_none_right_eq_some, Option.some.injEq, Prod.mk.injEq]
  constructor
  · rintro ⟨_, _, ⟨key, value, place, hmem, rfl, rfl, -⟩, rfl⟩
    exact List.mem_of_getElem? (List.mk_mem_zipIdx_iff_getElem?.mp hmem)
  · intro hmem
    obtain ⟨place, hplace⟩ := List.getElem?_of_mem hmem
    exact ⟨doc, place, ⟨some name, doc, place, List.mk_mem_zipIdx_iff_getElem?.mpr hplace, rfl, rfl,
      rfl⟩, rfl⟩

theorem settle_eq_ok {source : RecordSource} {answer : Except RecordMisfit α} {a : α} :
    settle source answer = .ok a ↔ answer = .ok a ∧ restMisfit? source = none := by
  rw [settle.eq_def]
  cases answer <;> cases restMisfit? source <;> simp

theorem readAt_eq_ok {reader : Reader α} {depth : Nat} {doc : Document} {place : Nat} {a : α} :
    readAt reader depth doc place = .ok a ↔ reader depth doc = .ok a := by
  rw [readAt]
  cases reader depth doc <;> simp

/-- A record of one optional member is read from one value, if from any. -/
theorem cases_of_record_optional {reader : Reader α} {depth : Nat} {doc : Document} {a? : Option α}
    (h : (optional name reader).record depth doc = .ok a?) :
    candidates name doc = [] ∧ a? = none ∨
      ∃ value depth, candidates name doc = [value] ∧ reader.option depth value = .ok a? := by
  rw [record.eq_def] at h
  split at h
  · rename_i members depth
    obtain ⟨h, -⟩ := settle_eq_ok.mp h
    simp only [optional, member] at h
    rw [candidates]
    split at h
    · rename_i hvalues
      cases h
      exact .inl ⟨by rw [hvalues, List.map_nil], rfl⟩
    · rename_i value place hvalues
      exact .inr ⟨value, depth, by rw [hvalues]; rfl, readAt_eq_ok.mp h⟩
    · obtain ⟨_, -, hagain⟩ := Except.bind_eq_ok.mp h
      cases hagain
  · rename_i docs depth
    obtain ⟨h, hrest⟩ := settle_eq_ok.mp h
    cases docs with
    | nil =>
      cases h
      exact .inl ⟨rfl, rfl⟩
    | cons value docs =>
      cases docs with
      | nil => exact .inr ⟨value, depth, rfl, readAt_eq_ok.mp h⟩
      | cons => cases hrest
  · cases h
  · cases h
  · cases h

end Fields

/-- A table that may be null is read from an object or from null. -/
theorem Reader.isSome_iff_of_option_table {α : Type} {reader : Reader α} {depth : Nat}
    {doc : Document} {a? : Option (OrderedMap String α)}
    (h : (table reader).option depth doc = .ok a?) :
    a?.isSome ↔ ∃ members, doc = .object members := by
  cases doc with
  | null =>
    cases h
    exact iff_of_false nofun nofun
  | object members =>
    obtain ⟨a, -, rfl⟩ := Except.map_eq_ok.mp h
    exact iff_of_true rfl ⟨members, rfl⟩
  | _ => cases h

namespace Rewards

/-! ### Splits -/

/-- The text of a report tells a split: its member `rewards` is an object, or an array in place of
the report has an object for its only item. -/
def TellsSplit (text : String) : Prop :=
  ∃ split, (∃ members, (Document.parseTo 3 text).1 = .object members ∧
      (some "rewards", .object split) ∈ members) ∨
    (Document.parseTo 3 text).1 = .array [.object split]

theorem tellsSplit_iff_of_candidates {text : String} {value : Document}
    (h : Fields.candidates "rewards" (Document.parseTo 3 text).1 = [value]) :
    TellsSplit text ↔ ∃ split, value = .object split := by
  refine exists_congr fun split => ?_
  cases hdoc : (Document.parseTo 3 text).1 with
  | object members =>
    have hmem : (some "rewards", .object split) ∈ members ↔ value = .object split := by
      rw [← Fields.mem_candidates_object, ← hdoc, h, List.mem_singleton, eq_comm]
    simp [hmem]
  | array docs =>
    obtain rfl : docs = [value] := by rw [← h, hdoc, Fields.candidates]
    simp
  | _ => rw [hdoc] at h; cases h

theorem not_tellsSplit_of_candidates {text : String}
    (h : Fields.candidates "rewards" (Document.parseTo 3 text).1 = []) : ¬ TellsSplit text := by
  rintro ⟨split, ⟨members, hdoc, hmem⟩ | hdoc⟩
  · have hmem := Fields.mem_candidates_object.mpr hmem
    rw [← hdoc, h] at hmem
    cases hmem
  · rw [hdoc] at h
    cases h

/-- What a report is read from is a record of one member. -/
theorem record_of_readReport {text : String} {report? : Option Report}
    (h : readReport text = .ok report?) :
    (Fields.optional "rewards" (Reader.table (Reader.table Reader.unopened))).record maxDepth
      (Document.parseTo 3 text).1 = .ok report? := by
  rw [readReport] at h
  split at h
  · rename_i hrun
    cases h
    exact (Reader.finish_eq_ok.mp hrun).1
  · cases h

/-- **A report has a split just where its text tells one.** -/
theorem isSome_iff_tellsSplit {text : String} {split? : Option Rewards}
    (h : read text = .ok split?) : split?.isSome ↔ TellsSplit text := by
  obtain ⟨report?, hreport, h⟩ := Except.bind_eq_ok.mp h
  have hsome : split?.isSome ↔ report?.isSome := by
    cases report? with
    | none =>
      cases h
      exact Iff.rfl
    | some report =>
      obtain ⟨split, -, h⟩ := Except.bind_eq_ok.mp h
      cases h
      exact iff_of_true rfl rfl
  obtain ⟨hcandidates, rfl⟩ | ⟨value, depth, hcandidates, hvalue⟩ :=
    Fields.cases_of_record_optional (record_of_readReport hreport)
  · exact hsome.trans (iff_of_false nofun (not_tellsSplit_of_candidates hcandidates))
  · exact hsome.trans ((Reader.isSome_iff_of_option_table hvalue).trans
      (tellsSplit_iff_of_candidates hcandidates).symm)

end Rewards

end PosvGateway
