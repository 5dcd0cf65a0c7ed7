import Mathlib.Data.List.Forall2
import PosvGateway.Trace.Frame

/-!
# The lineage of a frame

A frame stands at a *place* of its tree, which is the way down to it: the number of the call to
take at each frame, counted from zero. Places are ordered as words are, so a frame stands in front
of the frames it called, and these stand in the order of the calls; this is pre-order.

* `CallFrame.at?` : the frame at a place, with the frames above it, the nearest first;
* `CallFrame.places` : the places of a tree, all of them (`CallFrame.mem_places`) and in order
  (`CallFrame.sorted_places`), so each once;
* `FlatFrame.Projects` : what a flat frame tells of a frame and of those above it;
* `CallFrame.passedOn` : what a frame passes on to those below it depends on its lineage alone;
* `CallFrame.flatten_lineage` : **a flattened tree has one flat frame for each place, in order**.
-/

namespace PosvGateway

namespace CallFrame

/-! ### Places -/

/-- The frame at a place, with the frames above it up to the root. The tree itself hangs below the
frames `above`. -/
def at? (above : List CallFrame) (root : CallFrame) :
    List Nat → Option (CallFrame × List CallFrame)
  | [] => some (root, above)
  | i :: place => root.calls[i]?.bind fun call => call.at? (root :: above) place

mutual

/-- The places of a tree in pre-order. -/
def places : CallFrame → List (List Nat)
  | ⟨_, _, _, _, _, _, _, calls⟩ => [] :: placesFrom 0 calls

/-- The places of several trees that hang below one frame, of which the first is call number `i`. -/
def placesFrom (i : Nat) : List CallFrame → List (List Nat)
  | [] => []
  | frame :: frames => (places frame).map (i :: ·) ++ placesFrom (i + 1) frames

end

theorem at?_cons {above : List CallFrame} {root call : CallFrame} {i : Nat}
    (h : root.calls[i]? = some call) (place : List Nat) :
    root.at? above (i :: place) = call.at? (root :: above) place := by
  rw [at?, h, Option.bind_some]

mutual

/-- **A tree has these places and no others.** -/
theorem mem_places (frame : CallFrame) {above : List CallFrame} {place : List Nat} :
    place ∈ frame.places ↔ (frame.at? above place).isSome := by
  obtain ⟨kind, sender, recipient, value, gasUsed, revert, error, calls⟩ := frame
  rw [places, List.mem_cons]
  cases place with
  | nil => exact iff_of_true (.inl rfl) rfl
  | cons i place =>
    have hne : i :: place ≠ [] := List.cons_ne_nil i place
    rw [or_iff_right hne, mem_placesFrom calls, at?, Option.isSome_bind, Option.any_eq_true]
    simp only [Nat.zero_add, List.cons.injEq]
    constructor
    · rintro ⟨j, call, rest, ⟨rfl, rfl⟩, hcall, hplace⟩
      exact ⟨call, hcall, hplace⟩
    · rintro ⟨call, hcall, hplace⟩
      exact ⟨i, call, place, ⟨rfl, rfl⟩, hcall, hplace⟩

theorem mem_placesFrom (frames : List CallFrame) {i : Nat} {above : List CallFrame}
    {place : List Nat} :
    place ∈ placesFrom i frames ↔ ∃ j call rest, place = (i + j) :: rest ∧
      frames[j]? = some call ∧ (call.at? above rest).isSome := by
  cases frames with
  | nil =>
    rw [placesFrom]
    exact ⟨nofun, fun ⟨j, call, rest, _, hcall, _⟩ => nomatch hcall⟩
  | cons frame frames =>
    rw [placesFrom, List.mem_append, List.mem_map]
    constructor
    · rintro (⟨rest, hrest, rfl⟩ | hlater)
      · exact ⟨0, frame, rest, rfl, rfl, (mem_places frame).mp hrest⟩
      · obtain ⟨j, call, rest, rfl, hcall, hrest⟩ := (mem_placesFrom frames).mp hlater
        exact ⟨j + 1, call, rest, by rw [Nat.add_assoc, Nat.add_comm 1], hcall, hrest⟩
    · rintro ⟨_ | j, call, rest, rfl, hcall, hrest⟩
      · obtain rfl : frame = call := Option.some.inj hcall
        exact .inl ⟨rest, (mem_places frame).mpr hrest, rfl⟩
      · refine .inr ((mem_placesFrom frames).mpr ⟨j, call, rest, ?_, hcall, hrest⟩)
        rw [Nat.add_assoc, Nat.add_comm 1]

end

/-- Below a frame, a place leads through one of its calls. -/
theorem exists_cons_of_mem_placesFrom {frames : List CallFrame} {i : Nat} {place : List Nat}
    (h : place ∈ placesFrom i frames) : ∃ j rest, place = (i + j) :: rest := by
  obtain ⟨j, call, rest, heq, -⟩ := (@mem_placesFrom frames i [] place).mp h
  exact ⟨j, rest, heq⟩

mutual

/-- **The places of a tree are in order.** -/
theorem sorted_places (frame : CallFrame) : frame.places.Pairwise (· < ·) := by
  obtain ⟨kind, sender, recipient, value, gasUsed, revert, error, calls⟩ := frame
  rw [places]
  refine List.pairwise_cons.mpr ⟨fun place hplace => ?_, sorted_placesFrom 0 calls⟩
  obtain ⟨j, rest, rfl⟩ := exists_cons_of_mem_placesFrom hplace
  exact List.nil_lt_cons _ _

theorem sorted_placesFrom (i : Nat) (frames : List CallFrame) :
    (placesFrom i frames).Pairwise (· < ·) := by
  cases frames with
  | nil => exact List.Pairwise.nil
  | cons frame frames =>
    rw [placesFrom]
    refine List.pairwise_append.mpr ⟨List.pairwise_map.mpr ?_, sorted_placesFrom (i + 1) frames, ?_⟩
    · exact (sorted_places frame).imp fun h => List.cons_lt_cons_iff.mpr (.inr ⟨rfl, h⟩)
    · -- A place below an earlier call comes first, wherever it leads from there.
      intro place hplace later hlater
      obtain ⟨rest, -, rfl⟩ := List.mem_map.mp hplace
      obtain ⟨j, rest', rfl⟩ := exists_cons_of_mem_placesFrom hlater
      exact List.cons_lt_cons_iff.mpr (.inl (by omega))

end

/-! ### What is passed on -/

/-- The frame has failed itself: it was reverted, or carries an error. -/
def failed (frame : CallFrame) : Bool := frame.revert || frame.error.isSome

/-- What the frames of a lineage pass on to those below them: the nearest error, if one of them has
failed. -/
def passedOn (lineage : List CallFrame) : Option (Option String) :=
  if lineage.any failed then some (lineage.findSome? error) else none

/-- Only frames that have failed carry errors. -/
theorem getD_passedOn (lineage : List CallFrame) :
    (passedOn lineage).getD none = lineage.findSome? error := by
  rw [passedOn]
  split
  · rfl
  · rename_i hnone
    refine (List.findSome?_eq_none_iff.mpr fun frame hframe => ?_).symm
    by_contra herror
    refine hnone (List.any_eq_true.mpr ⟨frame, hframe, ?_⟩)
    rw [failed, Option.isSome_iff_ne_none.mpr herror, Bool.or_true]

theorem isSome_passedOn (lineage : List CallFrame) :
    (passedOn lineage).isSome = lineage.any failed := by
  rw [passedOn]
  cases lineage.any failed <;> rfl

theorem revert_flat (frame : CallFrame) (above : List CallFrame) :
    (flat frame (passedOn above)).revert = (frame :: above).any failed := by
  rw [List.any_cons, ← isSome_passedOn, Bool.or_comm, failed, ← Bool.or_assoc]
  rfl

theorem error_flat (frame : CallFrame) (above : List CallFrame) :
    (flat frame (passedOn above)).error = (frame :: above).findSome? error := by
  rw [flat, getD_passedOn, List.findSome?_cons]
  cases frame.error <;> rfl

/-- **A frame passes on what its lineage says.** -/
theorem passedOn_cons (frame : CallFrame) (above : List CallFrame) :
    (if (flat frame (passedOn above)).revert then some (flat frame (passedOn above)).error
      else none) = passedOn (frame :: above) := by
  rw [revert_flat, error_flat, passedOn]

end CallFrame

/-! ### Flat frames -/

/-- A flat frame tells a frame below the frames `above`, of which the nearest comes first. -/
structure FlatFrame.Projects (call : FlatFrame) (frame : CallFrame) (above : List CallFrame) :
    Prop where
  kind : call.kind = frame.kind.map Char.toUpper
  sender : call.sender = frame.sender
  recipient : call.recipient = frame.recipient
  value : call.value = frame.value.getD 0
  gasUsed : call.gasUsed = frame.gasUsed.getD 0
  /-- The frame or one above it was reverted or carries an error. -/
  revert : call.revert = true ↔
    ∃ failing ∈ frame :: above, failing.revert = true ∨ failing.error.isSome = true
  /-- The error is the nearest one on the way up. -/
  error : call.error = (frame :: above).findSome? CallFrame.error

namespace CallFrame

theorem projects_flat (frame : CallFrame) (above : List CallFrame) :
    (flat frame (passedOn above)).Projects frame above where
  kind := rfl
  sender := rfl
  recipient := rfl
  value := rfl
  gasUsed := rfl
  revert := by simp only [revert_flat, List.any_eq_true, failed, Bool.or_eq_true]
  error := error_flat frame above

/-- A flat frame tells the frame at a place of a tree that hangs below the frames `above`. -/
def ShowsAt (above : List CallFrame) (root : CallFrame) (place : List Nat) (call : FlatFrame) :
    Prop :=
  ∃ frame lineage, root.at? above place = some (frame, lineage) ∧ call.Projects frame lineage

mutual

theorem forall₂_flattenUnder (above : List CallFrame) (frame : CallFrame) :
    List.Forall₂ (frame.ShowsAt above) frame.places (flattenUnder (passedOn above) frame) := by
  obtain ⟨kind, sender, recipient, value, gasUsed, revert, error, calls⟩ := frame
  let frame : CallFrame := ⟨kind, sender, recipient, value, gasUsed, revert, error, calls⟩
  rw [places, flattenUnder]
  refine .cons ⟨frame, above, rfl, projects_flat frame above⟩ ?_
  -- The frames below are flattened under what this one passes on.
  have hbelow := forall₂_flattenAll above frame [] calls rfl
  rwa [← passedOn_cons] at hbelow

/-- The frames below `parent` from some call on, behind the calls `done`. -/
theorem forall₂_flattenAll (above : List CallFrame) (parent : CallFrame)
    (done frames : List CallFrame) (h : parent.calls = done ++ frames) :
    List.Forall₂ (parent.ShowsAt above) (placesFrom done.length frames)
      (flattenAll (passedOn (parent :: above)) frames) := by
  cases frames with
  | nil => exact .nil
  | cons frame frames =>
    have hframe : parent.calls[done.length]? = some frame := by simp [h]
    have hfirst : List.Forall₂ (parent.ShowsAt above) (frame.places.map (done.length :: ·))
        (flattenUnder (passedOn (parent :: above)) frame) := by
      refine List.forall₂_map_left_iff.mpr ?_
      refine (forall₂_flattenUnder (parent :: above) frame).imp fun place call hshows => ?_
      obtain ⟨node, lineage, hnode, hcall⟩ := hshows
      exact ⟨node, lineage, (at?_cons hframe place).trans hnode, hcall⟩
    have hlater := forall₂_flattenAll above parent (done ++ [frame]) frames (by simp [h])
    rw [List.length_append, List.length_singleton] at hlater
    rw [placesFrom, flattenAll]
    exact List.rel_append hfirst hlater

end

/-- **Flattening keeps every frame.** A flattened tree has one flat frame for each place of the
tree, in pre-order. It has the kind of the frame at that place in upper case, its accounts, its
value and its gas; it is reverted if the frame or one above it was reverted or carries an error, and
its error is the nearest one on the way up. -/
theorem flatten_lineage (root : CallFrame) :
    root.places.Pairwise (· < ·) ∧
      (∀ place, place ∈ root.places ↔ (root.at? [] place).isSome) ∧
      List.Forall₂ (fun place call => ∃ frame above, root.at? [] place = some (frame, above) ∧
        FlatFrame.Projects call frame above) root.places root.flatten :=
  ⟨root.sorted_places, fun _ => root.mem_places, forall₂_flattenUnder [] root⟩

end CallFrame

end PosvGateway
