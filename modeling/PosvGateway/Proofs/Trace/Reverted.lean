import PosvGateway.Proofs.Trace.Executed

/-!
# Reverted frames

A reverted frame has failed, so one expects that what succeeded does not depend on it. That holds of
most reverted frames, and here it is told exactly of which.

* `FlatFrame.IsInert` : a reverted frame with a value that is a balance, which neither destroys its
  caller nor creates an account;
* `Destroyed.apply_of_isInert`, `Destroyed.foldl_apply_filter` : such frames leave the destroyed
  accounts as they are, one by one and over a whole trace;
* `successes_reverted` : **inert frames may be left out** of any trace, and no other reverted frame
  may be left out of all;
* `successes_reverted_ne` : a trace whose outcome changes when its reverted frames are left out.
-/

namespace PosvGateway

/-- What succeeds among the operations of some frames: the type, the account and the amount of each
successful operation, or why there are no operations. -/
def successes (outcome : Except DerivationError (List Operation)) :
    Except DerivationError (List (String × Option AccountIdentifier × Option Amount)) :=
  outcome.map fun ops =>
    (Operation.withStatus OperationStatus.success ops).map fun op =>
      (op.kind, op.account, op.amount)

/-! ### Inert frames -/

namespace FlatFrame

/-- A reverted frame that leaves nothing behind: its value is a balance, it does not destroy its
caller, and it creates no account. -/
def IsInert (call : FlatFrame) : Prop :=
  call.revert = true ∧ call.value.toNat < Int256.bound ∧ call.destroys = false ∧
    (call.creates = true → call.recipient = none)

instance : DecidablePred IsInert := fun _ => inferInstanceAs (Decidable (_ ∧ _))

variable {call : FlatFrame}

theorem moves_of_revert (h : call.revert = true) : call.moves = false := by
  rw [moves, h, Bool.not_true, Bool.and_false]

theorem receiver_of_not_destroys (h : call.destroys = false) : call.receiver = call.recipient := by
  rw [receiver, destroysOntoItself, h, Bool.false_and, if_neg Bool.false_ne_true]

theorem status_of_revert (h : call.revert = true) : call.status = OperationStatus.fail := by
  rw [status, if_pos h]

end FlatFrame

namespace Destroyed

variable {call : FlatFrame}

/-- What a reverted frame still does to the destroyed accounts. -/
theorem apply_of_revert (h : call.revert = true) (destroyed : Destroyed) :
    destroyed.apply call =
      let marked := if call.destroys then destroyed.insert call.sender .zero else destroyed
      match call.receiver with
      | none => marked
      | some receiver => if call.creates then marked.erase receiver else marked := by
  have hmoves := FlatFrame.moves_of_revert h
  cases hreceiver : call.receiver <;>
    simp only [apply, hmoves, hreceiver, Bool.false_eq_true, ↓reduceIte]

theorem apply_of_isInert (h : call.IsInert) (destroyed : Destroyed) :
    destroyed.apply call = destroyed := by
  obtain ⟨hrevert, -, hdestroys, hcreates⟩ := h
  rw [apply_of_revert hrevert, FlatFrame.receiver_of_not_destroys hdestroys, hdestroys]
  cases hrecipient : call.recipient with
  | none => rfl
  | some recipient =>
    -- A frame with a recipient is inert only if it creates nothing, so nothing is erased.
    have hcreates : call.creates = false := by
      by_contra htrue
      rw [hcreates (Bool.eq_true_of_not_eq_false htrue)] at hrecipient
      cases hrecipient
    rw [hcreates]
    rfl

/-- A whole trace leaves the same destroyed accounts without its inert frames. -/
theorem foldl_apply_filter (calls : List FlatFrame) (destroyed : Destroyed) :
    (calls.filter fun call => ¬ call.IsInert).foldl apply destroyed =
      calls.foldl apply destroyed := by
  induction calls generalizing destroyed with
  | nil => rfl
  | cons call calls ih =>
    by_cases h : call.IsInert
    · rw [List.filter_cons_of_neg (by simpa using h), List.foldl_cons, apply_of_isInert h, ih]
    · rw [List.filter_cons_of_pos (by simpa using h), List.foldl_cons, List.foldl_cons, ih]

end Destroyed

/-- Inert frames hide no value that is too large. -/
theorem oversized?_filter (calls : List FlatFrame) :
    oversized? (calls.filter fun call => ¬ call.IsInert) = oversized? calls := by
  rw [oversized?, List.find?_filter, oversized?]
  refine congrArg (fun p => Option.map FlatFrame.value (calls.find? p)) (funext fun call => ?_)
  by_cases h : Int256.bound ≤ call.value.toNat
  · have hlive : ¬ call.IsInert := fun hinert => absurd hinert.2.1 (Nat.not_lt.mpr h)
    simp [h, hlive]
  · simp [h]

/-- Inert frames have no successful legs. -/
theorem FlatFrame.filter_success_legs (calls : List FlatFrame) :
    ((calls.filter fun call => ¬ call.IsInert).flatMap legs).filter
        (fun leg => leg.status = some OperationStatus.success) =
      (calls.flatMap legs).filter fun leg => leg.status = some OperationStatus.success := by
  induction calls with
  | nil => rfl
  | cons call calls ih =>
    by_cases h : call.IsInert
    · have hfail : ∀ leg ∈ call.legs, leg.status ≠ some OperationStatus.success := by
        intro leg hleg
        have hstatus := status_of_revert h.1
        rcases leg_of_mem_legs hleg with rfl | ⟨receiver, rfl⟩ <;>
          simp [debitLeg, creditLeg, hstatus, OperationStatus.success, OperationStatus.fail]
      have hnone : call.legs.filter (fun leg => leg.status = some OperationStatus.success) = [] :=
        List.filter_eq_nil_iff.mpr fun leg hleg => by simpa using hfail leg hleg
      rw [List.filter_cons_of_neg (by simpa using h), ih, List.flatMap_cons, List.filter_append,
        hnone, List.nil_append]
    · rw [List.filter_cons_of_pos (by simpa using h), List.flatMap_cons, List.flatMap_cons,
        List.filter_append, List.filter_append, ih]

/-! ### What succeeds -/

/-- What succeeds, by the legs of the frames: it depends on the first value that is too large, on
the destroyed accounts in the end, and on the successful legs. -/
theorem successes_operationsOfFrames (start : Int) (calls : List FlatFrame) :
    successes (operationsOfFrames start calls) =
      match oversized? calls with
      | some value => .error (.valueOverflow value)
      | none => (calls.foldl Destroyed.apply []).remains.map fun remains =>
          ((calls.flatMap FlatFrame.legs).filter
              (fun leg => leg.status = some OperationStatus.success)
            ++ remains.map fun (account, value) => Destroyed.leg account value).map
              fun leg => (leg.kind, some (.ofAddress leg.account), leg.amount) := by
  rw [operationsOfFrames]
  cases oversized? calls with
  | some value => rfl
  | none =>
    simp only
    cases (calls.foldl Destroyed.apply []).remains with
    | error e => rfl
    | ok remains =>
      have hremains : (remains.map fun (account, value) => Destroyed.leg account value).filter
          (fun leg => leg.status = some OperationStatus.success) =
            remains.map fun (account, value) => Destroyed.leg account value := by
        rw [List.filter_eq_self]
        intro leg hleg
        obtain ⟨entry, -, rfl⟩ := List.mem_map.1 hleg
        rfl
      simp only [successes, Except.map, Operation.withStatus]
      rw [Leg.map_filter_number
        (q := fun leg => leg.status = some OperationStatus.success)
        (g := fun leg => (leg.kind, some (AccountIdentifier.ofAddress leg.account), leg.amount))
        (fun _ _ => rfl) (fun _ _ => rfl), List.filter_append, hremains]

theorem successes_filter_isInert (start : Int) (calls : List FlatFrame) :
    successes (operationsOfFrames start (calls.filter fun call => ¬ call.IsInert)) =
      successes (operationsOfFrames start calls) := by
  rw [successes_operationsOfFrames, successes_operationsOfFrames, oversized?_filter,
    Destroyed.foldl_apply_filter, FlatFrame.filter_success_legs]

/-- A trace has operations if no value is too large and no destroyed account has spent. -/
theorem successes_eq_ok {start : Int} {calls : List FlatFrame} :
    (∃ shown, successes (operationsOfFrames start calls) = .ok shown) ↔
      oversized? calls = none ∧
        ∃ remains, Destroyed.remains (calls.foldl Destroyed.apply []) = .ok remains := by
  rw [successes_operationsOfFrames]
  cases oversized? calls with
  | some value => simp
  | none => simp [Except.map_eq_ok]

/-! ### Frames that tell others apart -/

theorem Octets.compare_self {n : Nat} (o : Octets n) : compare o o = .eq :=
  Nat.compare_eq_eq.mpr rfl

namespace FlatFrame

/-- An account destroys itself, in favour of nobody. -/
def demise (account : Address) : FlatFrame where
  kind := OperationType.selfDestruct
  sender := account
  recipient := none
  value := 0
  gasUsed := 0
  revert := false
  error := none

/-- An account spends one unit. -/
def spending (account : Address) : FlatFrame where
  kind := OperationType.call
  sender := account
  recipient := none
  value := 1
  gasUsed := 0
  revert := false
  error := none

theorem value_demise_lt (account : Address) : (demise account).value.toNat < Int256.bound :=
  (by decide : (0 : Uint256).toNat < Int256.bound)

theorem value_spending_lt (account : Address) : (spending account).value.toNat < Int256.bound :=
  (by decide : (1 : Uint256).toNat < Int256.bound)

end FlatFrame

namespace Destroyed

theorem apply_demise (account : Address) (destroyed : Destroyed) :
    destroyed.apply (.demise account) = destroyed.insert account .zero := rfl

theorem apply_spending (account : Address) (destroyed : Destroyed) :
    destroyed.apply (.spending account) = destroyed.adjust account (· - ⟨1⟩) := rfl

/-- An account that is destroyed must not spend. -/
theorem remains_spending (account : Address) (remaining : List (Address × Uint256)) :
    remains (apply [(account, .zero)] (.spending account)) ≠ .ok remaining := by
  have hspent : apply [(account, .zero)] (.spending account) = [(account, .zero - ⟨1⟩)] := by
    rw [apply_spending, OrderedMap.adjust, if_pos account.compare_self]
  have hzero : (Int256.zero - ⟨1⟩).isZero = false := by decide
  have hnegative : (Int256.zero - ⟨1⟩).isNegative = true := by decide
  rw [hspent, remains, if_neg (by rw [hzero]; exact Bool.false_ne_true), if_pos hnegative]
  exact nofun

end Destroyed

/-- A frame in front of a trace is too large, or only the others may be. -/
theorem oversized?_cons {call : FlatFrame} (h : call.value.toNat < Int256.bound)
    (calls : List FlatFrame) : oversized? (call :: calls) = oversized? calls := by
  rw [oversized?, List.find?_cons_of_neg (by simpa using h), oversized?]

section Contexts

variable {call : FlatFrame} (hrevert : call.revert = true) (start : Int)

include hrevert

/-- A reverted frame marks its caller as destroyed, which must not spend then. -/
theorem successes_ne_of_destroys (hdestroys : call.destroys = true) :
    successes (operationsOfFrames start [call, .spending call.sender]) ≠
      successes (operationsOfFrames start [.spending call.sender]) := by
  intro heq
  -- By itself the unit is spent freely. Behind the mark it is spent by a destroyed account.
  have hkind : call.creates = false := by
    rw [FlatFrame.creates, of_decide_eq_true hdestroys]
    decide
  have hmark : Destroyed.apply [] call = [(call.sender, .zero)] := by
    rw [Destroyed.apply_of_revert hrevert, hdestroys, hkind]
    cases call.receiver <;> rfl
  obtain ⟨shown, hshown⟩ : ∃ shown,
      successes (operationsOfFrames start [.spending call.sender]) = .ok shown :=
    successes_eq_ok.mpr ⟨oversized?_cons (FlatFrame.value_spending_lt _) [], [], rfl⟩
  obtain ⟨-, remaining, hremaining⟩ := successes_eq_ok.mp ⟨shown, heq.trans hshown⟩
  rw [List.foldl_cons, hmark] at hremaining
  exact Destroyed.remains_spending _ _ hremaining

/-- A reverted frame creates an account, which may spend again then. -/
theorem successes_ne_of_creates (hsize : call.value.toNat < Int256.bound)
    (hdestroys : call.destroys = false) (hcreates : call.creates = true) {recipient : Address}
    (hrecipient : call.recipient = some recipient) :
    successes (operationsOfFrames start [.demise recipient, call, .spending recipient]) ≠
      successes (operationsOfFrames start [.demise recipient, .spending recipient]) := by
  intro heq
  -- The account is destroyed and must not spend, until the frame erases the mark.
  have herase : Destroyed.apply [(recipient, .zero)] call = [] := by
    rw [Destroyed.apply_of_revert hrevert, FlatFrame.receiver_of_not_destroys hdestroys,
      hrecipient, hdestroys, hcreates]
    exact if_pos recipient.compare_self
  have hempty : [.demise recipient, call, .spending recipient].foldl Destroyed.apply [] = [] := by
    rw [List.foldl_cons, Destroyed.apply_demise, List.foldl_cons, OrderedMap.insert, herase]
    rfl
  have hover : oversized? [.demise recipient, call, .spending recipient] = none := by
    rw [oversized?_cons (FlatFrame.value_demise_lt _), oversized?_cons hsize,
      oversized?_cons (FlatFrame.value_spending_lt _)]
    rfl
  obtain ⟨shown, hshown⟩ : ∃ shown,
      successes (operationsOfFrames start [.demise recipient, call, .spending recipient])
        = .ok shown :=
    successes_eq_ok.mpr ⟨hover, [], by rw [hempty]; rfl⟩
  obtain ⟨-, remaining, hremaining⟩ := successes_eq_ok.mp ⟨shown, heq.symm.trans hshown⟩
  exact Destroyed.remains_spending _ _ hremaining

/-- A reverted frame that is not inert shows in some trace: it refuses it for its value, takes from
its caller the right to spend, or gives that right back to the account it creates. -/
theorem exists_successes_ne (hlive : ¬ call.IsInert) :
    ∃ front back, successes (operationsOfFrames start (front ++ call :: back)) ≠
      successes (operationsOfFrames start (front ++ back)) := by
  by_cases hsize : call.value.toNat < Int256.bound
  · cases hdestroys : call.destroys with
    | true => exact ⟨[], _, successes_ne_of_destroys hrevert start hdestroys⟩
    | false =>
      obtain ⟨recipient, hrecipient, hcreates⟩ :
          ∃ recipient, call.recipient = some recipient ∧ call.creates = true := by
        by_contra hnone
        refine hlive ⟨hrevert, hsize, hdestroys, fun hcreates => ?_⟩
        cases hrecipient : call.recipient with
        | none => rfl
        | some recipient => exact absurd ⟨recipient, hrecipient, hcreates⟩ hnone
      exact ⟨[.demise recipient], _,
        successes_ne_of_creates hrevert start hsize hdestroys hcreates hrecipient⟩
  · -- The frame alone is refused for its value, and no frames are not.
    refine ⟨[], [], fun heq => ?_⟩
    have hover : oversized? [call] = some call.value := by
      rw [oversized?, List.find?_cons_of_pos (by simpa using hsize), Option.map_some]
    obtain ⟨hnone, -⟩ := successes_eq_ok.mp
      ⟨_, heq.trans (successes_operationsOfFrames start [])⟩
    rw [List.nil_append, hover] at hnone
    cases hnone

end Contexts

/-- **Which reverted frames are inert.** Those with a value that is a balance, which neither destroy
their caller nor create an account, may be left out of every trace: it has the same error, or the
same operations succeed. Where all reverted frames are such, all of them may be left out at once.
Any other reverted frame makes a difference to some trace. -/
theorem successes_reverted (start : Int) (calls : List FlatFrame) :
    successes (operationsOfFrames start (calls.filter fun call => ¬ call.IsInert)) =
        successes (operationsOfFrames start calls) ∧
      ((∀ call ∈ calls, call.revert = true → call.IsInert) →
        successes (operationsOfFrames start (calls.filter fun call => !call.revert)) =
          successes (operationsOfFrames start calls)) ∧
      ∀ call : FlatFrame, call.revert = true → ¬ call.IsInert →
        ∃ front back, successes (operationsOfFrames start (front ++ call :: back)) ≠
          successes (operationsOfFrames start (front ++ back)) := by
  refine ⟨successes_filter_isInert start calls, fun h => ?_,
    fun call hrevert hlive => exists_successes_ne hrevert start hlive⟩
  rw [← successes_filter_isInert start calls]
  congr 2
  refine List.filter_congr fun call hcall => ?_
  cases hrevert : call.revert with
  | true => simp [h call hcall hrevert]
  | false => simp [FlatFrame.IsInert, hrevert]

/-- A contract destroys itself and is paid twenty units after that, while a payment of nine units
to it fails. -/
def bereft : List FlatFrame :=
  [{ kind := OperationType.selfDestruct, sender := .ofNat 20 0x33,
      recipient := some (.ofNat 20 0x44), value := 50, gasUsed := 0, revert := false,
      error := none },
    { kind := OperationType.call, sender := .ofNat 20 0x11, recipient := some (.ofNat 20 0x33),
      value := 9, gasUsed := 0, revert := true, error := some "out of gas" },
    { kind := OperationType.call, sender := .ofNat 20 0x11, recipient := some (.ofNat 20 0x33),
      value := 20, gasUsed := 0, revert := false, error := none }]

/-- A contract destroys itself in a call that is reverted, and is paid twenty units after that. -/
def spared : List FlatFrame :=
  [{ kind := OperationType.selfDestruct, sender := .ofNat 20 0x33,
      recipient := some (.ofNat 20 0x44), value := 50, gasUsed := 0, revert := true,
      error := some "execution reverted" },
    { kind := OperationType.call, sender := .ofNat 20 0x11, recipient := some (.ofNat 20 0x33),
      value := 20, gasUsed := 0, revert := false, error := none }]

/-- The failed payment may be left out; the reverted destruction may not. -/
theorem successes_reverted_bereft :
    ((∀ call ∈ bereft, call.revert = true → call.IsInert) ∧
      (bereft.filter fun call => !call.revert).length = 2 ∧
      successes (operationsOfFrames 2 (bereft.filter fun call => !call.revert)) =
        successes (operationsOfFrames 2 bereft)) ∧
    ∃ call ∈ spared, call.revert = true ∧ ¬ call.IsInert ∧
      ∃ front back, successes (operationsOfFrames 2 (front ++ call :: back)) ≠
        successes (operationsOfFrames 2 (front ++ back)) := by
  have hinert : ∀ call ∈ bereft, call.revert = true → call.IsInert := by decide
  obtain ⟨-, hall, hother⟩ := successes_reverted 2 bereft
  have hlive : ∃ call ∈ spared, call.revert = true ∧ ¬ call.IsInert := by decide
  obtain ⟨call, hmem, hrevert, hlive⟩ := hlive
  exact ⟨⟨hinert, rfl, hall hinert⟩, call, hmem, hrevert, hlive, hother call hrevert hlive⟩

/-- A reverted frame that destroys its caller costs the caller what it receives later: the trace
ends in the destruction of an account that was never destroyed. -/
theorem successes_reverted_ne :
    (successes (operationsOfFrames 0 spared)).map (List.map Prod.fst) =
        .ok [OperationType.call, OperationType.call, OperationType.destruct] ∧
      (successes (operationsOfFrames 0 (spared.filter fun call => !call.revert))).map
          (List.map Prod.fst) = .ok [OperationType.call, OperationType.call] ∧
      successes (operationsOfFrames 0 (spared.filter fun call => !call.revert)) ≠
        successes (operationsOfFrames 0 spared) := by
  have hwith : (successes (operationsOfFrames 0 spared)).map (List.map Prod.fst) =
      .ok [OperationType.call, OperationType.call, OperationType.destruct] := by
    rw [successes_operationsOfFrames]
    rfl
  have hwithout : (successes (operationsOfFrames 0
      (spared.filter fun call => !call.revert))).map (List.map Prod.fst) =
        .ok [OperationType.call, OperationType.call] := by
    rw [successes_operationsOfFrames]
    rfl
  refine ⟨hwith, hwithout, fun heq => ?_⟩
  rw [heq, hwith] at hwithout
  exact absurd (Except.ok.inj hwithout) (by decide)

end PosvGateway
