import PosvGateway.Proofs.Trace.Executed

/-!
# Conservation of value

The operations of a transaction neither create nor destroy money beyond what its trace says is lost.

* `FlatFrame.IsSink` holds of the frames whose value reaches nobody, and `FlatFrame.sunk` is the
  total value of those that were reverted, or of those that were not;
* `FlatFrame.net_legs`: the legs of any other frame cancel out, and those of a sink leave its value
  with a minus sign;
* `Executed.toRosetta_conserves`: successful operations sum to what the sinks and the destroyed
  accounts take, failed ones to what reverted sinks would have taken.
-/

namespace PosvGateway

namespace FlatFrame

/-- The value of the frame reaches nobody: it names no recipient, or the account destroys itself in
its own favour. -/
def IsSink (call : FlatFrame) : Prop :=
  call.recipient = none ∨
    call.kind = OperationType.selfDestruct ∧ call.recipient = some call.sender

instance : DecidablePred IsSink := fun _ => inferInstanceAs (Decidable (_ ∨ _))

/-- The total value of the sinks among some frames, of the reverted ones or of the others. -/
def sunk (reverted : Bool) (calls : List FlatFrame) : Nat :=
  ((calls.filter fun call => call.revert = reverted ∧ call.IsSink).map fun call =>
    call.value.toNat).sum

theorem receiver_eq_none_iff {call : FlatFrame} : call.receiver = none ↔ call.IsSink := by
  simp only [receiver, destroysOntoItself, destroys, IsSink, Bool.and_eq_true, decide_eq_true_eq]
  constructor
  · intro h
    split at h
    · rename_i hself
      exact .inr hself
    · exact .inl h
  · rintro (hnone | hself)
    · split <;> first | rfl | exact hnone
    · rw [if_pos hself]

theorem value_eq_zero_of_not_shows {call : FlatFrame} (h : call.shows = false) :
    call.value = 0 := by
  simp only [shows, Bool.not_eq_false', Bool.and_eq_true, decide_eq_true_eq] at h
  exact h.1

theorem worth_debitLeg (call : FlatFrame) : call.debitLeg.worth = -call.value.toNat := by
  by_cases hzero : call.value = 0
  · rw [Leg.worth_of_none (if_pos hzero), hzero]
    rfl
  · exact Leg.worth_of_debit (if_neg hzero)

theorem worth_creditLeg (call : FlatFrame) (receiver : Address) :
    (call.creditLeg receiver).worth = call.value.toNat := by
  by_cases hzero : call.value = 0
  · rw [Leg.worth_of_none (if_pos hzero), hzero]
    rfl
  · exact Leg.worth_of_credit (if_neg hzero)

/-- The legs of a frame cancel out unless it is a sink. -/
theorem net_legs {call : FlatFrame} {p : Leg → Bool} {b : Bool} (hdebit : p call.debitLeg = b)
    (hcredit : ∀ receiver, p (call.creditLeg receiver) = b) :
    Leg.net p call.legs = if b ∧ call.IsSink then -(call.value.toNat : Int) else 0 := by
  rw [legs_eq]
  cases hshows : call.shows with
  -- A frame that does not show moves nothing, sink or not.
  | false => simp [value_eq_zero_of_not_shows hshows]
  | true =>
    simp only [↓reduceIte, Leg.net_cons, hdebit, worth_debitLeg]
    cases hreceiver : call.receiver with
    | none =>
      have hsink := receiver_eq_none_iff.1 hreceiver
      cases b <;> simp [hsink]
    | some receiver =>
      have hsink : ¬ call.IsSink := by
        rw [← receiver_eq_none_iff, hreceiver]
        exact Option.some_ne_none receiver
      cases b <;> simp [hsink, Leg.net_cons, hcredit, worth_creditLeg]

/-- The legs of a list of frames leave what its sinks take. -/
theorem net_flatMap_legs (reverted : Bool) {p : Leg → Bool} {calls : List FlatFrame}
    (hdebit : ∀ call : FlatFrame, p call.debitLeg = decide (call.revert = reverted))
    (hcredit : ∀ (call : FlatFrame) receiver,
      p (call.creditLeg receiver) = decide (call.revert = reverted)) :
    Leg.net p (calls.flatMap legs) = -(sunk reverted calls : Int) := by
  rw [Leg.net_flatMap]
  induction calls with
  | nil => rfl
  | cons call calls ih =>
    rw [List.map_cons, List.sum_cons, ih, net_legs (hdebit call) (hcredit call)]
    by_cases hlost : call.revert = reverted ∧ call.IsSink
    · have hsunk : sunk reverted (call :: calls) = call.value.toNat + sunk reverted calls := by
        simp [sunk, hlost]
      simp only [decide_eq_true_eq, hlost, and_self, ↓reduceIte, hsunk]
      omega
    · have hsunk : sunk reverted (call :: calls) = sunk reverted calls := by
        simp [sunk, hlost]
      simp only [decide_eq_true_eq, hlost, ↓reduceIte, hsunk]
      omega

theorem status_eq_success_iff {call : FlatFrame} :
    call.status = OperationStatus.success ↔ call.revert = false := by
  unfold status
  cases call.revert <;> simp [OperationStatus.success, OperationStatus.fail]

theorem status_eq_fail_iff {call : FlatFrame} :
    call.status = OperationStatus.fail ↔ call.revert = true := by
  unfold status
  cases call.revert <;> simp [OperationStatus.success, OperationStatus.fail]

end FlatFrame

/-! ### Destroyed accounts and fees -/

/-- The total of what is lost with destroyed accounts. -/
def Destroyed.lost (remains : List (Address × Uint256)) : Nat :=
  (remains.map fun (_, value) => value.toNat).sum

theorem Destroyed.worth_leg (account : Address) (value : Uint256) :
    (Destroyed.leg account value).worth = -value.toNat :=
  Leg.worth_of_debit rfl

theorem Destroyed.net_legs {p : Leg → Bool} {b : Bool} {remains : List (Address × Uint256)}
    (hp : ∀ account value, p (Destroyed.leg account value) = b) :
    Leg.net p (remains.map fun (account, value) => Destroyed.leg account value) =
      if b then -(lost remains : Int) else 0 := by
  induction remains with
  | nil => cases b <;> rfl
  | cons entry remains ih =>
    obtain ⟨account, value⟩ := entry
    rw [List.map_cons, Leg.net_cons, ih, hp, worth_leg]
    cases b
    · rfl
    · simp only [lost, List.map_cons, List.sum_cons, ↓reduceIte]
      omega

theorem Executed.net_feeLegs {tx : Executed} {p : Leg → Bool} {b : Bool}
    (hp : ∀ leg ∈ tx.feeLegs, p leg = b) : Leg.net p tx.feeLegs = 0 := by
  obtain ⟨hdebit, hcredit⟩ := List.forall_mem_cons.1 hp
  rw [feeLegs, Leg.movement, Leg.net_cons, Leg.net_cons, hdebit,
    hcredit _ List.mem_cons_self, Leg.worth_of_debit (v := tx.fee) rfl,
    Leg.worth_of_credit (v := tx.fee) rfl, Leg.net_nil]
  cases b
  · rfl
  · simp only [↓reduceIte]
    omega

namespace Executed

theorem net_success (tx : Executed) (calls : List FlatFrame)
    (remains : List (Address × Uint256)) :
    Leg.net (fun leg => leg.status = some OperationStatus.success) (tx.legs calls remains) =
      -((FlatFrame.sunk false calls + Destroyed.lost remains : Nat) : Int) := by
  rw [legs, Leg.net_append, Leg.net_append, net_feeLegs (b := true),
    FlatFrame.net_flatMap_legs false, Destroyed.net_legs (b := true)]
  · simp only [↓reduceIte, Nat.cast_add]
    omega
  · intro account value
    rfl
  · intro call
    simp [FlatFrame.debitLeg, FlatFrame.status_eq_success_iff]
  · intro call receiver
    simp [FlatFrame.creditLeg, FlatFrame.status_eq_success_iff]
  · simp [feeLegs, Leg.movement]

theorem net_fail (tx : Executed) (calls : List FlatFrame) (remains : List (Address × Uint256)) :
    Leg.net (fun leg => leg.status = some OperationStatus.fail) (tx.legs calls remains) =
      -(FlatFrame.sunk true calls : Int) := by
  rw [legs, Leg.net_append, Leg.net_append, net_feeLegs (b := false),
    FlatFrame.net_flatMap_legs true, Destroyed.net_legs (b := false)]
  · simp
  · intro account value
    rfl
  · intro call
    simp [FlatFrame.debitLeg, FlatFrame.status_eq_fail_iff]
  · intro call receiver
    simp [FlatFrame.creditLeg, FlatFrame.status_eq_fail_iff]
  · simp [feeLegs, Leg.movement, OperationStatus.success, OperationStatus.fail]

/-- Where no frame is a sink and nothing is lost with destroyed accounts, all legs cancel out. -/
theorem net_eq_zero {calls : List FlatFrame} (hsink : ∀ call ∈ calls, ¬ call.IsSink)
    (tx : Executed) : Leg.net (fun _ => true) (tx.legs calls []) = 0 := by
  -- Each frame cancels out on its own.
  have hcalls : ∀ z ∈ calls.map fun call => Leg.net (fun _ => true) call.legs, z = 0 := by
    intro z hz
    obtain ⟨call, hcall, rfl⟩ := List.mem_map.1 hz
    rw [FlatFrame.net_legs (b := true) rfl (fun _ => rfl), if_neg]
    exact fun h => hsink call hcall h.2
  rw [legs, Leg.net_append, Leg.net_append, net_feeLegs (b := true) (fun _ _ => rfl),
    Leg.net_flatMap, List.sum_eq_zero hcalls]
  rfl

/-- Unless frames pass for it, operations of the type of destroyed accounts are theirs. -/
theorem filter_destruct_legs {calls : List FlatFrame}
    (hkind : ∀ call ∈ calls, call.kind ≠ OperationType.destruct) (tx : Executed)
    (remains : List (Address × Uint256)) :
    (tx.legs calls remains).filter (fun leg => leg.kind = OperationType.destruct) =
      remains.map fun (account, value) => Destroyed.leg account value := by
  have hfront : (tx.feeLegs ++ calls.flatMap FlatFrame.legs).filter
      (fun leg => leg.kind = OperationType.destruct) = [] := by
    rw [List.filter_eq_nil_iff]
    intro leg hleg
    rw [decide_eq_true_eq]
    exact tx.kind_ne_destruct hkind leg hleg
  have hremains : (remains.map fun (account, value) => Destroyed.leg account value).filter
      (fun leg => leg.kind = OperationType.destruct) =
        remains.map fun (account, value) => Destroyed.leg account value := by
    rw [List.filter_eq_self]
    intro leg hleg
    obtain ⟨entry, -, rfl⟩ := List.mem_map.1 hleg
    rfl
  rw [legs, List.filter_append, hfront, hremains, List.nil_append]

theorem magnitude?_destruct {calls : List FlatFrame}
    (hkind : ∀ call ∈ calls, call.kind ≠ OperationType.destruct) (tx : Executed)
    (remains : List (Address × Uint256)) :
    Operation.magnitude?
        (Operation.ofKind OperationType.destruct (Leg.number 0 (tx.legs calls remains))) =
      some (Destroyed.lost remains) := by
  rw [Operation.ofKind, Operation.magnitude?_eq_sum (Operation.isNative_of_mem_filter
      (Leg.isNative_number (tx.isNative_legs calls remains))),
    Leg.map_filter_number (q := fun leg => leg.kind = OperationType.destruct)
      (g := fun leg => leg.worth.natAbs) (fun _ _ => rfl) (fun _ _ => rfl),
    filter_destruct_legs hkind, List.map_map]
  have hworth : ∀ entry : Address × Uint256,
      (Destroyed.leg entry.1 entry.2).worth.natAbs = entry.2.toNat := by
    intro entry
    rw [Destroyed.worth_leg, Int.natAbs_neg, Int.natAbs_natCast]
  exact congrArg (fun f => some (remains.map f).sum) (funext hworth)

/-- What is lost with an account shows as an operation of its own type. -/
theorem remains_eq_nil {tx : Executed} {calls : List FlatFrame}
    {remains : List (Address × Uint256)}
    (h : ∀ op ∈ Leg.number 0 (tx.legs calls remains), op.kind ≠ OperationType.destruct) :
    remains = [] := by
  cases remains with
  | nil => rfl
  | cons entry remains =>
    have hleg : Destroyed.leg entry.1 entry.2 ∈ tx.legs calls (entry :: remains) :=
      List.mem_append_right _ List.mem_cons_self
    obtain ⟨index, hop⟩ := Leg.exists_mem_number hleg
    exact absurd rfl (h _ (hop 0))

/-- The operations of a transaction conserve the value that its frames move, but for what is lost
with destroyed accounts. -/
structure Conserves (calls : List FlatFrame) (ops : List Operation) (lost : Nat) : Prop where
  /-- What is lost shows in the operations of destroyed accounts. -/
  destroyed : Operation.magnitude? (Operation.ofKind OperationType.destruct ops) = some lost
  /-- Successful operations sum to what sinks and destroyed accounts take. -/
  success : Operation.total? (Operation.withStatus OperationStatus.success ops) =
    some (-((FlatFrame.sunk false calls + lost : Nat) : Int))
  /-- Failed operations sum to what reverted sinks would have taken. -/
  fail : Operation.total? (Operation.withStatus OperationStatus.fail ops) =
    some (-(FlatFrame.sunk true calls : Int))
  /-- Without sinks and destroyed accounts, fees and transfers cancel out. -/
  balanced : (∀ call ∈ calls, ¬ call.IsSink) → (∀ op ∈ ops, op.kind ≠ OperationType.destruct) →
    Operation.total? ops = some 0

theorem conserves_legs {calls : List FlatFrame}
    (hkind : ∀ call ∈ calls, call.kind ≠ OperationType.destruct) (tx : Executed)
    (remains : List (Address × Uint256)) :
    Conserves calls (Leg.number 0 (tx.legs calls remains)) (Destroyed.lost remains) := by
  have hnative := tx.isNative_legs calls remains
  refine ⟨magnitude?_destruct hkind tx remains, ?_, ?_, fun hsink hnone => ?_⟩
  · rw [Leg.total?_withStatus_number hnative, net_success]
  · rw [Leg.total?_withStatus_number hnative, net_fail]
  · rw [Leg.total?_number hnative, remains_eq_nil hnone, net_eq_zero hsink]

/-- **Conservation of value.**  The operations of every transaction that can be shown conserve the
value that the frames of its trace move, unless a frame passes for a destroyed account. -/
theorem toRosetta_conserves {tx : Executed} {shown : Transaction} (h : tx.toRosetta = .ok shown) :
    ∃ root, CallFrame.reader.run tx.trace = .ok root ∧
      ((∀ call ∈ root.flatten, call.kind ≠ OperationType.destruct) →
        ∃ lost, Conserves root.flatten shown.operations lost) := by
  obtain ⟨root, remains, hroot, -, -, hops⟩ := operations_of_toRosetta h
  refine ⟨root, hroot, fun hkind => ⟨Destroyed.lost remains, ?_⟩⟩
  rw [hops]
  exact conserves_legs hkind tx remains

open Chars (array quoted uniformAddress)

/-- The text of a trace: an account destroys itself in favour of nobody, and is paid afterwards;
between the two stands a reverted call of nobody. -/
def sunkenText : List Char :=
  array [quoted "SELFDESTRUCT", uniformAddress '3', "null".toList, ['7'], ['0'], "false".toList,
    "null".toList,
    array [array [quoted "CALL", uniformAddress '2', "null".toList, ['3'], ['0'], "true".toList],
      array [quoted "CALL", uniformAddress '1', uniformAddress '3', ['4']]]]

/-- The account that destroys itself. -/
def sunkenAccount : Address := .ofNat 20 0x3333333333333333333333333333333333333333

/-- The frames of that trace. -/
def sunkenFrames : List FlatFrame :=
  [⟨"SELFDESTRUCT", sunkenAccount, none, 7, 0, false, none⟩,
    ⟨"CALL", .ofNat 20 0x2222222222222222222222222222222222222222, none, 3, 0, true, none⟩,
    ⟨"CALL", .ofNat 20 0x1111111111111111111111111111111111111111, some sunkenAccount, 4, 0, false,
      none⟩]

/-- A transaction with that trace. -/
def sunken : Executed where
  transaction :=
    { hash := .ofNat 32 1, sender := .ofNat 20 1, recipient := none, value := 7, gas := 21000,
      gasPrice := 1, input := [], nonce := 0 }
  sender := .ofNat 20 1
  miner := .ofNat 20 9
  fee := 21000
  receipt := String.ofList ['\x7b', '\x7d']
  trace := String.ofList sunkenText

theorem finish_sunkenText :
    (CallFrame.reader.finish (Document.ofChars sunkenText)).toOption.map CallFrame.flatten
      = some sunkenFrames ∧
    (Reader.finish Reader.json (Document.ofChars ['\x7b', '\x7d'])).toOption.isSome ∧
    (Reader.finish Reader.json (Document.ofChars sunkenText)).toOption.isSome := by
  decide +kernel

/-- What the account that destroyed itself is paid afterwards is lost with it. -/
theorem remains_sunken :
    Destroyed.remains (sunkenFrames.foldl Destroyed.apply []) = .ok [(sunkenAccount, 4)] := by
  decide +kernel

/-- The sink takes seven units, the reverted call would have taken three, and four are lost with the
destroyed account. -/
theorem toRosetta_conserves_sunken :
    ∃ shown root, sunken.toRosetta = .ok shown ∧
      CallFrame.reader.run sunken.trace = .ok root ∧
      FlatFrame.sunk false root.flatten = 7 ∧ FlatFrame.sunk true root.flatten = 3 ∧
      Conserves root.flatten shown.operations 4 := by
  obtain ⟨hcalls, hjson⟩ := finish_sunkenText
  have hreceipt : sunken.receipt = String.ofList ['\x7b', '\x7d'] := rfl
  have htrace : sunken.trace = String.ofList sunkenText := rfl
  have hsize : oversized? sunkenFrames = none := by decide
  obtain ⟨shown, root, hshown, -, hroot, hflat⟩ :=
    exists_toRosetta_ofList hreceipt htrace hcalls hjson
      (operationsOfFrames_eq_ok.mpr ⟨hsize, _, remains_sunken, rfl⟩)
  have hkind : ∀ call ∈ sunkenFrames, call.kind ≠ OperationType.destruct := by decide
  obtain ⟨root', hroot', hconserves⟩ := toRosetta_conserves hshown
  obtain rfl := Except.ok.inj (hroot.symm.trans hroot')
  obtain ⟨lost, hlost⟩ := hconserves (hflat ▸ hkind)
  -- The operations of destroyed accounts determine what is lost.
  obtain rfl : lost = 4 := by
    obtain ⟨root', remains, hroot', -, hremains, hops⟩ := operations_of_toRosetta hshown
    obtain rfl := Except.ok.inj (hroot.symm.trans hroot')
    have hmagnitude := magnitude?_destruct (hflat ▸ hkind) sunken remains
    rw [← hops, hlost.destroyed, Option.some.injEq] at hmagnitude
    rw [hflat, remains_sunken, Except.ok.injEq] at hremains
    rw [hmagnitude, ← hremains]
    rfl
  have hsunk : FlatFrame.sunk false sunkenFrames = 7 ∧ FlatFrame.sunk true sunkenFrames = 3 := by
    decide +kernel
  exact ⟨shown, root, hshown, hroot, hflat ▸ hsunk.1, hflat ▸ hsunk.2, hlost⟩

end Executed

end PosvGateway
