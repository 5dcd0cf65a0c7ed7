import PosvGateway.Proofs.Amount
import PosvGateway.Proofs.Json
import PosvGateway.Proofs.Outcome
import PosvGateway.Trace.Executed

/-!
# The operations of an executed transaction

Whatever `Executed.toRosetta` lists comes from one list of legs, numbered from zero on: the fee, the
legs of the frames, and those of the destroyed accounts (`Executed.operations_of_toRosetta`). Every
leg names an account and carries a native amount or none.
-/

namespace PosvGateway

theorem Destroyed.isNative_leg (account : Address) (value : Uint256) :
    (Destroyed.leg account value).IsNative := by
  rintro amount ⟨⟩
  exact ⟨value, .inr rfl⟩

theorem Leg.isNative_movement (kind : String) (status : Option String) (sender : Address)
    (recipient : Option Address) (value : Uint256) :
    ∀ leg ∈ Leg.movement kind status sender recipient value, leg.IsNative := by
  intro leg hleg amount hamount
  cases recipient with
  | none =>
    obtain rfl : leg = _ := List.mem_singleton.1 hleg
    cases hamount
    exact ⟨value, .inr rfl⟩
  | some recipient =>
    rcases List.mem_cons.1 hleg with rfl | hleg
    · cases hamount
      exact ⟨value, .inr rfl⟩
    · obtain rfl : leg = _ := List.mem_singleton.1 hleg
      cases hamount
      exact ⟨value, .inl rfl⟩

theorem oversized?_eq_none_iff {calls : List FlatFrame} :
    oversized? calls = none ↔ ∀ call ∈ calls, call.value.toNat < Int256.bound := by
  simp only [oversized?, Option.map_eq_none_iff, List.find?_eq_none, decide_eq_true_eq, Nat.not_le]

/-- When a list of frames has operations, and which. -/
theorem operationsOfFrames_eq_ok {start : Int} {calls : List FlatFrame} {ops : List Operation} :
    operationsOfFrames start calls = .ok ops ↔
      oversized? calls = none ∧ ∃ remains,
        Destroyed.remains (calls.foldl Destroyed.apply []) = .ok remains ∧
        ops = Leg.number start (calls.flatMap FlatFrame.legs ++
          remains.map fun (account, value) => Destroyed.leg account value) := by
  rw [operationsOfFrames]
  cases oversized? calls with
  | some value => simp
  | none =>
    cases Destroyed.remains (calls.foldl Destroyed.apply []) with
    | error e => simp
    | ok remains => simp [eq_comm]

namespace FlatFrame

/-- The debit of the caller. -/
def debitLeg (call : FlatFrame) : Leg where
  kind := call.kind
  status := some call.status
  account := call.sender
  amount := if call.value = 0 then none else some (.debit call.value)
  metadata := call.metadata

/-- The credit of an account. -/
def creditLeg (call : FlatFrame) (receiver : Address) : Leg where
  kind := call.kind
  status := some call.status
  account := receiver
  amount := if call.value = 0 then none else some (.credit call.value)
  metadata := call.metadata
  paired := true

theorem legs_eq (call : FlatFrame) :
    call.legs =
      if call.shows then call.debitLeg :: (call.receiver.map call.creditLeg).toList else [] := by
  unfold legs debitLeg creditLeg
  cases call.receiver <;> rfl

/-- The legs of a frame have its type and its status. -/
theorem leg_of_mem_legs {call : FlatFrame} {leg : Leg} (h : leg ∈ call.legs) :
    leg = call.debitLeg ∨ ∃ receiver, leg = call.creditLeg receiver := by
  rw [legs_eq] at h
  split at h
  · rcases List.mem_cons.1 h with h | h
    · exact .inl h
    · obtain ⟨receiver, -, rfl⟩ := Option.map_eq_some_iff.1 (Option.mem_toList.1 h)
      exact .inr ⟨receiver, rfl⟩
  · cases h

theorem isNative_legs (call : FlatFrame) : ∀ leg ∈ call.legs, leg.IsNative := by
  intro leg hleg amount hamount
  rcases leg_of_mem_legs hleg with rfl | ⟨receiver, rfl⟩
  · simp only [debitLeg] at hamount
    split at hamount <;> cases hamount
    exact ⟨call.value, .inr rfl⟩
  · simp only [creditLeg] at hamount
    split at hamount <;> cases hamount
    exact ⟨call.value, .inl rfl⟩

end FlatFrame

namespace Executed

/-- The legs of a transaction whose trace has some frames, in front of what is lost. -/
def legs (tx : Executed) (calls : List FlatFrame) (remains : List (Address × Uint256)) :
    List Leg :=
  tx.feeLegs ++ calls.flatMap FlatFrame.legs
    ++ remains.map fun (account, value) => Destroyed.leg account value

theorem isNative_legs (tx : Executed) (calls : List FlatFrame)
    (remains : List (Address × Uint256)) : ∀ leg ∈ tx.legs calls remains, leg.IsNative := by
  intro leg hleg
  rcases List.mem_append.1 hleg with hleg | hleg
  · rcases List.mem_append.1 hleg with hleg | hleg
    · exact Leg.isNative_movement _ _ _ _ _ leg hleg
    · obtain ⟨call, -, hleg⟩ := List.mem_flatMap.1 hleg
      exact call.isNative_legs leg hleg
  · obtain ⟨⟨account, value⟩, -, rfl⟩ := List.mem_map.1 hleg
    exact Destroyed.isNative_leg account value

/-- Unless a frame passes for it, no leg has the type of those that stand for destroyed accounts. -/
theorem kind_ne_destruct {calls : List FlatFrame}
    (hkind : ∀ call ∈ calls, call.kind ≠ OperationType.destruct) (tx : Executed) :
    ∀ leg ∈ tx.feeLegs ++ calls.flatMap FlatFrame.legs, leg.kind ≠ OperationType.destruct := by
  intro leg hleg
  rcases List.mem_append.1 hleg with hleg | hleg
  · have hfee : leg.kind = OperationType.fee := by
      rcases List.mem_cons.1 hleg with rfl | hleg
      · rfl
      · rw [List.mem_singleton.1 hleg]
    rw [hfee]
    decide
  · obtain ⟨call, hcall, hleg⟩ := List.mem_flatMap.1 hleg
    rcases FlatFrame.leg_of_mem_legs hleg with rfl | ⟨receiver, rfl⟩ <;> exact hkind call hcall

theorem read_eq_ok {α : Type} {tx : Executed} {what text : String} {reader : Reader α} {a : α} :
    tx.read what reader text = .ok a ↔ reader.run text = .ok a := by
  unfold read
  cases reader.run text with
  | error misfit => exact ⟨nofun, nofun⟩
  | ok a' => simp only [Except.ok.injEq]

/-- When a transaction can be shown, and how. -/
theorem toRosetta_eq_ok {tx : Executed} {shown : Transaction} :
    tx.toRosetta = .ok shown ↔
      ∃ root receipt trace operations, CallFrame.reader.run tx.trace = .ok root ∧
        Reader.run Reader.json tx.receipt = .ok receipt ∧
        Reader.run Reader.json tx.trace = .ok trace ∧
        operationsOfFrames tx.feePair.length root.flatten = .ok operations ∧
        shown = { hash := tx.transaction.hash.toHex, operations := tx.feePair ++ operations,
                  metadata := some (tx.metadata receipt trace) } := by
  simp only [toRosetta, Except.bind_eq_ok, read_eq_ok]
  constructor
  · rintro ⟨root, hroot, receipt, hreceipt, trace, htrace, operations, hoperations, h⟩
    cases h
    exact ⟨root, receipt, trace, operations, hroot, hreceipt, htrace, hoperations, rfl⟩
  · rintro ⟨root, receipt, trace, operations, hroot, hreceipt, htrace, hoperations, rfl⟩
    exact ⟨root, hroot, receipt, hreceipt, trace, htrace, operations, hoperations, rfl⟩

/-- What a transaction that could be shown consists of. -/
theorem operations_of_toRosetta {tx : Executed} {shown : Transaction}
    (h : tx.toRosetta = .ok shown) :
    ∃ root remains, CallFrame.reader.run tx.trace = .ok root ∧
      oversized? root.flatten = none ∧
      Destroyed.remains (root.flatten.foldl Destroyed.apply []) = .ok remains ∧
      shown.operations = Leg.number 0 (tx.legs root.flatten remains) := by
  obtain ⟨root, receipt, trace, operations, hroot, -, -, hoperations, rfl⟩ := toRosetta_eq_ok.mp h
  obtain ⟨hsize, remains, hremains, rfl⟩ := operationsOfFrames_eq_ok.mp hoperations
  refine ⟨root, remains, hroot, hsize, hremains, ?_⟩
  rw [legs, List.append_assoc, Leg.number_append 0 tx.feeLegs, Int.zero_add]
  simp only [feePair, Leg.length_number]

/-- A transaction is shown if its trace is read as frames whose operations can be derived, and both
its texts as JSON. -/
theorem exists_toRosetta_ofList {tx : Executed} {receipt trace : List Char}
    {calls : List FlatFrame} {ops : List Operation} (hreceipt : tx.receipt = String.ofList receipt)
    (htrace : tx.trace = String.ofList trace)
    (hcalls : (CallFrame.reader.finish (Document.ofChars trace)).toOption.map CallFrame.flatten
      = some calls)
    (hjson : (Reader.finish Reader.json (Document.ofChars receipt)).toOption.isSome ∧
      (Reader.finish Reader.json (Document.ofChars trace)).toOption.isSome)
    (hops : operationsOfFrames 2 calls = .ok ops) :
    ∃ shown root, tx.toRosetta = .ok shown ∧ shown.operations = tx.feePair ++ ops ∧
      CallFrame.reader.run tx.trace = .ok root ∧ root.flatten = calls := by
  obtain ⟨root, hroot, rfl⟩ := Option.map_eq_some_iff.mp hcalls
  obtain ⟨receiptValue, hreceiptValue⟩ := Option.isSome_iff_exists.mp hjson.1
  obtain ⟨traceValue, htraceValue⟩ := Option.isSome_iff_exists.mp hjson.2
  have hrun : CallFrame.reader.run tx.trace = .ok root := htrace ▸ Reader.run_ofList hroot
  exact ⟨_, root, toRosetta_eq_ok.mpr ⟨root, receiptValue, traceValue, ops, hrun,
    hreceipt ▸ Reader.run_ofList hreceiptValue, htrace ▸ Reader.run_ofList htraceValue, hops, rfl⟩,
    rfl, hrun, rfl⟩

end Executed

end PosvGateway
