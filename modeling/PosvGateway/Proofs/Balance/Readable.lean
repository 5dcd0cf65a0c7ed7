import PosvGateway.Proofs.Balance.Annotation
import PosvGateway.Proofs.Trace.History

/-!
# Amounts that can be read

The gateway writes amounts of either sign and reads them back as balances. A balance reaches one
unit further below zero than above it, so a debit of `2 ^ 255` can be read, and a credit of that
cannot. No value of a frame is that large, and nothing that is lost with a destroyed account; but
nothing limits a fee.

* `Operation.map_toInt_change?_credit`, `Operation.map_toInt_change?_debit` : what is read from an
  amount, and `Operation.readable_credit_iff`, `Operation.readable_debit_iff` : when the balance
  after it can be told;
* `isSome_change?_of_operationsOfFrames` : the amounts of a trace can be read;
* `Balances.annotateOperations_cases` : the operations of a transaction can be annotated unless its
  fee cannot be read, and `Balances.annotate_cases_fee` : the same for a run of transactions;
* `Balances.annotate_fails_by_fee` : **annotation fails by a fee, or not at all**.
-/

namespace PosvGateway

/-! ### What is read from an amount -/

theorem Int256.map_toInt_ofInt? (z : Int) :
    (ofInt? z).map toInt = if -2 ^ 255 ≤ z ∧ z < 2 ^ 255 then some z else none := by
  split
  · rename_i h
    rw [ofInt?_eq_some.mpr ⟨bound_eq ▸ h.1, bound_eq ▸ h.2, rfl⟩, Option.map_some,
      toInt_wrap h.1 h.2]
  · rename_i h
    rw [ofInt?_eq_none (bound_eq ▸ h), Option.map_none]

namespace Operation

variable {op : Operation} {v : Uint256}

theorem map_toInt_change?_credit (h : op.amount = some (.credit v)) :
    op.change?.map Int256.toInt = if v.toNat < 2 ^ 255 then some (v.toNat : Int) else none := by
  have hvalue : (Amount.credit v).value = Numeral.signedDecimal v.toNat := rfl
  simp only [change?, h, hvalue, Numeral.readInt256?_signedDecimal, Int256.map_toInt_ofInt?]
  exact if_congr (by omega) rfl rfl

theorem map_toInt_change?_debit (h : op.amount = some (.debit v)) :
    op.change?.map Int256.toInt = if v.toNat ≤ 2 ^ 255 then some (-v.toNat : Int) else none := by
  have hvalue : (Amount.debit v).value = Numeral.signedDecimal (-v.toNat) := rfl
  simp only [change?, h, hvalue, Numeral.readInt256?_signedDecimal, Int256.map_toInt_ofInt?]
  exact if_congr (by omega) rfl rfl

theorem isSome_change?_of_none (h : op.amount = none) : op.change?.isSome := by
  rw [change?, h]
  rfl

theorem isSome_change?_credit_iff (h : op.amount = some (.credit v)) :
    op.change?.isSome ↔ v.toNat < 2 ^ 255 := by
  rw [← Option.isSome_map (f := Int256.toInt), map_toInt_change?_credit h, Option.isSome_ite]

theorem isSome_change?_debit_iff (h : op.amount = some (.debit v)) :
    op.change?.isSome ↔ v.toNat ≤ 2 ^ 255 := by
  rw [← Option.isSome_map (f := Int256.toInt), map_toInt_change?_debit h, Option.isSome_ite]

section Success

variable (haccount : op.account.isSome) (hstatus : op.status = some OperationStatus.success)

include haccount hstatus

/-- The balance after a successful operation can be told if its amount can be read. -/
theorem readable_iff_of_success : op.Readable ↔ op.change?.isSome :=
  readable_iff haccount (by rw [hstatus]; decide)

theorem readable_credit_iff (h : op.amount = some (.credit v)) :
    op.Readable ↔ v.toNat < 2 ^ 255 :=
  (readable_iff_of_success haccount hstatus).trans (isSome_change?_credit_iff h)

theorem readable_debit_iff (h : op.amount = some (.debit v)) :
    op.Readable ↔ v.toNat ≤ 2 ^ 255 :=
  (readable_iff_of_success haccount hstatus).trans (isSome_change?_debit_iff h)

end Success

end Operation

/-! ### The amounts of a trace -/

/-- The amount of a leg can be read, wherever the leg stands. -/
def Leg.CanBeRead (leg : Leg) : Prop := ∀ index, (leg.toOperation index).change?.isSome

theorem Leg.isSome_change?_number {start : Int} {legs : List Leg}
    (h : ∀ leg ∈ legs, leg.CanBeRead) : ∀ op ∈ number start legs, op.change?.isSome := by
  intro op hop
  obtain ⟨leg, hleg, index, rfl⟩ := mem_number hop
  exact h leg hleg index

theorem FlatFrame.canBeRead_legs {call : FlatFrame} (h : call.value.toNat < 2 ^ 255) :
    ∀ leg ∈ call.legs, leg.CanBeRead := by
  intro leg hleg index
  rcases leg_of_mem_legs hleg with rfl | ⟨receiver, rfl⟩
  · by_cases hzero : call.value = 0
    · exact Operation.isSome_change?_of_none (if_pos hzero)
    · exact (Operation.isSome_change?_debit_iff (if_neg hzero)).mpr (Nat.le_of_lt h)
  · by_cases hzero : call.value = 0
    · exact Operation.isSome_change?_of_none (if_pos hzero)
    · exact (Operation.isSome_change?_credit_iff (if_neg hzero)).mpr h

/-- What is lost with a destroyed account is a balance. -/
theorem Destroyed.lt_of_mem_remains {destroyed : Destroyed} {lost : List (Address × Uint256)}
    (h : destroyed.remains = .ok lost) : ∀ entry ∈ lost, entry.2.toNat < 2 ^ 255 := by
  rcases destroyed.remains_cases with ⟨_, _, _, _, -, -, -, hremains⟩ | ⟨-, hremains⟩
  · rw [hremains] at h
    cases h
  · rw [hremains] at h
    cases h
    intro entry hentry
    obtain ⟨⟨account, held⟩, hmem, rfl⟩ := List.mem_map.mp hentry
    have hpositive : 0 < held.toInt := Int256.isPositive_iff.mp (List.mem_filter.mp hmem).2
    have hvalue := Int256.toNat_magnitude hpositive
    have hlt := held.toInt_lt_bound
    show held.magnitude.toNat < 2 ^ 255
    omega

/-- **The amounts of a trace can be read**, those of destroyed accounts included. -/
theorem isSome_change?_of_operationsOfFrames {start : Int} {calls : List FlatFrame}
    {ops : List Operation} (h : operationsOfFrames start calls = .ok ops) :
    ∀ op ∈ ops, op.change?.isSome := by
  obtain ⟨hsize, lost, hlost, rfl⟩ := operationsOfFrames_eq_ok.mp h
  have hbound : Int256.bound = 2 ^ 255 := by decide
  refine Leg.isSome_change?_number fun leg hleg => ?_
  rcases List.mem_append.mp hleg with hleg | hleg
  · obtain ⟨call, hcall, hleg⟩ := List.mem_flatMap.mp hleg
    exact FlatFrame.canBeRead_legs (hbound ▸ oversized?_eq_none_iff.mp hsize call hcall) leg hleg
  · obtain ⟨⟨account, value⟩, hentry, rfl⟩ := List.mem_map.mp hleg
    have hvalue : value.toNat < 2 ^ 255 := Destroyed.lt_of_mem_remains hlost _ hentry
    exact fun index => (Operation.isSome_change?_debit_iff rfl).mpr (Nat.le_of_lt hvalue)

/-! ### Fees -/

namespace Executed

variable {tx : Executed} {plain : Transaction}

/-- A transaction shows its fee, and behind that only amounts that can be read. -/
theorem operations_of_toRosetta_eq_ok (h : tx.toRosetta = .ok plain) :
    plain.hash = tx.transaction.hash.toHex ∧
      ∃ rest, plain.operations = tx.feePair ++ rest ∧ ∀ op ∈ rest, op.change?.isSome := by
  obtain ⟨root, receipt, trace, operations, -, -, -, hoperations, rfl⟩ := toRosetta_eq_ok.mp h
  exact ⟨rfl, operations, rfl, isSome_change?_of_operationsOfFrames hoperations⟩

/-- The error that tells of a fee that it cannot be read. The debit is met first, but can be read
for one unit more. -/
def feeError (tx : Executed) : DerivationError :=
  .decode ("operation " ++ (if tx.fee.toNat = 2 ^ 255 then "1" else "0") ++ " of "
    ++ tx.transaction.hash.toHex ++ " has an unreadable amount")

theorem readable_of_mem_feePair (h : tx.fee.toNat < 2 ^ 255) : ∀ op ∈ tx.feePair, op.Readable :=
  List.forall_mem_cons.mpr ⟨(Operation.readable_debit_iff rfl rfl rfl).mpr (Nat.le_of_lt h),
    List.forall_mem_singleton.mpr ((Operation.readable_credit_iff rfl rfl rfl).mpr h)⟩

/-- Where a fee cannot be read, one of its operations is the first that cannot. -/
theorem exists_unreadable_feePair (h : 2 ^ 255 ≤ tx.fee.toNat) :
    ∃ front op back, tx.feePair = front ++ op :: back ∧ (∀ op ∈ front, op.Readable) ∧
      ¬ op.Readable ∧ Balances.unreadable tx.transaction.hash.toHex op = tx.feeError := by
  by_cases hedge : tx.fee.toNat = 2 ^ 255
  · -- The debit can be read just so, and the credit cannot.
    refine ⟨[_], _, [], rfl, List.forall_mem_singleton.mpr ?_, ?_, ?_⟩
    · exact (Operation.readable_debit_iff rfl rfl rfl).mpr (Nat.le_of_eq hedge)
    · rw [Operation.readable_credit_iff rfl rfl rfl]
      exact Nat.not_lt.mpr h
    · have hplace : Numeral.signedDecimal (0 + 1) = "1" := by decide
      rw [feeError, if_pos hedge, ← hplace]
      rfl
  · refine ⟨[], _, [_], rfl, nofun, ?_, ?_⟩
    · rw [Operation.readable_debit_iff rfl rfl rfl]
      omega
    · have hplace : Numeral.signedDecimal 0 = "0" := by decide
      rw [feeError, if_neg hedge, ← hplace]
      rfl

end Executed

namespace Balances

/-- **The operations of a transaction can be annotated unless its fee cannot be read.** -/
theorem annotateOperations_cases {tx : Executed} {plain : Transaction}
    (h : tx.toRosetta = .ok plain) (balances : Balances) :
    (tx.fee.toNat < 2 ^ 255 ∧ ∃ ops balances',
        balances.annotateOperations plain.hash plain.operations = (ops, .ok balances')) ∨
      2 ^ 255 ≤ tx.fee.toNat ∧ ∃ ops,
        balances.annotateOperations plain.hash plain.operations = (ops, .error tx.feeError) := by
  obtain ⟨hhash, rest, hoperations, hrest⟩ := Executed.operations_of_toRosetta_eq_ok h
  have hfollows := follows_openingOf balances
  rw [hhash, hoperations]
  rcases Nat.lt_or_ge tx.fee.toNat (2 ^ 255) with hlt | hge
  · have hreadable : ∀ op ∈ tx.feePair ++ rest, op.Readable :=
      List.forall_mem_append.mpr
        ⟨Executed.readable_of_mem_feePair hlt, fun op hop => .inr (.inr (hrest op hop))⟩
    obtain ⟨balances', hannotated, -⟩ :=
      annotateOperations_eq hfollows hreadable tx.transaction.hash.toHex
    exact .inl ⟨hlt, _, balances', hannotated⟩
  · obtain ⟨front, op, back, hpair, hfront, hop, herror⟩ := Executed.exists_unreadable_feePair hge
    have hstop :=
      annotateOperations_stop hfollows hfront hop tx.transaction.hash.toHex (back ++ rest)
    rw [hpair, List.append_assoc, List.cons_append, hstop, herror]
    exact .inr ⟨hge, _, rfl⟩

/-- **A run of transactions can be annotated unless a fee cannot be read**, and then the first such
fee is told of. -/
theorem annotate_cases_fee {txs : List Executed} {plains : List Transaction}
    (h : List.Forall₂ (fun tx plain => tx.toRosetta = .ok plain) txs plains)
    (balances : Balances) :
    (∀ tx ∈ txs, tx.fee.toNat < 2 ^ 255) ∧ (balances.annotate plains).2 = .ok () ∨
      ∃ front tx back, txs = front ++ tx :: back ∧
        (∀ earlier ∈ front, earlier.fee.toNat < 2 ^ 255) ∧ 2 ^ 255 ≤ tx.fee.toNat ∧
        (balances.annotate plains).2 = .error tx.feeError := by
  induction h generalizing balances with
  | nil => exact .inl ⟨nofun, rfl⟩
  | @cons tx plain txs plains htx _ ih =>
    rcases annotateOperations_cases htx balances with
      ⟨hlt, ops, balances', hannotated⟩ | ⟨hge, ops, hstopped⟩
    · have hannotate : (balances.annotate (plain :: plains)).2 = (balances'.annotate plains).2 := by
        simp only [annotate, hannotated]
      rw [hannotate]
      rcases ih balances' with ⟨hall, hok⟩ | ⟨front, first, back, rfl, hfront, hfirst, herror⟩
      · exact .inl ⟨List.forall_mem_cons.mpr ⟨hlt, hall⟩, hok⟩
      · exact .inr ⟨tx :: front, first, back, rfl, List.forall_mem_cons.mpr ⟨hlt, hfront⟩, hfirst,
          herror⟩
    · refine .inr ⟨[], tx, txs, rfl, nofun, hge, ?_⟩
      simp only [annotate, hstopped]

/-- **Annotation fails by a fee, or not at all.** A credit is read back if it is below `2 ^ 255`,
and a debit if it is at most that; any other amount of the gateway cannot be read. All amounts
behind the fee of a transaction can, those of failed operations and of destroyed accounts included.
So a run of transactions cannot be annotated, whatever the balances are, exactly if some fee is
`2 ^ 255` or more, and the error names an operation of the first such fee. -/
theorem annotate_fails_by_fee :
    (∀ (op : Operation) (v : Uint256),
      (op.amount = some (.credit v) →
        op.change?.map Int256.toInt =
          if v.toNat < 2 ^ 255 then some (v.toNat : Int) else none) ∧
      (op.amount = some (.debit v) →
        op.change?.map Int256.toInt =
          if v.toNat ≤ 2 ^ 255 then some (-v.toNat : Int) else none)) ∧
    (∀ (tx : Executed) (plain : Transaction), tx.toRosetta = .ok plain →
      ∃ rest, plain.operations = tx.feePair ++ rest ∧ ∀ op ∈ rest, op.change?.isSome) ∧
    ∀ (txs : List Executed) (plains : List Transaction) (balances : Balances),
      List.Forall₂ (fun tx plain => tx.toRosetta = .ok plain) txs plains →
      ((∃ e, (balances.annotate plains).2 = .error e) ↔ ∃ tx ∈ txs, 2 ^ 255 ≤ tx.fee.toNat) ∧
      ∀ e, (balances.annotate plains).2 = .error e → ∃ front tx back, txs = front ++ tx :: back ∧
        (∀ earlier ∈ front, earlier.fee.toNat < 2 ^ 255) ∧ 2 ^ 255 ≤ tx.fee.toNat ∧
        e = tx.feeError := by
  refine ⟨fun _ _ => ⟨Operation.map_toInt_change?_credit, Operation.map_toInt_change?_debit⟩,
    fun tx plain h => (Executed.operations_of_toRosetta_eq_ok h).2, fun txs plains balances h => ?_⟩
  rcases annotate_cases_fee h balances with
    ⟨hall, hok⟩ | ⟨front, tx, back, rfl, hfront, htx, herror⟩
  · rw [hok]
    refine ⟨iff_of_false nofun ?_, nofun⟩
    rintro ⟨tx, htx, hge⟩
    exact Nat.not_le.mpr (hall tx htx) hge
  · rw [herror]
    refine ⟨iff_of_true ⟨_, rfl⟩ ⟨tx, List.mem_append_right _ List.mem_cons_self, htx⟩, ?_⟩
    rintro e ⟨⟩
    exact ⟨front, tx, back, rfl, hfront, htx, rfl⟩

end Balances

/-- A call of a contract that destroys itself and is paid after that. -/
def Executed.settled (fee : Uint256) : Executed where
  transaction :=
    { hash := .ofNat 32 1, sender := .ofNat 20 0x11, recipient := some (.ofNat 20 0x33), value := 5,
      gas := 21000, gasPrice := 1, input := [], nonce := 0 }
  sender := .ofNat 20 0x11
  miner := .ofNat 20 9
  fee := fee
  receipt := "\x7b\x7d"
  trace := "[\"CALL\",\"1111111111111111111111111111111111111111\","
    ++ "\"3333333333333333333333333333333333333333\",5,0,false,null,"
    ++ "[[\"SELFDESTRUCT\",\"3333333333333333333333333333333333333333\","
    ++ "\"4444444444444444444444444444444444444444\",5],"
    ++ "[\"CALL\",\"1111111111111111111111111111111111111111\","
    ++ "\"3333333333333333333333333333333333333333\",20]]]"

open Chars (array quoted uniformAddress) in
/-- The characters of its trace. -/
def Executed.settledText : List Char :=
  array [quoted "CALL", uniformAddress '1', uniformAddress '3', ['5'], ['0'], "false".toList,
    "null".toList,
    array [array [quoted "SELFDESTRUCT", uniformAddress '3', uniformAddress '4', ['5']],
      array [quoted "CALL", uniformAddress '1', uniformAddress '3', ['2', '0']]]]

theorem Executed.texts_settled (fee : Uint256) :
    (settled fee).receipt = String.ofList ['\x7b', '\x7d'] ∧
      (settled fee).trace = String.ofList settledText := by
  have htrace : (settled 0).trace = String.ofList settledText := by decide +kernel
  exact ⟨rfl, htrace⟩

/-- The frames of its trace. -/
def Executed.settledFrames : List FlatFrame :=
  let caller : Address := .ofNat 20 0x1111111111111111111111111111111111111111
  let called : Address := .ofNat 20 0x3333333333333333333333333333333333333333
  [⟨"CALL", caller, some called, 5, 0, false, none⟩,
    ⟨"SELFDESTRUCT", called, some (.ofNat 20 0x4444444444444444444444444444444444444444), 5, 0,
      false, none⟩,
    ⟨"CALL", caller, some called, 20, 0, false, none⟩]

theorem Executed.finish_settledText :
    (CallFrame.reader.finish (Document.ofChars settledText)).toOption.map CallFrame.flatten
      = some settledFrames ∧
    ((Reader.finish Reader.json (Document.ofChars ['\x7b', '\x7d'])).toOption.isSome ∧
      (Reader.finish Reader.json (Document.ofChars settledText)).toOption.isSome) ∧
    (operationsOfFrames 2 settledFrames).toOption.isSome := by
  decide +kernel

/-- It can be told of whatever its fee: no fee enters what is read of its texts. -/
theorem Executed.exists_toRosetta_settled (fee : Uint256) :
    ∃ shown, (Executed.settled fee).toRosetta = .ok shown := by
  obtain ⟨hreceipt, htrace⟩ := texts_settled fee
  obtain ⟨hcalls, hjson, hops⟩ := finish_settledText
  obtain ⟨ops, hops⟩ := Option.isSome_iff_exists.mp hops
  obtain ⟨shown, -, hshown, -⟩ :=
    exists_toRosetta_ofList hreceipt htrace hcalls hjson (Except.toOption_eq_some.mp hops)
  exact ⟨shown, hshown⟩

/-- At `2 ^ 255` a debit can be read and a credit cannot, so it is the second operation that is told
of, in the second transaction. -/
theorem Balances.annotate_fails_by_fee_settled :
    let edge : Uint256 := .ofNat 256 (2 ^ 255)
    let op (amount : Amount) : Operation :=
      { index := 0, kind := OperationType.call, amount := some amount }
    (op (.credit edge)).change?.map Int256.toInt = none ∧
      (op (.debit edge)).change?.map Int256.toInt = some (-2 ^ 255) ∧
      ∃ modest lavish, (Executed.settled 21000).toRosetta = .ok modest ∧
        (Executed.settled edge).toRosetta = .ok lavish ∧
        (∃ rest, lavish.operations = (Executed.settled edge).feePair ++ rest ∧
          ∀ op ∈ rest, op.change?.isSome) ∧
        (∃ e, (annotate [] [modest, lavish]).2 = .error e) ∧
        ∀ e, (annotate [] [modest, lavish]).2 = .error e →
          e = .decode ("operation 1 of " ++ (Octets.ofNat 32 1).toHex
            ++ " has an unreadable amount") := by
  intro edge op
  obtain ⟨modest, hmodest⟩ := Executed.exists_toRosetta_settled 21000
  obtain ⟨lavish, hlavish⟩ := Executed.exists_toRosetta_settled edge
  obtain ⟨hamounts, htrace, hannotate⟩ := annotate_fails_by_fee
  have hcredit := (hamounts (op (.credit edge)) edge).1 rfl
  have hdebit := (hamounts (op (.debit edge)) edge).2 rfl
  obtain ⟨hfails, htells⟩ := hannotate [.settled 21000, .settled edge] [modest, lavish] []
    (.cons hmodest (.cons hlavish .nil))
  refine ⟨hcredit.trans (by decide), hdebit.trans (by decide), modest, lavish, hmodest, hlavish,
    htrace _ _ hlavish, hfails.mpr ⟨.settled edge, ?_, ?_⟩, fun e he => ?_⟩
  · exact List.mem_cons_of_mem _ List.mem_cons_self
  · show 2 ^ 255 ≤ edge.toNat
    decide
  · obtain ⟨front, tx, back, hsplit, -, hfee, rfl⟩ := htells e he
    rcases front with _ | ⟨first, front⟩
    · obtain ⟨rfl, -⟩ := List.cons.inj hsplit
      exact absurd hfee (by decide)
    obtain ⟨-, hsplit⟩ := List.cons.inj hsplit
    rcases front with _ | ⟨second, front⟩
    · obtain ⟨rfl, -⟩ := List.cons.inj hsplit
      rfl
    · obtain ⟨-, hsplit⟩ := List.cons.inj hsplit
      exact absurd hsplit.symm (List.append_ne_nil_of_right_ne_nil _ (List.cons_ne_nil _ _))

end PosvGateway
