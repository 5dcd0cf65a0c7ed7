import PosvGateway.Proofs.Amount
import PosvGateway.Proofs.Hex
import PosvGateway.Construction.Transfer

/-!
# Transfers are read back

* `Transfer.operations_inj` : the operations of a movement tell who pays, who is paid, and what;
* `Transfer.ofOperations_eq_ok` : which operations are read as a transfer, and as which;
* `Transfer.ofOperations_operations` : **a transfer is read back from its operations**, if its value
  is a balance, as it is for every transfer that was read;
* `Transfer.Moves` : two operations move an amount from one account to another;
* `Transfer.accepted_operations` : **these are the operations that are accepted**, and the sum by
  which they are checked is exact.
-/

namespace PosvGateway

/-! ### Operations tell a movement -/

theorem Amount.debit_inj {v v' : Uint256} (h : Amount.debit v = Amount.debit v') : v = v' := by
  have hint : some (-(v.toNat : Int)) = some (-(v'.toNat : Int)) := by
    rw [← Amount.toInt?_debit, h, Amount.toInt?_debit]
  have hnat := Option.some.inj hint
  exact BitVec.eq_of_toNat_eq (by omega)

theorem AccountIdentifier.ofAddress_inj {a b : Address}
    (h : AccountIdentifier.ofAddress a = AccountIdentifier.ofAddress b) : a = b :=
  Address.checksum_inj (congrArg AccountIdentifier.address h)

/-- Balances of different signs add up to one, at the ends of their range, too. -/
theorem Int256.toInt_add_of_signs {debited credited : Int256} (hdebited : debited.toInt ≤ 0)
    (hcredited : 0 ≤ credited.toInt) :
    (debited + credited).toInt = debited.toInt + credited.toInt := by
  have hlow := debited.neg_bound_le_toInt
  have hhigh := credited.toInt_lt_bound
  rw [toInt_add, Int.bmod_eq_of_le (by omega) (by omega)]

namespace Transfer

/-- The operations of a movement tell who pays, who is paid, and what. -/
theorem operations_inj {sender sender' : Address} {recipient recipient' : Option Address}
    {value value' : Uint256}
    (h : operations sender recipient value = operations sender' recipient' value') :
    sender = sender' ∧ recipient = recipient' ∧ value = value' := by
  obtain ⟨hdebit, hcredit⟩ := List.cons.inj h
  have hsender := Option.some.inj (congrArg Operation.account hdebit)
  have hvalue := Option.some.inj (congrArg Operation.amount hdebit)
  refine ⟨AccountIdentifier.ofAddress_inj hsender, ?_, Amount.debit_inj hvalue⟩
  cases recipient with
  | none =>
    cases recipient' with
    | none => rfl
    | some _ => cases hcredit
  | some _ =>
    cases recipient' with
    | none => cases hcredit
    | some _ =>
      have haccount := congrArg Operation.account (List.cons.inj hcredit).1
      exact congrArg some (AccountIdentifier.ofAddress_inj (Option.some.inj haccount))

/-! ### Reading a transfer -/

theorem readAddress_eq_ok {what text : String} {address : Address} :
    readAddress what text = .ok address ↔ Address.read text = .ok address := by
  rw [readAddress]
  cases Address.read text <;> simp

theorem account_eq_ok {op : Operation} {address : Address} :
    account op = .ok address ↔
      ∃ identifier, op.account = some identifier ∧
        Address.read identifier.address = .ok address := by
  rw [account]
  cases op.account with
  | none => simp
  | some identifier => simp [readAddress_eq_ok]

theorem amount_eq_ok {what : String} {op : Operation} {value : Int256} :
    amount what op = .ok value ↔ op.change? = some value := by
  rw [amount]
  cases op.change? <;> simp

/-- Two amounts balance if the second is not below zero and the first is its opposite. -/
theorem balanced_iff {debited credited : Int256} :
    balanced debited credited = true ↔
      0 ≤ credited.toInt ∧ debited.toInt = -credited.toInt := by
  simp only [balanced, Bool.and_eq_true, Bool.not_eq_true', ← Bool.not_eq_true,
    Int256.isPositive_iff, Int256.isNegative_iff, Int256.isZero_iff, Int.not_lt]
  constructor
  · rintro ⟨⟨hdebit, hcredit⟩, hsum⟩
    rw [Int256.toInt_add_of_signs hdebit hcredit] at hsum
    omega
  · rintro ⟨hcredit, hopposite⟩
    have hdebit : debited.toInt ≤ 0 := by omega
    rw [Int256.toInt_add_of_signs hdebit hcredit]
    omega

/-- A transfer is read from two operations that may be parts of one, with opposite amounts. -/
theorem ofOperations_eq_ok {ops : List Operation} {t : Transfer} :
    ofOperations ops = .ok t ↔
      ∃ debit credit debited credited, ops = [debit, credit] ∧
        checkPart debit = .ok () ∧ checkPart credit = .ok () ∧
        debit.change? = some debited ∧ credit.change? = some credited ∧
        0 ≤ credited.toInt ∧ debited.toInt = -credited.toInt ∧
        account debit = .ok t.sender ∧ account credit = .ok t.recipient ∧
        t.value = credited.bits := by
  constructor
  · intro h
    unfold ofOperations at h
    split at h
    · rename_i debit credit
      simp only [Except.bind_eq_ok, amount_eq_ok] at h
      obtain ⟨⟨⟩, hdebit, ⟨⟩, hcredit, debited, hdebited, credited, hcredited, h⟩ := h
      split at h
      · rename_i hbalanced
        simp only [Except.bind_eq_ok] at h
        obtain ⟨sender, hsender, recipient, hrecipient, h⟩ := h
        obtain ⟨hpositive, hopposite⟩ := balanced_iff.mp hbalanced
        cases h
        exact ⟨debit, credit, debited, credited, rfl, hdebit, hcredit, hdebited, hcredited,
          hpositive, hopposite, hsender, hrecipient, rfl⟩
      · cases h
    · cases h
  · rintro ⟨debit, credit, debited, credited, rfl, hdebit, hcredit, hdebited, hcredited,
      hpositive, hopposite, hsender, hrecipient, hvalue⟩
    simp only [ofOperations, Except.bind_eq_ok, amount_eq_ok]
    refine ⟨(), hdebit, (), hcredit, debited, hdebited, credited, hcredited, ?_⟩
    rw [if_pos (balanced_iff.mpr ⟨hpositive, hopposite⟩)]
    simp only [Except.bind_eq_ok]
    exact ⟨t.sender, hsender, t.recipient, hrecipient, by rw [← hvalue]; rfl⟩

/-- The value of a transfer that was read is a balance. -/
theorem value_lt_bound {ops : List Operation} {t : Transfer} (h : ofOperations ops = .ok t) :
    t.value.toNat < Int256.bound := by
  obtain ⟨-, -, -, credited, -, -, -, -, -, hpositive, -, -, -, hvalue⟩ := ofOperations_eq_ok.mp h
  have hnat := Int256.toNat_bits hpositive
  have hhigh := credited.toInt_lt_bound
  have hbound := Int256.bound_eq
  rw [hvalue]
  omega

/-! ### Reading back -/

theorem account_ofAddress {op : Operation} {address : Address}
    (h : op.account = some (.ofAddress address)) : account op = .ok address :=
  account_eq_ok.mpr ⟨_, h, address.read_checksum⟩

/-- The operations of a movement are parts of a transfer, and their amounts are those of its value
where that is a balance. -/
theorem exists_operations_eq (sender recipient : Address) (value : Uint256) :
    ∃ debit credit, operations sender (some recipient) value = [debit, credit] ∧
      checkPart debit = .ok () ∧ checkPart credit = .ok () ∧
      debit.change? = Int256.ofInt? (-value.toNat) ∧ credit.change? = Int256.ofInt? value.toNat ∧
      account debit = .ok sender ∧ account credit = .ok recipient := by
  have hdebited := Numeral.readInt256?_signedDecimal (-(value.toNat : Int))
  have hcredited := Numeral.readInt256?_signedDecimal (value.toNat : Int)
  exact ⟨_, _, rfl, rfl, rfl, hdebited, hcredited, account_ofAddress rfl, account_ofAddress rfl⟩

/-- **A transfer is read back from its operations**, if its value is a balance. -/
theorem ofOperations_operations {t : Transfer} (h : t.value.toNat < Int256.bound) :
    ofOperations (operations t.sender (some t.recipient) t.value) = .ok t := by
  have hbound := Int256.bound_eq
  have hvalue : (t.value.toNat : Int) < 2 ^ 255 := by omega
  have hlow : -(2 : Int) ^ 255 ≤ -(t.value.toNat : Int) := by omega
  obtain ⟨debit, credit, hops, hdebit, hcredit, hdebited, hcredited, hsender, hrecipient⟩ :=
    exists_operations_eq t.sender t.recipient t.value
  rw [Int256.ofInt?_eq_some.mpr ⟨by omega, by omega, rfl⟩] at hdebited hcredited
  have hpositive : (Int256.wrap (t.value.toNat : Int)).toInt = t.value.toNat :=
    Int256.toInt_wrap (by omega) hvalue
  have hnegative : (Int256.wrap (-(t.value.toNat : Int))).toInt = -t.value.toNat :=
    Int256.toInt_wrap hlow (by omega)
  refine ofOperations_eq_ok.mpr ⟨_, _, _, _, hops, hdebit, hcredit, hdebited, hcredited, ?_, ?_,
    hsender, hrecipient, ?_⟩
  · rw [hpositive]
    exact Int.natCast_nonneg _
  · rw [hpositive, hnegative]
  · rw [Int256.wrap, BitVec.ofInt_natCast, BitVec.ofNat_toNat, BitVec.setWidth_eq]

/-! ### Accepted operations -/

/-- An operation takes part in a transfer: it changes the balance of an account by `change`. -/
structure Part (op : Operation) (account : Address) (change : Int) : Prop where
  kind : op.kind = "CALL"
  /-- Any amount there is counts the native currency. -/
  currency : ∀ amount, op.amount = some amount → amount.currency = ⟨"TOMO", 18⟩
  /-- The amount is read as a balance; where there is none, nothing changes. -/
  amount : match op.amount with
    | some amount => ∃ value, Numeral.readInt256? amount.value = some value ∧ value.toInt = change
    | none => change = 0
  account : ∃ identifier, op.account = some identifier ∧
    Address.read identifier.address = .ok account

/-- Two operations take from one account what they give to another. -/
def Moves (ops : List Operation) (sender recipient : Address) (credited : Int) : Prop :=
  ∃ debit credit debited, ops = [debit, credit] ∧ Part debit sender debited ∧
    Part credit recipient credited ∧ debited ≤ 0 ∧ 0 ≤ credited ∧ credited = -debited

theorem checkPart_eq_ok {op : Operation} :
    checkPart op = .ok () ↔
      op.kind = "CALL" ∧ ∀ amount, op.amount = some amount → amount.currency = ⟨"TOMO", 18⟩ := by
  rw [checkPart]
  split
  · rename_i hkind
    exact ⟨nofun, fun h => absurd h.1 hkind⟩
  · rename_i hkind
    have hcall : op.kind = "CALL" := Decidable.not_not.mp hkind
    split
    · rename_i amount hamount
      rw [hamount]
      split
      · rename_i hnative
        exact iff_of_true rfl ⟨hcall, fun _ h => Option.some.inj h ▸ hnative⟩
      · rename_i hforeign
        exact iff_of_false nofun fun h => hforeign (h.2 amount rfl)
    · rename_i hnone
      rw [hnone]
      exact iff_of_true rfl ⟨hcall, nofun⟩

/-- The change that an operation makes is the balance that its amount is read as. -/
theorem exists_change?_iff {op : Operation} {change : Int} :
    (∃ value, op.change? = some value ∧ value.toInt = change) ↔
      match op.amount with
      | some amount => ∃ value, Numeral.readInt256? amount.value = some value ∧ value.toInt = change
      | none => change = 0 := by
  rw [Operation.change?]
  cases op.amount with
  | some amount => rfl
  | none =>
    constructor
    · rintro ⟨value, hvalue, rfl⟩
      cases hvalue
      rfl
    · rintro rfl
      exact ⟨.zero, rfl, rfl⟩

theorem part_iff {op : Operation} {address : Address} {change : Int} :
    Part op address change ↔
      checkPart op = .ok () ∧ (∃ value, op.change? = some value ∧ value.toInt = change) ∧
        account op = .ok address := by
  rw [checkPart_eq_ok, exists_change?_iff, account_eq_ok]
  exact ⟨fun ⟨hkind, hcurrency, hamount, haccount⟩ => ⟨⟨hkind, hcurrency⟩, hamount, haccount⟩,
    fun ⟨⟨hkind, hcurrency⟩, hamount, haccount⟩ => ⟨hkind, hcurrency, hamount, haccount⟩⟩

theorem Part.lt_bound {op : Operation} {address : Address} {change : Int}
    (h : Part op address change) : change < 2 ^ 255 := by
  obtain ⟨-, ⟨value, -, rfl⟩, -⟩ := part_iff.mp h
  exact value.toInt_lt_bound

/-- A transfer is read from the operations that move its value. -/
theorem ofOperations_eq_ok_iff_moves {ops : List Operation} {t : Transfer} :
    ofOperations ops = .ok t ↔ Moves ops t.sender t.recipient t.value.toNat := by
  rw [ofOperations_eq_ok]
  constructor
  · rintro ⟨debit, credit, debited, credited, rfl, hdebit, hcredit, hdebited, hcredited, hpositive,
      hopposite, hsender, hrecipient, hvalue⟩
    have hnat : credited.toInt = t.value.toNat := by rw [hvalue, Int256.toNat_bits hpositive]
    exact ⟨debit, credit, debited.toInt, rfl, part_iff.mpr ⟨hdebit, ⟨_, hdebited, rfl⟩, hsender⟩,
      part_iff.mpr ⟨hcredit, ⟨_, hcredited, hnat⟩, hrecipient⟩, by omega, by omega, by omega⟩
  · rintro ⟨debit, credit, change, rfl, hpart, hpart', hnegative, hpositive, hopposite⟩
    obtain ⟨hdebit, ⟨debited, hdebited, rfl⟩, hsender⟩ := part_iff.mp hpart
    obtain ⟨hcredit, ⟨credited, hcredited, hnat⟩, hrecipient⟩ := part_iff.mp hpart'
    have hbits : (credited.bits.toNat : Int) = t.value.toNat := by
      rw [Int256.toNat_bits (by omega), hnat]
    exact ⟨debit, credit, debited, credited, rfl, hdebit, hcredit, hdebited, hcredited, by omega,
      by omega, hsender, hrecipient, BitVec.eq_of_toNat_eq (Int.natCast_inj.mp hbits.symm)⟩

/-- Operations that move an amount are read as the transfer of that. -/
theorem exists_of_moves {ops : List Operation} {sender recipient : Address} {credited : Int}
    (h : Moves ops sender recipient credited) :
    ∃ t, ofOperations ops = .ok t ∧ t.sender = sender ∧ t.recipient = recipient ∧
      (t.value.toNat : Int) = credited := by
  obtain ⟨debit, credit, debited, hops, hdebit, hcredit, hnegative, hpositive, hopposite⟩ := h
  have hbound := hcredit.lt_bound
  have hvalue : ((BitVec.ofNat 256 credited.toNat).toNat : Int) = credited := by
    rw [BitVec.toNat_ofNat, Nat.mod_eq_of_lt (by omega), Int.toNat_of_nonneg hpositive]
  refine ⟨{ sender, recipient, value := .ofNat 256 credited.toNat }, ?_, rfl, rfl, hvalue⟩
  refine ofOperations_eq_ok_iff_moves.mpr ?_
  rw [hvalue]
  exact ⟨debit, credit, debited, hops, hdebit, hcredit, hnegative, hpositive, hopposite⟩

theorem amount_eq_error {what : String} {op : Operation} (h : op.change? = none) :
    amount what op = .error (.malformedOperations ("unparseable " ++ what ++ " amount")) := by
  rw [amount, h]

section Refusals

variable {debit credit : Operation} (hdebit : checkPart debit = .ok ())
  (hcredit : checkPart credit = .ok ())

include hdebit hcredit

/-- The debit is read first. -/
theorem ofOperations_eq_error_of_debit (h : debit.change? = none) :
    ofOperations [debit, credit] = .error (.malformedOperations "unparseable debit amount") := by
  simp only [ofOperations, hdebit, hcredit, amount_eq_error h]
  rfl

theorem ofOperations_eq_error_of_credit {debited : Int256} (h : debit.change? = some debited)
    (h' : credit.change? = none) :
    ofOperations [debit, credit] = .error (.malformedOperations "unparseable credit amount") := by
  simp only [ofOperations, hdebit, hcredit, amount_eq_ok.mpr h, amount_eq_error h']
  rfl

end Refusals

/-- A movement of more than any balance is refused: at `2 ^ 255` only the debit is one. -/
theorem ofOperations_operations_error (sender recipient : Address) {value : Uint256}
    (h : 2 ^ 255 ≤ value.toNat) :
    ofOperations (operations sender (some recipient) value) = .error (.malformedOperations
      (if value.toNat = 2 ^ 255 then "unparseable credit amount"
        else "unparseable debit amount")) := by
  have hbound := Int256.bound_eq
  obtain ⟨debit, credit, hops, hdebit, hcredit, hdebited, hcredited, -, -⟩ :=
    exists_operations_eq sender recipient value
  rw [hops]
  have hunread : credit.change? = none := by
    rw [hcredited]
    exact Int256.ofInt?_eq_none (by omega)
  split
  · rename_i hedge
    rw [Int256.ofInt?_eq_some.mpr ⟨by omega, by omega, rfl⟩] at hdebited
    exact ofOperations_eq_error_of_credit hdebit hcredit hdebited hunread
  · rename_i hedge
    rw [Int256.ofInt?_eq_none (by omega)] at hdebited
    exact ofOperations_eq_error_of_debit hdebit hcredit hdebited

/-- **Exactly the operations that move an amount are accepted**, as the transfer of that amount. It
is below `2 ^ 255`, and so is every sum that the check forms. Of all movements that the gateway
writes itself, those of a balance are read back, and the others are refused. -/
theorem accepted_operations :
    (∀ ops t, ofOperations ops = .ok t ↔ Moves ops t.sender t.recipient t.value.toNat) ∧
    (∀ ops sender recipient credited, Moves ops sender recipient credited →
      credited < 2 ^ 255 ∧ ∃ t, ofOperations ops = .ok t ∧ t.sender = sender ∧
        t.recipient = recipient ∧ (t.value.toNat : Int) = credited) ∧
    (∀ debited credited : Int256, debited.isPositive = false → credited.isNegative = false →
      (debited + credited).toInt = debited.toInt + credited.toInt) ∧
    ∀ sender recipient value, ofOperations (operations sender (some recipient) value) =
      if value.toNat < 2 ^ 255 then .ok { sender, recipient, value }
      else .error (.malformedOperations
        (if value.toNat = 2 ^ 255 then "unparseable credit amount"
          else "unparseable debit amount")) := by
  refine ⟨fun ops t => ofOperations_eq_ok_iff_moves, fun ops sender recipient credited h => ?_,
    fun debited credited hdebited hcredited => ?_, fun sender recipient value => ?_⟩
  · obtain ⟨-, credit, -, -, -, hcredit, -⟩ := id h
    exact ⟨hcredit.lt_bound, exists_of_moves h⟩
  · rw [← Bool.not_eq_true, Int256.isPositive_iff, Int.not_lt] at hdebited
    rw [← Bool.not_eq_true, Int256.isNegative_iff, Int.not_lt] at hcredited
    exact Int256.toInt_add_of_signs hdebited hcredited
  · split
    · rename_i hbalance
      have hlt : value.toNat < Int256.bound := by
        have hbound := Int256.bound_eq
        omega
      exact ofOperations_operations (t := { sender, recipient, value }) hlt
    · rename_i hexcess
      exact ofOperations_operations_error sender recipient (Nat.not_lt.mp hexcess)

end Transfer

end PosvGateway
