import PosvGateway.Proofs.Construction.Course

/-!
# The suggested fee

The metadata of a transfer come with the fee to expect: the gas that the node estimates, at the
price in the metadata. Any price of 256 bits is accepted, and the product is one of 256 bits, too.

* `Uint256.toNat_ofNat_mul` : the product of 256 bits, as a remainder;
* `Factors` : the estimate and the price that a fee is the product of;
* `fee_of_metadata` : **the suggested fee is what the product leaves modulo `2 ^ 256`**, and so it
  is exact just where the product is below that;
* `fee_of_high_price` : a plain transfer at a price of `2 ^ 255` is said to cost nothing.
-/

namespace PosvGateway

/-! ### Products -/

theorem Uint256.toNat_ofNat_mul (gas : UInt64) (price : Uint256) :
    (BitVec.ofNat 256 gas.toNat * price).toNat = gas.toNat * price.toNat % 2 ^ 256 := by
  have hgas : gas.toNat < 2 ^ 256 := Nat.lt_trans gas.toNat_lt (by decide)
  rw [BitVec.toNat_mul, BitVec.toNat_ofNat, Nat.mod_eq_of_lt hgas]

namespace Construction

/-! ### What is multiplied -/

/-- The factors of the fee for some options: an estimate of gas, and the price in the metadata. -/
structure Factors (node : Node) (options : Options) (m : Metadata) (estimate : UInt64)
    (price : Uint256) : Prop where
  /-- The node estimates the gas of the transfer that the options describe. -/
  estimate : ∃ sender recipient amount asked, Address.read options.sender = .ok sender ∧
    Address.read options.recipient = .ok recipient ∧
    Numeral.readUint256 options.amount = .ok amount ∧
    Query.Answers node (Query.estimateGas
      { sender, recipient := some recipient, value := some amount }) estimate asked
  /-- The price is that of the options, and the node's where they have none. -/
  origin : match options.gasPrice with
    | some text => Numeral.readUint256 text = .ok price
    | none => ∃ asked, Query.Answers node Query.gasPrice price asked
  /-- The metadata tell the price. -/
  written : m.gasPrice = Numeral.hex price.toNat

/-- **The suggested fee is what the product leaves modulo `2 ^ 256`**: the product of the gas that
the node estimates and the price in the metadata. It is that product itself just where that is below
`2 ^ 256`. -/
theorem fee_of_metadata {options : Options} {node : Node} {m : Metadata} {fee : Amount}
    {asked : List Asked} (h : Step.Answers node (metadata options) (m, fee) asked) :
    ∃ estimate price, Factors node options m estimate price ∧ fee.currency = .native ∧
      fee.value = Numeral.decimal (estimate.toNat * price.toNat % 2 ^ 256) ∧
      (fee.value = Numeral.decimal (estimate.toNat * price.toNat) ↔
        estimate.toNat * price.toNat < 2 ^ 256) := by
  obtain ⟨sender, hsender, recipient, hrecipient, amount, hamount, nonce, price, limit, estimate,
    first, second, third, -, hprice, -, hestimate, rfl, rfl, -⟩ := answers_metadata_iff.mp h
  have hvalue : (Amount.credit (.ofNat 256 estimate.toNat * price)).value =
      Numeral.decimal (estimate.toNat * price.toNat % 2 ^ 256) :=
    congrArg Numeral.decimal (Uint256.toNat_ofNat_mul estimate price)
  refine ⟨estimate, price, ?_, rfl, hvalue, ?_⟩
  · exact {
      estimate := ⟨sender, recipient, amount, third, hsender, hrecipient, hamount, hestimate⟩
      origin := exists_answers_gasPrice hprice
      written := rfl }
  · rw [hvalue, ← Nat.mod_eq_iff_lt (Nat.two_pow_pos 256).ne']
    exact ⟨Numeral.decimal_inj, congrArg Numeral.decimal⟩

/-- The transfer of a hundred units at the node's own price. -/
theorem fee_of_metadata_hundredUnits :
    let options := optionsOf hundredUnitsTransfer none (some "0x7530")
    let m := metadataOf 9 250000000 30000
    let fee := Amount.credit (21000 * 250000000)
    ∃ asked, Step.Answers quotingNode (metadata options) (m, fee) asked ∧
      ∃ estimate price, Factors quotingNode options m estimate price ∧
        fee.value = Numeral.decimal (estimate.toNat * price.toNat % 2 ^ 256) := by
  intro options m fee
  obtain ⟨asked, hmetadata⟩ := answers_metadata_generous hundredUnitsTransfer
  obtain ⟨estimate, price, hfactors, -, hvalue, -⟩ := fee_of_metadata hmetadata
  exact ⟨asked, hmetadata, estimate, price, hfactors, hvalue⟩

/-- The transfer of a hundred units, for which the client offers `2 ^ 255` per unit of gas. -/
def dearOptions : Options :=
  optionsOf hundredUnitsTransfer
    (some "0x8000000000000000000000000000000000000000000000000000000000000000") none

/-- A plain transfer at a price of `2 ^ 255` is said to cost nothing. -/
theorem fee_of_high_price :
    let m := metadataOf 9 (2 ^ 255) 21000
    ∃ asked, Step.Answers quotingNode (metadata dearOptions) (m, .credit 0) asked ∧
      Factors quotingNode dearOptions m 21000 (2 ^ 255) ∧
      (Amount.credit 0).value = "0" ∧
      (Amount.credit 0).value ≠
        Numeral.decimal ((21000 : UInt64).toNat * (2 ^ 255 : Uint256).toNat) := by
  intro m
  obtain ⟨first, hnonce⟩ := answers_pendingNonce_quotingNode hundredUnitsTransfer.sender
  obtain ⟨third, hestimate⟩ := answers_estimateGas_quotingNode
    { sender := hundredUnitsTransfer.sender, recipient := some hundredUnitsTransfer.recipient,
      value := some hundredUnitsTransfer.value }
  have hprice : Numeral.readUint256
      "0x8000000000000000000000000000000000000000000000000000000000000000" = .ok (2 ^ 255) := by
    decide +kernel
  refine ⟨_, answers_metadata.mpr ⟨9, 2 ^ 255, 21000, 21000, first, [], third, hnonce,
    answers_gasPrice.mpr ⟨hprice, rfl⟩, rfl, hestimate, rfl, ?_, rfl⟩, ?_, rfl, ?_⟩
  · exact congrArg Amount.credit (by decide +kernel)
  · exact {
      estimate := ⟨_, _, _, third, Address.read_checksum _, Address.read_checksum _,
        Numeral.readUint256_decimal _, hestimate⟩
      origin := hprice
      written := rfl }
  · exact fun heq => absurd (Numeral.decimal_inj heq) (by decide +kernel)

end Construction

end PosvGateway
