import PosvGateway.Proofs.OrderedMap
import PosvGateway.Proofs.Construction.Transfer
import PosvGateway.Proofs.Construction.Signing

/-!
# What a description tells

A client that checks the description of a transaction before signing relies on it to tell what will
be signed.

* `describeNumbers_inj` : the metadata tell the numbers, as the operations tell the accounts and the
  value;
* `describeUnsigned_eq` : transactions described alike are the same, but for their input;
* `parse_tells_all_but_input` : **texts described alike spell such transactions**, and texts of such
  transactions are described alike;
* `parse_hides_input` : two texts described alike of which different bytes are signed.
-/

namespace PosvGateway

/-! ### Numbers -/

theorem Json.quantity_inj {n n' : UInt64} (h : Json.quantity n = Json.quantity n') : n = n' := by
  have hread := Quantity.read_write n
  rw [Json.string.inj h, Quantity.read_write] at hread
  exact (Except.ok.inj hread).symm

theorem Json.uint256_inj {v v' : Uint256} (h : Json.uint256 v = Json.uint256 v') : v = v' := by
  have hread := Numeral.readUint256_hex v
  rw [Json.string.inj h, Numeral.readUint256_hex] at hread
  exact (Except.ok.inj hread).symm

namespace Construction

/-- What is found in the metadata of a description. -/
theorem find?_describeNumbers (nonce : UInt64) (price : Uint256) (limit : UInt64)
    (chain : Option UInt64) :
    let numbers := describeNumbers nonce price limit chain
    numbers.find? "nonce" = some (.quantity nonce) ∧
      numbers.find? "gas_price" = some (.uint256 price) ∧
      numbers.find? "gas_limit" = some (.quantity limit) ∧
      numbers.find? "chain_id" = chain.map Json.quantity := by
  simp only [describeNumbers, OrderedMap.find?_ofList]
  cases chain <;> simp

/-- The metadata of a description tell its numbers. -/
theorem describeNumbers_inj {nonce nonce' : UInt64} {price price' : Uint256}
    {limit limit' : UInt64} {chain chain' : Option UInt64}
    (h : describeNumbers nonce price limit chain = describeNumbers nonce' price' limit' chain') :
    nonce = nonce' ∧ price = price' ∧ limit = limit' ∧ chain = chain' := by
  obtain ⟨hnonce, hprice, hlimit, hchain⟩ := find?_describeNumbers nonce price limit chain
  obtain ⟨hnonce', hprice', hlimit', hchain'⟩ := find?_describeNumbers nonce' price' limit' chain'
  rw [h] at hnonce hprice hlimit hchain
  refine ⟨Json.quantity_inj (Option.some.inj (hnonce.symm.trans hnonce')),
    Json.uint256_inj (Option.some.inj (hprice.symm.trans hprice')),
    Json.quantity_inj (Option.some.inj (hlimit.symm.trans hlimit')), ?_⟩
  exact Option.map_injective (fun _ _ => Json.quantity_inj) (hchain.symm.trans hchain')

/-! ### Unsigned transactions -/

/-- **Transactions are described alike if they are the same but for their input.** -/
theorem describeUnsigned_eq {e e' : UnsignedTransaction} :
    describeUnsigned e' = describeUnsigned e ↔ ∃ input, e' = { e with input := input } := by
  constructor
  · intro h
    have hoperations : Transfer.operations e'.sender (some e'.recipient) e'.value =
        Transfer.operations e.sender (some e.recipient) e.value :=
      congrArg Description.operations h
    have hmetadata : describeNumbers e'.nonce e'.gasPrice e'.gasLimit (some e'.chainId) =
        describeNumbers e.nonce e.gasPrice e.gasLimit (some e.chainId) :=
      congrArg Description.metadata h
    obtain ⟨hsender, hrecipient, hvalue⟩ := Transfer.operations_inj hoperations
    obtain ⟨hnonce, hprice, hlimit, hchain⟩ := describeNumbers_inj hmetadata
    rw [Option.some.injEq] at hrecipient hchain
    refine ⟨e'.input, ?_⟩
    rw [← hsender, ← hrecipient, ← hvalue, ← hnonce, ← hprice, ← hlimit, ← hchain]
  · rintro ⟨input, rfl⟩
    rfl

theorem parse_eq_ok {text : String} {chain : UInt64} {d : Description} :
    parse text false chain = .ok d ↔
      ∃ e, readUnsigned "transaction" text = .ok e ∧ e.chainId = chain ∧
        d = describeUnsigned e := by
  constructor
  · intro h
    rw [parse, if_neg Bool.false_ne_true] at h
    simp only [Except.bind_eq_ok, requireChain_eq_ok] at h
    obtain ⟨e, hread, -, hchain, h⟩ := h
    exact ⟨e, hread, hchain, (Except.ok.inj h).symm⟩
  · rintro ⟨e, hread, rfl, rfl⟩
    exact parse_unsigned hread

theorem parse_encode {e : UnsignedTransaction} (hinput : e.input.length < 2 ^ 63) :
    parse (Hex.encode e.encode) false e.chainId = .ok (describeUnsigned e) :=
  parse_unsigned (readUnsigned_encode hinput)

/-- **A description tells all but the input.** The texts with one description spell one transaction
but for its input, and no other texts do; and with any input that transaction has such a text. -/
theorem parse_tells_all_but_input {text : String} {chain : UInt64} {d : Description}
    (h : parse text false chain = .ok d) :
    ∃ e, readUnsigned "transaction" text = .ok e ∧
      (∀ text', parse text' false chain = .ok d ↔
        ∃ input, readUnsigned "transaction" text' = .ok { e with input := input }) ∧
      ∀ input : Bytes, input.length < 2 ^ 63 →
        parse (Hex.encode { e with input := input }.encode) false chain = .ok d := by
  obtain ⟨e, hread, rfl, rfl⟩ := parse_eq_ok.mp h
  refine ⟨e, hread, fun text' => ?_, fun input hinput => parse_encode hinput⟩
  rw [parse_eq_ok]
  constructor
  · rintro ⟨e', hread', -, hd⟩
    obtain ⟨input, rfl⟩ := describeUnsigned_eq.mp hd.symm
    exact ⟨input, hread'⟩
  · rintro ⟨input, hread'⟩
    exact ⟨_, hread', rfl, (describeUnsigned_eq.mpr ⟨input, rfl⟩).symm⟩

/-- A transfer that asks its recipient for something. -/
def callingTransfer : UnsignedTransaction :=
  { firstTransfer with input := [0xde, 0xad, 0xbe, 0xef] }

/-- The description of a plain transfer leaves the input of one that was asked for open. -/
theorem parse_tells_all_but_input_firstTransfer :
    parse (Hex.encode firstTransfer.encode) false 88 = .ok (describeUnsigned firstTransfer) ∧
      callingTransfer.input.length < 2 ^ 63 ∧
      ∃ e, readUnsigned "transaction" (Hex.encode firstTransfer.encode) = .ok e ∧
        parse (Hex.encode { e with input := callingTransfer.input }.encode) false 88 =
          .ok (describeUnsigned firstTransfer) := by
  have hparse : parse (Hex.encode firstTransfer.encode) false 88 =
      .ok (describeUnsigned firstTransfer) := parse_encode (e := firstTransfer) (by decide)
  have hlength : callingTransfer.input.length < 2 ^ 63 := by decide
  obtain ⟨e, hread, -, hinputs⟩ := parse_tells_all_but_input hparse
  exact ⟨hparse, hlength, e, hread, hinputs callingTransfer.input hlength⟩

/-- **A description hides an input.** The texts of two transactions are described alike, but not the
same bytes are signed for them. -/
theorem parse_hides_input :
    parse (Hex.encode firstTransfer.encode) false 88 = .ok (describeUnsigned firstTransfer) ∧
      parse (Hex.encode callingTransfer.encode) false 88 = .ok (describeUnsigned firstTransfer) ∧
      readUnsigned "transaction" (Hex.encode firstTransfer.encode) = .ok firstTransfer ∧
      readUnsigned "transaction" (Hex.encode callingTransfer.encode) = .ok callingTransfer ∧
      callingTransfer ≠ firstTransfer ∧
      callingTransfer.transaction.signingBytes (some 88) ≠
        firstTransfer.transaction.signingBytes (some 88) := by
  refine ⟨parse_encode (e := firstTransfer) (by decide),
    parse_encode (e := callingTransfer) (by decide), readUnsigned_encode (by decide),
    readUnsigned_encode (by decide), fun heq => ?_, by decide⟩
  exact absurd (congrArg UnsignedTransaction.input heq) (by decide)

end Construction

end PosvGateway
