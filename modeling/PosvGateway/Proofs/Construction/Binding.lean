import PosvGateway.Proofs.Construction.Signing
import PosvGateway.Proofs.Rlp.Unique

/-!
# A signature binds every field

What is hashed for a signature is the list of the fields of a transaction, with the chain and two
zeros behind them where a chain is bound. No two transactions share such a list.

* `LegacyTransaction.signingBytes_inj` : the bytes that are signed tell every field, and whether a
  chain is bound and which;
* `SignedTransaction.signedBytes_attach` : attaching a signature does not change them;
* `SignedTransaction.signing_binds` : **two signed transactions share what was signed exactly when
  they agree on every field and on the chain**.
-/

namespace PosvGateway

/-! ### The fields of a transaction -/

namespace LegacyTransaction

variable {tx tx' : LegacyTransaction}

theorem kinds_proper : ∀ kind ∈ kinds, kind.Proper := by
  simp [kinds, Rlp.Kind.Proper]

theorem chainKinds_proper : ∀ kind ∈ chainKinds, kind.Proper := by
  simp [chainKinds, Rlp.Kind.Proper]

theorem length_fields_lt (h : tx.input.length < 2 ^ 63) :
    (Rlp.encodeFields kinds tx.row).length < 2 ^ 64 := by
  refine Rlp.length_encodeFields_lt ?_
  simp only [kinds, row, Rlp.room, Rlp.Kind.size?, Rlp.Kind.payload, Option.getD]
  omega

theorem length_chainFields_lt (h : tx.input.length < 2 ^ 63) (chain : UInt64) :
    (Rlp.encodeFields chainKinds (tx.chainRow chain)).length < 2 ^ 64 := by
  refine Rlp.length_encodeFields_lt ?_
  simp only [chainKinds, chainRow, Rlp.room, Rlp.Kind.size?, Rlp.Kind.payload, Option.getD]
  omega

theorem eq_of_row_eq (h : tx.row = tx'.row) : tx = tx' := by
  cases tx
  cases tx'
  cases h
  rfl

theorem eq_of_chainRow_eq {chain chain' : UInt64} (h : tx.chainRow chain = tx'.chainRow chain') :
    tx = tx' ∧ chain = chain' := by
  cases tx
  cases tx'
  cases h
  exact ⟨rfl, rfl⟩

theorem eq_iff :
    tx = tx' ↔ tx.nonce = tx'.nonce ∧ tx.gasPrice = tx'.gasPrice ∧ tx.gasLimit = tx'.gasLimit ∧
      tx.recipient = tx'.recipient ∧ tx.value = tx'.value ∧ tx.input = tx'.input := by
  cases tx
  cases tx'
  rw [mk.injEq]

/-- Six fields are signed where no chain is bound, and nine where one is. -/
theorem signingBytes_none_ne (h : tx.input.length < 2 ^ 63) (h' : tx'.input.length < 2 ^ 63)
    (chain : UInt64) : tx.signingBytes none ≠ tx'.signingBytes (some chain) := by
  intro heq
  have hcount : kinds.length = chainKinds.length :=
    Rlp.length_eq_of_encodeRow_eq (length_fields_lt h) (length_chainFields_lt h' chain) heq
  exact absurd hcount (by decide)

/-- **The bytes that are signed tell every field and the chain.** -/
theorem signingBytes_inj (h : tx.input.length < 2 ^ 63) (h' : tx'.input.length < 2 ^ 63)
    {chain chain' : Option UInt64} :
    tx.signingBytes chain = tx'.signingBytes chain' ↔ tx = tx' ∧ chain = chain' := by
  refine ⟨fun heq => ?_, fun ⟨htx, hchain⟩ => by rw [htx, hchain]⟩
  cases chain with
  | none =>
    cases chain' with
    | none =>
      have hrow : tx.row = tx'.row :=
        Rlp.encodeRow_inj kinds_proper (length_fields_lt h) (length_fields_lt h') heq
      exact ⟨eq_of_row_eq hrow, rfl⟩
    | some chain' => exact absurd heq (signingBytes_none_ne h h' chain')
  | some chain =>
    cases chain' with
    | none => exact absurd heq.symm (signingBytes_none_ne h' h chain)
    | some chain' =>
      have hrow : tx.chainRow chain = tx'.chainRow chain' :=
        Rlp.encodeRow_inj chainKinds_proper (length_chainFields_lt h chain)
          (length_chainFields_lt h' chain') heq
      obtain ⟨htx, hchain⟩ := eq_of_chainRow_eq hrow
      exact ⟨htx, congrArg some hchain⟩

end LegacyTransaction

/-! ### What is hashed -/

/-- The bytes whose digest the sender signs. -/
def UnsignedTransaction.signedBytes (e : UnsignedTransaction) : Bytes :=
  e.transaction.signingBytes (some e.chainId)

namespace SignedTransaction

/-- The bytes whose digest was signed. -/
def signedBytes (tx : SignedTransaction) : Bytes := tx.toLegacyTransaction.signingBytes tx.chainId

/-- What is signed does not change when the signature is attached. -/
theorem signedBytes_attach {e : UnsignedTransaction} {signature : Bytes} {tx : SignedTransaction}
    (hchain : 2 * e.chainId.toNat + 36 < 2 ^ 64) (h : attach e signature = .ok tx) :
    tx.signedBytes = e.signedBytes := by
  obtain ⟨-, odd, -, rfl⟩ := attach_eq_ok.mp h
  rw [signedBytes, chainId_of_v hchain rfl]
  rfl

/-- **A signature binds every field.** What is signed is the digest of the same bytes before and
after the signature is attached, on every chain whose recovery values fit in 64 bits. Two signed
transactions, of either convention, share these bytes exactly when they agree on every field that
the sender decides and on the chain, none being a chain of its own. -/
theorem signing_binds :
    (∀ tx : SignedTransaction, tx.signingDigest = keccak256 tx.signedBytes) ∧
    (∀ e : UnsignedTransaction, e.signingDigest = keccak256 e.signedBytes) ∧
    (∀ tx tx' : SignedTransaction, tx.input.length < 2 ^ 63 → tx'.input.length < 2 ^ 63 →
      (tx.signedBytes = tx'.signedBytes ↔
        tx.nonce = tx'.nonce ∧ tx.gasPrice = tx'.gasPrice ∧ tx.gasLimit = tx'.gasLimit ∧
          tx.recipient = tx'.recipient ∧ tx.value = tx'.value ∧ tx.input = tx'.input ∧
          tx.chainId = tx'.chainId)) ∧
    (∀ (e : UnsignedTransaction) signature tx, 2 * e.chainId.toNat + 36 < 2 ^ 64 →
      attach e signature = .ok tx → tx.signedBytes = e.signedBytes) := by
  refine ⟨fun _ => rfl, fun _ => rfl, fun tx tx' h h' => ?_, fun _ _ _ => signedBytes_attach⟩
  rw [signedBytes, signedBytes, LegacyTransaction.signingBytes_inj h h', LegacyTransaction.eq_iff]
  simp only [and_assoc]

/-- A signature of the first transfer is one on its chain alone. -/
theorem signing_binds_firstTransfer :
    Construction.firstTransfer.input.length < 2 ^ 63 ∧
      2 * Construction.firstTransfer.chainId.toNat + 36 < 2 ^ 64 ∧
      ∃ tx, attach Construction.firstTransfer Construction.firstSignature = .ok tx ∧
        tx.signedBytes = Construction.firstTransfer.signedBytes ∧
        { tx with v := 27 }.signedBytes ≠ tx.signedBytes ∧
        { tx with v := 27 }.signedBytes = { tx with v := 28 }.signedBytes := by
  obtain ⟨-, -, hbytes, hattached⟩ := signing_binds
  have hinput : Construction.firstTransfer.input.length < 2 ^ 63 := by decide
  have hchain : 2 * Construction.firstTransfer.chainId.toNat + 36 < 2 ^ 64 := by decide
  obtain ⟨tx, hattach⟩ :
      ∃ tx, attach Construction.firstTransfer Construction.firstSignature = .ok tx :=
    ⟨_, attach_eq_ok.mpr ⟨by decide, false, by decide, rfl⟩⟩
  obtain ⟨-, odd, -, htx⟩ := attach_eq_ok.mp hattach
  have hlen : tx.input.length < 2 ^ 63 := by rw [htx]; exact hinput
  have hbound : tx.chainId = some 88 := by rw [htx]; exact chainId_of_v hchain rfl
  have hfree : ∀ v, v = 27 ∨ v = 28 → { tx with v := v }.chainId = none := by
    rintro v (rfl | rfl) <;> rfl
  refine ⟨hinput, hchain, tx, hattach, hattached _ _ _ hchain hattach, fun h => ?_, ?_⟩
  · obtain ⟨-, -, -, -, -, -, h⟩ := (hbytes { tx with v := 27 } tx hlen hlen).mp h
    rw [hbound, hfree 27 (.inl rfl)] at h
    exact absurd h (by decide)
  · refine (hbytes { tx with v := 27 } { tx with v := 28 } hlen hlen).mpr
      ⟨rfl, rfl, rfl, rfl, rfl, rfl, ?_⟩
    rw [hfree 27 (.inl rfl), hfree 28 (.inr rfl)]

end SignedTransaction

end PosvGateway
