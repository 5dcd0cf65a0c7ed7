import PosvGateway.Proofs.Construction.Transaction
import PosvGateway.Proofs.Construction.Transfer
import PosvGateway.Proofs.Hex
import PosvGateway.Construction.Workflow

/-!
# What the steps of a construction accept

For each step that may fail, exactly when it gives a result, and which.

* `readUnsigned_eq_ok`, `readSigned_eq_ok` : which texts are read as transactions;
* `unsigned_eq_ok` : which operations are turned into a transaction, and into which;
* `combine_eq_ok` : which signatures are attached to which transactions;
* `hash_eq_ok` : which texts have a hash;
* `readUnsigned_encode`, `readSigned_encode` : the texts that are written are read back.
-/

namespace PosvGateway.Construction

/-! ### Reading -/

theorem readBytes_eq_ok {what text : String} {bytes : Bytes} :
    readBytes what text = .ok bytes ↔ Hex.decodeRepeated text = .ok bytes := by
  rw [readBytes]
  cases Hex.decodeRepeated text <;> simp

theorem readUnsigned_eq_ok {what text : String} {e : UnsignedTransaction} :
    readUnsigned what text = .ok e ↔
      ∃ bytes, Hex.decodeRepeated text = .ok bytes ∧ UnsignedTransaction.decode bytes = .ok e := by
  simp only [readUnsigned, Except.bind_eq_ok, Except.mapError_eq_ok, readBytes_eq_ok]

theorem readSigned_eq_ok {what text : String} {tx : SignedTransaction} :
    readSigned what text = .ok tx ↔
      ∃ bytes, Hex.decodeRepeated text = .ok bytes ∧ SignedTransaction.decode bytes = .ok tx := by
  simp only [readSigned, Except.bind_eq_ok, Except.mapError_eq_ok, readBytes_eq_ok]

theorem readSignature_singleton {signed : SignedPayload} {bytes : Bytes} :
    readSignature [signed] = .ok bytes ↔
      Hex.decodeRepeated signed.hexBytes = .ok bytes ∧ bytes.length = Signature.size := by
  simp only [readSignature, Except.bind_eq_ok, readBytes_eq_ok]
  constructor
  · rintro ⟨bytes', hread, h⟩
    split at h
    · rename_i hlen
      cases h
      exact ⟨hread, hlen⟩
    · cases h
  · rintro ⟨hread, hlen⟩
    exact ⟨bytes, hread, if_pos hlen⟩

theorem requireChain_eq_ok {transaction network : UInt64} {u : Unit} :
    requireChain transaction network = .ok u ↔ transaction = network := by
  rw [requireChain]
  split <;> simp_all

/-! ### From operations to a transaction -/

/-- What is read from operations and metadata: a call that moves an amount between the accounts of
two operations, without input, for the chain that was asked for. -/
theorem unsigned_eq_ok {operations : List Operation} {metadata : Metadata} {chain : UInt64}
    {e : UnsignedTransaction} (h : unsigned operations metadata chain = .ok e) :
    e.chainId = chain ∧ e.input = [] ∧ ∃ debit credit, operations = [debit, credit] ∧
      Transfer.account debit = .ok e.sender ∧ Transfer.account credit = .ok e.recipient := by
  simp only [unsigned, Except.bind_eq_ok] at h
  obtain ⟨transfer, htransfer, nonce, -, price, -, limit, -, h⟩ := h
  cases h
  obtain ⟨debit, credit, -, -, hoperations, -, -, -, -, -, -, hsender, hrecipient, -⟩ :=
    Transfer.ofOperations_eq_ok.mp htransfer
  exact ⟨rfl, rfl, debit, credit, hoperations, hsender, hrecipient⟩

/-! ### Attaching a signature -/

theorem attach_eq_ok {e : UnsignedTransaction} {signature : Bytes} {tx : SignedTransaction} :
    attach e signature = .ok tx ↔
      SignedTransaction.attach e signature = .ok tx ∧ tx.sender = .ok e.sender := by
  simp only [attach, Except.bind_eq_ok, Except.mapError_eq_ok]
  constructor
  · rintro ⟨tx', hattach, recovered, hsender, h⟩
    split at h
    · rename_i heq
      cases h
      exact ⟨hattach, heq ▸ hsender⟩
    · cases h
  · rintro ⟨hattach, hsender⟩
    exact ⟨tx, hattach, e.sender, hsender, if_pos rfl⟩

/-- A signature is attached exactly when it is the sender's signature of what the transaction asks
to sign. -/
theorem exists_attach {e : UnsignedTransaction} {signature : Bytes}
    (hchain : 2 * e.chainId.toNat + 36 < 2 ^ 64) :
    (∃ tx, attach e signature = .ok tx) ↔
      Signature.signer e.signingDigest signature = .ok e.sender := by
  simp only [attach_eq_ok]
  constructor
  · rintro ⟨tx, hattach, hsender⟩
    rwa [← SignedTransaction.sender_attach hchain hattach]
  · intro h
    obtain ⟨odd, hlen, hparity⟩ := Signature.parity?_of_signer h
    refine ⟨_, SignedTransaction.attach_eq_ok.mpr ⟨hlen, odd, hparity, rfl⟩, ?_⟩
    rw [SignedTransaction.sender_attach hchain
      (SignedTransaction.attach_eq_ok.mpr ⟨hlen, odd, hparity, rfl⟩), h]

theorem combine_eq_ok {text s : String} {signatures : List SignedPayload} {chain : UInt64} :
    combine text signatures chain = .ok s ↔
      ∃ e signature tx, readUnsigned "unsigned_transaction" text = .ok e ∧
        readSignature signatures = .ok signature ∧ e.chainId = chain ∧
        attach e signature = .ok tx ∧ s = Hex.encode tx.encode := by
  simp only [combine, Except.bind_eq_ok, requireChain_eq_ok]
  constructor
  · rintro ⟨e, hread, signature, hsignature, -, hchain, tx, hattach, h⟩
    cases h
    exact ⟨e, signature, tx, hread, hsignature, hchain, hattach, rfl⟩
  · rintro ⟨e, signature, tx, hread, hsignature, hchain, hattach, rfl⟩
    exact ⟨e, hread, signature, hsignature, (), hchain, tx, hattach, rfl⟩

/-- A text has the hash of the transaction that is read from it. -/
theorem hash_eq_ok {text : String} {digest : Digest} :
    hash text = .ok digest ↔
      ∃ tx, readSigned "signed_transaction" text = .ok tx ∧ digest = tx.hash := by
  simp only [hash, Except.bind_eq_ok]
  constructor
  · rintro ⟨tx, hread, h⟩
    cases h
    exact ⟨tx, hread, rfl⟩
  · rintro ⟨tx, hread, rfl⟩
    exact ⟨tx, hread, rfl⟩

/-- The text of an unsigned transaction is read back. -/
theorem readUnsigned_encode {what : String} {e : UnsignedTransaction}
    (hinput : e.input.length < 2 ^ 63) : readUnsigned what (Hex.encode e.encode) = .ok e :=
  readUnsigned_eq_ok.mpr
    ⟨e.encode, Hex.decodeRepeated_encode _, UnsignedTransaction.decode_encode hinput⟩

/-- The text that is written with a signature is read back. -/
theorem readSigned_encode {what : String} {e : UnsignedTransaction} {signature : Bytes}
    {tx : SignedTransaction} (hchain : 2 * e.chainId.toNat + 36 < 2 ^ 64)
    (hinput : e.input.length < 2 ^ 63) (h : SignedTransaction.attach e signature = .ok tx) :
    readSigned what (Hex.encode tx.encode) = .ok tx :=
  readSigned_eq_ok.mpr
    ⟨tx.encode, Hex.decodeRepeated_encode _, SignedTransaction.decode_attach hchain hinput h⟩

end PosvGateway.Construction
