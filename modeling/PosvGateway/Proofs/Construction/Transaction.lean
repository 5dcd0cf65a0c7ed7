import PosvGateway.Proofs.Rlp.Field
import PosvGateway.Construction.Transaction

/-!
# Transactions are read back

* `UnsignedTransaction.decode_eq_ok`, `SignedTransaction.decode_eq_ok` : the bytes of a transaction
  are read as that transaction, and no other bytes are;
* `SignedTransaction.chainId_of_v`, `SignedTransaction.parity_of_v` : a recovery value tells the
  chain and the parity it was made of, on every chain whose recovery values fit in 64 bits;
* `SignedTransaction.sender_attach` : the sender of a transaction with an attached signature is the
  signer of what the unsigned transaction asked to sign.
-/

namespace PosvGateway

/-! ### Signatures -/

namespace Signature

theorem words_congr {a b : Bytes} (h : a.take 64 = b.take 64) :
    a.take 32 = b.take 32 ∧ (a.drop 32).take 32 = (b.drop 32).take 32 := by
  have hr := congrArg (List.take 32) h
  have hs := congrArg (List.drop 32) h
  rw [List.take_take, List.take_take] at hr
  rw [List.drop_take, List.drop_take] at hs
  exact ⟨hr, hs⟩

/-- A signature counts by its first 64 bytes and the parity that its recovery byte tells. -/
theorem signer_congr {digest : Digest} {a b : Bytes} {odd : Bool} (ha : a.length = size)
    (hb : b.length = size) (hfront : a.take 64 = b.take 64)
    (hodda : parity? (a.getLastD 0) = some odd) (hoddb : parity? (b.getLastD 0) = some odd) :
    signer digest a = signer digest b := by
  obtain ⟨hr, hs⟩ := words_congr hfront
  simp only [signer, signerKey, ha, hb, hodda, hoddb, hr, hs]

theorem parity?_bit (odd : Bool) : parity? (if odd then 1 else 0) = some odd := by
  cases odd <;> rfl

theorem mem_of_parity? {byte : UInt8} {odd : Bool} (h : parity? byte = some odd) :
    byte ∈ ([0, 1, 27, 28] : List UInt8) := by
  rw [parity?] at h
  split at h
  · rename_i hbyte
    rcases hbyte with rfl | rfl <;> decide
  split at h
  · rename_i hbyte
    rcases hbyte with rfl | rfl <;> decide
  · cases h

/-- A signature with a signer has its length and a recovery byte of one of the conventions. -/
theorem parity?_of_signer {digest : Digest} {signature : Bytes} {address : Address}
    (h : signer digest signature = .ok address) :
    ∃ odd, signature.length = size ∧ parity? (signature.getLastD 0) = some odd := by
  obtain ⟨key, hkey, -⟩ := Except.map_eq_ok.mp h
  rw [signerKey] at hkey
  split at hkey
  · cases hkey
  rename_i hlen
  simp only at hkey
  split at hkey
  · cases hkey
  rename_i odd hparity
  exact ⟨odd, Decidable.not_not.mp hlen, hparity⟩

end Signature

/-! ### Unsigned transactions -/

namespace UnsignedTransaction

theorem kinds_proper : ∀ kind ∈ kinds, kind.Proper := by
  simp [kinds, Rlp.Kind.Proper]

theorem ofRow_row (e : UnsignedTransaction) : ofRow e.row = e := rfl

theorem row_ofRow (row : Rlp.Row kinds) : (ofRow row).row = row := rfl

/-- **An unsigned transaction has one form in bytes.** -/
theorem decode_eq_ok {bytes : Bytes} {e : UnsignedTransaction} :
    decode bytes = .ok e ↔
      (Rlp.encodeFields kinds e.row).length < 2 ^ 64 ∧ bytes = e.encode := by
  rw [encode, ← Rlp.decodeRow_eq_ok kinds_proper, decode]
  cases h : Rlp.decodeRow kinds bytes with
  | error f => simp
  | ok row =>
    simp only [Except.ok.injEq]
    exact ⟨fun heq => by rw [← heq, row_ofRow], fun heq => by rw [heq, ofRow_row]⟩

theorem length_input_le (e : UnsignedTransaction) : e.input.length ≤ e.encode.length := by
  have hinput : e.input.length ≤ (Rlp.Kind.bytes.encode e.input).length :=
    Rlp.length_le_encodeString e.input
  have hfields : ((Rlp.Kind.bytes).encode e.input).length
      ≤ (Rlp.encodeFields kinds e.row).length := by
    simp only [kinds, row, Rlp.encodeFields, List.length_append]
    omega
  rw [encode, Rlp.encodeRow, Rlp.encodeList, List.length_append]
  exact Nat.le_trans hinput (Nat.le_trans hfields (Nat.le_add_left _ _))

/-- The fields of a transaction fit in a list unless its input is enormous. -/
theorem length_fields_lt {e : UnsignedTransaction} (h : e.input.length < 2 ^ 63) :
    (Rlp.encodeFields kinds e.row).length < 2 ^ 64 := by
  refine Rlp.length_encodeFields_lt ?_
  simp only [kinds, row, Rlp.room, Rlp.Kind.size?, Rlp.Kind.payload, Option.getD]
  omega

/-- **An unsigned transaction is read back from its bytes.** -/
theorem decode_encode {e : UnsignedTransaction} (h : e.input.length < 2 ^ 63) :
    decode e.encode = .ok e :=
  decode_eq_ok.mpr ⟨length_fields_lt h, rfl⟩

end UnsignedTransaction

/-! ### Signed transactions -/

namespace SignedTransaction

theorem kinds_proper : ∀ kind ∈ kinds, kind.Proper := by
  simp [kinds, Rlp.Kind.Proper]

theorem ofRow_row (tx : SignedTransaction) : ofRow tx.row = tx := rfl

theorem row_ofRow (row : Rlp.Row kinds) : (ofRow row).row = row := rfl

/-- **A signed transaction has one form in bytes**, and a recovery value that tells a parity. -/
theorem decode_eq_ok {bytes : Bytes} {tx : SignedTransaction} :
    decode bytes = .ok tx ↔
      (∃ odd, tx.parity = .ok odd) ∧ (Rlp.encodeFields kinds tx.row).length < 2 ^ 64 ∧
        bytes = tx.encode := by
  rw [encode, ← Rlp.decodeRow_eq_ok kinds_proper, decode]
  cases h : Rlp.decodeRow kinds bytes with
  | error f => simp
  | ok row =>
    simp only [Except.bind_eq_ok, Except.ok.injEq]
    constructor
    · rintro ⟨odd, hodd, heq⟩
      obtain rfl : ofRow row = tx := Except.ok.inj heq
      exact ⟨⟨odd, hodd⟩, rfl⟩
    · rintro ⟨⟨odd, hodd⟩, rfl⟩
      exact ⟨odd, hodd, rfl⟩

/-- The fields of a transaction fit in a list unless its input is enormous. -/
theorem length_fields_lt {tx : SignedTransaction} (h : tx.input.length < 2 ^ 63) :
    (Rlp.encodeFields kinds tx.row).length < 2 ^ 64 := by
  refine Rlp.length_encodeFields_lt ?_
  simp only [kinds, row, Rlp.room, Rlp.Kind.size?, Rlp.Kind.payload, Option.getD]
  omega

/-! ### Recovery values -/

variable {chain : UInt64} {odd : Bool} {tx : SignedTransaction}

theorem toNat_recoveryValue (hchain : 2 * chain.toNat + 36 < 2 ^ 64) :
    (recoveryValue chain odd).toNat = 2 * chain.toNat + 35 + odd.toNat := by
  cases odd <;> simp [recoveryValue, UInt64.toNat_add, UInt64.toNat_mul] <;> omega

theorem le_recoveryValue (hchain : 2 * chain.toNat + 36 < 2 ^ 64) :
    35 ≤ recoveryValue chain odd := by
  rw [UInt64.le_iff_toNat_le, toNat_recoveryValue hchain]
  simp only [UInt64.reduceToNat]
  omega

theorem toNat_recoveryValue_sub (hchain : 2 * chain.toNat + 36 < 2 ^ 64) :
    (recoveryValue chain odd - 35).toNat = 2 * chain.toNat + odd.toNat := by
  rw [UInt64.toNat_sub_of_le _ _ (le_recoveryValue hchain), toNat_recoveryValue hchain]
  simp only [UInt64.reduceToNat]
  omega

/-- **The chain comes back out of the recovery value.** -/
theorem chainId_of_v (hchain : 2 * chain.toNat + 36 < 2 ^ 64)
    (hv : tx.v = recoveryValue chain odd) : tx.chainId = some chain := by
  have hodd : odd.toNat < 2 := Bool.toNat_lt odd
  have hhalf : (recoveryValue chain odd - 35) / 2 = chain := by
    rw [← UInt64.toNat_inj, UInt64.toNat_div, toNat_recoveryValue_sub hchain]
    simp only [UInt64.reduceToNat]
    omega
  rw [chainId, hv, if_pos (le_recoveryValue hchain), hhalf]

/-- **The parity comes back out of the recovery value.** -/
theorem parity_of_v (hchain : 2 * chain.toNat + 36 < 2 ^ 64)
    (hv : tx.v = recoveryValue chain odd) : tx.parity = .ok odd := by
  -- Only the older convention uses 27 and 28, and no chain reaches down to them.
  have hold : ¬ (recoveryValue chain odd = 27 ∨ recoveryValue chain odd = 28) := by
    rw [← UInt64.toNat_inj, ← UInt64.toNat_inj, toNat_recoveryValue hchain]
    simp only [UInt64.reduceToNat]
    omega
  have hbit : (recoveryValue chain odd - 35) % 2 = 1 ↔ odd = true := by
    rw [← UInt64.toNat_inj, UInt64.toNat_mod, toNat_recoveryValue_sub hchain]
    cases odd <;> simp
  rw [parity, hv, if_neg hold, if_pos (le_recoveryValue hchain)]
  simp only [hbit, Bool.decide_eq_true]

/-! ### Attached signatures -/

variable {e : UnsignedTransaction} {signature : Bytes}

theorem attach_eq_ok :
    attach e signature = .ok tx ↔
      signature.length = Signature.size ∧
      ∃ odd, Signature.parity? (signature.getLastD 0) = some odd ∧
        tx = { e.transaction with
               v := recoveryValue e.chainId odd
               r := .ofNat 256 (Bytes.toNat (signature.take 32))
               s := .ofNat 256 (Bytes.toNat ((signature.drop 32).take 32)) } := by
  rw [attach]
  split
  · rename_i hlen
    simp [hlen]
  · rename_i hlen
    simp only
    cases hparity : Signature.parity? (signature.getLastD 0) with
    | none => simp
    | some odd =>
      simp only [Except.ok.injEq, Option.some.injEq, exists_eq_left', eq_comm (a := tx)]
      exact ⟨fun h => ⟨Decidable.not_not.mp hlen, h⟩, fun h => h.2⟩

theorem ofNatSized_word {bytes : Bytes} (h : bytes.length = 32) :
    Bytes.ofNatSized 32 (BitVec.ofNat 256 (Bytes.toNat bytes)).toNat = bytes := by
  have hlt : Bytes.toNat bytes < 2 ^ 256 := by
    have := Bytes.toNat_lt bytes
    rwa [h] at this
  rw [BitVec.toNat_ofNat, Nat.mod_eq_of_lt hlt, ← h, Bytes.ofNatSized_toNat]

/-- The signature of a transaction is the one that was attached, but for the convention of its
recovery byte. -/
theorem signature_attach (h : attach e signature = .ok tx) :
    tx.signature odd = signature.take 64 ++ [if odd then 1 else 0] := by
  obtain ⟨hlen, odd', -, rfl⟩ := attach_eq_ok.mp h
  rw [Signature.size] at hlen
  have hr : (signature.take 32).length = 32 := by
    rw [List.length_take]
    omega
  have hs : ((signature.drop 32).take 32).length = 32 := by
    rw [List.length_take, List.length_drop]
    omega
  simp only [SignedTransaction.signature]
  rw [ofNatSized_word hr, ofNatSized_word hs, ← List.take_add]

/-- What is signed does not change when the signature is attached. -/
theorem signingDigest_attach (hchain : 2 * e.chainId.toNat + 36 < 2 ^ 64)
    (h : attach e signature = .ok tx) : tx.signingDigest = e.signingDigest := by
  obtain ⟨-, odd, -, rfl⟩ := attach_eq_ok.mp h
  rw [signingDigest, chainId_of_v hchain rfl]
  rfl

/-- **The sender of a transaction is the signer of what the unsigned one asked to sign.** -/
theorem sender_attach (hchain : 2 * e.chainId.toNat + 36 < 2 ^ 64)
    (h : attach e signature = .ok tx) :
    tx.sender = Signature.signer e.signingDigest signature := by
  obtain ⟨hlen, odd, hodd, htx⟩ := attach_eq_ok.mp h
  have hparity : tx.parity = .ok odd := parity_of_v hchain (by rw [htx])
  have hfront : (signature.take 64).length = 64 := by
    rw [List.length_take, hlen]
    rfl
  rw [sender, hparity, signingDigest_attach hchain h]
  -- Both signatures have the same two words and the same parity.
  refine Signature.signer_congr ?_ hlen ?_ ?_ hodd
  · rw [signature_attach h, List.length_append, hfront]
    rfl
  · rw [signature_attach h, List.take_left' hfront]
  · rw [signature_attach h, List.getLastD_concat, Signature.parity?_bit]

/-- **A transaction with an attached signature is read back from its bytes.** -/
theorem decode_attach (hchain : 2 * e.chainId.toNat + 36 < 2 ^ 64)
    (hinput : e.input.length < 2 ^ 63) (h : attach e signature = .ok tx) :
    decode tx.encode = .ok tx := by
  obtain ⟨-, odd, -, rfl⟩ := attach_eq_ok.mp h
  exact decode_eq_ok.mpr ⟨⟨odd, parity_of_v hchain rfl⟩, length_fields_lt hinput, rfl⟩

end SignedTransaction

end PosvGateway
