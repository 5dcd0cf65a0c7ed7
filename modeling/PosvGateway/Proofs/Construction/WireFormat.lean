import PosvGateway.Proofs.Construction.Workflow
import PosvGateway.Proofs.Rlp.Unique

/-!
# Transactions have one form in bytes

Each of the two formats of a transaction spells it in one way only, and no bytes belong to both.

* `SignedTransaction.decode_encode_eq` : what is read from the bytes of a signed transaction depends
  on its recovery value alone;
* `SignedTransaction.not_decode_unsigned` : signed bytes are not read as unsigned ones;
* `SignedTransaction.canonical_signed` : **the format of signed transactions is canonical**, and the
  hash of a transaction is the digest of its bytes;
* `UnsignedTransaction.decode_strings_eq_ok` : which lists of byte strings are unsigned
  transactions;
* `UnsignedTransaction.canonical_unsigned` : **the format of unsigned transactions is canonical**:
  nothing is cut off, added or exchanged unnoticed.
-/

namespace PosvGateway

open Rlp (encodeString encodeList)

/-! ### Signed transactions -/

namespace SignedTransaction

/-- The recovery value tells a parity: it is one of the two of the older convention, or binds a
chain. -/
def TellsParity (tx : SignedTransaction) : Prop := tx.v = 27 ∨ tx.v = 28 ∨ 35 ≤ tx.v

instance (tx : SignedTransaction) : Decidable tx.TellsParity := inferInstanceAs (Decidable (_ ∨ _))

theorem parity_of_tells {tx : SignedTransaction} (h : tx.TellsParity) :
    ∃ odd, tx.parity = .ok odd := by
  rw [parity]
  split
  · exact ⟨_, rfl⟩
  · rename_i hold
    have hbinds : 35 ≤ tx.v := by
      rcases h with h | h | h
      · exact absurd (.inl h) hold
      · exact absurd (.inr h) hold
      · exact h
    rw [if_pos hbinds]
    exact ⟨_, rfl⟩

theorem parity_of_not_tells {tx : SignedTransaction} (h : ¬ tx.TellsParity) :
    tx.parity = .error (.invalidV tx.v) := by
  have hold : ¬ (tx.v = 27 ∨ tx.v = 28) := fun hv => h (hv.elim .inl fun hv => .inr (.inl hv))
  have hbinds : ¬ 35 ≤ tx.v := fun hv => h (.inr (.inr hv))
  rw [parity, if_neg hold, if_neg hbinds]

/-- The fields of a transaction are always read back. Only its recovery value may be refused. -/
theorem decode_encode_eq {tx : SignedTransaction} (h : tx.input.length < 2 ^ 63) :
    decode tx.encode = if tx.TellsParity then .ok tx else .error (.invalidV tx.v) := by
  have hrow : Rlp.decodeRow kinds tx.encode = .ok tx.row :=
    (Rlp.decodeRow_eq_ok kinds_proper).mpr ⟨length_fields_lt h, rfl⟩
  simp only [decode, hrow, ofRow_row]
  split
  · rename_i htells
    obtain ⟨odd, hodd⟩ := parity_of_tells htells
    rw [hodd]
    rfl
  · rename_i htells
    rw [parity_of_not_tells htells]
    rfl

/-- The bytes of a signed transaction are those of nine fields, and those of an unsigned one of
eight. -/
theorem not_decode_unsigned {bytes : Bytes} {tx : SignedTransaction} {e : UnsignedTransaction}
    (h : decode bytes = .ok tx) : UnsignedTransaction.decode bytes ≠ .ok e := by
  intro hunsigned
  obtain ⟨-, hlen, rfl⟩ := decode_eq_ok.mp h
  obtain ⟨hlen', heq⟩ := UnsignedTransaction.decode_eq_ok.mp hunsigned
  have hcount : kinds.length = UnsignedTransaction.kinds.length :=
    Rlp.length_eq_of_encodeRow_eq hlen hlen' heq
  exact absurd hcount (by decide)

/-- **The format of signed transactions is canonical.** A transaction is read back from its bytes if
its recovery value tells a parity, and refused for that value otherwise. Bytes that are read as a
transaction are its bytes, so they are the only ones that are, and their digest is its hash, however
they are spelled as text. No bytes are read as a signed and as an unsigned transaction. -/
theorem canonical_signed :
    (∀ tx : SignedTransaction, tx.input.length < 2 ^ 63 →
      decode tx.encode =
        if tx.v = 27 ∨ tx.v = 28 ∨ 35 ≤ tx.v then .ok tx else .error (.invalidV tx.v)) ∧
    (∀ bytes tx, decode bytes = .ok tx → tx.encode = bytes) ∧
    (∀ bytes bytes' tx, decode bytes = .ok tx → decode bytes' = .ok tx → bytes = bytes') ∧
    (∀ bytes tx, decode bytes = .ok tx →
      Construction.hash (Hex.encode bytes) = .ok (keccak256 bytes) ∧
        ∀ text, Hex.decodeRepeated text = .ok bytes →
          Construction.hash text = .ok (keccak256 bytes)) ∧
    (∀ bytes tx e, decode bytes = .ok tx → UnsignedTransaction.decode bytes ≠ .ok e) := by
  have hbytes : ∀ bytes tx, decode bytes = .ok tx → bytes = tx.encode :=
    fun bytes tx h => (decode_eq_ok.mp h).2.2
  refine ⟨fun tx h => decode_encode_eq h, fun bytes tx h => (hbytes bytes tx h).symm, ?_, ?_,
    fun bytes tx e h => not_decode_unsigned h⟩
  · intro bytes bytes' tx h h'
    rw [hbytes bytes tx h, hbytes bytes' tx h']
  · intro bytes tx h
    have hhash : ∀ text, Hex.decodeRepeated text = .ok bytes →
        Construction.hash text = .ok (keccak256 bytes) := by
      intro text htext
      refine Construction.hash_eq_ok.mpr
        ⟨tx, Construction.readSigned_eq_ok.mpr ⟨bytes, htext, h⟩, ?_⟩
      rw [hash, ← hbytes bytes tx h]
    exact ⟨hhash _ (Hex.decodeRepeated_encode bytes), hhash⟩

/-- The creation of a contract by 56 bytes of code, with any recovery value. -/
def creation (v : UInt64) : SignedTransaction where
  nonce := 0
  gasPrice := 1
  gasLimit := 53000
  recipient := none
  value := 0
  input := List.replicate 56 0x60
  v := v
  r := 1
  s := 1

/-- By either convention the creation is read back, from these bytes alone; by a recovery value
between the two it is not. -/
theorem canonical_signed_creation :
    (creation 27).input.length < 2 ^ 63 ∧ decode (creation 27).encode = .ok (creation 27) ∧
      decode (creation 211).encode = .ok (creation 211) ∧
      decode (creation 34).encode = .error (.invalidV 34) ∧
      (∀ bytes, decode bytes = .ok (creation 27) → bytes = (creation 27).encode) ∧
      Construction.hash (Hex.encode (creation 27).encode) = .ok (keccak256 (creation 27).encode) ∧
      ∀ e, UnsignedTransaction.decode (creation 27).encode ≠ .ok e := by
  obtain ⟨hread, -, honly, hhash, hother⟩ := canonical_signed
  have hinput : ∀ v, (creation v).input.length < 2 ^ 63 := fun v => (by decide : 56 < 2 ^ 63)
  have hold : decode (creation 27).encode = .ok (creation 27) := by
    rw [hread (creation 27) (hinput 27), if_pos (by decide)]
  refine ⟨hinput 27, hold, ?_, ?_, fun bytes h => honly _ _ _ h hold, (hhash _ _ hold).1,
    fun e => hother _ _ e hold⟩
  · rw [hread (creation 211) (hinput 211), if_pos (by decide)]
  · rw [hread (creation 34) (hinput 34), if_neg (by decide)]
    rfl

end SignedTransaction

/-! ### Unsigned transactions -/

namespace UnsignedTransaction

/-- The byte strings that spell an unsigned transaction, in order. -/
def strings (e : UnsignedTransaction) : List Bytes :=
  [e.sender.bytes, e.recipient.bytes, .ofNat e.value.toNat, e.input, .ofNat e.nonce.toNat,
    .ofNat e.gasPrice.toNat, .ofNat e.gasLimit.toNat, .ofNat e.chainId.toNat]

theorem payloads_row (e : UnsignedTransaction) : Rlp.payloads kinds e.row = e.strings := rfl

theorem decodeRow_of_decode {bytes : Bytes} {e : UnsignedTransaction}
    (h : decode bytes = .ok e) : Rlp.decodeRow kinds bytes = .ok e.row :=
  (Rlp.decodeRow_eq_ok kinds_proper).mpr (decode_eq_ok.mp h)

/-- Which lists of byte strings are an unsigned transaction: those that spell it, in order. -/
theorem decode_strings_eq_ok {strings : List Bytes} {e : UnsignedTransaction}
    (h : (strings.flatMap encodeString).length < 2 ^ 64) :
    decode (encodeList (strings.flatMap encodeString)) = .ok e ↔ strings = e.strings := by
  rw [← payloads_row, ← Rlp.decodeRow_strings_eq_ok kinds_proper h, decode_eq_ok]
  exact (Rlp.decodeRow_eq_ok kinds_proper).symm

/-- **The format of unsigned transactions is canonical.** A transaction is read back from its bytes,
and bytes that are read as a transaction are its bytes; so each has one spelling. What is read as a
transaction is no longer read as any when something is added behind it or behind its last field, or
when its end is cut off at either place. A list of byte strings is read as a transaction only if
they are the eight that spell it, none padded, left out, added or exchanged. -/
theorem canonical_unsigned :
    (∀ e : UnsignedTransaction, e.input.length < 2 ^ 63 → decode e.encode = .ok e) ∧
    (∀ bytes e, decode bytes = .ok e → e.encode = bytes) ∧
    (∀ e : UnsignedTransaction, e.input.length < 2 ^ 63 → ∃! bytes, decode bytes = .ok e) ∧
    (∀ bytes rest e e', decode bytes = .ok e → decode (bytes ++ rest) = .ok e' → rest = []) ∧
    (∀ fields rest e e', (fields ++ rest).length < 2 ^ 63 →
      decode (encodeList fields) = .ok e → decode (encodeList (fields ++ rest)) = .ok e' →
        rest = []) ∧
    (∀ strings e, (strings.flatMap encodeString).length < 2 ^ 63 →
      (decode (encodeList (strings.flatMap encodeString)) = .ok e ↔ strings = e.strings)) := by
  refine ⟨fun e h => decode_encode h, fun bytes e h => (decode_eq_ok.mp h).2.symm, ?_, ?_, ?_, ?_⟩
  · exact fun e h => ⟨e.encode, decode_encode h, fun bytes h' => (decode_eq_ok.mp h').2⟩
  · intro bytes rest e e' h h'
    exact Rlp.eq_nil_of_decodeRow_append kinds_proper (decodeRow_of_decode h)
      (decodeRow_of_decode h')
  · intro fields rest e e' hlen h h'
    exact Rlp.eq_nil_of_decodeRow_fields_append kinds_proper (by omega) (decodeRow_of_decode h)
      (decodeRow_of_decode h')
  · exact fun strings e hlen => decode_strings_eq_ok (by omega)

/-- A transfer with 56 bytes of input. -/
def memo : UnsignedTransaction where
  sender := .ofNat 20 0x11
  recipient := .ofNat 20 0x22
  value := 0
  input := List.replicate 56 0x60
  nonce := 7
  gasPrice := 250000000
  gasLimit := 21000
  chainId := 88

/-- The bytes of the transfer are read back. One byte more or less is refused, and so is a ninth
field; in the reverse order its fields are not those of the transfer. -/
theorem canonical_unsigned_memo :
    memo.input.length < 2 ^ 63 ∧ decode memo.encode = .ok memo ∧
      (∀ e, decode (memo.encode ++ [0]) ≠ .ok e) ∧ (∀ e, decode memo.encode.dropLast ≠ .ok e) ∧
      (∀ e, decode (encodeList (Rlp.encodeFields kinds memo.row ++ encodeString [])) ≠ .ok e) ∧
      decode (encodeList (memo.strings.reverse.flatMap encodeString)) ≠ .ok memo := by
  obtain ⟨hread, -, -, hend, hfields, hstrings⟩ := canonical_unsigned
  have hinput : memo.input.length < 2 ^ 63 := (by decide : 56 < 2 ^ 63)
  have hmemo := hread memo hinput
  refine ⟨hinput, hmemo, fun e h => ?_, fun e h => ?_, fun e h => ?_, fun h => ?_⟩
  · exact List.cons_ne_nil _ _ (hend _ _ _ _ hmemo h)
  · have hne : memo.encode ≠ [] := by decide +kernel
    rw [← List.dropLast_append_getLast hne] at hmemo
    exact List.cons_ne_nil _ _ (hend _ _ _ _ h hmemo)
  · exact List.cons_ne_nil _ _ (hfields _ _ _ _ (by decide +kernel) hmemo h)
  · exact absurd ((hstrings _ _ (by decide +kernel)).mp h) (by decide +kernel)

end UnsignedTransaction

end PosvGateway
