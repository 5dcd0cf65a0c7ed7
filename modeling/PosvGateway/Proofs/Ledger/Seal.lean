import Mathlib.Data.List.DropRight
import PosvGateway.Ledger.Seal
import PosvGateway.Proofs.Outcome
import PosvGateway.Proofs.Rlp.Unique

/-!
# What a seal covers

The sealer of a block signs a list of fifteen fields: those of the header but its hash, with the
extra data cut off in front of the seal. The seal is the last 65 bytes of the extra data
(`List.rtake`), and what is in front of it all but these (`List.rdrop`).

* `Header.sealBytes_of_le`, `Header.sealer_of_le`, `Header.sealer_of_lt` : what is hashed, and who
  is found to have signed it;
* `Header.sealRow_inj` : the signed fields are the header without its hash and its seal;
* `Header.seal_covers` : **the seal covers exactly the header without the seal**.
-/

namespace PosvGateway

namespace Signature

/-- A signature is never found missing when it is looked at. -/
theorem signer_ne_missingSignature (digest : Digest) (signature : Bytes) (n : Nat) :
    signer digest signature ≠ .error (.missingSignature n) := by
  have hkey : signerKey digest signature ≠ .error (.missingSignature n) := by
    intro h
    simp only [signerKey] at h
    split at h
    · cases h
    split at h
    · cases h
    split at h <;> cases h
  unfold signer
  cases h : signerKey digest signature with
  | error e =>
    rw [h] at hkey
    exact fun heq => hkey (congrArg Except.error (Except.error.inj heq))
  | ok key => exact nofun

end Signature

namespace Header

variable {h h' : Header}

/-! ### The parts of the extra data -/

theorem splitSeal_of_le (hsize : Signature.size ≤ h.extraData.length) :
    h.splitSeal = .ok (h.extraData.rdrop Signature.size, h.extraData.rtake Signature.size) := by
  rw [splitSeal, if_neg (Nat.not_lt.mpr hsize)]
  rfl

theorem splitSeal_of_lt (hsize : h.extraData.length < Signature.size) :
    h.splitSeal = .error (.missingSignature Signature.size) := by
  rw [splitSeal, if_pos hsize]

theorem sealBytes_of_le (hsize : Signature.size ≤ h.extraData.length) :
    h.sealBytes =
      .ok (Rlp.encodeRow sealKinds (h.sealRow (h.extraData.rdrop Signature.size))) := by
  rw [sealBytes, splitSeal_of_le hsize]
  rfl

theorem sealer_of_le {bytes : Bytes} (hsize : Signature.size ≤ h.extraData.length)
    (hbytes : h.sealBytes = .ok bytes) :
    h.sealer = Signature.signer (keccak256 bytes) (h.extraData.rtake Signature.size) := by
  rw [sealer, sealDigest, splitSeal_of_le hsize, hbytes]
  rfl

theorem sealer_of_lt (hsize : h.extraData.length < Signature.size) :
    h.sealer = .error (.missingSignature Signature.size) := by
  rw [sealer, splitSeal_of_lt hsize]

/-- A seal is missing exactly where the extra data is too short for one. -/
theorem sealer_eq_missingSignature {n : Nat} :
    h.sealer = .error (.missingSignature n) ↔
      n = Signature.size ∧ h.extraData.length < Signature.size := by
  rcases Nat.lt_or_ge h.extraData.length Signature.size with hsize | hsize
  · rw [sealer_of_lt hsize]
    constructor
    · intro heq
      cases heq
      exact ⟨rfl, hsize⟩
    · rintro ⟨rfl, -⟩
      rfl
  · rw [sealer_of_le hsize (sealBytes_of_le hsize)]
    exact ⟨fun heq => absurd heq (Signature.signer_ne_missingSignature _ _ n),
      fun ⟨_, hlt⟩ => absurd hsize (Nat.not_le.mpr hlt)⟩

/-! ### The signed fields -/

theorem sealKinds_proper : ∀ kind ∈ sealKinds, kind.Proper := by
  simp [sealKinds, Rlp.Kind.Proper]

theorem length_sealFields_lt {extraData : Bytes} (hlen : extraData.length < 2 ^ 63) :
    (Rlp.encodeFields sealKinds (h.sealRow extraData)).length < 2 ^ 64 := by
  refine Rlp.length_encodeFields_lt ?_
  simp only [sealKinds, sealRow, Rlp.room, Rlp.Kind.size?, Rlp.Kind.payload, Option.getD]
  omega

/-- Two headers have the same signed fields if they agree on all but their hashes, and on the extra
data that stands in for theirs. -/
theorem sealRow_inj {extraData extraData' : Bytes} :
    h.sealRow extraData = h'.sealRow extraData' ↔
      h.parentHash = h'.parentHash ∧ h.unclesHash = h'.unclesHash ∧ h.miner = h'.miner ∧
        h.stateRoot = h'.stateRoot ∧ h.transactionsRoot = h'.transactionsRoot ∧
        h.receiptsRoot = h'.receiptsRoot ∧ h.logsBloom = h'.logsBloom ∧
        h.difficulty = h'.difficulty ∧ h.number = h'.number ∧ h.gasLimit = h'.gasLimit ∧
        h.gasUsed = h'.gasUsed ∧ h.timestamp = h'.timestamp ∧ extraData = extraData' ∧
        h.mixHash = h'.mixHash ∧ h.nonce = h'.nonce := by
  cases h
  cases h'
  constructor
  · intro heq
    cases heq
    exact ⟨rfl, rfl, rfl, rfl, rfl, rfl, rfl, rfl, rfl, rfl, rfl, rfl, rfl, rfl, rfl⟩
  · rintro ⟨rfl, rfl, rfl, rfl, rfl, rfl, rfl, rfl, rfl, rfl, rfl, rfl, rfl, rfl, rfl⟩
    rfl

/-- The bytes that are signed tell the signed fields. -/
theorem sealBytes_inj (hsize : Signature.size ≤ h.extraData.length)
    (hsize' : Signature.size ≤ h'.extraData.length) (hlen : h.extraData.length < 2 ^ 63)
    (hlen' : h'.extraData.length < 2 ^ 63) :
    h.sealBytes = h'.sealBytes ↔
      h.sealRow (h.extraData.rdrop Signature.size)
        = h'.sealRow (h'.extraData.rdrop Signature.size) := by
  have hfront : ∀ {bytes : Bytes}, bytes.length < 2 ^ 63 →
      (bytes.rdrop Signature.size).length < 2 ^ 63 := by
    intro bytes hbytes
    rw [List.rdrop, List.length_take]
    omega
  rw [sealBytes_of_le hsize, sealBytes_of_le hsize', Except.ok.injEq]
  constructor
  · exact Rlp.encodeRow_inj sealKinds_proper (length_sealFields_lt (hfront hlen))
      (length_sealFields_lt (hfront hlen'))
  · exact congrArg (Rlp.encodeRow sealKinds)

/-- **The seal covers exactly the header without the seal.** A header that is long enough for a seal
has bytes that are signed, and its sealer is who signed their digest with its last 65 bytes of extra
data. In a shorter one the seal is missing, and in no other. Neither another hash nor another seal
changes what is signed; and two headers share it exactly when they agree on each of the other
fourteen fields and on the extra data in front of the seal. -/
theorem seal_covers :
    (∀ h : Header, 65 ≤ h.extraData.length → ∃ bytes, h.sealBytes = .ok bytes ∧
      h.sealDigest = .ok (keccak256 bytes) ∧
      h.sealer = Signature.signer (keccak256 bytes) (h.extraData.rtake 65)) ∧
    (∀ (h : Header) n, h.sealer = .error (.missingSignature n) ↔
      n = 65 ∧ h.extraData.length < 65) ∧
    (∀ (h : Header) (hash : Digest) (last : Bytes), 65 ≤ h.extraData.length → last.length = 65 →
      { h with hash, extraData := h.extraData.rdrop 65 ++ last }.sealBytes = h.sealBytes) ∧
    (∀ h h' : Header, 65 ≤ h.extraData.length → 65 ≤ h'.extraData.length →
      h.extraData.length < 2 ^ 63 → h'.extraData.length < 2 ^ 63 →
      (h.sealBytes = h'.sealBytes ↔
        h.parentHash = h'.parentHash ∧ h.unclesHash = h'.unclesHash ∧ h.miner = h'.miner ∧
          h.stateRoot = h'.stateRoot ∧ h.transactionsRoot = h'.transactionsRoot ∧
          h.receiptsRoot = h'.receiptsRoot ∧ h.logsBloom = h'.logsBloom ∧
          h.difficulty = h'.difficulty ∧ h.number = h'.number ∧ h.gasLimit = h'.gasLimit ∧
          h.gasUsed = h'.gasUsed ∧ h.timestamp = h'.timestamp ∧
          h.extraData.rdrop 65 = h'.extraData.rdrop 65 ∧ h.mixHash = h'.mixHash ∧
          h.nonce = h'.nonce)) := by
  refine ⟨fun h hsize => ?_, fun h n => sealer_eq_missingSignature, ?_, ?_⟩
  · have hbytes := sealBytes_of_le hsize
    exact ⟨_, hbytes, by rw [sealDigest, hbytes]; rfl, sealer_of_le hsize hbytes⟩
  · intro h hash last hsize hlast
    -- What is cut off in front of the new seal is what was cut off in front of the old one.
    have hfront : (h.extraData.rdrop 65 ++ last).rdrop 65 = h.extraData.rdrop 65 := by
      rw [← hlast, List.rdrop_append_length]
    have hsize' : Signature.size ≤ (h.extraData.rdrop 65 ++ last).length := by
      rw [List.length_append, hlast]
      exact Nat.le_add_left _ _
    rw [sealBytes_of_le hsize, sealBytes_of_le hsize']
    exact congrArg (fun front => Except.ok (Rlp.encodeRow sealKinds (h.sealRow front))) hfront
  · intro h h' hsize hsize' hlen hlen'
    rw [sealBytes_inj hsize hsize' hlen hlen']
    exact sealRow_inj

/-- A header with one byte of extra data in front of a seal. -/
def sample (number : UInt64) : Header where
  hash := .ofNat 32 0xb1
  parentHash := .ofNat 32 0xb0
  unclesHash := .zero 32
  miner := .zero 20
  stateRoot := .zero 32
  transactionsRoot := .zero 32
  receiptsRoot := .zero 32
  logsBloom := .zero 256
  difficulty := 1
  number := number
  gasLimit := 30
  gasUsed := 21
  timestamp := 1000
  extraData := 7 :: List.replicate 65 0
  mixHash := .zero 32
  nonce := .zero 8

/-- With the byte in front of it or the number of the block changed, something else is signed; with
the seal and the hash changed, the same. With one byte less than a seal it is missing. -/
theorem seal_covers_sample :
    65 ≤ (sample 1).extraData.length ∧ (sample 1).extraData.length < 2 ^ 63 ∧
      { sample 1 with hash := .zero 32, extraData := 7 :: List.replicate 65 9 }.sealBytes
        = (sample 1).sealBytes ∧
      { sample 1 with extraData := 8 :: List.replicate 65 0 }.sealBytes ≠ (sample 1).sealBytes ∧
      (sample 2).sealBytes ≠ (sample 1).sealBytes ∧
      { sample 1 with extraData := List.replicate 64 0 }.sealer = .error (.missingSignature 65) ∧
      ∃ bytes, (sample 1).sealBytes = .ok bytes ∧
        (sample 1).sealer = Signature.signer (keccak256 bytes) (List.replicate 65 0) := by
  obtain ⟨hsealed, hmissing, hfree, hbound⟩ := seal_covers
  have hsize : ∀ n, 65 ≤ (sample n).extraData.length := fun _ => (by decide : 65 ≤ 66)
  have hlen : ∀ n, (sample n).extraData.length < 2 ^ 63 := fun _ => (by decide : 66 < 2 ^ 63)
  refine ⟨hsize 1, hlen 1, ?_, fun heq => ?_, fun heq => ?_, ?_, ?_⟩
  · exact hfree (sample 1) (.zero 32) (List.replicate 65 9) (hsize 1) List.length_replicate
  · obtain ⟨-, -, -, -, -, -, -, -, -, -, -, -, hextra, -⟩ := (hbound
      { sample 1 with extraData := 8 :: List.replicate 65 0 } (sample 1)
      (by decide : 65 ≤ 66) (hsize 1) (by decide : 66 < 2 ^ 63) (hlen 1)).mp heq
    exact absurd hextra (by decide)
  · obtain ⟨-, -, -, -, -, -, -, -, hnumber, -⟩ :=
      (hbound (sample 2) (sample 1) (hsize 2) (hsize 1) (hlen 2) (hlen 1)).mp heq
    exact absurd hnumber (by decide)
  · exact (hmissing _ 65).mpr ⟨rfl, (by decide : 64 < 65)⟩
  · obtain ⟨bytes, hbytes, -, hsealer⟩ := hsealed (sample 1) (hsize 1)
    exact ⟨bytes, hbytes, hsealer⟩

end Header

end PosvGateway
