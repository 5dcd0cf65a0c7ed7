import PosvGateway.Proofs.Outcome
import PosvGateway.Proofs.Rlp.Item
import PosvGateway.Rlp.Field

/-!
# Rows have one encoding

* `Kind.payload` : the byte string that spells a value;
* `Kind.read_eq_ok` : a field is read from the front of a buffer exactly when the buffer starts with
  the encoding of its value;
* `room`, `length_encodeFields_lt` : how long the fields of a row can get;
* `readFields_encodeFields`, `eq_encodeFields_of_readFields` : the same for a run of fields;
* `decodeRow_eq_ok` : a buffer is read as a row exactly when it is the encoding of the row.

An optional byte string of size zero is the one kind whose values cannot be told apart; a sequence
of kinds without it is `Proper`.
-/

namespace PosvGateway.Rlp

/-! ### Payloads -/

/-- The byte string that spells a value. -/
def Kind.payload : (kind : Kind) → kind.Value → Bytes
  | .uint8, n => Bytes.ofNat n.toNat
  | .uint64, n => Bytes.ofNat n.toNat
  | .uint256, n => Bytes.ofNat n.toNat
  | .octets _, o => o.bytes
  | .bytes, b => b
  | .optional _, none => []
  | .optional _, some o => o.bytes

/-- The values of a kind can be told apart. -/
def Kind.Proper (kind : Kind) : Prop := kind ≠ .optional 0

theorem Kind.encode_eq (kind : Kind) (value : kind.Value) :
    kind.encode value = encodeString (kind.payload value) := by
  cases kind with
  | optional size => cases value <;> rfl
  | uint8 => rfl
  | uint64 => rfl
  | uint256 => rfl
  | octets size => rfl
  | bytes => rfl

theorem readMachineNumber_eq_ok {size n : Nat} {payload : Bytes} :
    readMachineNumber size payload = .ok n ↔ n < 256 ^ size ∧ payload = Bytes.ofNat n := by
  rw [readMachineNumber, ← Bytes.length_ofNat_le]
  constructor
  · intro h
    split at h
    · cases h
    split at h
    · cases h
    rename_i hlen hhead
    cases h
    rw [Bytes.ofNat_toNat hhead]
    exact ⟨by omega, rfl⟩
  · rintro ⟨hlen, rfl⟩
    rw [if_neg (by omega), if_neg (Bytes.head?_ofNat n), Bytes.toNat_ofNat]

theorem readWord_eq_ok {payload : Bytes} {v : Uint256} :
    readWord payload = .ok v ↔ payload = Bytes.ofNat v.toNat := by
  rw [readWord]
  constructor
  · intro h
    split at h
    · cases h
    split at h
    · cases h
    rename_i hhead hlen
    cases h
    have hlt : Bytes.toNat payload < 2 ^ 256 :=
      (Bytes.length_ofNat_le _ 32).mp (by rw [Bytes.ofNat_toNat hhead]; omega)
    rw [BitVec.toNat_ofNat, Nat.mod_eq_of_lt hlt, Bytes.ofNat_toNat hhead]
  · rintro rfl
    have hlen : (Bytes.ofNat v.toNat).length ≤ 32 := (Bytes.length_ofNat_le _ 32).mpr v.isLt
    rw [if_neg (Bytes.head?_ofNat _), if_neg (by omega), Bytes.toNat_ofNat, BitVec.ofNat_toNat,
      BitVec.setWidth_eq]

theorem readOctets_eq_ok {size : Nat} {payload : Bytes} {o : Octets size} :
    readOctets size payload = .ok o ↔ payload = o.bytes := by
  rw [readOctets, ← Octets.ofBytes?_eq_some]
  cases Octets.ofBytes? size payload <;> simp

theorem readWith_eq_ok {α : Type} {interpret : Bytes → Except Error α} {buffer rest : Bytes}
    {a : α} :
    readWith interpret buffer = .ok (a, rest) ↔
      ∃ payload, interpret payload = .ok a ∧ payload.length < 2 ^ 64 ∧
        buffer = encodeString payload ++ rest := by
  rw [readWith]
  constructor
  · intro h
    split at h
    · cases h
    rename_i payload rest' hread
    split at h
    · cases h
    rename_i hinterpret
    cases h
    exact ⟨payload, hinterpret, readString_eq_ok.mp hread⟩
  · rintro ⟨payload, hinterpret, hread⟩
    rw [readString_eq_ok.mpr hread]
    simp only [hinterpret]

/-! ### Fields -/

theorem readOptional_eq_ok {size : Nat} (hsize : size ≠ 0) {buffer rest : Bytes}
    {value : Option (Octets size)} :
    (Kind.optional size).read buffer = .ok (value, rest) ↔
      ((Kind.optional size).payload value).length < 2 ^ 64 ∧
        buffer = encodeString ((Kind.optional size).payload value) ++ rest := by
  have hpayload : (Kind.optional size).payload value = [] → value = none := by
    intro h
    cases value with
    | none => rfl
    | some o => exact absurd (o.length_bytes.symm.trans (congrArg List.length h)) hsize
  rw [← readString_eq_ok]
  simp only [Kind.read]
  split
  · rename_i tail
    have hempty : readString (0x80 :: tail) = .ok ([], tail) :=
      readString_eq_ok.mpr ⟨by decide, rfl⟩
    rw [hempty]
    simp only [Except.ok.injEq, Prod.mk.injEq]
    constructor
    · rintro ⟨rfl, rfl⟩
      exact ⟨rfl, rfl⟩
    · rintro ⟨hnil, rfl⟩
      exact ⟨(hpayload hnil.symm).symm, rfl⟩
  · rename_i hmark
    rw [readWith_eq_ok]
    constructor
    · rintro ⟨payload, hinterpret, hread⟩
      cases hoctets : readOctets size payload with
      | error e =>
        rw [hoctets] at hinterpret
        cases hinterpret
      | ok o =>
        rw [hoctets] at hinterpret
        obtain rfl : some o = value := Except.ok.inj hinterpret
        obtain rfl := readOctets_eq_ok.mp hoctets
        exact readString_eq_ok.mpr hread
    · intro hread
      have hbuffer := readString_eq_ok.mp hread
      cases value with
      | none => exact absurd hbuffer.2 (hmark rest)
      | some o =>
        refine ⟨o.bytes, ?_, hbuffer⟩
        rw [readOctets_eq_ok.mpr rfl]
        rfl

/-- **A field has one encoding**: it is read from the front of a buffer exactly when the buffer
starts with that. -/
theorem Kind.read_eq_ok {kind : Kind} (hproper : kind.Proper) {buffer rest : Bytes}
    {value : kind.Value} :
    kind.read buffer = .ok (value, rest) ↔
      (kind.payload value).length < 2 ^ 64 ∧ buffer = kind.encode value ++ rest := by
  -- Only machine numbers are read through a wider type, so only they need a bound.
  rw [Kind.encode_eq]
  cases kind with
  | uint8 =>
    rw [Kind.read, readWith_eq_ok]
    constructor
    · rintro ⟨payload, hinterpret, hread⟩
      obtain ⟨n, hn, rfl⟩ := Except.map_eq_ok.mp hinterpret
      obtain ⟨hlt, rfl⟩ := readMachineNumber_eq_ok.mp hn
      have hsize : n < 2 ^ 8 := hlt
      rwa [Kind.payload, UInt8.toNat_ofNat', Nat.mod_eq_of_lt hsize]
    · intro hread
      have hlt : value.toNat < 256 ^ 1 := UInt8.toNat_lt value
      have hn := readMachineNumber_eq_ok.mpr ⟨hlt, rfl⟩
      exact ⟨_, Except.map_eq_ok.mpr ⟨_, hn, UInt8.ofNat_toNat⟩, hread⟩
  | uint64 =>
    rw [Kind.read, readWith_eq_ok]
    constructor
    · rintro ⟨payload, hinterpret, hread⟩
      obtain ⟨n, hn, rfl⟩ := Except.map_eq_ok.mp hinterpret
      obtain ⟨hlt, rfl⟩ := readMachineNumber_eq_ok.mp hn
      have hsize : n < 2 ^ 64 := hlt
      rwa [Kind.payload, UInt64.toNat_ofNat', Nat.mod_eq_of_lt hsize]
    · intro hread
      have hlt : value.toNat < 256 ^ 8 := UInt64.toNat_lt value
      have hn := readMachineNumber_eq_ok.mpr ⟨hlt, rfl⟩
      exact ⟨_, Except.map_eq_ok.mpr ⟨_, hn, UInt64.ofNat_toNat⟩, hread⟩
  | uint256 =>
    rw [Kind.read, readWith_eq_ok]
    constructor
    · rintro ⟨payload, hinterpret, hread⟩
      obtain rfl := readWord_eq_ok.mp hinterpret
      exact hread
    · exact fun hread => ⟨_, readWord_eq_ok.mpr rfl, hread⟩
  | octets size =>
    rw [Kind.read, readWith_eq_ok]
    constructor
    · rintro ⟨payload, hinterpret, hread⟩
      obtain rfl := readOctets_eq_ok.mp hinterpret
      exact hread
    · exact fun hread => ⟨_, readOctets_eq_ok.mpr rfl, hread⟩
  | bytes =>
    rw [Kind.read, readWith_eq_ok]
    constructor
    · rintro ⟨payload, hinterpret, hread⟩
      cases hinterpret
      exact hread
    · exact fun hread => ⟨_, rfl, hread⟩
  | optional size =>
    exact readOptional_eq_ok fun h => hproper (congrArg Kind.optional h)

/-! ### Rows -/

theorem length_encodeFields_cons {kind : Kind} {kinds : List Kind} (value : kind.Value)
    (row : Row kinds) :
    (encodeFields (kind :: kinds) (value, row)).length
      = (kind.encode value).length + (encodeFields kinds row).length :=
  List.length_append

theorem length_payload_le {kind : Kind} (value : kind.Value) :
    (kind.payload value).length ≤ (kind.encode value).length := by
  rw [Kind.encode_eq]
  exact length_le_encodeString _

/-- The most bytes that spell a value, where there is a most. -/
def Kind.size? : Kind → Option Nat
  | .uint8 => some 1
  | .uint64 => some 8
  | .uint256 => some 32
  | .octets size => some size
  | .bytes => none
  | .optional size => some size

theorem length_payload_le_size {kind : Kind} {size : Nat} (h : kind.size? = some size)
    (value : kind.Value) : (kind.payload value).length ≤ size := by
  cases kind with
  | uint8 =>
    cases h
    exact (Bytes.length_ofNat_le _ 1).mpr (UInt8.toNat_lt value)
  | uint64 =>
    cases h
    exact (Bytes.length_ofNat_le _ 8).mpr (UInt64.toNat_lt value)
  | uint256 =>
    cases h
    exact (Bytes.length_ofNat_le _ 32).mpr (BitVec.isLt value)
  | octets n =>
    cases h
    exact Nat.le_of_eq (Octets.length_bytes value)
  | bytes => cases h
  | optional n =>
    cases h
    cases value with
    | none => exact Nat.zero_le _
    | some o => exact Nat.le_of_eq o.length_bytes

theorem length_payload_le_getD {kind : Kind} (value : kind.Value) :
    (kind.payload value).length ≤ kind.size?.getD (kind.payload value).length := by
  cases h : kind.size? with
  | none => exact Nat.le_refl _
  | some size => exact length_payload_le_size h value

/-- Room for the fields of a row: each takes its most bytes, and a header. -/
def room : (kinds : List Kind) → Row kinds → Nat
  | [], _ => 0
  | kind :: kinds, (value, row) =>
    kind.size?.getD (kind.payload value).length + 9 + room kinds row

theorem length_encodeFields_le {kinds : List Kind} {row : Row kinds} (h : room kinds row < 2 ^ 64) :
    (encodeFields kinds row).length ≤ room kinds row := by
  induction kinds with
  | nil => exact Nat.le_refl _
  | cons kind kinds ih =>
    obtain ⟨value, row⟩ := row
    rw [room] at h ⊢
    have hpayload := length_payload_le_getD value
    have hfield : (encodeString (kind.payload value)).length ≤ (kind.payload value).length + 9 :=
      length_encodeString_le (by omega)
    have hrow : (encodeFields kinds row).length ≤ room kinds row := ih (by omega)
    rw [length_encodeFields_cons, Kind.encode_eq]
    omega

theorem length_encodeFields_lt {kinds : List Kind} {row : Row kinds} (h : room kinds row < 2 ^ 64) :
    (encodeFields kinds row).length < 2 ^ 64 :=
  Nat.lt_of_le_of_lt (length_encodeFields_le h) h

/-- The fields of a row are read back from the front of a buffer. -/
theorem readFields_encodeFields {kinds : List Kind} (hproper : ∀ kind ∈ kinds, kind.Proper)
    {row : Row kinds} (hlen : (encodeFields kinds row).length < 2 ^ 64) (rest : Bytes) :
    readFields kinds (encodeFields kinds row ++ rest) = .ok (row, rest) := by
  induction kinds with
  | nil => rfl
  | cons kind kinds ih =>
    obtain ⟨value, row⟩ := row
    rw [length_encodeFields_cons] at hlen
    have hpayload := length_payload_le value
    have hread : kind.read (kind.encode value ++ (encodeFields kinds row ++ rest))
        = .ok (value, encodeFields kinds row ++ rest) :=
      (Kind.read_eq_ok (hproper kind List.mem_cons_self)).mpr ⟨by omega, rfl⟩
    have hrow : readFields kinds (encodeFields kinds row ++ rest) = .ok (row, rest) :=
      ih (fun k hk => hproper k (List.mem_cons_of_mem _ hk)) (by omega)
    rw [encodeFields, List.append_assoc, readFields, hread]
    simp only [hrow]

/-- What is read as the fields of a row is their encoding. -/
theorem eq_encodeFields_of_readFields {kinds : List Kind}
    (hproper : ∀ kind ∈ kinds, kind.Proper) {buffer rest : Bytes} {row : Row kinds}
    (h : readFields kinds buffer = .ok (row, rest)) : buffer = encodeFields kinds row ++ rest := by
  induction kinds generalizing buffer with
  | nil =>
    cases h
    rfl
  | cons kind kinds ih =>
    rw [readFields] at h
    split at h
    · cases h
    rename_i value back hread
    split at h
    · cases h
    rename_i row' back' hrow
    cases h
    -- What this field leaves starts with the encodings of the fields behind it.
    have hback := ih (fun k hk => hproper k (List.mem_cons_of_mem _ hk)) hrow
    have hfield := (Kind.read_eq_ok (hproper kind List.mem_cons_self)).mp hread
    rw [hfield.2, hback, encodeFields, List.append_assoc]

/-- **A row has one encoding**: a buffer is read as a row exactly when it is the encoding of the
row, whose fields take fewer than `2 ^ 64` bytes. -/
theorem decodeRow_eq_ok {kinds : List Kind} (hproper : ∀ kind ∈ kinds, kind.Proper)
    {buffer : Bytes} {row : Row kinds} :
    decodeRow kinds buffer = .ok row ↔
      (encodeFields kinds row).length < 2 ^ 64 ∧ buffer = encodeRow kinds row := by
  rw [decodeRow]
  constructor
  · intro h
    obtain ⟨payload, hopen, h⟩ := Except.bind_eq_ok.mp h
    obtain ⟨⟨row', rest⟩, hread, h⟩ := Except.bind_eq_ok.mp h
    obtain ⟨⟨⟩, hfinish, h⟩ := Except.bind_eq_ok.mp h
    cases h
    have hrest : rest = [] := by
      rw [finish.eq_def] at hfinish
      split at hfinish
      · rename_i hempty
        exact List.isEmpty_iff.mp hempty
      · cases hfinish
    have hpayload := eq_encodeFields_of_readFields hproper hread
    rw [hrest, List.append_nil] at hpayload
    rw [← hpayload, encodeRow, ← hpayload]
    exact openList_eq_ok.mp hopen
  · rintro ⟨hlen, rfl⟩
    have hfields := readFields_encodeFields hproper hlen []
    rw [List.append_nil] at hfields
    refine Except.bind_eq_ok.mpr ⟨_, openList_eq_ok.mpr ⟨hlen, rfl⟩, ?_⟩
    exact Except.bind_eq_ok.mpr ⟨_, hfields, rfl⟩

end PosvGateway.Rlp
