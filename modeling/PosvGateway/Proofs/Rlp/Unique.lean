import PosvGateway.Proofs.Rlp.Field

/-!
# Encodings are told apart

No encoding is the beginning of another one. What stands one behind the other in a buffer can
therefore be told apart, without knowing what kinds of fields they are.

* `encodeString_append_inj`, `encodeList_append_inj` : where an item ends, and what it holds, shows
  at its front;
* `flatMap_encodeString_inj` : a list of byte strings shows in its encodings;
* `decodeRow_strings_eq_ok` : a list of byte strings is read as a row exactly when the strings are
  those that spell its fields, in order;
* `encodeRow_inj` : rows of the same kinds have different encodings, and so have rows of different
  lengths (`length_eq_of_encodeRow_eq`);
* `decodeRow_inverts_encodeRow` : **reading and writing are inverse to each other**, whatever the
  kinds;
* `eq_nil_of_decodeRow_append`, `eq_nil_of_decodeRow_fields_append` : nothing can be added to, or
  taken away from, the end of what is read as a row, nor to its last field.
-/

namespace PosvGateway.Rlp

/-! ### Items -/

section Items

variable {p q r s : Bytes}

theorem encodeString_append_inj (hp : p.length < 2 ^ 64) (hq : q.length < 2 ^ 64)
    (h : encodeString p ++ r = encodeString q ++ s) : p = q ∧ r = s := by
  have hleft : readString (encodeString p ++ r) = .ok (p, r) := readString_eq_ok.mpr ⟨hp, rfl⟩
  have hright : readString (encodeString p ++ r) = .ok (q, s) := readString_eq_ok.mpr ⟨hq, h⟩
  exact Prod.mk.inj (Except.ok.inj (hleft.symm.trans hright))

theorem encodeString_ne_nil (p : Bytes) : encodeString p ≠ [] := by
  intro h
  -- An empty encoding would be that of an empty string, which has one byte.
  have hlen := length_le_encodeString p
  rw [h, List.length_nil, Nat.le_zero, List.length_eq_zero_iff] at hlen
  rw [hlen] at h
  exact List.cons_ne_nil _ _ h

theorem encodeList_append_inj (hp : p.length < 2 ^ 64) (hq : q.length < 2 ^ 64)
    (h : encodeList p ++ r = encodeList q ++ s) : p = q ∧ r = s := by
  have hread := readHeader_encodeList hp r
  rw [h, readHeader_encodeList hq s, Except.ok.injEq, Prod.mk.injEq, Header.mk.injEq] at hread
  obtain ⟨⟨-, hlen⟩, happend⟩ := hread
  exact List.append_inj happend.symm hlen.symm

theorem encodeList_inj (hp : p.length < 2 ^ 64) (hq : q.length < 2 ^ 64)
    (h : encodeList p = encodeList q) : p = q :=
  (encodeList_append_inj hp hq (congrArg (· ++ []) h)).1

end Items

/-- **A list of byte strings shows in its encodings**, however many there are. -/
theorem flatMap_encodeString_inj {ps qs : List Bytes}
    (hlen : (ps.flatMap encodeString).length < 2 ^ 64)
    (h : ps.flatMap encodeString = qs.flatMap encodeString) : ps = qs := by
  induction ps generalizing qs with
  | nil =>
    cases qs with
    | nil => rfl
    | cons q qs => exact absurd (List.append_eq_nil_iff.mp h.symm).1 (encodeString_ne_nil q)
  | cons p ps ih =>
    cases qs with
    | nil => exact absurd (List.append_eq_nil_iff.mp h).1 (encodeString_ne_nil p)
    | cons q qs =>
      have hlen' := hlen
      rw [h] at hlen'
      rw [List.flatMap_cons, List.flatMap_cons] at h
      rw [List.flatMap_cons, List.length_append] at hlen hlen'
      have hp := length_le_encodeString p
      have hq := length_le_encodeString q
      obtain ⟨rfl, hrest⟩ := encodeString_append_inj (by omega) (by omega) h
      rw [ih (by omega) hrest]

/-! ### Rows -/

/-- The byte strings that spell the fields of a row. -/
def payloads : (kinds : List Kind) → Row kinds → List Bytes
  | [], _ => []
  | kind :: kinds, (value, row) => kind.payload value :: payloads kinds row

theorem length_payloads {kinds : List Kind} (row : Row kinds) :
    (payloads kinds row).length = kinds.length := by
  induction kinds with
  | nil => rfl
  | cons kind kinds ih => rw [payloads, List.length_cons, List.length_cons, ih]

theorem encodeFields_eq {kinds : List Kind} (row : Row kinds) :
    encodeFields kinds row = (payloads kinds row).flatMap encodeString := by
  induction kinds with
  | nil => rfl
  | cons kind kinds ih => rw [encodeFields, payloads, List.flatMap_cons, Kind.encode_eq, ih]

/-- Rows that have the same encoding have as many fields. -/
theorem length_eq_of_encodeRow_eq {kinds kinds' : List Kind} {row : Row kinds} {row' : Row kinds'}
    (hlen : (encodeFields kinds row).length < 2 ^ 64)
    (hlen' : (encodeFields kinds' row').length < 2 ^ 64)
    (h : encodeRow kinds row = encodeRow kinds' row') : kinds.length = kinds'.length := by
  have hfields := encodeList_inj hlen hlen' h
  rw [encodeFields_eq] at hlen
  rw [encodeFields_eq, encodeFields_eq] at hfields
  rw [← length_payloads row, flatMap_encodeString_inj hlen hfields, length_payloads]

section Kinds

variable {kinds : List Kind} (hproper : ∀ kind ∈ kinds, kind.Proper) {row row' : Row kinds}

include hproper

/-- Different rows of the same kinds have different encodings. -/
theorem encodeRow_inj (hlen : (encodeFields kinds row).length < 2 ^ 64)
    (hlen' : (encodeFields kinds row').length < 2 ^ 64)
    (h : encodeRow kinds row = encodeRow kinds row') : row = row' := by
  have hleft := (decodeRow_eq_ok hproper).mpr ⟨hlen, rfl⟩
  have hright := (decodeRow_eq_ok hproper).mpr ⟨hlen', h⟩
  exact Except.ok.inj (hleft.symm.trans hright)

/-- **A list of byte strings is read as a row** exactly when these are the strings that spell its
fields, in order. -/
theorem decodeRow_strings_eq_ok {strings : List Bytes}
    (hlen : (strings.flatMap encodeString).length < 2 ^ 64) :
    decodeRow kinds (encodeList (strings.flatMap encodeString)) = .ok row ↔
      strings = payloads kinds row := by
  rw [decodeRow_eq_ok hproper, encodeRow, encodeFields_eq]
  constructor
  · rintro ⟨hfields, h⟩
    exact flatMap_encodeString_inj hlen (encodeList_inj hlen hfields h)
  · rintro rfl
    exact ⟨hlen, rfl⟩

/-- A row ends where its list does. -/
theorem eq_nil_of_decodeRow_append {bytes rest : Bytes} (h : decodeRow kinds bytes = .ok row)
    (h' : decodeRow kinds (bytes ++ rest) = .ok row') : rest = [] := by
  obtain ⟨hlen, rfl⟩ := (decodeRow_eq_ok hproper).mp h
  obtain ⟨hlen', h'⟩ := (decodeRow_eq_ok hproper).mp h'
  exact (encodeList_append_inj hlen hlen' (s := []) (by rw [List.append_nil]; exact h')).2

/-- A list that is read as a row ends with its last field. -/
theorem eq_nil_of_decodeRow_fields_append {fields rest : Bytes}
    (hfields : (fields ++ rest).length < 2 ^ 64)
    (h : decodeRow kinds (encodeList fields) = .ok row)
    (h' : decodeRow kinds (encodeList (fields ++ rest)) = .ok row') : rest = [] := by
  have hfront : fields.length < 2 ^ 64 := by
    rw [List.length_append] at hfields
    omega
  obtain ⟨hlen, heq⟩ := (decodeRow_eq_ok hproper).mp h
  obtain ⟨hlen', heq'⟩ := (decodeRow_eq_ok hproper).mp h'
  obtain rfl := encodeList_inj hfront hlen heq
  have hread := readFields_encodeFields hproper hlen rest
  have hread' := readFields_encodeFields hproper hlen' []
  rw [← encodeList_inj hfields hlen' heq', List.append_nil, hread] at hread'
  exact (Prod.mk.inj (Except.ok.inj hread')).2

omit hproper in
theorem length_encodeFields_le_encodeRow (row : Row kinds) :
    (encodeFields kinds row).length ≤ (encodeRow kinds row).length := by
  rw [encodeRow, encodeList, List.length_append]
  exact Nat.le_add_left _ _

/-- **Reading undoes writing, and nothing else is read**, for any sequence of kinds: what is written
for a row is read as that row, to the last byte; what is read as a row was written for it; and so
different rows are written differently. -/
theorem decodeRow_inverts_encodeRow :
    (∀ row, (encodeRow kinds row).length < 2 ^ 64 →
      decodeRow kinds (encodeRow kinds row) = .ok row) ∧
    (∀ buffer row, decodeRow kinds buffer = .ok row → encodeRow kinds row = buffer) ∧
    ∀ row row', (encodeRow kinds row).length < 2 ^ 64 →
      encodeRow kinds row = encodeRow kinds row' → row = row' := by
  have hfields : ∀ row, (encodeRow kinds row).length < 2 ^ 64 →
      (encodeFields kinds row).length < 2 ^ 64 := fun row =>
    Nat.lt_of_le_of_lt (length_encodeFields_le_encodeRow row)
  refine ⟨fun row hlen => (decodeRow_eq_ok hproper).mpr ⟨hfields row hlen, rfl⟩,
    fun buffer row h => ((decodeRow_eq_ok hproper).mp h).2.symm, fun row row' hlen heq => ?_⟩
  exact encodeRow_inj hproper (hfields row hlen) (hfields row' (heq ▸ hlen)) heq

end Kinds

/-- A sequence with every kind of field in it. -/
def sampleKinds : List Kind :=
  [.uint8, .uint64, .uint256, .octets 20, .octets 32, .octets 8, .bytes, .optional 20, .optional 20]

/-- Numbers at the ends of their range, a byte string that takes a long header, and an address that
is there besides one that is not. -/
def sampleRow : Row sampleKinds :=
  (0, 0x7f, Uint256.max, .zero 20, .zero 32, .zero 8, List.replicate 300 0x80, none,
    some (.ofNat 20 0x80), ())

theorem decodeRow_inverts_encodeRow_sample :
    (∀ kind ∈ sampleKinds, kind.Proper) ∧ (encodeRow sampleKinds sampleRow).length < 2 ^ 64 ∧
      decodeRow sampleKinds (encodeRow sampleKinds sampleRow) = .ok sampleRow ∧
      ∀ row, encodeRow sampleKinds sampleRow = encodeRow sampleKinds row → sampleRow = row := by
  have hproper : ∀ kind ∈ sampleKinds, kind.Proper := by simp [sampleKinds, Kind.Proper]
  have hlen : (encodeRow sampleKinds sampleRow).length < 2 ^ 64 := by decide +kernel
  obtain ⟨hread, -, hinj⟩ := decodeRow_inverts_encodeRow hproper
  exact ⟨hproper, hlen, hread sampleRow hlen, fun row => hinj sampleRow row hlen⟩

end PosvGateway.Rlp
