import PosvGateway.Proofs.Octets
import PosvGateway.Rlp.Item

/-!
# RLP items have one encoding

What is read from a buffer is exactly what was written there.

* `readHeader_header`, `readHeader_eq_ok` : a header is read back, and nothing else is read as one;
* `readString_eq_ok` : a byte string is read from the front of a buffer exactly when the buffer
  starts with its encoding;
* `openList_eq_ok` : a buffer is opened as a list exactly when it is the encoding of its payload.
-/

namespace PosvGateway.Rlp

/-! ### Headers -/

/-- What the first byte of a header counts from. -/
def headerBase (isList : Bool) : UInt8 := if isList then 0xc0 else 0x80

/-- A payload may stand behind a header. A byte below `0x80` has none. -/
def Headed (isList : Bool) (length : Nat) (rest : Bytes) : Prop :=
  length < 2 ^ 64 ∧ length ≤ rest.length ∧
    (isList = false → length = 1 → ∀ b ∈ rest.head?, ¬ b < 0x80)

theorem toNat_headerBase (isList : Bool) :
    (headerBase isList).toNat = if isList then 192 else 128 := by
  cases isList <;> rfl

theorem toNat_headerBase_add {isList : Bool} {n : Nat} (h : n < 64) :
    (headerBase isList + UInt8.ofNat n).toNat = (headerBase isList).toNat + n := by
  rw [UInt8.toNat_add, UInt8.toNat_ofNat', toNat_headerBase]
  split <;> omega

theorem headerBase_add_long {isList : Bool} {n : Nat} (h : n < 9) :
    headerBase isList + 55 + UInt8.ofNat n = headerBase isList + UInt8.ofNat (55 + n) := by
  rw [← UInt8.toNat_inj, toNat_headerBase_add (by omega), UInt8.toNat_add, UInt8.toNat_add,
    UInt8.toNat_ofNat', toNat_headerBase, show (55 : UInt8).toNat = 55 from rfl]
  split <;> omega

theorem length_ofNat_lt_nine {length : Nat} (h : length < 2 ^ 64) :
    (Bytes.ofNat length).length < 9 :=
  Nat.lt_succ_of_le ((Bytes.length_ofNat_le length 8).mpr h)

theorem checkPayload_eq_ok {isList : Bool} {length : Nat} {rest : Bytes}
    {result : Header × Bytes} :
    checkPayload isList length rest = .ok result ↔
      length ≤ rest.length ∧ result = (⟨isList, length⟩, rest) := by
  rw [checkPayload]
  split
  · simp only [reduceCtorEq, false_iff]
    omega
  · rw [Except.ok.injEq, eq_comm]
    exact ⟨fun h => ⟨by omega, h⟩, fun h => h.2⟩

/-- The long form of a header is read from exactly the shortest bytes of a length above 55. -/
theorem readLongHeader_eq_ok {isList : Bool} {size : Nat} {rest : Bytes}
    {result : Header × Bytes} :
    readLongHeader isList size rest = .ok result ↔
      ∃ length rest', 56 ≤ length ∧ length ≤ rest'.length ∧ (Bytes.ofNat length).length = size ∧
        rest = Bytes.ofNat length ++ rest' ∧ result = (⟨isList, length⟩, rest') := by
  rw [readLongHeader]
  constructor
  · intro h
    split at h
    · cases h
    split at h
    · cases h
    rename_i hsize hhead
    simp only at h
    split at h
    · cases h
    rename_i hlong
    obtain ⟨hlen, rfl⟩ := checkPayload_eq_ok.mp h
    have hbytes : Bytes.ofNat (Bytes.toNat (rest.take size)) = rest.take size :=
      Bytes.ofNat_toNat hhead
    refine ⟨_, _, by omega, hlen, ?_, ?_, rfl⟩
    · rw [hbytes, List.length_take]
      omega
    · rw [hbytes, List.take_append_drop]
  · rintro ⟨length, rest', hlong, hlen, rfl, rfl, rfl⟩
    rw [List.take_left, List.drop_left, if_neg (by rw [List.length_append]; omega),
      if_neg (Bytes.head?_ofNat length), Bytes.toNat_ofNat]
    simp only
    rw [if_neg (by omega)]
    exact checkPayload_eq_ok.mpr ⟨hlen, rfl⟩

theorem readShortString_eq_ok {length : Nat} {rest : Bytes} {result : Header × Bytes} :
    readShortString length rest = .ok result ↔
      length ≤ rest.length ∧ (length = 1 → ∀ b ∈ rest.head?, ¬ b < 0x80) ∧
        result = (⟨false, length⟩, rest) := by
  unfold readShortString
  split
  · rename_i hone
    cases rest with
    | nil =>
      simp only [reduceCtorEq, List.length_nil, false_iff]
      omega
    | cons b rest =>
      simp only [List.head?_cons, Option.mem_some_iff, forall_eq']
      split
      · rename_i hb
        simp only [reduceCtorEq, false_iff]
        rintro ⟨-, h, -⟩
        exact h hone hb
      · rename_i hb
        rw [checkPayload_eq_ok]
        exact ⟨fun ⟨hlen, hr⟩ => ⟨hlen, fun _ => hb, hr⟩, fun ⟨hlen, _, hr⟩ => ⟨hlen, hr⟩⟩
  · rename_i hone
    rw [checkPayload_eq_ok]
    exact ⟨fun ⟨hlen, hr⟩ => ⟨hlen, fun h => absurd h hone, hr⟩, fun ⟨hlen, _, hr⟩ => ⟨hlen, hr⟩⟩

/-- A header is read back from in front of its payload. -/
theorem readHeader_header {isList : Bool} {length : Nat} {rest : Bytes}
    (h : Headed isList length rest) :
    readHeader (header (headerBase isList) length ++ rest) = .ok (⟨isList, length⟩, rest) := by
  obtain ⟨hlt, hlen, hbyte⟩ := h
  -- A short length stands in the first byte itself, a long one behind it.
  by_cases hshort : length < 56
  · have hb : (headerBase isList + UInt8.ofNat length).toNat = (headerBase isList).toNat + length :=
      toNat_headerBase_add (by omega)
    rw [header, if_pos hshort, List.singleton_append]
    simp only [readHeader, UInt8.lt_iff_toNat_lt, hb]
    cases isList with
    | false =>
      simp only [toNat_headerBase, Bool.false_eq_true, if_false, UInt8.reduceToNat]
      rw [if_neg (by omega), if_pos (by omega), Nat.add_sub_cancel_left]
      exact readShortString_eq_ok.mpr ⟨hlen, hbyte rfl, rfl⟩
    | true =>
      simp only [toNat_headerBase, if_true, UInt8.reduceToNat]
      rw [if_neg (by omega), if_neg (by omega), if_neg (by omega), if_pos (by omega),
        Nat.add_sub_cancel_left]
      exact checkPayload_eq_ok.mpr ⟨hlen, rfl⟩
  · have hsize := length_ofNat_lt_nine hlt
    have hpos : 0 < (Bytes.ofNat length).length :=
      List.length_pos_iff.mpr (Bytes.ofNat_ne_nil (by omega))
    have hb : (headerBase isList + UInt8.ofNat (55 + (Bytes.ofNat length).length)).toNat
        = (headerBase isList).toNat + (55 + (Bytes.ofNat length).length) :=
      toNat_headerBase_add (by omega)
    have hread : readLongHeader isList (Bytes.ofNat length).length (Bytes.ofNat length ++ rest)
        = .ok (⟨isList, length⟩, rest) :=
      readLongHeader_eq_ok.mpr ⟨length, rest, by omega, hlen, rfl, rfl, rfl⟩
    rw [header, if_neg hshort]
    simp only [headerBase_add_long hsize, List.cons_append, readHeader, UInt8.lt_iff_toNat_lt, hb]
    cases isList with
    | false =>
      simp only [toNat_headerBase, Bool.false_eq_true, if_false, UInt8.reduceToNat]
      rw [if_neg (by omega), if_neg (by omega), if_pos (by omega)]
      rwa [show 128 + (55 + (Bytes.ofNat length).length) - 183 = (Bytes.ofNat length).length
        by omega]
    | true =>
      simp only [toNat_headerBase, if_true, UInt8.reduceToNat]
      rw [if_neg (by omega), if_neg (by omega), if_neg (by omega), if_neg (by omega)]
      rwa [show 192 + (55 + (Bytes.ofNat length).length) - 247 = (Bytes.ofNat length).length
        by omega]

theorem header_of_short {isList : Bool} {b : UInt8} {length : Nat} (hshort : length < 56)
    (hb : b.toNat = (headerBase isList).toNat + length) :
    [b] = header (headerBase isList) length := by
  have hbyte : b = headerBase isList + UInt8.ofNat length := by
    rw [← UInt8.toNat_inj, toNat_headerBase_add (by omega), hb]
  rw [header, if_pos hshort, hbyte]

theorem header_of_long {isList : Bool} {b : UInt8} {length : Nat} (hlong : 56 ≤ length)
    (hsize : (Bytes.ofNat length).length < 9)
    (hb : b.toNat = (headerBase isList).toNat + 55 + (Bytes.ofNat length).length) :
    b :: Bytes.ofNat length = header (headerBase isList) length := by
  have hbyte : b = headerBase isList + 55 + UInt8.ofNat (Bytes.ofNat length).length := by
    rw [← UInt8.toNat_inj, headerBase_add_long hsize, toNat_headerBase_add (by omega), hb,
      Nat.add_assoc]
  rw [header, if_neg (by omega), hbyte]

/-- What is read as a header is one, or a byte below `0x80` that is a payload of its own. -/
theorem readHeader_eq_ok {buffer rest : Bytes} {isList : Bool} {length : Nat}
    (h : readHeader buffer = .ok (⟨isList, length⟩, rest)) :
    (isList = false ∧ length = 1 ∧ rest = buffer ∧ ∃ b tail, buffer = b :: tail ∧ b < 0x80) ∨
      (Headed isList length rest ∧ buffer = header (headerBase isList) length ++ rest) := by
  cases buffer with
  | nil => cases h
  | cons b tail =>
    have hb : b.toNat < 256 := b.toNat_lt
    simp only [readHeader] at h
    split at h
    · rename_i hsmall
      cases h
      exact .inl ⟨rfl, rfl, rfl, b, tail, rfl, hsmall⟩
    refine .inr ?_
    -- The first byte is split by its ranges, in the order in which they are tested.
    simp only [UInt8.lt_iff_toNat_lt, UInt8.reduceToNat] at *
    split at h
    · obtain ⟨hlen, hbyte, heq⟩ := readShortString_eq_ok.mp h
      cases heq
      have hheader : [b] = header (headerBase false) (b.toNat - 128) :=
        header_of_short (by omega) (by rw [toNat_headerBase, if_neg Bool.false_ne_true]; omega)
      rw [← hheader]
      exact ⟨⟨by omega, hlen, fun _ => hbyte⟩, rfl⟩
    split at h
    · obtain ⟨length, rest, hlong, hlen, hsize, rfl, heq⟩ := readLongHeader_eq_ok.mp h
      cases heq
      have hheader : b :: Bytes.ofNat length = header (headerBase false) length :=
        header_of_long hlong (by omega)
          (by rw [toNat_headerBase, if_neg Bool.false_ne_true]; omega)
      rw [← hheader]
      refine ⟨⟨(Bytes.length_ofNat_le length 8).mp (by omega), hlen, fun _ => ?_⟩, rfl⟩
      omega
    split at h
    · obtain ⟨hlen, heq⟩ := checkPayload_eq_ok.mp h
      cases heq
      have hheader : [b] = header (headerBase true) (b.toNat - 192) :=
        header_of_short (by omega) (by rw [toNat_headerBase, if_pos rfl]; omega)
      rw [← hheader]
      exact ⟨⟨by omega, hlen, nofun⟩, rfl⟩
    · obtain ⟨length, rest, hlong, hlen, hsize, rfl, heq⟩ := readLongHeader_eq_ok.mp h
      cases heq
      have hheader : b :: Bytes.ofNat length = header (headerBase true) length :=
        header_of_long hlong (by omega) (by rw [toNat_headerBase, if_pos rfl]; omega)
      rw [← hheader]
      exact ⟨⟨(Bytes.length_ofNat_le length 8).mp (by omega), hlen, nofun⟩, rfl⟩

/-! ### Strings and lists -/

theorem encodeString_of_lt {b : UInt8} (h : b < 0x80) : encodeString [b] = [b] := if_pos h

theorem encodeString_headed {payload : Bytes} (h : ∀ b, payload = [b] → ¬ b < 0x80) :
    encodeString payload = header (headerBase false) payload.length ++ payload := by
  unfold encodeString
  split
  · rename_i b
    rw [if_neg (h b rfl)]
    rfl
  · rfl

theorem length_le_encodeString (payload : Bytes) :
    payload.length ≤ (encodeString payload).length := by
  unfold encodeString
  split
  · split <;> simp
  · rw [List.length_append]
    omega

theorem length_encodeString_le {payload : Bytes} (h : payload.length < 2 ^ 64) :
    (encodeString payload).length ≤ payload.length + 9 := by
  have hsize := length_ofNat_lt_nine h
  unfold encodeString
  split
  · split <;> simp
  · rw [header]
    split
    · simp only [List.length_append, List.length_singleton]
      omega
    · simp only [List.length_append, List.length_cons]
      omega

/-- **A byte string has one encoding**: it is read from the front of a buffer exactly when the
buffer starts with that. -/
theorem readString_eq_ok {buffer payload rest : Bytes} :
    readString buffer = .ok (payload, rest) ↔
      payload.length < 2 ^ 64 ∧ buffer = encodeString payload ++ rest := by
  rw [readString]
  constructor
  · intro h
    split at h
    · cases h
    rename_i hd back hread
    obtain ⟨isList, length⟩ := hd
    simp only at h
    split at h
    · cases h
    rename_i hstring
    cases h
    obtain ⟨-, rfl, rfl, b, tail, rfl, hb⟩ | ⟨⟨hlt, hlen, hbyte⟩, rfl⟩ := readHeader_eq_ok hread
    · refine ⟨by simp, ?_⟩
      rw [List.take_succ_cons, List.take_zero, encodeString_of_lt hb]
      rfl
    · have htake : (back.take length).length = length := List.length_take_of_le hlen
      have hkind : isList = false := by simpa using hstring
      rw [encodeString_headed, htake, List.append_assoc, List.take_append_drop, hkind]
      · exact ⟨hlt, rfl⟩
      · intro b hsingle
        refine hbyte hkind (by rw [← htake, hsingle]; rfl) b ?_
        rw [← List.take_append_drop length back, hsingle]
        rfl
  · rintro ⟨hlt, rfl⟩
    -- A small byte is its own encoding; anything else has a header.
    by_cases hsmall : ∃ b, payload = [b] ∧ b < 0x80
    · obtain ⟨b, rfl, hb⟩ := hsmall
      rw [encodeString_of_lt hb, List.singleton_append, readHeader, if_pos hb]
      rfl
    · have hbyte : ∀ b, payload = [b] → ¬ b < 0x80 := fun b hp hb => hsmall ⟨b, hp, hb⟩
      have hheaded : Headed false payload.length (payload ++ rest) := by
        refine ⟨hlt, by rw [List.length_append]; omega, fun _ hone b hmem => ?_⟩
        obtain ⟨c, rfl⟩ := List.length_eq_one_iff.mp hone
        obtain rfl : c = b := Option.some.inj hmem
        exact hbyte c rfl
      rw [encodeString_headed hbyte, List.append_assoc, readHeader_header hheaded]
      simp

/-- The header of a list is read back from in front of its payload, whatever follows. -/
theorem readHeader_encodeList {payload : Bytes} (h : payload.length < 2 ^ 64) (rest : Bytes) :
    readHeader (encodeList payload ++ rest) = .ok (⟨true, payload.length⟩, payload ++ rest) := by
  have hheaded : Headed true payload.length (payload ++ rest) :=
    ⟨h, by rw [List.length_append]; omega, nofun⟩
  have hread := readHeader_header hheaded
  rwa [encodeList, show (0xc0 : UInt8) = headerBase true from rfl, List.append_assoc]

/-- **A list has one encoding**: a buffer is opened as a list exactly when it is the encoding of
the payload. -/
theorem openList_eq_ok {buffer payload : Bytes} :
    openList buffer = .ok payload ↔ payload.length < 2 ^ 64 ∧ buffer = encodeList payload := by
  rw [openList]
  constructor
  · intro h
    split at h
    · cases h
    rename_i hd back hread
    obtain ⟨isList, length⟩ := hd
    simp only at h
    split at h
    · cases h
    rename_i hlist
    split at h
    · cases h
    rename_i hlen
    cases h
    have hkind : isList = true := by simpa using hlist
    obtain ⟨hstring, -⟩ | ⟨⟨hlt, -⟩, rfl⟩ := readHeader_eq_ok hread
    · rw [hkind] at hstring
      cases hstring
    · have hspan : payload.length = length := Decidable.not_not.mp hlen
      rw [encodeList, hkind, hspan]
      exact ⟨hlt, rfl⟩
  · rintro ⟨hlt, rfl⟩
    have hread := readHeader_encodeList hlt []
    rw [List.append_nil, List.append_nil] at hread
    rw [hread]
    simp

end PosvGateway.Rlp
