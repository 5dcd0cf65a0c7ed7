import PosvGateway.Proofs.Numeral.Value
import PosvGateway.Proofs.Octets
import PosvGateway.Address

/-!
# Hexadecimal text is read back

A byte is spelled by two digits, whose letters may be in either case.

* `Hex.Spells` : a text spells bytes;
* `Hex.decodeDigits_of_spells`, `Hex.decodeOctets_of_spells` : what a text spells is read from it;
* `Hex.decodeRepeated_encode`, `Hex.decodeOctets_toHex`, `Address.read_checksum` : what was written
  is read back;
* `Hex.two_mul_length_le` : a text spells at most half as many bytes as it has itself.
-/

namespace PosvGateway

namespace Hex

/-! ### Digits -/

/-- A text spells bytes: two digits for each. -/
inductive Spells : List Char → Bytes → Prop where
  /-- No digits spell no bytes. -/
  | nil : Spells [] []
  /-- Two digits spell a byte. -/
  | cons {high low : Char} {b : UInt8} {text : List Char} {bytes : Bytes}
      (hhigh : Numeral.digit? 16 high = some (b.toNat / 16))
      (hlow : Numeral.digit? 16 low = some (b.toNat % 16)) (htext : Spells text bytes) :
      Spells (high :: low :: text) (b :: bytes)

theorem utf8Size_of_digit? {c : Char} {d : Nat} (h : Numeral.digit? 16 c = some d) :
    c.utf8Size = 1 := by
  have hascii : c.val.toNat < 128 := Numeral.toNat_of_digit? h
  exact Char.utf8Size_eq_one_iff.mpr (UInt32.le_iff_toNat_le.mpr (Nat.le_of_lt_succ hascii))

theorem ne_of_digit? {c other : Char} {d : Nat} (h : Numeral.digit? 16 c = some d)
    (hother : Numeral.digit? 16 other = none) : c ≠ other := by
  rintro rfl
  rw [h] at hother
  cases hother

theorem nibble_of_digit? {c : Char} {d : Nat} (h : Numeral.digit? 16 c = some d) :
    nibble c = d := by
  rw [nibble, h]
  rfl

variable (b : UInt8)

theorem high_lt : b.toNat / 16 < 16 := by
  have hb : b.toNat < 256 := b.toNat_lt
  omega

theorem low_lt : b.toNat % 16 < 16 := Nat.mod_lt _ (by decide)

/-- The digits of bytes spell them. -/
theorem spells_digits (bytes : Bytes) : Spells (digits bytes) bytes := by
  induction bytes with
  | nil => exact .nil
  | cons b bytes ih =>
    exact .cons (Numeral.digit?_digitChar _ (high_lt b)) (Numeral.digit?_digitChar _ (low_lt b)) ih

/-! ### Reading back -/

section Reading

variable {text : List Char} {bytes : Bytes}

theorem dropMarks_of_spells (h : Spells text bytes) : dropMarks text = text := by
  cases h with
  | nil => rfl
  | cons hhigh hlow htext =>
    rw [dropMarks]
    intro tail heq
    exact ne_of_digit? hlow (by decide) (List.cons.inj (List.cons.inj heq).2).1

theorem dropMark_of_spells (h : Spells text bytes) : dropMark text = text := by
  cases h with
  | nil => rfl
  | cons hhigh hlow htext =>
    rw [dropMark]
    · intro tail heq
      exact ne_of_digit? hlow (by decide) (List.cons.inj (List.cons.inj heq).2).1
    · intro tail heq
      exact ne_of_digit? hlow (by decide) (List.cons.inj (List.cons.inj heq).2).1

theorem byteLength_of_spells (h : Spells text bytes) : byteLength text = 2 * bytes.length := by
  induction h with
  | nil => rfl
  | cons hhigh hlow htext ih =>
    rw [byteLength, byteLength, utf8Size_of_digit? hhigh, utf8Size_of_digit? hlow, ih,
      List.length_cons]
    omega

theorem firstFault?_of_spells (h : Spells text bytes) (position : Nat) :
    firstFault? text position = none := by
  induction h generalizing position with
  | nil => rfl
  | cons hhigh hlow htext ih => simp only [firstFault?, hhigh, hlow, ih]

theorem pairUp_of_spells (h : Spells text bytes) : pairUp text = bytes := by
  induction h with
  | nil => rfl
  | @cons high low b text bytes hhigh hlow htext ih =>
    have hbyte : 16 * (b.toNat / 16) + b.toNat % 16 = b.toNat := by omega
    rw [pairUp, nibble_of_digit? hhigh, nibble_of_digit? hlow, ih, hbyte, UInt8.ofNat_toNat]

theorem decodeDigits_of_spells (h : Spells text bytes) : decodeDigits text = .ok bytes := by
  rw [decodeDigits, byteLength_of_spells h, if_neg (by omega), firstFault?_of_spells h]
  exact congrArg Except.ok (pairUp_of_spells h)

/-- **What a text spells is read from it**, if it has the size that is wanted. -/
theorem decodeOctets_of_spells {n : Nat} {o : Octets n} (h : Spells text o.bytes) :
    decodeOctets n (String.ofList ('0' :: 'x' :: text)) = .ok o := by
  rw [decodeOctets, String.toList_ofList, dropMark]
  simp only [byteLength_of_spells h, o.length_bytes, decodeDigits_of_spells h]
  rw [if_neg (by omega), if_neg (by omega), dif_pos trivial]

end Reading

/-- **Bytes are read back** behind their mark, which may be repeated. -/
theorem decodeRepeated_encode (bytes : Bytes) : decodeRepeated (encode bytes) = .ok bytes := by
  have hspells := spells_digits bytes
  rw [decodeRepeated, encode, String.toList_ofList, dropMarks, dropMarks_of_spells hspells,
    dropMark_of_spells hspells, decodeDigits_of_spells hspells]

/-- **A byte string of a fixed size is read back.** -/
theorem decodeOctets_toHex {n : Nat} (o : Octets n) : decodeOctets n o.toHex = .ok o :=
  decodeOctets_of_spells (spells_digits o.bytes)

/-! ### Sizes -/

theorem length_pairUp : (text : List Char) → 2 * (pairUp text).length ≤ text.length
  | [] => Nat.le_refl _
  | [_] => Nat.zero_le _
  | _ :: _ :: text => by
    have ih := length_pairUp text
    rw [pairUp, List.length_cons, List.length_cons, List.length_cons]
    omega

theorem length_dropMark_le (text : List Char) : (dropMark text).length ≤ text.length := by
  unfold dropMark
  split
  · simp only [List.length_cons]
    omega
  · simp only [List.length_cons]
    omega
  · exact Nat.le_refl _

theorem length_dropMarks_le (text : List Char) : (dropMarks text).length ≤ text.length := by
  fun_induction dropMarks text with
  | case1 text ih =>
    simp only [List.length_cons]
    omega
  | case2 text => exact Nat.le_refl _

theorem utf8ByteSize_ofList (text : List Char) :
    (String.ofList text).utf8ByteSize = byteLength text := by
  induction text with
  | nil => rfl
  | cons c text ih =>
    rw [String.ofList_cons, String.utf8ByteSize_append, String.utf8ByteSize_singleton, ih]
    rfl

theorem utf8ByteSize_encode (bytes : Bytes) :
    (encode bytes).utf8ByteSize = 2 * bytes.length + 2 := by
  have hmarks : 'x'.utf8Size = 1 ∧ '0'.utf8Size = 1 := by decide
  rw [encode, utf8ByteSize_ofList, byteLength, byteLength,
    byteLength_of_spells (spells_digits bytes), hmarks.1, hmarks.2]
  omega

theorem length_le_byteLength (text : List Char) : text.length ≤ byteLength text := by
  induction text with
  | nil => exact Nat.le_refl _
  | cons c text ih =>
    have hpos := Char.utf8Size_pos c
    rw [List.length_cons, byteLength]
    omega

theorem length_le_utf8ByteSize (text : String) : text.toList.length ≤ text.utf8ByteSize := by
  have h := utf8ByteSize_ofList text.toList
  rw [String.ofList_toList] at h
  rw [h]
  exact length_le_byteLength _

/-- A text spells at most half as many bytes as it has itself. -/
theorem two_mul_length_le {text : String} {bytes : Bytes} (h : decodeRepeated text = .ok bytes) :
    2 * bytes.length ≤ text.utf8ByteSize := by
  rw [decodeRepeated, decodeDigits] at h
  split at h
  · cases h
  split at h
  · cases h
  cases h
  calc 2 * (pairUp (dropMark (dropMarks text.toList))).length
      ≤ (dropMark (dropMarks text.toList)).length := length_pairUp _
    _ ≤ (dropMarks text.toList).length := length_dropMark_le _
    _ ≤ text.toList.length := length_dropMarks_le _
    _ ≤ text.utf8ByteSize := length_le_utf8ByteSize text

end Hex

/-! ### Addresses -/

namespace Address

theorem digit?_toUpper :
    ∀ d < 16, Numeral.digit? 16 (Nat.digitChar d).toUpper = some d := by decide

/-- The case of its letters does not change what a text spells. -/
theorem spells_applyCase (bytes : Bytes) (digest : List Char) :
    Hex.Spells (applyCase (Hex.digits bytes) digest) bytes := by
  have hcase : ∀ n < 16, ∀ d : Char, Numeral.digit? 16
      (if 8 ≤ Hex.nibble d then (Hex.digitChar n).toUpper else Hex.digitChar n) = some n := by
    intro n hn d
    split
    · exact digit?_toUpper n hn
    · exact Numeral.digit?_digitChar n hn
  induction bytes generalizing digest with
  | nil => cases digest <;> exact .nil
  | cons b bytes ih =>
    have hhigh := Hex.high_lt b
    have hlow := Hex.low_lt b
    match digest with
    | [] => exact Hex.spells_digits (b :: bytes)
    | [d] =>
      exact .cons (hcase _ hhigh d) (Numeral.digit?_digitChar _ hlow) (Hex.spells_digits bytes)
    | d :: d' :: digest => exact .cons (hcase _ hhigh d) (hcase _ hlow d') (ih digest)

/-- **An address is read back from its text**, whatever its checksum is. -/
theorem read_checksum (address : Address) : read address.checksum = .ok address :=
  Hex.decodeOctets_of_spells (spells_applyCase address.bytes _)

theorem checksum_inj {a b : Address} (h : a.checksum = b.checksum) : a = b := by
  have hread := read_checksum a
  rw [h, read_checksum] at hread
  exact (Except.ok.inj hread).symm

end Address

end PosvGateway
