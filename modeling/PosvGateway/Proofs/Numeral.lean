import Mathlib.Algebra.Group.Nat.Defs
import Mathlib.Algebra.Group.Int.Defs
import PosvGateway.Proofs.Outcome
import PosvGateway.Numeral.Quantity

/-!
# Numbers as text are read back

A balance is written as a decimal number with its sign, an amount as a decimal or a hexadecimal
number, and a quantity as a hexadecimal one. All are read digit by digit against the limit of their
type.

* `Numeral.readForward_digits` : digits are read as the number they spell, if it fits;
* `Numeral.readInt256?_signedDecimal` : what is written as a signed decimal is read back exactly
  when it is a balance;
* `Numeral.readUint256_hex`, `Numeral.readUint256_decimal`, `Quantity.read_write` : amounts and
  quantities are read back from what is written;
* `Int256.ofInt?_eq_some` : which integers are balances.
-/

namespace PosvGateway

/-! ### Balances as integers -/

namespace Int256

/-- The balance with the bits of an integer. -/
def wrap (z : Int) : Int256 := ⟨BitVec.ofInt 256 z⟩

theorem wrap_add (a b : Int) : wrap a + wrap b = wrap (a + b) :=
  congrArg Int256.mk (BitVec.ofInt_add _ _).symm

theorem wrap_toInt (balance : Int256) : wrap balance.toInt = balance :=
  congrArg Int256.mk BitVec.ofInt_toInt

theorem ofInt?_eq_some {z : Int} {balance : Int256} :
    ofInt? z = some balance ↔ -bound ≤ z ∧ z < bound ∧ balance = wrap z := by
  rw [ofInt?]
  split
  · rename_i h
    rw [Option.some.injEq, eq_comm]
    exact ⟨fun heq => ⟨h.1, h.2, heq⟩, fun heq => heq.2.2⟩
  · rename_i h
    simp only [reduceCtorEq, false_iff]
    exact fun heq => h ⟨heq.1, heq.2.1⟩

theorem ofInt?_eq_none {z : Int} (h : ¬ (-bound ≤ z ∧ z < bound)) : ofInt? z = none := if_neg h

theorem bound_eq : (bound : Int) = 2 ^ 255 := by decide

/-- An integer in the range of a balance is what its bits stand for. -/
theorem toInt_wrap {z : Int} (hlow : -2 ^ 255 ≤ z) (hhigh : z < 2 ^ 255) : (wrap z).toInt = z := by
  rw [toInt, wrap, BitVec.toInt_ofInt]
  exact Int.bmod_eq_of_le (by omega) (by omega)

theorem neg_bound_le_toInt (a : Int256) : -2 ^ 255 ≤ a.toInt := a.bits.le_toInt

theorem toInt_lt_bound (a : Int256) : a.toInt < 2 ^ 255 := a.bits.toInt_lt

theorem isNegative_iff {a : Int256} : a.isNegative = true ↔ a.toInt < 0 := by
  rw [isNegative, BitVec.msb_eq_toInt, decide_eq_true_eq, toInt]

theorem isZero_iff {a : Int256} : a.isZero = true ↔ a.toInt = 0 := by
  rw [isZero, beq_iff_eq, ← BitVec.toInt_inj]
  rfl

theorem isPositive_iff {a : Int256} : a.isPositive = true ↔ 0 < a.toInt := by
  have hzero := a.isZero_iff
  have hnegative := a.isNegative_iff
  rw [isPositive, Bool.and_eq_true, Bool.not_eq_true', Bool.not_eq_true', ← Bool.not_eq_true,
    ← Bool.not_eq_true, hzero, hnegative]
  omega

theorem toInt_add (a b : Int256) : (a + b).toInt = (a.toInt + b.toInt).bmod (2 ^ 256) :=
  BitVec.toInt_add a.bits b.bits

/-- A balance that is not below zero is its own amount. -/
theorem toNat_bits {a : Int256} (h : 0 ≤ a.toInt) : (a.bits.toNat : Int) = a.toInt := by
  have hmsb : a.bits.msb = false := by
    rw [BitVec.msb_eq_toInt, decide_eq_false_iff_not]
    exact Int.not_lt.mpr h
  exact (BitVec.toInt_eq_toNat_of_msb hmsb).symm

/-- A balance above zero is its own distance from zero. -/
theorem toNat_magnitude {a : Int256} (h : 0 < a.toInt) : (a.magnitude.toNat : Int) = a.toInt := by
  have hnegative : a.isNegative = false := by
    rw [← Bool.not_eq_true, isNegative_iff]
    exact Int.not_lt.mpr (Int.le_of_lt h)
  rw [magnitude, hnegative]
  exact toNat_bits (Int.le_of_lt h)

end Int256

namespace Numeral

/-! ### Digits -/

theorem toNat_of_isDigit {c : Char} (h : c.isDigit) : 48 ≤ c.toNat ∧ c.toNat ≤ 57 := by
  simp only [Char.isDigit, Bool.and_eq_true, decide_eq_true_eq] at h
  exact ⟨UInt32.le_iff_toNat_le.mp h.1, UInt32.le_iff_toNat_le.mp h.2⟩

theorem digit?_of_isDigit {c : Char} (h : c.isDigit) :
    digit? 10 c = some (c.toNat - '0'.toNat) := by
  obtain ⟨hlow, hhigh⟩ := toNat_of_isDigit h
  have hrange : '0' ≤ c ∧ c ≤ '9' :=
    ⟨UInt32.le_iff_toNat_le.mpr hlow, UInt32.le_iff_toNat_le.mpr hhigh⟩
  have hzero : '0'.toNat = 48 := rfl
  rw [digit?, digitValue?, if_pos hrange]
  exact if_pos (by omega)

theorem ne_of_isDigit {c other : Char} (h : c.isDigit) (hother : other.isDigit = false) :
    c ≠ other := by
  rintro rfl
  rw [h] at hother
  cases hother

/-- A text of ASCII is its own bytes. -/
theorem octetChars_ascii {text : List Char} (h : ∀ c ∈ text, c.toNat < 128) :
    octetChars text = text := by
  induction text with
  | nil => rfl
  | cons c text ih =>
    have hlow := h c List.mem_cons_self
    have hascii : c.val ≤ 127 := UInt32.le_iff_toNat_le.mpr (Nat.le_of_lt_succ hlow)
    have hbyte : String.utf8EncodeChar c = [c.val.toUInt8] :=
      String.utf8EncodeChar_eq_singleton (Char.utf8Size_eq_one_iff.mpr hascii)
    have hvalue : c.val.toUInt8.toNat = c.toNat :=
      Nat.mod_eq_of_lt (Nat.lt_of_lt_of_le hlow (by decide))
    have hc : Char.ofNat c.val.toUInt8.toNat = c := by rw [hvalue, Char.ofNat_toNat]
    have htext := ih fun c hc => h c (List.mem_cons_of_mem _ hc)
    rw [octetChars] at htext ⊢
    rw [List.flatMap_cons, htext, hbyte, List.map_singleton, hc, List.singleton_append]

theorem octetChars_digits {text : List Char} (h : ∀ c ∈ text, c.isDigit) :
    octetChars text = text := by
  refine octetChars_ascii fun c hc => ?_
  obtain ⟨-, hhigh⟩ := toNat_of_isDigit (h c hc)
  omega

theorem le_ofDigitChars (digits : List Char) (acc : Nat) :
    acc ≤ Nat.ofDigitChars 10 digits acc := by
  induction digits generalizing acc with
  | nil => exact Nat.le_of_eq Nat.ofDigitChars_nil.symm
  | cons c digits ih =>
    rw [Nat.ofDigitChars_cons]
    exact Nat.le_trans (by omega) (ih _)

/-- **Digits are read as the number they spell, if that fits.** -/
theorem readForward_digits {digits : List Char} (h : ∀ c ∈ digits, c.isDigit) (left acc : Nat) :
    readForward 10 digits left acc =
      if Nat.ofDigitChars 10 digits acc < Uint256.size then .ok (Nat.ofDigitChars 10 digits acc)
      else .error .overflow := by
  induction digits generalizing left acc with
  | nil => rw [readForward, Nat.ofDigitChars_nil]
  | cons c digits ih =>
    have hc := h c List.mem_cons_self
    have hdigits : ∀ c ∈ digits, c.isDigit := fun c hc => h c (List.mem_cons_of_mem _ hc)
    have hvalue : Nat.ofDigitChars 10 (c :: digits) acc
        = Nat.ofDigitChars 10 digits (acc * 10 + (c.toNat - '0'.toNat)) := by
      rw [Nat.ofDigitChars_cons, Nat.mul_comm]
    rw [readForward, if_neg (ne_of_isDigit hc (by decide)), digit?_of_isDigit hc, hvalue]
    simp only
    split
    · exact ih hdigits _ _
    split
    · exact ih hdigits _ _
    · -- The limit is exceeded here, and more digits only add to that.
      rename_i hlarge
      have hle := le_ofDigitChars digits (acc * 10 + (c.toNat - '0'.toNat))
      rw [if_neg (by omega)]

theorem readDecimal_toDigits (n : Nat) :
    (readDecimal (Nat.toDigits 10 n)).toOption =
      if n < Uint256.size then some (BitVec.ofNat 256 n) else none := by
  have hdigits : ∀ c ∈ Nat.toDigits 10 n, c.isDigit := fun c hc =>
    Nat.isDigit_of_mem_toDigits (by decide) (by decide) hc
  rw [readDecimal, octetChars_digits hdigits, readForward_digits hdigits,
    Nat.ofDigitChars_ten_toDigits]
  split <;> rfl

/-! ### Balances -/

theorem size_eq : Uint256.size = 2 ^ 256 := by decide

/-- The balance of a decimal number with a sign, `sign` telling what the sign makes of it. -/
theorem bind_readDecimal_toDigits (n : Nat) (sign : Int → Int)
    (hsign : ∀ z, (sign z).natAbs = z.natAbs) :
    ((readDecimal (Nat.toDigits 10 n)).toOption.bind fun v => Int256.ofInt? (sign v.toNat))
      = Int256.ofInt? (sign n) := by
  rw [readDecimal_toDigits, size_eq]
  split
  · rename_i hn
    rw [Option.bind_some, BitVec.toNat_ofNat, Nat.mod_eq_of_lt hn]
  · rename_i hn
    have habs := hsign n
    rw [Option.bind_none, Int256.ofInt?, if_neg]
    rw [Int256.bound_eq]
    omega

/-- **A balance is read back from its text**; the text of any other integer is refused. -/
theorem readInt256?_signedDecimal (z : Int) :
    readInt256? (signedDecimal z) = Int256.ofInt? z := by
  have hdigits : ∀ c ∈ Nat.toDigits 10 z.natAbs, c.isDigit := fun c hc =>
    Nat.isDigit_of_mem_toDigits (by decide) (by decide) hc
  rw [signedDecimal]
  split
  · rename_i hneg
    have htext : ("-" ++ decimal z.natAbs).toList = '-' :: Nat.toDigits 10 z.natAbs := by
      rw [String.toList_append, decimal, String.toList_ofList, String.toList_ofList,
        List.singleton_append]
    have hz : -(z.natAbs : Int) = z := by omega
    rw [readInt256?, htext]
    exact (bind_readDecimal_toDigits _ (- ·) (fun _ => Int.natAbs_neg _)).trans (by rw [hz])
  · rename_i hpos
    have htext : (decimal z.natAbs).toList = Nat.toDigits 10 z.natAbs := String.toList_ofList
    have hz : (z.natAbs : Int) = z := by omega
    rw [readInt256?, htext]
    split
    · rename_i digits heq
      exact absurd (hdigits '-' (by rw [heq]; exact List.mem_cons_self)) (by decide)
    · rename_i digits heq
      exact absurd (hdigits '+' (by rw [heq]; exact List.mem_cons_self)) (by decide)
    · exact (bind_readDecimal_toDigits _ id (fun _ => rfl)).trans (by rw [id, hz])

/-! ### Hexadecimal numbers -/

theorem digit?_digitChar : ∀ d < 16, digit? 16 (Nat.digitChar d) = some d := by decide

/-- The digits of a number are those of its sixteenth, and one more. -/
theorem toDigits_sixteen {n : Nat} (h : 16 ≤ n) :
    Nat.toDigits 16 n = Nat.toDigits 16 (n / 16) ++ [Nat.digitChar (n % 16)] :=
  Nat.toDigits_of_base_le (by decide) h

theorem exists_digitChar_of_mem_toDigits {n : Nat} {c : Char} (h : c ∈ Nat.toDigits 16 n) :
    ∃ d < 16, c = Nat.digitChar d := by
  induction n using Nat.strongRecOn with
  | ind n ih =>
    by_cases hn : n < 16
    · rw [Nat.toDigits_of_lt_base hn, List.mem_singleton] at h
      exact ⟨n, hn, h⟩
    · rw [toDigits_sixteen (by omega), List.mem_append, List.mem_singleton] at h
      rcases h with h | h
      · exact ih (n / 16) (by omega) h
      · exact ⟨n % 16, Nat.mod_lt _ (by decide), h⟩

theorem readDigits_append (base bound : Nat) (front back : List Char) (acc : Nat) :
    readDigits base bound (front ++ back) acc =
      (readDigits base bound front acc).bind (readDigits base bound back) := by
  induction front generalizing acc with
  | nil => rfl
  | cons c front ih =>
    rw [List.cons_append, readDigits, readDigits]
    cases digit? base c with
    | none => rfl
    | some d =>
      simp only
      split
      · exact ih _
      · rfl

/-- A number of hexadecimal digits is read back, if it keeps to its bound. -/
theorem readDigits_toDigits {n bound : Nat} (h : n ≤ bound) :
    readDigits 16 bound (Nat.toDigits 16 n) 0 = .ok n := by
  induction n using Nat.strongRecOn with
  | ind n ih =>
    by_cases hn : n < 16
    · rw [Nat.toDigits_of_lt_base hn, readDigits, digit?_digitChar n hn]
      simp only [Nat.zero_mul, Nat.zero_add, if_pos h]
      rfl
    · have hvalue : n / 16 * 16 + n % 16 = n := by omega
      rw [toDigits_sixteen (by omega), readDigits_append, ih (n / 16) (by omega) (by omega)]
      simp only [Except.bind, readDigits, digit?_digitChar _ (Nat.mod_lt n (by decide)), hvalue,
        if_pos h]

/-- The same from the last digit on, after a number that leaves room for it. -/
theorem readBackward_toDigits {n weight acc : Nat} (h : acc + n * weight < Uint256.size) :
    readBackward 16 (Nat.toDigits 16 n).reverse weight acc = .ok (acc + n * weight) := by
  have hunderscore : ∀ d < 16, Nat.digitChar d ≠ '_' := by decide
  induction n using Nat.strongRecOn generalizing weight acc with
  | ind n ih =>
    by_cases hn : n < 16
    · rw [Nat.toDigits_of_lt_base hn, List.reverse_singleton, readBackward,
        if_neg (hunderscore n hn), digit?_digitChar n hn]
      simp only [if_pos h]
      rfl
    · -- The last digit is read first, and the next ones weigh sixteen times as much.
      have hlow := Nat.mod_lt n (show 16 > 0 by decide)
      have hvalue : acc + n % 16 * weight + n / 16 * (weight * 16) = acc + n * weight := by
        have hsplit : (n % 16 + 16 * (n / 16)) * weight = n * weight := by rw [Nat.mod_add_div]
        rw [Nat.add_mul] at hsplit
        rw [Nat.add_assoc, ← hsplit, Nat.mul_comm weight, ← Nat.mul_assoc, Nat.mul_comm (n / 16)]
      have hfirst : acc + n % 16 * weight < Uint256.size := by omega
      rw [toDigits_sixteen (by omega), List.reverse_append, List.reverse_singleton,
        List.singleton_append, readBackward, if_neg (hunderscore _ hlow),
        digit?_digitChar _ hlow]
      simp only [if_pos hfirst]
      rw [ih (n / 16) (by omega) (by omega), hvalue]

theorem toList_hex (n : Nat) : (hex n).toList = '0' :: 'x' :: Nat.toDigits 16 n := by
  rw [hex, String.toList_append, String.toList_ofList, String.toList_ofList, List.cons_append,
    List.singleton_append]

/-- **An amount is read back from its hexadecimal text.** -/
theorem readUint256_hex (v : Uint256) : readUint256 (hex v.toNat) = .ok v := by
  have hascii : ∀ d < 16, (Nat.digitChar d).toNat < 128 := by decide
  have hoctets : octetChars (Nat.toDigits 16 v.toNat) = Nat.toDigits 16 v.toNat := by
    refine octetChars_ascii fun c hc => ?_
    obtain ⟨d, hd, rfl⟩ := exists_digitChar_of_mem_toDigits hc
    exact hascii d hd
  have hsize : 0 + v.toNat * 1 < Uint256.size := by
    rw [size_eq, Nat.zero_add, Nat.mul_one]
    exact v.isLt
  rw [readUint256, toList_hex]
  simp only [readBinaryBase, hoctets, readBackward_toDigits hsize, Nat.zero_add, Nat.mul_one]
  rw [Except.map, BitVec.ofNat_toNat, BitVec.setWidth_eq]

/-- **An amount is read back from its decimal text.** -/
theorem readUint256_decimal (v : Uint256) : readUint256 (decimal v.toNat) = .ok v := by
  have hdigits : ∀ c ∈ Nat.toDigits 10 v.toNat, c.isDigit := fun c hc =>
    Nat.isDigit_of_mem_toDigits (by decide) (by decide) hc
  have hread : readDecimal (Nat.toDigits 10 v.toNat) = .ok v := by
    rw [← Except.toOption_eq_some, readDecimal_toDigits, size_eq, if_pos v.isLt,
      BitVec.ofNat_toNat, BitVec.setWidth_eq]
  -- The second character is a digit, and so no mark of a base.
  rw [readUint256, decimal, String.toList_ofList]
  split
  all_goals first
    | exact hread
    | rename_i heq
      exact absurd (hdigits _ (by rw [heq]; exact List.mem_cons_of_mem _ List.mem_cons_self))
        (by decide)

end Numeral

/-- **A quantity is read back from its text.** -/
theorem Quantity.read_write (n : UInt64) : Quantity.read (Quantity.write n) = .ok n := by
  have hbound : n.toNat ≤ UInt64.size - 1 := Nat.le_sub_one_of_lt n.toNat_lt
  have hplus : '+' ∉ Nat.toDigits 16 n.toNat := fun hmem => by
    obtain ⟨d, hd, heq⟩ := Numeral.exists_digitChar_of_mem_toDigits hmem
    exact absurd heq ((by decide : ∀ d < 16, '+' ≠ Nat.digitChar d) d hd)
  have hunsigned : Numeral.readUnsigned 16 (UInt64.size - 1) (Nat.toDigits 16 n.toNat) =
      .ok n.toNat := by
    rw [Numeral.readUnsigned, Numeral.readDigits_toDigits hbound]
    · exact Nat.toDigits_ne_nil
    · exact fun heq => hplus (heq ▸ List.mem_cons_self)
    · exact fun _ heq => hplus (heq ▸ List.mem_cons_self)
  obtain ⟨c, digits, hcons⟩ :=
    List.exists_cons_of_ne_nil (Nat.toDigits_ne_nil : Nat.toDigits 16 n.toNat ≠ [])
  rw [Quantity.read, Quantity.write, Numeral.toList_hex, hcons]
  rw [hcons] at hunsigned
  simp only [hunsigned, Except.map, UInt64.ofNat_toNat]

end PosvGateway
