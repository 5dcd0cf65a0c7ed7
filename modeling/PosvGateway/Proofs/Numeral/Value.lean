import PosvGateway.Proofs.Numeral

/-!
# The value of digits

Amounts are read digit by digit, from the first digit on in base ten and from the last one on in
the other bases. `Numeral.value` is the number that digits spell, however they are read.

* `Numeral.readUint256_value` : **an amount that is read is the number its text spells**;
* `Numeral.readDecimal_value` : the same for a text that is in base ten anyway;
* `Numeral.readUnsigned_value`, `Quantity.read_spelled` : the same for bounded numbers;
* `Numeral.readUnsigned_eq_ok` : **which texts are read as a bounded number in base ten**.
-/

namespace PosvGateway.Numeral

/-- The number that digits of a base spell; underscores stand for nothing. -/
def value (base : Nat) (digits : List Char) : Nat :=
  (digits.filter (· ≠ '_')).foldl (fun n c => n * base + (digit? base c).getD 0) 0

/-- The number that a text spells in the base its prefix names, ten if there is none. -/
def spelled (text : String) : Nat :=
  match text.toList with
  | '0' :: 'x' :: digits | '0' :: 'X' :: digits => value 16 digits
  | '0' :: 'o' :: digits | '0' :: 'O' :: digits => value 8 digits
  | '0' :: 'b' :: digits | '0' :: 'B' :: digits => value 2 digits
  | digits => value 10 digits

example : spelled "0x1F" = 31 ∧ spelled "1_000" = 1000 := by decide

theorem value_concat (base : Nat) (digits : List Char) (c : Char) :
    value base (digits ++ [c]) =
      if c = '_' then value base digits
      else value base digits * base + (digit? base c).getD 0 := by
  rw [value, List.filter_append]
  split
  · rename_i hc
    rw [List.filter_cons_of_neg (by simpa using hc), List.filter_nil, List.append_nil, value]
  · rename_i hc
    rw [List.filter_cons_of_pos (by simpa using hc), List.filter_nil, List.foldl_append]
    rfl

/-! ### Bytes -/

theorem toNat_of_digit? {base d : Nat} {c : Char} (h : digit? base c = some d) : c.toNat < 128 := by
  have hle : ∀ last : Char, c ≤ last → last.toNat < 128 → c.toNat < 128 := fun last hc hlast =>
    Nat.lt_of_le_of_lt (UInt32.le_iff_toNat_le.mp hc) hlast
  rw [digit?, digitValue?] at h
  split at h
  · rename_i hc
    split at hc
    · exact hle '9' (by simp_all) (by decide)
    split at hc
    · exact hle 'z' (by simp_all) (by decide)
    split at hc
    · exact hle 'Z' (by simp_all) (by decide)
    · cases hc
  · cases h

/-- A character beyond ASCII has a byte beyond ASCII, its last one. -/
theorem exists_mem_utf8EncodeChar {c : Char} (h : 128 ≤ c.toNat) :
    ∃ b ∈ String.utf8EncodeChar c, 128 ≤ b.toNat := by
  refine ⟨UInt8.ofNat (c.toNat % 64 + 128), ?_, ?_⟩
  · have hlarge : ¬ c.val.toNat ≤ 127 := Nat.not_le.mpr h
    simp only [String.utf8EncodeChar, if_neg hlarge]
    split
    · exact List.mem_cons_of_mem _ List.mem_cons_self
    split
    · exact List.mem_cons_of_mem _ (List.mem_cons_of_mem _ List.mem_cons_self)
    · exact List.mem_cons_of_mem _ (List.mem_cons_of_mem _
        (List.mem_cons_of_mem _ List.mem_cons_self))
  · rw [UInt8.toNat_ofNat']
    omega

/-- A text whose bytes are ASCII is one of ASCII. -/
theorem ascii_of_octetChars {text : List Char} (h : ∀ c ∈ octetChars text, c.toNat < 128) :
    ∀ c ∈ text, c.toNat < 128 := by
  have hnumber : ∀ n < 256, (Char.ofNat n).toNat = n := by decide +kernel
  intro c hc
  by_contra hlarge
  obtain ⟨b, hb, hbyte⟩ := exists_mem_utf8EncodeChar (Nat.not_lt.mp hlarge)
  have hsmall := h (Char.ofNat b.toNat) (List.mem_flatMap.mpr ⟨c, hc, List.mem_map_of_mem hb⟩)
  rw [hnumber _ b.toNat_lt] at hsmall
  omega

/-! ### Reading -/

/-- What is read from the first digit on is the value of the digits. -/
theorem readForward_eq_ok {base left acc n : Nat} {digits : List Char}
    (h : readForward base digits left acc = .ok n) :
    n < Uint256.size ∧ (∀ c ∈ digits, c.toNat < 128) ∧
      n = (digits.filter (· ≠ '_')).foldl (fun n c => n * base + (digit? base c).getD 0) acc := by
  induction digits generalizing left acc with
  | nil =>
    rw [readForward] at h
    split at h
    · cases h
      exact ⟨‹_›, List.forall_mem_nil _, rfl⟩
    · cases h
  | cons c digits ih =>
    rw [readForward] at h
    split at h
    · rename_i hc
      obtain ⟨hsize, hascii, hn⟩ := ih h
      rw [List.filter_cons_of_neg (by simpa using hc)]
      exact ⟨hsize, List.forall_mem_cons.mpr ⟨hc ▸ (by decide), hascii⟩, hn⟩
    · rename_i hc
      cases hd : digit? base c with
      | none => rw [hd] at h; cases h
      | some d =>
        simp only [hd] at h
        have hrest : ∃ left, readForward base digits left (acc * base + d) = .ok n := by
          split at h
          · exact ⟨_, h⟩
          split at h
          · exact ⟨_, h⟩
          · cases h
        obtain ⟨left, hrest⟩ := hrest
        obtain ⟨hsize, hascii, hn⟩ := ih hrest
        rw [List.filter_cons_of_pos (by simpa using hc), List.foldl_cons, hd]
        exact ⟨hsize, List.forall_mem_cons.mpr ⟨toNat_of_digit? hd, hascii⟩, hn⟩

/-- What is read from the last digit on is the value of the digits in their order. -/
theorem readBackward_eq_ok {base weight acc n : Nat} {digits : List Char}
    (hacc : acc < Uint256.size) (h : readBackward base digits weight acc = .ok n) :
    n < Uint256.size ∧ (∀ c ∈ digits, c.toNat < 128) ∧
      n = acc + value base digits.reverse * weight := by
  induction digits generalizing weight acc with
  | nil =>
    cases h
    exact ⟨hacc, nofun, by simp [value]⟩
  | cons c digits ih =>
    rw [readBackward] at h
    rw [List.reverse_cons, value_concat]
    split at h
    · rename_i hc
      obtain ⟨hsize, hascii, hn⟩ := ih hacc h
      rw [if_pos hc]
      exact ⟨hsize, List.forall_mem_cons.mpr ⟨hc ▸ (by decide), hascii⟩, hn⟩
    · rename_i hc
      rw [if_neg hc]
      cases hd : digit? base c with
      | none => rw [hd] at h; cases h
      | some d =>
        simp only [hd] at h
        split at h
        · obtain ⟨hsize, hascii, hn⟩ := ih ‹_› h
          refine ⟨hsize, List.forall_mem_cons.mpr ⟨toNat_of_digit? hd, hascii⟩, hn.trans ?_⟩
          rw [Option.getD_some, Nat.add_mul, Nat.mul_assoc, Nat.mul_comm base, Nat.add_assoc,
            Nat.add_comm (d * weight)]
        · cases h

theorem readDecimal_value {text : List Char} {v : Uint256} (h : readDecimal text = .ok v) :
    v.toNat = value 10 text := by
  obtain ⟨n, hread, rfl⟩ := Except.map_eq_ok.mp h
  obtain ⟨hsize, hascii, hn⟩ := readForward_eq_ok hread
  rw [octetChars_ascii (ascii_of_octetChars hascii)] at hn
  rw [BitVec.toNat_ofNat, Nat.mod_eq_of_lt (size_eq ▸ hsize), hn, value]

theorem readBinaryBase_value {base : Nat} {text : List Char} {v : Uint256}
    (h : readBinaryBase base text = .ok v) : v.toNat = value base text := by
  obtain ⟨n, hread, rfl⟩ := Except.map_eq_ok.mp h
  obtain ⟨hsize, hascii, hn⟩ := readBackward_eq_ok (by decide) hread
  have hoctets : octetChars text = text :=
    octetChars_ascii (ascii_of_octetChars fun c hc => hascii c (List.mem_reverse.mpr hc))
  rw [BitVec.toNat_ofNat, Nat.mod_eq_of_lt (size_eq ▸ hsize), hn, List.reverse_reverse, hoctets,
    Nat.zero_add, Nat.mul_one]

/-- **An amount that is read is the number its text spells.** -/
theorem readUint256_value {text : String} {v : Uint256} (h : readUint256 text = .ok v) :
    v.toNat = spelled text := by
  rw [readUint256] at h
  split at h
  case h_7 =>
    rw [spelled]
    split
    all_goals first
      | exact readDecimal_value h
      | simp_all
  all_goals
    rename_i heq
    rw [spelled, heq]
    exact readBinaryBase_value h

/-! ### Bounded numbers -/

theorem readDigits_value {base bound acc n : Nat} {digits : List Char} (hacc : acc ≤ bound)
    (h : readDigits base bound digits acc = .ok n) :
    n ≤ bound ∧
      n = (digits.filter (· ≠ '_')).foldl (fun n c => n * base + (digit? base c).getD 0) acc := by
  have hunderscore : digit? base '_' = none := rfl
  induction digits generalizing acc with
  | nil =>
    cases h
    exact ⟨hacc, rfl⟩
  | cons c digits ih =>
    rw [readDigits] at h
    by_cases hc : c = '_'
    · rw [hc, hunderscore] at h
      cases h
    · rw [List.filter_cons_of_pos (by simpa using hc), List.foldl_cons]
      cases hd : digit? base c with
      | none => rw [hd] at h; cases h
      | some d =>
        simp only [hd] at h
        split at h
        · exact ih ‹_› h
        · cases h

/-- A bounded number is the value of its digits; its sign stands for nothing. -/
theorem readUnsigned_value {base bound n : Nat} {text : List Char}
    (h : readUnsigned base bound text = .ok n) : n ≤ bound ∧ n = value base text := by
  unfold readUnsigned at h
  split at h
  · cases h
  · cases h
  · rename_i digits _
    have hplus : digit? base '+' = none := rfl
    rw [value, List.filter_cons_of_pos (by decide), List.foldl_cons, hplus, Nat.zero_mul]
    exact readDigits_value (Nat.zero_le _) h
  · exact readDigits_value (Nat.zero_le _) h

/-! ### Bounded numbers in base ten -/

theorem isDigit_of_digit? {c : Char} {d : Nat} (h : digit? 10 c = some d) : c.isDigit := by
  unfold digit? digitValue? at h
  by_cases hrange : '0' ≤ c ∧ c ≤ '9'
  · simp only [Char.isDigit, Bool.and_eq_true, decide_eq_true_eq]
    exact hrange
  · -- A letter stands for ten or more.
    by_cases hlower : 'a' ≤ c ∧ c ≤ 'z'
    · simp only [if_neg hrange, if_pos hlower] at h
      rw [if_neg (by omega)] at h
      cases h
    · by_cases hupper : 'A' ≤ c ∧ c ≤ 'Z'
      · simp only [if_neg hrange, if_neg hlower, if_pos hupper] at h
        rw [if_neg (by omega)] at h
        cases h
      · simp only [if_neg hrange, if_neg hlower, if_neg hupper] at h
        cases h

/-- In base ten nothing but digits and underscores is read. -/
theorem isDigit_of_readForward {left acc n : Nat} {digits : List Char}
    (h : readForward 10 digits left acc = .ok n) : ∀ c ∈ digits, c = '_' ∨ c.isDigit := by
  induction digits generalizing left acc with
  | nil => exact nofun
  | cons c digits ih =>
    rw [readForward] at h
    split at h
    · rename_i hc
      exact List.forall_mem_cons.mpr ⟨.inl hc, ih h⟩
    · cases hd : digit? 10 c with
      | none => rw [hd] at h; cases h
      | some d =>
        simp only [hd] at h
        refine List.forall_mem_cons.mpr ⟨.inr (isDigit_of_digit? hd), ?_⟩
        split at h
        · exact ih h
        split at h
        · exact ih h
        · cases h

theorem readDigits_eq_ok {bound acc n : Nat} {digits : List Char} (hacc : acc ≤ bound) :
    readDigits 10 bound digits acc = .ok n ↔
      (∀ c ∈ digits, c.isDigit) ∧ Nat.ofDigitChars 10 digits acc = n ∧ n ≤ bound := by
  induction digits generalizing acc with
  | nil =>
    rw [readDigits, Nat.ofDigitChars_nil]
    constructor
    · rintro ⟨⟩
      exact ⟨by simp, rfl, hacc⟩
    · rintro ⟨-, rfl, -⟩
      rfl
  | cons c digits ih =>
    rw [readDigits, List.forall_mem_cons]
    by_cases hc : c.isDigit
    · rw [digit?_of_isDigit hc, Nat.ofDigitChars_cons, Nat.mul_comm 10 acc]
      simp only
      split_ifs with hbound
      · rw [ih hbound]
        simp [hc]
      · have hle := le_ofDigitChars digits (acc * 10 + (c.toNat - '0'.toNat))
        constructor
        · rintro ⟨⟩
        · rintro ⟨-, rfl, hn⟩
          omega
    · have hnone : digit? 10 c = none := by
        by_contra hne
        obtain ⟨d, hd⟩ := Option.ne_none_iff_exists'.mp hne
        exact hc (isDigit_of_digit? hd)
      simp [hnone, hc]

/-- **A bounded number is read from decimal digits that spell it**, with a plus sign or without. -/
theorem readUnsigned_eq_ok {bound n : Nat} {text : List Char} :
    readUnsigned 10 bound text = .ok n ↔
      ∃ digits, (text = digits ∨ text = '+' :: digits) ∧ digits ≠ [] ∧
        (∀ c ∈ digits, c.isDigit) ∧ Nat.ofDigitChars 10 digits 0 = n ∧ n ≤ bound := by
  have hread (digits : List Char) : readDigits 10 bound digits 0 = .ok n ↔
      (∀ c ∈ digits, c.isDigit) ∧ Nat.ofDigitChars 10 digits 0 = n ∧ n ≤ bound :=
    readDigits_eq_ok (Nat.zero_le bound)
  constructor
  · intro h
    unfold readUnsigned at h
    split at h
    · cases h
    · cases h
    · rename_i digits hne
      exact ⟨digits, .inr rfl, by rintro rfl; exact hne rfl, (hread digits).mp h⟩
    · rename_i hne _ _
      exact ⟨text, .inl rfl, hne, (hread text).mp h⟩
  · rintro ⟨digits, rfl | rfl, hne, hdigits⟩
    · unfold readUnsigned
      split
      · exact absurd rfl hne
      · exact absurd (hdigits.1 '+' (by simp)) (by decide)
      · exact absurd (hdigits.1 '+' (by simp)) (by decide)
      · exact (hread text).mpr hdigits
    · cases digits with
      | nil => exact absurd rfl hne
      | cons c digits => exact (hread (c :: digits)).mpr hdigits

end PosvGateway.Numeral

namespace PosvGateway.Quantity

/-- **A quantity that is read is the number its text spells.** -/
theorem read_spelled {text : String} {q : UInt64} (h : read text = .ok q) :
    q.toNat = Numeral.spelled text := by
  have hvalue : ∀ {base : Nat} {digits : List Char},
      (Numeral.readUnsigned base (UInt64.size - 1) digits).map UInt64.ofNat = .ok q →
        q.toNat = Numeral.value base digits := by
    intro base digits h
    obtain ⟨n, hread, rfl⟩ := Except.map_eq_ok.mp h
    obtain ⟨hbound, hvalue⟩ := Numeral.readUnsigned_value hread
    rw [← hvalue, UInt64.toNat_ofNat_of_lt' (Nat.lt_of_le_pred (by decide) hbound)]
  rw [read] at h
  split at h
  · rename_i heq
    cases h
    rw [Numeral.spelled, heq]
    rfl
  · rename_i heq
    rw [Numeral.spelled, heq]
    exact hvalue h
  · -- Behind a zero no letter is a digit in base ten.
    rw [Numeral.spelled]
    split
    all_goals first
      | exact hvalue h
      | rename_i heq
        rw [heq] at h
        cases h

end PosvGateway.Quantity
