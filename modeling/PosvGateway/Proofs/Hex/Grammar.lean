import PosvGateway.Proofs.Hex

/-!
# Which texts are read as bytes

Bytes are read from an even number of digits in either case. In front of these stands any number of
marks `0x`, and behind them at most one `0X`. No digit is taken for a part of a mark, since neither
`x` nor `X` is one.

* `Hex.exists_spells_iff` : which texts spell bytes, and `Hex.digits_of_spells` : which bytes, up to
  the case of letters;
* `Hex.decodeDigits_eq_ok` : what is read from digits is what they spell;
* `Hex.Marked` : digits behind their marks, and `Hex.decodeRepeated_eq_ok` : what is read from a
  text is what the digits behind its marks spell;
* `Hex.HasDigits` : a text that can be read, with its digits;
* `Hex.decodeRepeated_grammar` : **which texts are read, and which of them alike**.
-/

namespace PosvGateway.Hex

/-! ### Digits -/

/-- The character is a digit, in either case. -/
def IsDigit (c : Char) : Prop :=
  '0' ≤ c ∧ c ≤ '9' ∨ 'a' ≤ c ∧ c ≤ 'f' ∨ 'A' ≤ c ∧ c ≤ 'F'

instance : DecidablePred IsDigit := fun _ => inferInstanceAs (Decidable (_ ∨ _))

theorem toNat_of_isDigit {c : Char} (h : IsDigit c) : c.toNat < 128 := by
  have hle : ∀ last : Char, c ≤ last → last.toNat < 128 → c.toNat < 128 := fun last hc hlast =>
    Nat.lt_of_le_of_lt (UInt32.le_iff_toNat_le.mp hc) hlast
  rcases h with h | h | h
  · exact hle '9' h.2 (by decide)
  · exact hle 'f' h.2 (by decide)
  · exact hle 'F' h.2 (by decide)

/-- What holds of every ASCII character is found by going through them. -/
theorem forall_ascii (p : Char → Prop) (h : ∀ n < 128, p (Char.ofNat n)) {c : Char}
    (hc : c.toNat < 128) : p c := by
  rw [← Char.ofNat_toNat c]
  exact h _ hc

theorem isDigit_iff {c : Char} : IsDigit c ↔ ∃ d, Numeral.digit? 16 c = some d := by
  have hascii : c.toNat < 128 → (IsDigit c ↔ (Numeral.digit? 16 c).isSome) :=
    forall_ascii (fun c => IsDigit c ↔ (Numeral.digit? 16 c).isSome) (by decide +kernel)
  constructor
  · intro h
    exact Option.isSome_iff_exists.mp ((hascii (toNat_of_isDigit h)).mp h)
  · rintro ⟨d, hd⟩
    exact (hascii (Numeral.toNat_of_digit? hd)).mpr (Option.isSome_iff_exists.mpr ⟨d, hd⟩)

/-- In lower case, a digit is the one that is written for its value. -/
theorem digit?_eq_some {c : Char} {d : Nat} (h : Numeral.digit? 16 c = some d) :
    d < 16 ∧ c.toLower = digitChar d :=
  forall_ascii (fun c => ∀ d ∈ Numeral.digit? 16 c, d < 16 ∧ c.toLower = digitChar d)
    (by decide +kernel) (Numeral.toNat_of_digit? h) d h

/-! ### What digits spell -/

variable {text : List Char} {bytes : Bytes}

/-- In lower case, a text that spells bytes is what is written for them. -/
theorem digits_of_spells (h : Spells text bytes) : digits bytes = text.map Char.toLower := by
  induction h with
  | nil => rfl
  | cons hhigh hlow htext ih =>
    rw [digits, ih, List.map_cons, List.map_cons, (digit?_eq_some hhigh).2,
      (digit?_eq_some hlow).2]

/-- Bytes are told apart by what is written for them. -/
theorem digits_inj {bytes bytes' : Bytes} (h : digits bytes = digits bytes') : bytes = bytes' := by
  rw [← pairUp_of_spells (spells_digits bytes), h, pairUp_of_spells (spells_digits bytes')]

theorem isDigit_of_spells (h : Spells text bytes) : ∀ c ∈ text, IsDigit c := by
  induction h with
  | nil => exact nofun
  | cons hhigh hlow htext ih =>
    exact List.forall_mem_cons.mpr ⟨isDigit_iff.mpr ⟨_, hhigh⟩,
      List.forall_mem_cons.mpr ⟨isDigit_iff.mpr ⟨_, hlow⟩, ih⟩⟩

theorem byteLength_of_isDigit (h : ∀ c ∈ text, IsDigit c) : byteLength text = text.length := by
  induction text with
  | nil => rfl
  | cons c text ih =>
    obtain ⟨hc, htext⟩ := List.forall_mem_cons.mp h
    obtain ⟨d, hd⟩ := isDigit_iff.mp hc
    rw [byteLength, utf8Size_of_digit? hd, ih htext, List.length_cons, Nat.add_comm]

/-- Digits in pairs spell bytes. -/
theorem spells_pairUp (h : ∀ c ∈ text, IsDigit c) (heven : 2 ∣ text.length) :
    Spells text (pairUp text) := by
  fun_induction pairUp text with
  | case1 high low text ih =>
    obtain ⟨hhigh, hrest⟩ := List.forall_mem_cons.mp h
    obtain ⟨hlow, htext⟩ := List.forall_mem_cons.mp hrest
    obtain ⟨dhigh, hdhigh⟩ := isDigit_iff.mp hhigh
    obtain ⟨dlow, hdlow⟩ := isDigit_iff.mp hlow
    have hlt := (digit?_eq_some hdhigh).1
    have hlt' := (digit?_eq_some hdlow).1
    have hbyte : (UInt8.ofNat (16 * nibble high + nibble low)).toNat = 16 * dhigh + dlow := by
      rw [nibble_of_digit? hdhigh, nibble_of_digit? hdlow, UInt8.toNat_ofNat',
        Nat.mod_eq_of_lt (by omega)]
    have htail : 2 ∣ text.length := by
      rw [List.length_cons, List.length_cons] at heven
      omega
    refine .cons ?_ ?_ (ih htext htail)
    · rw [hdhigh, hbyte]
      exact congrArg some (by omega)
    · rw [hdlow, hbyte]
      exact congrArg some (by omega)
  | case2 text hshort =>
    match text with
    | [] => exact .nil
    | [_] =>
      rw [List.length_singleton] at heven
      omega
    | high :: low :: text => exact absurd rfl (hshort high low text)

/-- **An even number of digits spells bytes**, and no other text does. -/
theorem exists_spells_iff :
    (∃ bytes, Spells text bytes) ↔ (∀ c ∈ text, IsDigit c) ∧ 2 ∣ text.length := by
  constructor
  · rintro ⟨bytes, h⟩
    have hdigits := isDigit_of_spells h
    exact ⟨hdigits, bytes.length, by rw [← byteLength_of_isDigit hdigits, byteLength_of_spells h]⟩
  · rintro ⟨hdigits, heven⟩
    exact ⟨_, spells_pairUp hdigits heven⟩

/-! ### What is read from digits -/

theorem isDigit_of_firstFault? {position : Nat} (h : firstFault? text position = none) :
    ∀ c ∈ text, IsDigit c := by
  induction text generalizing position with
  | nil => exact nofun
  | cons c text ih =>
    rw [firstFault?] at h
    split at h
    · rename_i d hd
      exact List.forall_mem_cons.mpr ⟨isDigit_iff.mpr ⟨d, hd⟩, ih h⟩
    · cases h

/-- **What is read from digits is what they spell.** -/
theorem decodeDigits_eq_ok : decodeDigits text = .ok bytes ↔ Spells text bytes := by
  refine ⟨fun h => ?_, decodeDigits_of_spells⟩
  rw [decodeDigits] at h
  split at h
  · cases h
  rename_i hodd
  split at h
  · cases h
  rename_i hfault
  cases h
  have hdigits := isDigit_of_firstFault? hfault
  rw [byteLength_of_isDigit hdigits] at hodd
  exact spells_pairUp hdigits (by omega)

/-! ### Marks -/

/-- A text is digits behind any number of marks `0x` and then at most one mark `0X`. -/
def Marked (text digits : List Char) : Prop :=
  ∃ n mark, (mark = [] ∨ mark = ['0', 'X']) ∧
    text = (List.replicate n ['0', 'x']).flatten ++ mark ++ digits

/-- What stands behind the marks of a text is marked by it. -/
theorem marked_dropMark (text : List Char) : Marked text (dropMark (dropMarks text)) := by
  fun_induction dropMarks text with
  | case1 text ih =>
    obtain ⟨n, mark, hmark, htext⟩ := ih
    refine ⟨n + 1, mark, hmark, ?_⟩
    rw [List.replicate_succ, List.flatten_cons, List.append_assoc, List.append_assoc,
      ← List.append_assoc _ mark, ← htext]
    rfl
  | case2 text hnone =>
    unfold dropMark
    split
    · exact absurd rfl (hnone _)
    · exact ⟨0, ['0', 'X'], .inr rfl, rfl⟩
    · exact ⟨0, [], .inl rfl, rfl⟩

/-- Digits that spell bytes are found behind their marks. -/
theorem dropMark_of_marked {digits : List Char} (h : Marked text digits)
    (hdigits : Spells digits bytes) : dropMark (dropMarks text) = digits := by
  obtain ⟨n, mark, hmark, rfl⟩ := h
  induction n with
  | zero =>
    rw [List.replicate_zero, List.flatten_nil, List.nil_append]
    rcases hmark with rfl | rfl
    · rw [List.nil_append, dropMarks_of_spells hdigits, dropMark_of_spells hdigits]
    · rfl
  | succ n ih =>
    rw [List.replicate_succ, List.flatten_cons, List.append_assoc, List.append_assoc]
    rw [List.append_assoc] at ih
    exact ih

/-- **What is read from a text is what the digits behind its marks spell.** -/
theorem decodeRepeated_eq_ok {text : String} :
    decodeRepeated text = .ok bytes ↔
      ∃ digits, Marked text.toList digits ∧ Spells digits bytes := by
  rw [decodeRepeated, decodeDigits_eq_ok]
  constructor
  · intro h
    exact ⟨_, marked_dropMark _, h⟩
  · rintro ⟨digits, hmarked, hdigits⟩
    rwa [dropMark_of_marked hmarked hdigits]

/-! ### Texts -/

/-- The text can be read: its marks stand in front of an even number of digits. -/
structure HasDigits (text : String) (digits : List Char) : Prop where
  marked : Marked text.toList digits
  isDigit : ∀ c ∈ digits, IsDigit c
  even : 2 ∣ digits.length

variable {text text' : String} {digits digits' : List Char}

theorem HasDigits.exists_spells (h : HasDigits text digits) : ∃ bytes, Spells digits bytes :=
  exists_spells_iff.mpr ⟨h.isDigit, h.even⟩

/-- A text has no other digits. -/
theorem HasDigits.unique (h : HasDigits text digits) (h' : HasDigits text digits') :
    digits = digits' := by
  obtain ⟨bytes, hspells⟩ := h.exists_spells
  obtain ⟨bytes', hspells'⟩ := h'.exists_spells
  rw [← dropMark_of_marked h.marked hspells, dropMark_of_marked h'.marked hspells']

/-- What is read from a text is what its digits spell. -/
theorem HasDigits.decodeRepeated_eq_ok_iff (h : HasDigits text digits) :
    decodeRepeated text = .ok bytes ↔ Spells digits bytes := by
  obtain ⟨bytes', hspells⟩ := h.exists_spells
  rw [decodeRepeated, decodeDigits_eq_ok, dropMark_of_marked h.marked hspells]

theorem exists_decodeRepeated_iff :
    (∃ bytes, decodeRepeated text = .ok bytes) ↔ ∃ digits, HasDigits text digits := by
  constructor
  · rintro ⟨bytes, hread⟩
    obtain ⟨digits, hmarked, hspells⟩ := decodeRepeated_eq_ok.mp hread
    obtain ⟨hdigits, heven⟩ := exists_spells_iff.mp ⟨bytes, hspells⟩
    exact ⟨digits, hmarked, hdigits, heven⟩
  · rintro ⟨digits, h⟩
    obtain ⟨bytes, hspells⟩ := h.exists_spells
    exact ⟨bytes, h.decodeRepeated_eq_ok_iff.mpr hspells⟩

/-- Bytes that are read are written in lower case, behind one mark. -/
theorem HasDigits.encode_eq (h : HasDigits text digits) (hread : decodeRepeated text = .ok bytes) :
    encode bytes = "0x" ++ String.ofList (digits.map Char.toLower) :=
  calc encode bytes
      = String.ofList (['0', 'x'] ++ digits.map Char.toLower) := by
        rw [encode, digits_of_spells (h.decodeRepeated_eq_ok_iff.mp hread), List.cons_append,
          List.singleton_append]
    _ = "0x" ++ String.ofList (digits.map Char.toLower) := String.ofList_append

/-- Digits that agree up to the case of letters are read alike, and others are not. -/
theorem HasDigits.read_alike_iff (h : HasDigits text digits)
    (h' : HasDigits text' digits') :
    (∃ bytes, decodeRepeated text = .ok bytes ∧ decodeRepeated text' = .ok bytes) ↔
      digits.map Char.toLower = digits'.map Char.toLower := by
  simp only [h.decodeRepeated_eq_ok_iff, h'.decodeRepeated_eq_ok_iff]
  constructor
  · rintro ⟨bytes, hspells, hspells'⟩
    rw [← digits_of_spells hspells, digits_of_spells hspells']
  · intro hlower
    obtain ⟨bytes, hspells⟩ := h.exists_spells
    obtain ⟨bytes', hspells'⟩ := h'.exists_spells
    rw [← digits_of_spells hspells, ← digits_of_spells hspells'] at hlower
    obtain rfl := digits_inj hlower
    exact ⟨bytes, hspells, hspells'⟩

/-- **Which texts are read, and which of them alike.** What is written for bytes is read as these
bytes. A text is read exactly if it is any number of marks `0x`, then at most one mark `0X`, and
then an even number of digits in either case, and nothing in it is both mark and digit. The bytes
that are read are written with the same digits in lower case, so two texts are read alike exactly if
their digits agree up to the case of letters. -/
theorem decodeRepeated_grammar :
    (∀ bytes, decodeRepeated (encode bytes) = .ok bytes) ∧
    (∀ text, (∃ bytes, decodeRepeated text = .ok bytes) ↔ ∃ digits, HasDigits text digits) ∧
    (∀ text digits digits', HasDigits text digits → HasDigits text digits' → digits = digits') ∧
    (∀ text digits bytes, HasDigits text digits → decodeRepeated text = .ok bytes →
      encode bytes = "0x" ++ String.ofList (digits.map Char.toLower)) ∧
    ∀ text text' digits digits', HasDigits text digits → HasDigits text' digits' →
      ((∃ bytes, decodeRepeated text = .ok bytes ∧ decodeRepeated text' = .ok bytes) ↔
        digits.map Char.toLower = digits'.map Char.toLower) :=
  ⟨decodeRepeated_encode, fun _ => exists_decodeRepeated_iff, fun _ _ _ h h' => h.unique h',
    fun _ _ _ h hread => h.encode_eq hread,
    fun _ _ _ _ h h' => h.read_alike_iff h'⟩

/-- A text with all its marks is read like its bare digits in the other case. -/
theorem decodeRepeated_grammar_marks :
    HasDigits "0x0x0X0aF1" ['0', 'a', 'F', '1'] ∧ HasDigits "0Af1" ['0', 'A', 'f', '1'] ∧
      decodeRepeated "0x0x0X0aF1" = .ok [0x0a, 0xf1] ∧ encode [0x0a, 0xf1] = "0x0af1" ∧
      ∃ bytes, decodeRepeated "0x0x0X0aF1" = .ok bytes ∧ decodeRepeated "0Af1" = .ok bytes := by
  have hmarked : HasDigits "0x0x0X0aF1" ['0', 'a', 'F', '1'] :=
    ⟨⟨2, ['0', 'X'], .inr rfl, by decide⟩, by simp [IsDigit], by decide⟩
  have hbare : HasDigits "0Af1" ['0', 'A', 'f', '1'] :=
    ⟨⟨0, [], .inl rfl, by decide⟩, by simp [IsDigit], by decide⟩
  have hread : decodeRepeated "0x0x0X0aF1" = .ok [0x0a, 0xf1] := by decide
  obtain ⟨-, -, -, hlower, halike⟩ := decodeRepeated_grammar
  exact ⟨hmarked, hbare, hread, hlower _ _ _ hmarked hread,
    (halike _ _ _ _ hmarked hbare).mpr (by decide)⟩

end PosvGateway.Hex
