import PosvGateway.Json.Reader
import PosvGateway.Proofs.Numeral

/-!
# Literals are scanned as what they spell

A text may be spelled in many ways: every character by itself, by an escape of its own or by its
number. An integer is spelled by its digits. Either is scanned back, and nothing behind it is taken
for a part of it.

* `Json.SpellsChar`, `Json.SpellsString` : the grammar of what stands between the quotes;
* `Document.scanString?_of_spells` : **a text is scanned from any of its spellings**;
* `Document.scanNumber?_digits` : the digits of a number are scanned up to their end;
* `NumberLiteral.value?_ofInt` : the literal of an integer of 64 bits has its value.
-/

namespace PosvGateway

/-! ### Spellings of a text -/

namespace Json

/-- A hexadecimal digit stands for a number, in either case. -/
def SpellsDigit (n : Nat) (c : Char) : Prop :=
  c = Nat.digitChar n ∨ c = (Nat.digitChar n).toUpper

/-- Four hexadecimal digits spell a code unit. -/
def SpellsUnit (n : Nat) (digits : List Char) : Prop :=
  n < 0x10000 ∧
    List.Forall₂ SpellsDigit [n / 0x1000, n / 0x100 % 0x10, n / 0x10 % 0x10, n % 0x10] digits

/-- The letters behind a backslash, and the characters that they stand for. -/
def escapes : List (Char × Char) :=
  [('"', '"'), ('\\', '\\'), ('/', '/'), ('b', '\x08'), ('f', '\x0c'), ('n', '\n'), ('r', '\r'),
    ('t', '\t')]

/-- How a character may be spelled inside a string. -/
inductive SpellsChar : Char → List Char → Prop
  /-- By itself, unless it is a quote, a backslash or a control character. -/
  | itself {c : Char} (hquote : c ≠ '"') (hslash : c ≠ '\\') (hcontrol : 0x20 ≤ c.toNat) :
    SpellsChar c [c]
  /-- By an escape of its own. -/
  | escape {letter c : Char} (h : (letter, c) ∈ escapes) : SpellsChar c ['\\', letter]
  /-- By its number, where that is a code unit. -/
  | unit {c : Char} {digits : List Char} (h : SpellsUnit c.toNat digits) :
    SpellsChar c ('\\' :: 'u' :: digits)
  /-- By the two halves of a surrogate pair, where it is not. -/
  | pair {c : Char} {high low : List Char} (hlarge : 0x10000 ≤ c.toNat)
    (hhigh : SpellsUnit (0xd800 + (c.toNat - 0x10000) / 0x400) high)
    (hlow : SpellsUnit (0xdc00 + (c.toNat - 0x10000) % 0x400) low) :
    SpellsChar c ('\\' :: 'u' :: high ++ '\\' :: 'u' :: low)

/-- How a text may be spelled between its quotes, character by character. -/
def SpellsString : List Char → List Char → Prop
  | [], text => text = []
  | c :: chars, text =>
    ∃ first rest, text = first ++ rest ∧ SpellsChar c first ∧ SpellsString chars rest

/-- Blanks, which may stand between the tokens of a text. -/
def AreBlanks (text : List Char) : Prop := ∀ c ∈ text, c ∈ [' ', '\n', '\t', '\r']

instance (text : List Char) : Decidable (AreBlanks text) := List.decidableBAll _ text

/-- Characters that stand for themselves between quotes. -/
def AreUnescaped (text : List Char) : Prop := ∀ c ∈ text, c ≠ '"' ∧ c ≠ '\\' ∧ 0x20 ≤ c.toNat

instance (text : List Char) : Decidable (AreUnescaped text) := List.decidableBAll _ text

end Json

/-! ### Texts -/

namespace Document

open Json (SpellsUnit SpellsChar SpellsString escapes AreBlanks)

theorem unit?_of_spellsUnit {n : Nat} {digits : List Char} (h : SpellsUnit n digits) :
    ∃ a b c d, digits = [a, b, c, d] ∧ unit? a b c d = some n := by
  have hdigit : ∀ d < 16, Numeral.digit? 16 (Nat.digitChar d) = some d ∧
      Numeral.digit? 16 (Nat.digitChar d).toUpper = some d := by decide
  have hread : ∀ d c, d < 16 → Json.SpellsDigit d c → Numeral.digit? 16 c = some d := by
    rintro d c hd (rfl | rfl)
    · exact (hdigit d hd).1
    · exact (hdigit d hd).2
  obtain ⟨hn, hdigits⟩ := h
  cases hdigits with | @cons _ a _ _ ha hdigits =>
  cases hdigits with | @cons _ b _ _ hb hdigits =>
  cases hdigits with | @cons _ c _ _ hc hdigits =>
  cases hdigits with | @cons _ d _ _ hd hdigits =>
  cases hdigits
  have hsum : ((n / 0x1000 * 16 + n / 0x100 % 0x10) * 16 + n / 0x10 % 0x10) * 16 + n % 0x10 = n :=
    by omega
  refine ⟨a, b, c, d, rfl, ?_⟩
  simp [unit?, hread _ a (by omega) ha, hread _ b (by omega) hb, hread _ c (by omega) hc,
    hread _ d (by omega) hd, hsum]

theorem escape?_of_mem {letter c : Char} (h : (letter, c) ∈ escapes) :
    letter ≠ 'u' ∧ escape? letter = some c := by
  have hall : ∀ entry ∈ escapes, entry.1 ≠ 'u' ∧ escape? entry.1 = some entry.2 := by decide
  exact hall _ h

/-- The number of a character is that of no half of a surrogate pair. -/
theorem not_surrogate (c : Char) : ¬ (0xd800 ≤ c.toNat ∧ c.toNat < 0xe000) := by
  rintro ⟨hlow, hhigh⟩
  rcases c.valid with h | ⟨h, -⟩
  · exact absurd hlow (Nat.not_le.mpr h)
  · exact absurd h (by show ¬ 0xdfff < c.toNat; omega)

/-- In what spells a text the number of a code unit stands only as a whole. -/
theorem unit?_isSome_of_spells {chars text rest : List Char} (h : SpellsString chars text)
    {e f g i : Char} {back : List Char}
    (heq : text ++ '"' :: rest = '\\' :: 'u' :: e :: f :: g :: i :: back) :
    ∃ unit, unit? e f g i = some unit := by
  have hunit : ∀ {n digits tail}, SpellsUnit n digits →
      digits ++ tail = e :: f :: g :: i :: back → ∃ unit, unit? e f g i = some unit := by
    intro n digits tail hdigits heq
    obtain ⟨a, b, c, d, rfl, hread⟩ := unit?_of_spellsUnit hdigits
    cases heq
    exact ⟨n, hread⟩
  cases chars with
  | nil =>
    obtain rfl : text = [] := h
    cases heq
  | cons c chars =>
    obtain ⟨first, rest', rfl, hc, -⟩ := h
    cases hc with
    | itself _ hslash _ => exact absurd (List.cons.inj heq).1 hslash
    | escape hmem => exact absurd (List.cons.inj (List.cons.inj heq).2).1 (escape?_of_mem hmem).1
    | unit hdigits =>
      simp only [List.cons_append, List.append_assoc, List.cons.injEq, true_and] at heq
      exact hunit hdigits heq
    | pair _ hhigh _ =>
      simp only [List.cons_append, List.append_assoc, List.cons.injEq, true_and] at heq
      exact hunit hhigh heq

/-- One character is scanned from its spelling, whatever text is spelled behind it. -/
theorem scanString?_of_spellsChar {c : Char} {first chars text : List Char}
    (hc : SpellsChar c first) (htext : SpellsString chars text) (before rest : List Char) :
    scanString? (some before) (first ++ (text ++ '"' :: rest))
      = scanString? (some (c :: before)) (text ++ '"' :: rest) := by
  have hsurrogate := not_surrogate c
  cases hc with
  | itself hquote hslash hcontrol =>
    have hplain : ¬ (c = '\\' ∨ c.toNat < 0x20) :=
      fun h => h.elim hslash (Nat.not_lt.mpr hcontrol)
    rw [List.singleton_append, scanString?]
    · rw [if_neg hplain, Option.map_some]
    · exact hquote
    · exact fun _ _ _ _ _ _ _ _ _ hslash' _ => hslash hslash'
    · exact fun _ _ _ _ _ hslash' _ => hslash hslash'
    · exact fun _ _ hslash' _ => hslash hslash'
  | escape hmem =>
    obtain ⟨hletter, hescape⟩ := escape?_of_mem hmem
    simp only [List.cons_append, List.nil_append]
    rw [scanString?]
    · simp only [hescape, Option.map_some]
    · exact fun _ _ _ _ _ _ _ _ _ hu => absurd hu hletter
    · exact fun _ _ _ _ _ hu => absurd hu hletter
  | unit hdigits =>
    obtain ⟨a₁, a₂, a₃, a₄, rfl, hunit⟩ := unit?_of_spellsUnit hdigits
    have hnumber : Char.ofNat c.toNat = c := Char.ofNat_toNat c
    simp only [List.cons_append, List.nil_append]
    -- Two code units in a row are looked at together, as they might be one character.
    by_cases hnext : ∃ e f g i back, text ++ '"' :: rest
        = '\\' :: 'u' :: e :: f :: g :: i :: back
    · obtain ⟨e, f, g, i, back, heq⟩ := hnext
      obtain ⟨unit, hunit'⟩ := unit?_isSome_of_spells htext heq
      rw [heq, scanString?]
      simp only [hunit, hunit']
      rw [if_neg (by omega), if_neg hsurrogate, hnumber, Option.map_some]
    · rw [scanString?]
      · simp only [hunit]
        rw [if_neg (by omega), if_neg hsurrogate, hnumber, Option.map_some]
      · exact fun e f g i back heq => hnext ⟨e, f, g, i, back, heq⟩
  | pair hlarge hhigh hlow =>
    have hvalid : c.toNat < 0x110000 := by
      rcases c.valid with h | ⟨-, h⟩
      · exact Nat.lt_trans h (by decide)
      · exact h
    obtain ⟨a₁, a₂, a₃, a₄, rfl, hunit⟩ := unit?_of_spellsUnit hhigh
    obtain ⟨b₁, b₂, b₃, b₄, rfl, hunit'⟩ := unit?_of_spellsUnit hlow
    have hnumber : 0x10000 + (0xd800 + (c.toNat - 0x10000) / 0x400 - 0xd800) * 0x400 +
        (0xdc00 + (c.toNat - 0x10000) % 0x400 - 0xdc00) = c.toNat := by omega
    simp only [List.cons_append, List.nil_append]
    rw [scanString?]
    simp only [hunit, hunit']
    rw [if_pos (by omega), hnumber, Char.ofNat_toNat, Option.map_some]

/-- **A text is scanned from any of its spellings.** -/
theorem scanString?_of_spells {chars text : List Char} (h : SpellsString chars text)
    (before rest : List Char) :
    scanString? (some before) (text ++ '"' :: rest)
      = some (.text (String.ofList (before.reverse ++ chars)), rest) := by
  induction chars generalizing before text with
  | nil =>
    obtain rfl : text = [] := h
    rw [List.nil_append, scanString?, List.append_nil]
  | cons c chars ih =>
    obtain ⟨first, text, rfl, hc, htext⟩ := h
    rw [List.append_assoc, scanString?_of_spellsChar hc htext, ih htext, List.reverse_cons,
      List.append_assoc, List.singleton_append]

/-! ### Blanks -/

theorem skipBlanks_cons {c : Char} (h : isBlank c = false) (text : List Char) :
    skipBlanks (c :: text) = c :: text := by
  rw [skipBlanks, List.dropWhile_cons, if_neg (by rw [h]; decide)]

/-- Blanks are skipped. -/
theorem skipBlanks_append {blanks : List Char} (h : AreBlanks blanks) (text : List Char) :
    skipBlanks (blanks ++ text) = skipBlanks text := by
  have hblank : ∀ c ∈ blanks, isBlank c := by
    intro c hc
    have hall : [' ', '\n', '\t', '\r'].all isBlank := rfl
    exact List.all_eq_true.mp hall c (h c hc)
  rw [skipBlanks, List.dropWhile_append_of_pos hblank, skipBlanks]

/-- What ends a container, an item or a member: nothing, a comma or a closing bracket. -/
def Closes (rest : List Char) : Prop :=
  rest = [] ∨ ∃ c text, rest = c :: text ∧ (c = ',' ∨ c = ']' ∨ c = '\x7d')

theorem Closes.cons {c : Char} (text : List Char) (h : c = ',' ∨ c = ']' ∨ c = '\x7d') :
    Closes (c :: text) :=
  .inr ⟨c, text, rfl, h⟩

theorem Closes.skipBlanks_eq {rest : List Char} (h : Closes rest) : skipBlanks rest = rest := by
  obtain rfl | ⟨c, text, rfl, rfl | rfl | rfl⟩ := h
  · rfl
  all_goals exact skipBlanks_cons rfl text

/-! ### Numbers -/

/-- What may follow a value: blanks, and behind them nothing, a comma or a closing bracket. -/
def Ends (rest : List Char) : Prop :=
  ∃ blanks back, rest = blanks ++ back ∧ AreBlanks blanks ∧ Closes back

/-- What follows a value ends it with its first character. -/
theorem Ends.cases {rest : List Char} (h : Ends rest) :
    rest = [] ∨ ∃ c text, rest = c :: text ∧
      (c = ',' ∨ c = ']' ∨ c = '\x7d' ∨ c = ' ' ∨ c = '\n' ∨ c = '\t' ∨ c = '\r') := by
  obtain ⟨_ | ⟨blank, blanks⟩, back, rfl, hblanks, hback⟩ := h
  · obtain rfl | ⟨c, text, rfl, rfl | rfl | rfl⟩ := hback
    · exact .inl rfl
    all_goals exact .inr ⟨_, text, rfl, by decide⟩
  · have hblank : blank = ' ' ∨ blank = '\n' ∨ blank = '\t' ∨ blank = '\r' := by
      simpa using hblanks blank List.mem_cons_self
    exact .inr ⟨blank, blanks ++ back, rfl, .inr (.inr (.inr hblank))⟩

theorem Ends.takeWhile_isDigit {rest : List Char} (h : Ends rest) :
    rest.takeWhile Char.isDigit = [] ∧ rest.dropWhile Char.isDigit = rest := by
  obtain rfl | ⟨c, text, rfl, rfl | rfl | rfl | rfl | rfl | rfl | rfl⟩ := h.cases
  · exact ⟨rfl, rfl⟩
  all_goals exact ⟨rfl, rfl⟩

/-- A number other than zero is written without a leading zero. -/
theorem head?_toDigits {n : Nat} (h : n ≠ 0) : (Nat.toDigits 10 n).head? ≠ some '0' := by
  induction n using Nat.strongRecOn with
  | ind n ih =>
    by_cases hn : n < 10
    · have hdigit : ∀ n < 10, n ≠ 0 → [Nat.digitChar n].head? ≠ some '0' := by decide
      rw [Nat.toDigits_of_lt_base hn]
      exact hdigit n hn h
    · have hfront := ih (n / 10) (by omega) (by omega)
      rw [Nat.toDigits_of_base_le (by decide) (by omega), List.head?_append]
      rw [List.head?_eq_some_head Nat.toDigits_ne_nil] at hfront ⊢
      exact hfront

/-- The digits of a number are scanned up to their end. -/
theorem scanWhole?_digits (n : Nat) {rest : List Char} (h : Ends rest) :
    scanWhole? (Nat.toDigits 10 n ++ rest) = some (Nat.toDigits 10 n, rest) := by
  have hdigits : ∀ c ∈ Nat.toDigits 10 n, c.isDigit := fun c hc =>
    Nat.isDigit_of_mem_toDigits (by decide) (by decide) hc
  obtain ⟨htake, hdrop⟩ := h.takeWhile_isDigit
  by_cases hn : n = 0
  · subst hn
    obtain rfl | ⟨c, text, rfl, rfl | rfl | rfl | rfl | rfl | rfl | rfl⟩ := h.cases <;> rfl
  · have hhead : ∀ text, Nat.toDigits 10 n ++ rest ≠ '0' :: text := by
      intro text heq
      have hzero : (Nat.toDigits 10 n ++ rest).head? = some '0' := by rw [heq, List.head?_cons]
      rw [List.head?_append_of_ne_nil _ Nat.toDigits_ne_nil] at hzero
      exact head?_toDigits hn hzero
    rw [scanWhole?]
    · rw [List.takeWhile_append_of_pos hdigits, List.dropWhile_append_of_pos hdigits, htake, hdrop,
        List.append_nil, if_neg]
      exact List.isEmpty_eq_false_iff.mpr Nat.toDigits_ne_nil ▸ Bool.false_ne_true
    · exact fun _ _ => hhead _
    · exact hhead []

/-- **The digits of a number are scanned as that number.** -/
theorem scanNumber?_digits (negative : Bool) (n : Nat) {rest : List Char} (h : Ends rest) :
    scanNumber? negative (Nat.toDigits 10 n ++ rest) =
      some (⟨negative, Nat.toDigits 10 n, none, none⟩, rest) := by
  have hfraction : scanFraction? rest = some (none, rest) := by
    obtain rfl | ⟨c, text, rfl, rfl | rfl | rfl | rfl | rfl | rfl | rfl⟩ := h.cases <;> rfl
  have hexponent : scanExponent? rest = some (none, rest) := by
    obtain rfl | ⟨c, text, rfl, rfl | rfl | rfl | rfl | rfl | rfl | rfl⟩ := h.cases <;> rfl
  rw [scanNumber?, scanWhole?_digits n h]
  simp only [Option.bind_eq_bind, Option.bind_some, hfraction, hexponent, Option.pure_def]

theorem digitsValue_toDigits (n : Nat) : digitsValue (Nat.toDigits 10 n) = n := by
  have hvalue : ∀ (digits : List Char) (acc : Nat),
      digits.foldl (fun acc c => acc * 10 + (c.toNat - '0'.toNat)) acc
        = Nat.ofDigitChars 10 digits acc := by
    intro digits
    induction digits with
    | nil => exact fun _ => Nat.ofDigitChars_nil.symm
    | cons c digits ih =>
      intro acc
      rw [List.foldl_cons, ih, Nat.ofDigitChars_cons, Nat.mul_comm]
  rw [digitsValue, hvalue, Nat.ofDigitChars_ten_toDigits]

end Document

/-- An integer as it is written. -/
def NumberLiteral.ofInt (n : Int) : NumberLiteral :=
  ⟨decide (n < 0), Nat.toDigits 10 n.natAbs, none, none⟩

/-- **The literal of an integer of 64 bits has its value.** -/
theorem NumberLiteral.value?_ofInt {n : Int} (hlow : -0x8000000000000000 ≤ n)
    (hhigh : n < UInt64.size) : (ofInt n).value? = some (.integer n) := by
  have hinteger : (ofInt n).integer? = some n := by
    simp only [integer?, ofInt, Document.digitsValue_toDigits]
    by_cases hneg : n < 0
    · rw [if_pos (decide_eq_true hneg), if_neg (by omega)]
      exact congrArg some (by omega)
    · rw [if_neg (by simpa using hneg)]
      exact congrArg some (by omega)
  rw [value?, hinteger]
  exact if_pos ⟨hlow, hhigh⟩

end PosvGateway
