import PosvGateway.Json.Printer
import PosvGateway.Proofs.Numeral.Value

/-!
# Numbers as they are written

A number is written with digits, and with signs, a point or an exponent between them. Those mark the
numbers that are no natural ones: a double has a point or an exponent, and an integer below zero a
sign.

* `JsonNumber.isNumeric_render` : what a number is written with;
* `JsonNumber.exists_of_isDigit_render` : **digits alone are written for natural numbers only**;
* `Numeral.readUint256_render`, `Quantity.read_render` : **a number as it is written is read as an
  amount or a quantity where it is that natural number, and only there**.
-/

namespace PosvGateway

/-- A text of digits, points, exponents and signs. -/
def IsNumeric (text : String) : Prop :=
  ∀ c ∈ text.toList, c.isDigit ∨ c ∈ ['.', 'e', '+', '-']

instance (text : String) : Decidable (IsNumeric text) := List.decidableBAll _ text.toList

namespace IsNumeric

theorem append {a b : String} (ha : IsNumeric a) (hb : IsNumeric b) : IsNumeric (a ++ b) := by
  intro c hc
  rw [String.toList_append, List.mem_append] at hc
  exact hc.elim (ha c) (hb c)

theorem decimal (n : Nat) : IsNumeric (Numeral.decimal n) := by
  intro c hc
  rw [Numeral.decimal, String.toList_ofList] at hc
  exact .inl (Nat.isDigit_of_mem_toDigits (by decide) (by decide) hc)

theorem signedDecimal (z : Int) : IsNumeric (Numeral.signedDecimal z) := by
  rw [Numeral.signedDecimal]
  split
  · exact append (by decide) (decimal _)
  · exact decimal _

end IsNumeric

/-! ### Doubles -/

namespace Binary64

variable {digits : String}

theorem isNumeric_zeros (count : Nat) : IsNumeric (zeros count) := by
  intro c hc
  rw [zeros, String.toList_ofList] at hc
  rw [List.eq_of_mem_replicate hc]
  exact .inl rfl

theorem isNumeric_withPoint (h : IsNumeric digits) (position : Nat) :
    IsNumeric (withPoint digits position) := by
  refine (IsNumeric.append ?_ (by decide)).append ?_
  · intro c hc
    rw [String.toList_ofList] at hc
    exact h c (List.mem_of_mem_take hc)
  · intro c hc
    rw [String.toList_ofList] at hc
    exact h c (List.mem_of_mem_drop hc)

theorem isNumeric_positionalDigits (h : IsNumeric digits) (k : Int) :
    IsNumeric (positionalDigits digits k) := by
  rw [positionalDigits]
  split
  · exact (h.append (isNumeric_zeros _)).append (by decide)
  split
  · exact isNumeric_withPoint h _
  · exact (IsNumeric.append (by decide) (isNumeric_zeros _)).append h

theorem isNumeric_exponentDigits (k : Int) : IsNumeric (exponentDigits k) := by
  rw [exponentDigits]
  split
  · exact IsNumeric.append (by decide) (.decimal _)
  · exact IsNumeric.append (by decide) (.signedDecimal _)

theorem mem_withPoint (digits : String) (position : Nat) :
    '.' ∈ (withPoint digits position).toList := by
  rw [withPoint, String.toList_append, String.toList_append]
  exact List.mem_append_left _ (List.mem_append_right _ (by decide))

theorem mem_positionalDigits (digits : String) (k : Int) :
    '.' ∈ (positionalDigits digits k).toList := by
  rw [positionalDigits]
  split
  · rw [String.toList_append]
    exact List.mem_append_right _ (by decide)
  split
  · exact mem_withPoint digits _
  · rw [String.toList_append, String.toList_append]
    exact List.mem_append_left _ (List.mem_append_left _ (by decide))

theorem mem_exponentDigits (k : Int) : 'e' ∈ (exponentDigits k).toList := by
  rw [exponentDigits]
  split
  · rw [String.toList_append]
    exact List.mem_append_left _ (by decide)
  · rw [String.toList_append]
    exact List.mem_append_left _ (by decide)

/-- The text of a double has a point or an exponent. -/
theorem isNumeric_text (x : Binary64) :
    IsNumeric x.text ∧ ('.' ∈ x.text.toList ∨ 'e' ∈ x.text.toList) := by
  let digits := Numeral.decimal x.shortest.1
  have hdigits : IsNumeric digits := .decimal _
  have hbody : ∀ body : String, IsNumeric body ∧ ('.' ∈ body.toList ∨ 'e' ∈ body.toList) →
      ∀ negative : Bool, IsNumeric (if negative then "-" ++ body else body) ∧
        ('.' ∈ (if negative then "-" ++ body else body).toList ∨
          'e' ∈ (if negative then "-" ++ body else body).toList) := by
    rintro body ⟨hnumeric, hmark⟩ negative
    cases negative with
    | false => exact ⟨hnumeric, hmark⟩
    | true =>
      refine ⟨IsNumeric.append (by decide) hnumeric, ?_⟩
      rw [if_pos rfl, String.toList_append]
      exact hmark.imp (List.mem_append_right _) (List.mem_append_right _)
  refine hbody _ ?_ x.negative
  split
  · exact ⟨isNumeric_positionalDigits hdigits _, .inl (mem_positionalDigits _ _)⟩
  split
  · refine ⟨hdigits.append (isNumeric_exponentDigits _), .inr ?_⟩
    rw [String.toList_append]
    exact List.mem_append_right _ (mem_exponentDigits _)
  · refine ⟨(isNumeric_withPoint hdigits _).append (isNumeric_exponentDigits _), .inr ?_⟩
    rw [String.toList_append]
    exact List.mem_append_right _ (mem_exponentDigits _)

end Binary64

namespace JsonNumber

theorem isNumeric_render (n : JsonNumber) : IsNumeric n.render := by
  cases n with
  | integer z => exact .signedDecimal z
  | real x => exact x.isNumeric_text.1

theorem toList_render_integer (m : Nat) :
    (JsonNumber.integer m).render.toList = Nat.toDigits 10 m := String.toList_ofList

/-- **Digits alone are written for natural numbers only.** -/
theorem exists_of_isDigit_render {n : JsonNumber} {digits : List Char}
    (htext : n.render.toList = digits ∨ n.render.toList = '+' :: digits)
    (h : ∀ c ∈ digits, c.isDigit) : ∃ m : Nat, n = .integer m := by
  have hdigits : ∀ c ∈ n.render.toList, c.isDigit ∨ c = '+' := by
    rcases htext with htext | htext
    · exact fun c hc => .inl (h c (htext ▸ hc))
    · intro c hc
      rw [htext, List.mem_cons] at hc
      exact hc.symm.imp_left (h c)
  cases n with
  | integer z =>
    by_cases hz : z < 0
    · have hsign : '-' ∈ (JsonNumber.integer z).render.toList := by
        rw [render, Numeral.signedDecimal, if_pos hz, String.toList_append]
        exact List.mem_append_left _ (by decide)
      exact absurd (hdigits _ hsign) (by decide)
    · exact ⟨z.toNat, by rw [Int.toNat_of_nonneg (Int.not_lt.mp hz)]⟩
  | real x =>
    obtain hpoint | hexponent := x.isNumeric_text.2
    · exact absurd (hdigits _ hpoint) (by decide)
    · exact absurd (hdigits _ hexponent) (by decide)

end JsonNumber

/-! ### Reading -/

namespace Numeral

theorem readUint256_of_isNumeric {text : String} (h : IsNumeric text) :
    readUint256 text = readDecimal text.toList := by
  rw [readUint256]
  -- No letter that marks a base occurs in such a text.
  split
  all_goals first
    | rfl
    | rename_i heq
      exact absurd (h _ (by rw [heq]; exact List.mem_cons_of_mem _ List.mem_cons_self)) (by decide)

/-- **A number as it is written is read as an amount where it is that natural number.** -/
theorem readUint256_render {n : JsonNumber} {v : Uint256} :
    readUint256 n.render = .ok v ↔ n = .integer v.toNat := by
  constructor
  · intro h
    rw [readUint256_of_isNumeric n.isNumeric_render] at h
    obtain ⟨number, hread, -⟩ := Except.map_eq_ok.mp h
    have hascii := ascii_of_octetChars (readForward_eq_ok hread).2.1
    rw [octetChars_ascii hascii] at hread
    have hdigits : ∀ c ∈ n.render.toList, c.isDigit := by
      intro c hc
      obtain rfl | hdigit := isDigit_of_readForward hread c hc
      · exact absurd (n.isNumeric_render '_' hc) (by decide)
      · exact hdigit
    obtain ⟨m, rfl⟩ := JsonNumber.exists_of_isDigit_render (.inl rfl) hdigits
    have hvalue := readDecimal_toDigits m
    rw [← JsonNumber.toList_render_integer, h] at hvalue
    split at hvalue
    · rename_i hm
      cases hvalue
      rw [BitVec.toNat_ofNat, Nat.mod_eq_of_lt (size_eq ▸ hm)]
    · cases hvalue
  · rintro rfl
    exact readUint256_decimal v

end Numeral

namespace Quantity

theorem read_of_isNumeric {text : String} (h : IsNumeric text) :
    read text = (Numeral.readUnsigned 10 (UInt64.size - 1) text.toList).map UInt64.ofNat := by
  rw [read]
  split
  all_goals first
    | rfl
    | rename_i heq
      exact absurd (h _ (by rw [heq]; exact List.mem_cons_of_mem _ List.mem_cons_self)) (by decide)

/-- **A number as it is written is read as a quantity where it is that natural number.** -/
theorem read_render {n : JsonNumber} {q : UInt64} :
    read n.render = .ok q ↔ n = .integer q.toNat := by
  rw [read_of_isNumeric n.isNumeric_render, Except.map_eq_ok]
  constructor
  · rintro ⟨number, hread, rfl⟩
    obtain ⟨digits, htext, -, hdigits, hvalue, hbound⟩ := Numeral.readUnsigned_eq_ok.mp hread
    obtain ⟨m, rfl⟩ := JsonNumber.exists_of_isDigit_render htext hdigits
    have hm : ∀ c ∈ Nat.toDigits 10 m, c.isDigit := fun c hc =>
      Nat.isDigit_of_mem_toDigits (by decide) (by decide) hc
    rw [JsonNumber.toList_render_integer] at htext
    obtain rfl | hplus := htext
    · rw [Nat.ofDigitChars_ten_toDigits] at hvalue
      rw [hvalue, UInt64.toNat_ofNat_of_lt' (Nat.lt_of_le_pred (by decide) hbound)]
    · exact absurd (hm '+' (hplus ▸ List.mem_cons_self)) (by decide)
  · rintro rfl
    refine ⟨q.toNat, Numeral.readUnsigned_eq_ok.mpr ⟨_, .inl rfl, ?_⟩, UInt64.ofNat_toNat⟩
    rw [JsonNumber.toList_render_integer]
    exact ⟨Nat.toDigits_ne_nil, fun c hc => Nat.isDigit_of_mem_toDigits (by decide) (by decide) hc,
      Nat.ofDigitChars_ten_toDigits, Nat.le_sub_one_of_lt q.toNat_lt⟩

end Quantity

end PosvGateway
