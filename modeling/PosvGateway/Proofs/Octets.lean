import Mathlib.Algebra.Group.Nat.Defs
import Mathlib.Data.List.Induction
import PosvGateway.Octets

/-!
# Byte strings as numbers

Numbers travel as big-endian byte strings, in two forms: the shortest one and one of a fixed size.

* `Bytes.toNat_ofNat`, `Bytes.ofNat_toNat` : the shortest form and the byte strings without a
  leading zero are in bijection;
* `Bytes.length_ofNat_le` : how long the shortest form is;
* `Bytes.toNat_ofNatSized`, `Bytes.ofNatSized_toNat` : the form of a fixed size holds a number up
  to its size, so that byte strings of one length are in order as numbers are.
-/

namespace PosvGateway

namespace Bytes

/-! ### Reading -/

theorem foldl_toNat (bytes : Bytes) (acc : Nat) :
    bytes.foldl (fun acc b => acc * 256 + b.toNat) acc
      = acc * 256 ^ bytes.length + toNat bytes := by
  induction bytes generalizing acc with
  | nil => simp [toNat]
  | cons b bytes ih =>
    have htail := ih b.toNat
    simp only [toNat, List.foldl_cons, Nat.zero_mul, Nat.zero_add] at htail ⊢
    rw [ih, htail, List.length_cons, Nat.pow_succ, Nat.add_mul, Nat.mul_assoc,
      Nat.mul_comm 256, Nat.add_assoc]
    rfl

@[simp] theorem toNat_nil : toNat [] = 0 := rfl

theorem toNat_append (front back : Bytes) :
    toNat (front ++ back) = toNat front * 256 ^ back.length + toNat back := by
  rw [toNat, List.foldl_append, foldl_toNat]
  rfl

theorem toNat_cons (b : UInt8) (bytes : Bytes) :
    toNat (b :: bytes) = b.toNat * 256 ^ bytes.length + toNat bytes := by
  rw [toNat, List.foldl_cons, Nat.zero_mul, Nat.zero_add, foldl_toNat]

@[simp] theorem toNat_singleton (b : UInt8) : toNat [b] = b.toNat := by
  simp [toNat]

theorem toNat_concat (bytes : Bytes) (b : UInt8) :
    toNat (bytes ++ [b]) = toNat bytes * 256 + b.toNat := by
  rw [toNat_append, List.length_singleton, Nat.pow_one, toNat_singleton]

theorem toNat_lt (bytes : Bytes) : toNat bytes < 256 ^ bytes.length := by
  induction bytes with
  | nil => exact Nat.zero_lt_one
  | cons b bytes ih =>
    have hb : b.toNat < 256 := b.toNat_lt
    rw [toNat_cons, List.length_cons, Nat.pow_succ, Nat.mul_comm (256 ^ _)]
    calc b.toNat * 256 ^ bytes.length + toNat bytes
        < b.toNat * 256 ^ bytes.length + 256 ^ bytes.length := Nat.add_lt_add_left ih _
      _ = (b.toNat + 1) * 256 ^ bytes.length := by rw [Nat.add_mul, Nat.one_mul]
      _ ≤ 256 * 256 ^ bytes.length := Nat.mul_le_mul_right _ hb

/-! ### The shortest form -/

theorem ofNatAux_append (fuel n : Nat) (tail : Bytes) :
    ofNatAux fuel n tail = ofNatAux fuel n [] ++ tail := by
  induction fuel generalizing n tail with
  | zero => rfl
  | succ fuel ih =>
    simp only [ofNatAux]
    split
    · rfl
    · rw [ih, ih (n / 256) [_], List.append_assoc, List.singleton_append]

theorem ofNatAux_fuel {fuel fuel' n : Nat} (h : n < 2 ^ fuel) (h' : n < 2 ^ fuel') :
    ofNatAux fuel n [] = ofNatAux fuel' n [] := by
  induction fuel generalizing fuel' n with
  | zero =>
    obtain rfl : n = 0 := by omega
    cases fuel' <;> rfl
  | succ fuel ih =>
    by_cases hn : n = 0
    · subst hn
      cases fuel' <;> rfl
    cases fuel' with
    | zero => omega
    | succ fuel' =>
      have hq : ofNatAux fuel (n / 256) [] = ofNatAux fuel' (n / 256) [] :=
        ih (by omega) (by omega)
      simp only [ofNatAux, if_neg hn]
      rw [ofNatAux_append, ofNatAux_append fuel', hq]

@[simp] theorem ofNat_zero : ofNat 0 = [] := rfl

theorem ofNat_of_pos {n : Nat} (h : n ≠ 0) :
    ofNat n = ofNat (n / 256) ++ [UInt8.ofNat (n % 256)] := by
  have hn : n < 2 ^ (n.log2 + 1) := Nat.lt_log2_self
  have hq : n / 256 < 2 ^ ((n / 256).log2 + 1) := Nat.lt_log2_self
  rw [ofNat, ofNatAux, if_neg h, ofNatAux_append, ofNatAux_fuel (by omega) hq]
  rfl

@[simp] theorem toNat_ofNat (n : Nat) : toNat (ofNat n) = n := by
  induction n using Nat.strongRecOn with
  | ind n ih =>
    by_cases hn : n = 0
    · rw [hn]
      rfl
    -- The last byte is split off, as in the recursion of the reading.
    rw [ofNat_of_pos hn, toNat_concat, ih (n / 256) (by omega), UInt8.toNat_ofNat']
    omega

theorem ofNat_ne_nil {n : Nat} (h : n ≠ 0) : ofNat n ≠ [] := by
  rw [ofNat_of_pos h]
  exact List.append_ne_nil_of_right_ne_nil _ (List.cons_ne_nil _ _)

/-- The shortest form has no leading zero. -/
theorem head?_ofNat (n : Nat) : (ofNat n).head? ≠ some 0 := by
  induction n using Nat.strongRecOn with
  | ind n ih =>
    by_cases hn : n = 0
    · simp [hn]
    rw [ofNat_of_pos hn]
    by_cases hq : n / 256 = 0
    · have hbyte : UInt8.ofNat (n % 256) ≠ 0 := by
        intro h
        have := congrArg UInt8.toNat h
        rw [UInt8.toNat_ofNat'] at this
        simp at this
        omega
      simpa [hq] using hbyte
    · have hfront := ih (n / 256) (by omega)
      cases hcons : ofNat (n / 256) with
      | nil => exact absurd hcons (ofNat_ne_nil hq)
      | cons b bytes =>
        rw [hcons] at hfront
        exact hfront

/-- A number takes `k` bytes at most exactly when it is below `256 ^ k`. -/
theorem length_ofNat_le (n k : Nat) : (ofNat n).length ≤ k ↔ n < 256 ^ k := by
  induction k generalizing n with
  | zero =>
    by_cases hn : n = 0
    · simp [hn]
    · have := List.length_pos_iff.mpr (ofNat_ne_nil hn)
      rw [Nat.pow_zero]
      omega
  | succ k ih =>
    by_cases hn : n = 0
    · rw [hn, ofNat_zero]
      exact iff_of_true (Nat.zero_le _) (Nat.pow_pos (by decide))
    · rw [ofNat_of_pos hn, List.length_append, List.length_singleton, Nat.add_le_add_iff_right,
        ih, Nat.div_lt_iff_lt_mul (by decide), Nat.pow_succ]

/-- **A byte string without a leading zero is the shortest form of the number it spells.** -/
theorem ofNat_toNat {bytes : Bytes} (h : bytes.head? ≠ some 0) : ofNat (toNat bytes) = bytes := by
  induction bytes using List.reverseRecOn with
  | nil => rfl
  | append_singleton bytes b ih =>
    have hb : b.toNat < 256 := b.toNat_lt
    cases bytes with
    | nil =>
      have hb0 : b.toNat ≠ 0 := by
        intro h0
        exact h (congrArg some (UInt8.toNat_inj.mp h0))
      rw [List.nil_append, toNat_singleton, ofNat_of_pos hb0, Nat.div_eq_of_lt hb,
        Nat.mod_eq_of_lt hb, UInt8.ofNat_toNat, ofNat_zero, List.nil_append]
    | cons c bytes =>
      have hfront : ofNat (toNat (c :: bytes)) = c :: bytes := ih (by simpa using h)
      -- A front without a leading zero is not zero: the shortest form of zero is empty.
      have hpos : toNat (c :: bytes) ≠ 0 := by
        intro h0
        rw [h0] at hfront
        exact List.cons_ne_nil _ _ hfront.symm
      rw [toNat_concat, ofNat_of_pos (by omega), Nat.mul_comm, Nat.mul_add_div (by decide),
        Nat.div_eq_of_lt hb, Nat.mul_add_mod, Nat.mod_eq_of_lt hb, UInt8.ofNat_toNat, Nat.add_zero,
        hfront]

/-! ### A fixed size -/

theorem toNat_ofNatSized (size n : Nat) : toNat (ofNatSized size n) = n % 256 ^ size := by
  induction size generalizing n with
  | zero => simp [ofNatSized, Nat.mod_one]
  | succ size ih =>
    have hbyte : (UInt8.ofNat (n % 256)).toNat = n % 256 := by
      rw [UInt8.toNat_ofNat']
      omega
    rw [ofNatSized, toNat_concat, ih, hbyte, Nat.pow_succ', Nat.mod_mul]
    omega

theorem ofNatSized_toNat (bytes : Bytes) : ofNatSized bytes.length (toNat bytes) = bytes := by
  induction bytes using List.reverseRecOn with
  | nil => rfl
  | append_singleton bytes b ih =>
    have hb : b.toNat < 256 := b.toNat_lt
    rw [List.length_append, List.length_singleton, ofNatSized, toNat_concat, Nat.mul_comm,
      Nat.mul_add_div (by decide), Nat.div_eq_of_lt hb, Nat.mul_add_mod, Nat.mod_eq_of_lt hb,
      UInt8.ofNat_toNat, Nat.add_zero, ih]

end Bytes

namespace Octets

variable {n : Nat}

@[simp] theorem ofNat_toNat (o : Octets n) : ofNat n o.toNat = o := by
  obtain ⟨bytes, rfl⟩ := o
  exact ext (Bytes.ofNatSized_toNat bytes)

theorem toNat_inj {a b : Octets n} (h : a.toNat = b.toNat) : a = b := by
  rw [← ofNat_toNat a, h, ofNat_toNat]

instance : Std.TransOrd (Octets n) where
  eq_swap {a b} := Std.OrientedOrd.eq_swap (a := a.toNat) (b := b.toNat)
  isLE_trans {a b c} := Std.TransOrd.isLE_trans (a := a.toNat) (b := b.toNat) (c := c.toNat)

instance : Std.LawfulEqOrd (Octets n) where
  compare_self {a} := Std.ReflOrd.compare_self (a := a.toNat)
  eq_of_compare h := toNat_inj (Nat.compare_eq_eq.mp h)

@[simp] theorem ofBytes?_bytes (o : Octets n) : ofBytes? n o.bytes = some o := by
  rw [ofBytes?, dif_pos o.length_bytes]

theorem ofBytes?_eq_some {bytes : Bytes} {o : Octets n} :
    ofBytes? n bytes = some o ↔ bytes = o.bytes := by
  constructor
  · intro h
    rw [ofBytes?] at h
    split at h
    · rw [← Option.some.inj h]
    · exact absurd h (Option.some_ne_none o).symm
  · rintro rfl
    exact ofBytes?_bytes o

end Octets

end PosvGateway
