import Mathlib
import PosvGateway.Rosetta.Leg

/-!
# Amounts as integers

The amount of an operation is a decimal text. Here it is read as an integer of any size, apart from
the balances of 256 bits that the gateway itself reads it as.

* `Operation.integer?` is the amount of one operation, `Operation.total?` the sum of those of
  several, and `Operation.magnitude?` the sum of their distances from zero;
* `Leg.total?_filter_number` reduces a sum over numbered operations to one over the legs they
  come from: numbering changes no amount.
-/

namespace PosvGateway

/-! ### Decimal texts -/

namespace Numeral

theorem signedDecimal_eq_repr (z : Int) : signedDecimal z = z.repr := by
  cases z with
  | ofNat n => rfl
  | negSucc n =>
    have hneg : Int.negSucc n < 0 := Int.negSucc_lt_zero n
    simp only [signedDecimal, hneg, ↓reduceIte]
    rfl

@[simp] theorem toInt?_decimal (n : Nat) : (decimal n).toInt? = some (n : Int) :=
  Nat.toInt?_repr n

theorem decimal_inj {n n' : Nat} (h : decimal n = decimal n') : n = n' := by
  have hint : some (n : Int) = some (n' : Int) := by
    rw [← toInt?_decimal, h, toInt?_decimal]
  exact Int.natCast_inj.mp (Option.some.inj hint)

@[simp] theorem toInt?_signedDecimal (z : Int) : (signedDecimal z).toInt? = some z := by
  rw [signedDecimal_eq_repr, Int.toInt?_repr]

end Numeral

/-! ### Amounts -/

@[simp] theorem Amount.toInt?_credit (v : Uint256) :
    (Amount.credit v).value.toInt? = some (v.toNat : Int) := Numeral.toInt?_decimal _

@[simp] theorem Amount.toInt?_debit (v : Uint256) :
    (Amount.debit v).value.toInt? = some (-(v.toNat : Int)) := Numeral.toInt?_signedDecimal _

/-- An amount of the native currency, written by the gateway. -/
def Amount.IsNative (amount : Amount) : Prop := ∃ v, amount = .credit v ∨ amount = .debit v

theorem Amount.IsNative.toInt?_isSome {amount : Amount} (h : amount.IsNative) :
    amount.value.toInt?.isSome := by
  obtain ⟨v, rfl | rfl⟩ := h <;> simp

namespace Operation

/-- The amount as an integer, zero where there is none. -/
def integer? (op : Operation) : Option Int :=
  match op.amount with
  | some amount => amount.value.toInt?
  | none => some 0

/-- The sum of the amounts of some operations, if all of them can be read. -/
def total? (ops : List Operation) : Option Int := (ops.mapM integer?).map List.sum

/-- The sum of the amounts of some operations without their signs, if all of them can be read. -/
def magnitude? (ops : List Operation) : Option Nat :=
  (ops.mapM integer?).map fun zs => (zs.map Int.natAbs).sum

/-- The operations of a status. -/
def withStatus (status : String) (ops : List Operation) : List Operation :=
  ops.filter fun op => op.status = some status

/-- The operations of a type. -/
def ofKind (kind : String) (ops : List Operation) : List Operation :=
  ops.filter fun op => op.kind = kind

/-- The amount as an integer, zero where there is none or it cannot be read. -/
def worth (op : Operation) : Int := op.integer?.getD 0

/-- Any amount there is was written by the gateway. -/
def IsNative (op : Operation) : Prop := ∀ amount, op.amount = some amount → amount.IsNative

theorem IsNative.integer?_eq {op : Operation} (h : op.IsNative) : op.integer? = some op.worth := by
  have hsome : op.integer?.isSome := by
    unfold integer?
    split
    · rename_i amount hamount
      exact (h amount hamount).toInt?_isSome
    · rfl
  obtain ⟨z, hz⟩ := Option.isSome_iff_exists.1 hsome
  rw [worth, hz, Option.getD_some]

theorem mapM_integer? {ops : List Operation} (h : ∀ op ∈ ops, op.IsNative) :
    ops.mapM integer? = some (ops.map worth) := by
  induction ops with
  | nil => rfl
  | cons op ops ih =>
    have hop := (h op List.mem_cons_self).integer?_eq
    have hops := ih fun op hop => h op (List.mem_cons_of_mem _ hop)
    rw [List.mapM_cons, hop, hops]
    rfl

theorem total?_eq_sum {ops : List Operation} (h : ∀ op ∈ ops, op.IsNative) :
    total? ops = some (ops.map worth).sum := by
  rw [total?, mapM_integer? h, Option.map_some]

theorem magnitude?_eq_sum {ops : List Operation} (h : ∀ op ∈ ops, op.IsNative) :
    magnitude? ops = some (ops.map fun op => op.worth.natAbs).sum := by
  rw [magnitude?, mapM_integer? h, Option.map_some, List.map_map]
  rfl

theorem isNative_of_mem_filter {ops : List Operation} {p : Operation → Bool}
    (h : ∀ op ∈ ops, op.IsNative) : ∀ op ∈ ops.filter p, op.IsNative :=
  fun op hop => h op (List.mem_filter.1 hop).1

end Operation

/-! ### Legs -/

namespace Leg

/-- The amount as an integer, zero where there is none. -/
def worth (leg : Leg) : Int := (leg.toOperation 0).worth

/-- The sum of the amounts of the legs that satisfy a test. -/
def net (p : Leg → Bool) (legs : List Leg) : Int := ((legs.filter p).map worth).sum

/-- Any amount there is was written by the gateway. -/
def IsNative (leg : Leg) : Prop := ∀ amount, leg.amount = some amount → amount.IsNative

theorem worth_of_debit {leg : Leg} {v : Uint256} (h : leg.amount = some (.debit v)) :
    leg.worth = -v.toNat := by
  simp [worth, Operation.worth, Operation.integer?, toOperation, h]

theorem worth_of_credit {leg : Leg} {v : Uint256} (h : leg.amount = some (.credit v)) :
    leg.worth = v.toNat := by
  simp [worth, Operation.worth, Operation.integer?, toOperation, h]

theorem worth_of_none {leg : Leg} (h : leg.amount = none) : leg.worth = 0 := by
  simp [worth, Operation.worth, Operation.integer?, toOperation, h]

@[simp] theorem net_nil (p : Leg → Bool) : net p [] = 0 := rfl

@[simp] theorem net_append (p : Leg → Bool) (legs legs' : List Leg) :
    net p (legs ++ legs') = net p legs + net p legs' := by
  simp [net]

theorem net_cons (p : Leg → Bool) (leg : Leg) (legs : List Leg) :
    net p (leg :: legs) = (if p leg then leg.worth else 0) + net p legs := by
  by_cases hp : p leg <;> simp [net, hp]

theorem net_flatMap {α : Type} (p : Leg → Bool) (f : α → List Leg) (as : List α) :
    net p (as.flatMap f) = (as.map fun a => net p (f a)).sum := by
  induction as with
  | nil => rfl
  | cons a as ih => rw [List.flatMap_cons, net_append, ih, List.map_cons, List.sum_cons]

theorem number_append (start : Int) (legs legs' : List Leg) :
    number start (legs ++ legs') = number start legs ++ number (start + legs.length) legs' := by
  induction legs generalizing start with
  | nil => simp [number]
  | cons leg legs ih =>
    have hstart : start + 1 + legs.length = start + (leg :: legs).length := by
      rw [List.length_cons]; omega
    rw [List.cons_append, number, ih, hstart, number, List.cons_append]

@[simp] theorem length_number (start : Int) (legs : List Leg) :
    (number start legs).length = legs.length := by
  induction legs generalizing start with
  | nil => rfl
  | cons leg legs ih => rw [number, List.length_cons, ih, List.length_cons]

/-- Numbering keeps the places of legs. -/
theorem getElem?_number (start : Int) (legs : List Leg) (i : Nat) :
    (number start legs)[i]? = legs[i]?.map fun leg => leg.toOperation (start + i) := by
  induction legs generalizing start i with
  | nil => rfl
  | cons leg legs ih =>
    cases i with
    | zero => simp [number]
    | succ i =>
      have hplace : start + 1 + i = start + (i + 1 : Nat) := by omega
      rw [number, List.getElem?_cons_succ, List.getElem?_cons_succ, ih, hplace]

theorem mem_number {start : Int} {legs : List Leg} {op : Operation} (h : op ∈ number start legs) :
    ∃ leg ∈ legs, ∃ index, op = leg.toOperation index := by
  induction legs generalizing start with
  | nil => cases h
  | cons leg legs ih =>
    rcases List.mem_cons.1 h with rfl | h
    · exact ⟨leg, List.mem_cons_self, start, rfl⟩
    · obtain ⟨leg', hmem, index, rfl⟩ := ih h
      exact ⟨leg', List.mem_cons_of_mem _ hmem, index, rfl⟩

theorem exists_mem_number {leg : Leg} {legs : List Leg} (h : leg ∈ legs) :
    ∃ place : Nat, ∀ start, leg.toOperation (start + place) ∈ number start legs := by
  induction legs with
  | nil => cases h
  | cons leg' legs ih =>
    rcases List.mem_cons.1 h with rfl | h
    · refine ⟨0, fun start => ?_⟩
      rw [Nat.cast_zero, Int.add_zero]
      exact List.mem_cons_self
    · obtain ⟨place, hplace⟩ := ih h
      refine ⟨place + 1, fun start => List.mem_cons_of_mem _ ?_⟩
      have hmem := hplace (start + 1)
      rwa [show start + 1 + (place : Int) = start + (place + 1 : Nat) by omega] at hmem

theorem isNative_number {start : Int} {legs : List Leg} (h : ∀ leg ∈ legs, leg.IsNative) :
    ∀ op ∈ number start legs, op.IsNative := by
  intro op hop
  obtain ⟨leg, hmem, index, rfl⟩ := mem_number hop
  exact h leg hmem

/-- What is asked of the operations of some legs is asked of the legs, if numbers do not matter. -/
theorem map_filter_number {α : Type} {p : Operation → Bool} {q : Leg → Bool} {f : Operation → α}
    {g : Leg → α} (hp : ∀ leg index, p (leg.toOperation index) = q leg)
    (hf : ∀ leg index, f (leg.toOperation index) = g leg) (start : Int) (legs : List Leg) :
    ((number start legs).filter p).map f = (legs.filter q).map g := by
  induction legs generalizing start with
  | nil => rfl
  | cons leg legs ih =>
    rw [number, List.filter_cons, List.filter_cons, hp]
    split
    · rw [List.map_cons, List.map_cons, hf, ih]
    · exact ih _

/-- A sum over numbered operations is one over their legs. -/
theorem total?_filter_number {legs : List Leg} (h : ∀ leg ∈ legs, leg.IsNative)
    {p : Operation → Bool} {q : Leg → Bool} (hp : ∀ leg index, p (leg.toOperation index) = q leg)
    (start : Int) : Operation.total? ((number start legs).filter p) = some (net q legs) := by
  rw [Operation.total?_eq_sum (Operation.isNative_of_mem_filter (isNative_number h)), net,
    map_filter_number hp (g := worth) (fun _ _ => rfl)]

theorem total?_withStatus_number {legs : List Leg} (h : ∀ leg ∈ legs, leg.IsNative)
    (status : String) (start : Int) :
    Operation.total? (Operation.withStatus status (number start legs)) =
      some (net (fun leg => leg.status = some status) legs) :=
  total?_filter_number h (fun _ _ => rfl) start

theorem total?_number {legs : List Leg} (h : ∀ leg ∈ legs, leg.IsNative) (start : Int) :
    Operation.total? (number start legs) = some (net (fun _ => true) legs) := by
  rw [← total?_filter_number h (p := fun _ => true) (fun _ _ => rfl) start,
    List.filter_eq_self.2 fun _ _ => rfl]

end Leg

end PosvGateway
