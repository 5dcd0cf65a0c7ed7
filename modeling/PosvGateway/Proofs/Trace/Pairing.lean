import PosvGateway.Proofs.Trace.Executed
import PosvGateway.Reward

/-!
# Numbers and pairs

The operations of every transaction are numbered by their places, and linked in pairs: the credit of
a movement points to the debit in front of it.

* `Leg.Coupled` : in a list of legs every paired leg stands behind the one it belongs to. The law
  holds of the parts that the legs of a transaction are put together from, and survives putting them
  together (`Executed.coupled_legs`, `Rewards.coupled_legs`);
* `Operation.Numbered` : what it means for operations to be numbered and linked;
* `Operation.numbered_number` : numbering coupled legs numbers and links their operations;
* `Operation.DestroyedLast` : what is lost with destroyed accounts stands behind everything else.
-/

namespace PosvGateway

/-! ### Coupled legs -/

namespace Leg

/-- Two legs are the credit and the debit of one movement, or of one frame that moves nothing. -/
structure Opposes (credit debit : Leg) : Prop where
  kind : credit.kind = debit.kind
  status : credit.status = debit.status
  amount : credit.amount = none ∧ debit.amount = none ∨
    ∃ v, credit.amount = some (.credit v) ∧ debit.amount = some (.debit v)

/-- Every paired leg stands right behind the debit that it opposes, which is not paired itself. -/
inductive Coupled : List Leg → Prop
  | nil : Coupled []
  | single {leg : Leg} {legs : List Leg} (hleg : leg.paired = false) (hlegs : Coupled legs) :
    Coupled (leg :: legs)
  | pair {debit credit : Leg} {legs : List Leg} (hdebit : debit.paired = false)
    (hcredit : credit.paired = true) (hopposes : credit.Opposes debit) (hlegs : Coupled legs) :
    Coupled (debit :: credit :: legs)

theorem Coupled.append {legs legs' : List Leg} (h : Coupled legs) (h' : Coupled legs') :
    Coupled (legs ++ legs') := by
  induction h with
  | nil => exact h'
  | single hleg _ ih => exact .single hleg ih
  | pair hdebit hcredit hopposes _ ih => exact .pair hdebit hcredit hopposes ih

theorem Coupled.flatMap {α : Type} {f : α → List Leg} {as : List α}
    (h : ∀ a ∈ as, Coupled (f a)) : Coupled (as.flatMap f) := by
  induction as with
  | nil => exact .nil
  | cons a as ih =>
    rw [List.flatMap_cons]
    exact (h a List.mem_cons_self).append (ih fun a ha => h a (List.mem_cons_of_mem _ ha))

/-- Legs of which none is paired. -/
theorem Coupled.map_of_unpaired {α : Type} {f : α → Leg} (h : ∀ a, (f a).paired = false)
    (as : List α) : Coupled (as.map f) := by
  induction as with
  | nil => exact .nil
  | cons a as ih => exact .single (h a) ih

/-- Where a paired leg stands, the debit that it opposes stands one place before. -/
theorem Coupled.exists_debit {legs : List Leg} (h : Coupled legs) {i : Nat} {leg : Leg}
    (hi : legs[i]? = some leg) (hpaired : leg.paired = true) :
    ∃ j debit, i = j + 1 ∧ legs[j]? = some debit ∧ debit.paired = false ∧ leg.Opposes debit := by
  induction h generalizing i with
  | nil => cases hi
  | single hleg _ ih =>
    cases i with
    | zero =>
      cases hi
      rw [hleg] at hpaired
      cases hpaired
    | succ i =>
      obtain ⟨j, debit, rfl, hj, hdebit⟩ := ih hi
      exact ⟨j + 1, debit, rfl, hj, hdebit⟩
  | @pair debit credit legs hdebit _ hopposes _ ih =>
    match i with
    | 0 =>
      cases hi
      rw [hdebit] at hpaired
      cases hpaired
    | 1 =>
      cases hi
      exact ⟨0, debit, rfl, rfl, hdebit, hopposes⟩
    | i + 2 =>
      obtain ⟨j, debit, rfl, hj, hdebit⟩ := ih hi
      exact ⟨j + 2, debit, rfl, hj, hdebit⟩

theorem coupled_movement (kind : String) (status : Option String) (sender : Address)
    (recipient : Option Address) (value : Uint256) :
    Coupled (movement kind status sender recipient value) := by
  cases recipient with
  | none => exact .single rfl .nil
  | some recipient => exact .pair rfl rfl ⟨rfl, rfl, .inr ⟨value, rfl, rfl⟩⟩ .nil

end Leg

theorem FlatFrame.opposes_creditLeg (call : FlatFrame) (receiver : Address) :
    (call.creditLeg receiver).Opposes call.debitLeg where
  kind := rfl
  status := rfl
  amount := by
    by_cases hzero : call.value = 0
    · exact .inl ⟨if_pos hzero, if_pos hzero⟩
    · exact .inr ⟨call.value, if_neg hzero, if_neg hzero⟩

/-- A frame has no legs, a debit, or a debit and a credit. -/
theorem FlatFrame.coupled_legs (call : FlatFrame) : Leg.Coupled call.legs := by
  rw [legs_eq]
  split
  · cases call.receiver with
    | none => exact .single rfl .nil
    | some receiver => exact .pair rfl rfl (call.opposes_creditLeg receiver) .nil
  · exact .nil

theorem Executed.coupled_legs (tx : Executed) (calls : List FlatFrame)
    (remains : List (Address × Uint256)) : Leg.Coupled (tx.legs calls remains) := by
  have hfee : Leg.Coupled tx.feeLegs := Leg.coupled_movement _ _ _ _ _
  have hcalls : Leg.Coupled (calls.flatMap FlatFrame.legs) :=
    .flatMap fun call _ => call.coupled_legs
  exact (hfee.append hcalls).append (.map_of_unpaired (fun _ => rfl) remains)

theorem Rewards.coupled_legs (rewards : Rewards) : Leg.Coupled rewards.legs :=
  .flatMap fun entry _ => .map_of_unpaired (fun _ => rfl) entry.2

/-! ### Numbered operations -/

namespace Operation

/-- Two operations cancel out: they have the same type and status, and their amounts are `v` and
`-v` in one currency, or both have none. -/
structure Offsets (credit debit : Operation) : Prop where
  kind : credit.kind = debit.kind
  status : credit.status = debit.status
  amount : credit.amount = none ∧ debit.amount = none ∨
    ∃ (v : Nat) (plus minus : Amount), credit.amount = some plus ∧ debit.amount = some minus ∧
      plus.currency = minus.currency ∧ plus.value.toInt? = some (v : Int) ∧
      minus.value.toInt? = some (-(v : Int))

theorem offsets_toOperation {credit debit : Leg} (h : credit.Opposes debit) (i j : Int) :
    (credit.toOperation i).Offsets (debit.toOperation j) where
  kind := h.kind
  status := h.status
  amount := by
    rcases h.amount with hnone | ⟨v, hcredit, hdebit⟩
    · exact .inl hnone
    · exact .inr ⟨v.toNat, _, _, hcredit, hdebit, rfl, Amount.toInt?_credit v,
        Amount.toInt?_debit v⟩

/-- The operation at a place has no links, or one, to the operation in front of it. That one has
none and cancels it out. -/
def LinksBack (ops : List Operation) (i : Nat) (op : Operation) : Prop :=
  op.related = none ∨ ∃ (j : Nat) (debit : Operation), i = j + 1 ∧ op.related = some [(j : Int)] ∧
    ops[j]? = some debit ∧ debit.related = none ∧ op.Offsets debit

/-- The operations of a transaction are numbered by their places and linked in pairs. -/
structure Numbered (ops : List Operation) : Prop where
  /-- The numbers are 0, 1, 2 and so on. -/
  index : ∀ (i : Nat) op, ops[i]? = some op → op.index = i
  links : ∀ (i : Nat) op, ops[i]? = some op → LinksBack ops i op
  /-- No operation is pointed to twice. -/
  once : ∀ (i i' : Nat) op op' place, ops[i]? = some op → ops[i']? = some op' →
    place ∈ op.related.getD [] → place ∈ op'.related.getD [] → i = i'

/-- A link tells where it stands. -/
theorem LinksBack.place_eq {ops : List Operation} {i : Nat} {op : Operation}
    (h : LinksBack ops i op) {place : Int} (hplace : place ∈ op.related.getD []) :
    (i : Int) = place + 1 := by
  obtain hnone | ⟨j, debit, rfl, hrelated, -⟩ := h
  · rw [hnone] at hplace
    cases hplace
  · rw [hrelated] at hplace
    rw [List.mem_singleton.mp hplace, Nat.cast_succ]

/-- Links that lead to the operation in front never meet. -/
theorem Numbered.of_linksBack {ops : List Operation}
    (hindex : ∀ (i : Nat) op, ops[i]? = some op → op.index = i)
    (hlinks : ∀ (i : Nat) op, ops[i]? = some op → LinksBack ops i op) : Numbered ops where
  index := hindex
  links := hlinks
  once i i' op op' place hi hi' hplace hplace' := by
    have heq := (hlinks i op hi).place_eq hplace
    have heq' := (hlinks i' op' hi').place_eq hplace'
    omega

/-- **Numbering coupled legs** numbers their operations by their places and links them in pairs. -/
theorem numbered_number {legs : List Leg} (h : Leg.Coupled legs) :
    Numbered (Leg.number 0 legs) := by
  have hof : ∀ (i : Nat) op, (Leg.number 0 legs)[i]? = some op →
      ∃ leg, legs[i]? = some leg ∧ op = leg.toOperation i := by
    intro i op hi
    rw [Leg.getElem?_number, Int.zero_add] at hi
    obtain ⟨leg, hleg, rfl⟩ := Option.map_eq_some_iff.mp hi
    exact ⟨leg, hleg, rfl⟩
  refine .of_linksBack (fun i op hi => ?_) fun i op hi => ?_
  · obtain ⟨leg, -, rfl⟩ := hof i op hi
    rfl
  · obtain ⟨leg, hleg, rfl⟩ := hof i op hi
    cases hpaired : leg.paired with
    | false => exact .inl (by simp [Leg.toOperation, hpaired])
    | true =>
      obtain ⟨j, debit, rfl, hj, hdebit, hopposes⟩ := h.exists_debit hleg hpaired
      refine .inr ⟨j, debit.toOperation j, rfl, ?_, ?_, ?_, offsets_toOperation hopposes _ _⟩
      · simp [Leg.toOperation, hpaired]
      · rw [Leg.getElem?_number, hj, Int.zero_add, Option.map_some]
      · simp [Leg.toOperation, hdebit]

/-- What is lost with destroyed accounts stands behind everything else, without links. -/
def DestroyedLast (ops : List Operation) : Prop :=
  ∃ front back, ops = front ++ back ∧ (∀ op ∈ front, op.kind ≠ OperationType.destruct) ∧
    ∀ op ∈ back, op.kind = OperationType.destruct ∧ op.related = none

end Operation

/-! ### Transactions -/

/-- Unless a frame passes for a destroyed account, what is lost comes last. -/
theorem Executed.destroyedLast_legs {calls : List FlatFrame}
    (hkind : ∀ call ∈ calls, call.kind ≠ OperationType.destruct) (tx : Executed)
    (remains : List (Address × Uint256)) :
    Operation.DestroyedLast (Leg.number 0 (tx.legs calls remains)) := by
  refine ⟨_, _, Leg.number_append 0 _ _, fun op hop => ?_, fun op hop => ?_⟩
  · obtain ⟨leg, hleg, index, rfl⟩ := Leg.mem_number hop
    exact tx.kind_ne_destruct hkind leg hleg
  · obtain ⟨leg, hleg, index, rfl⟩ := Leg.mem_number hop
    obtain ⟨entry, -, rfl⟩ := List.mem_map.mp hleg
    exact ⟨rfl, rfl⟩

end PosvGateway
