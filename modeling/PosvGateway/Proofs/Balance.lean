import PosvGateway.Proofs.Amount
import PosvGateway.Proofs.Numeral
import PosvGateway.Proofs.OrderedMap
import PosvGateway.Balance

/-!
# Running balances are sums

The running balances of a list of transactions are kept in one map, across all of them. What is
written into each operation is a sum: the opening balance of its account and the amounts of all
operations on that account up to this one, failed ones left out.

* `Operation.net` : the sum of the amounts of the operations that count for an account;
* `Balances.running` : the operations as they are annotated, by these sums;
* `Balances.Follows` : the invariant, every balance in the map is the one the sums tell;
* `Balances.annotate_eq` : **annotation writes the sums**, where every amount can be read;
* `Balances.readable_of_annotate` : and elsewhere it fails.
-/

namespace PosvGateway

/-! ### What an operation does to a balance -/

namespace Operation

/-- The amount as a balance, zero where it is none. -/
def signed (op : Operation) : Int := (op.change?.map Int256.toInt).getD 0

/-- The operation counts for an account: it names it and has not failed. -/
def Counts (account : String) (op : Operation) : Prop :=
  op.account.map AccountIdentifier.address = some account ∧
    op.status ≠ some OperationStatus.fail

instance (account : String) (op : Operation) : Decidable (op.Counts account) :=
  inferInstanceAs (Decidable (_ ∧ _))

/-- The sum of the amounts of the operations that count for an account. -/
def net (account : String) (ops : List Operation) : Int :=
  ((ops.filter fun op => op.Counts account).map signed).sum

/-- The balance after the operation can be told. -/
def Readable (op : Operation) : Prop :=
  op.account = none ∨ op.status = some OperationStatus.fail ∨ op.change?.isSome

/-- The balance after an operation that counts can be told if its amount can be read. -/
theorem readable_iff {op : Operation} (haccount : op.account.isSome)
    (hstatus : op.status ≠ some OperationStatus.fail) : op.Readable ↔ op.change?.isSome := by
  have hnamed : op.account ≠ none := Option.isSome_iff_ne_none.mp haccount
  constructor
  · rintro (hnone | hfail | hsome)
    · exact absurd hnone hnamed
    · exact absurd hfail hstatus
    · exact hsome
  · exact fun hsome => .inr (.inr hsome)

theorem net_append (account : String) (ops ops' : List Operation) :
    net account (ops ++ ops') = net account ops + net account ops' := by
  simp [net]

theorem net_concat_of_counts {account : String} {op : Operation} (h : op.Counts account)
    (ops : List Operation) : net account (ops ++ [op]) = net account ops + op.signed := by
  rw [net_append]
  simp [net, h]

theorem net_concat_of_not_counts {account : String} {op : Operation} (h : ¬ op.Counts account)
    (ops : List Operation) : net account (ops ++ [op]) = net account ops := by
  rw [net_append]
  simp [net, h]

theorem wrap_signed {op : Operation} {balance : Int256} (h : op.change? = some balance) :
    Int256.wrap op.signed = balance := by
  rw [signed, h, Option.map_some, Option.getD_some, Int256.wrap_toInt]

end Operation

/-! ### What is written -/

namespace Balances

open Operation

/-- The operation with the balance after it and the operations before it. -/
def noteAt (opening : String → Int) (upTo : List Operation) (op : Operation) : Operation :=
  match op.account with
  | none => op
  | some account => note op (Int256.wrap (opening account.address + net account.address upTo))

/-- The operations behind `earlier`, each with the balance after it. -/
def running (opening : String → Int) : List Operation → List Operation → List Operation
  | _, [] => []
  | earlier, op :: ops =>
    noteAt opening (earlier ++ [op]) op :: running opening (earlier ++ [op]) ops

/-- The transactions behind the operations `earlier`, with running balances. -/
def runningTransactions (opening : String → Int) :
    List Operation → List Transaction → List Transaction
  | _, [] => []
  | earlier, tx :: txs =>
    { tx with operations := running opening earlier tx.operations } ::
      runningTransactions opening (earlier ++ tx.operations) txs

theorem running_append (opening : String → Int) (earlier ops ops' : List Operation) :
    running opening earlier (ops ++ ops')
      = running opening earlier ops ++ running opening (earlier ++ ops) ops' := by
  induction ops generalizing earlier with
  | nil => rw [List.nil_append, running, List.nil_append, List.append_nil]
  | cons op ops ih =>
    rw [List.cons_append, running, running, ih, List.append_assoc, List.singleton_append,
      List.cons_append]

theorem length_running (opening : String → Int) (earlier ops : List Operation) :
    (running opening earlier ops).length = ops.length := by
  induction ops generalizing earlier with
  | nil => rfl
  | cons op ops ih => rw [running, List.length_cons, List.length_cons, ih]

/-- Every operation is annotated with those before it and itself. -/
theorem getElem?_running_eq (opening : String → Int) (earlier ops : List Operation) (i : Nat) :
    (running opening earlier ops)[i]? =
      ops[i]?.map (noteAt opening (earlier ++ ops.take (i + 1))) := by
  induction ops generalizing earlier i with
  | nil => rfl
  | cons op ops ih =>
    cases i with
    | zero => rfl
    | succ i =>
      rw [running, List.getElem?_cons_succ, List.getElem?_cons_succ, List.take_succ_cons, ih,
        List.append_assoc, List.singleton_append]

/-- Operations keep their places when they are annotated. -/
theorem getElem?_running {opening : String → Int} {earlier ops : List Operation} {i : Nat}
    {op : Operation} (h : ops[i]? = some op) :
    ∃ upTo, (running opening earlier ops)[i]? = some (noteAt opening upTo op) :=
  ⟨_, by rw [getElem?_running_eq, h, Option.map_some]⟩

/-- An annotated operation was annotated where it stands. -/
theorem of_getElem?_running {opening : String → Int} {earlier ops : List Operation} {i : Nat}
    {shown : Operation} (h : (running opening earlier ops)[i]? = some shown) :
    ∃ op upTo, ops[i]? = some op ∧ shown = noteAt opening upTo op := by
  rw [getElem?_running_eq] at h
  obtain ⟨op, hop, rfl⟩ := Option.map_eq_some_iff.mp h
  exact ⟨op, _, hop, rfl⟩

theorem operations_runningTransactions (opening : String → Int) (earlier : List Operation)
    (txs : List Transaction) :
    (runningTransactions opening earlier txs).flatMap Transaction.operations
      = running opening earlier (txs.flatMap Transaction.operations) := by
  induction txs generalizing earlier with
  | nil => rfl
  | cons tx txs ih => rw [runningTransactions, List.flatMap_cons, List.flatMap_cons, ih,
      running_append]

theorem runningTransactions_append (opening : String → Int) (earlier : List Operation)
    (txs txs' : List Transaction) :
    runningTransactions opening earlier (txs ++ txs') =
      runningTransactions opening earlier txs ++
        runningTransactions opening (earlier ++ txs.flatMap Transaction.operations) txs' := by
  induction txs generalizing earlier with
  | nil => rw [List.nil_append, runningTransactions, List.nil_append, List.flatMap_nil,
      List.append_nil]
  | cons tx txs ih => rw [List.cons_append, runningTransactions, ih, runningTransactions,
      List.cons_append, List.flatMap_cons, List.append_assoc]

/-- A transaction is the other one, with running balances. -/
def Runs (tx shown : Transaction) : Prop :=
  ∃ opening earlier, shown = { tx with operations := running opening earlier tx.operations }

/-- Transactions keep their places when they get running balances. -/
theorem forall₂_runningTransactions (opening : String → Int) (earlier : List Operation)
    (txs : List Transaction) :
    List.Forall₂ Runs txs (runningTransactions opening earlier txs) := by
  induction txs generalizing earlier with
  | nil => exact .nil
  | cons tx txs ih => exact .cons ⟨opening, earlier, rfl⟩ (ih _)

/-! ### The invariant -/

/-- Every balance in the map is the one after some operations, an account that is missing having
none. -/
def Follows (balances : Balances) (opening : String → Int) (ops : List Operation) : Prop :=
  ∀ account, (balances.find? account).getD .zero
    = Int256.wrap (opening account + net account ops)

/-- The opening balances of a map. -/
def openingOf (balances : Balances) (account : String) : Int :=
  ((balances.find? account).getD .zero).toInt

variable {balances : Balances} {opening : String → Int} {earlier : List Operation}

theorem follows_openingOf (balances : Balances) : balances.Follows balances.openingOf [] := by
  intro account
  have hnil : net account [] = 0 := rfl
  rw [hnil, Int.add_zero, openingOf, Int256.wrap_toInt]

/-- The balance of an account after one more operation. -/
theorem after_eq {op : Operation} {account : AccountIdentifier}
    (haccount : op.account = some account) (hop : op.Readable) (earlier : List Operation)
    (z : Int) : after (Int256.wrap (z + net account.address earlier)) op
      = some (Int256.wrap (z + net account.address (earlier ++ [op]))) := by
  rw [after]
  split
  · rename_i hfail
    rw [net_concat_of_not_counts fun h => h.2 hfail]
  · rename_i hstatus
    have hcounts : op.Counts account.address := ⟨by rw [haccount]; rfl, hstatus⟩
    obtain ⟨balance, hbalance⟩ := Option.isSome_iff_exists.mp
      ((readable_iff (Option.isSome_of_eq_some haccount) hstatus).mp hop)
    rw [hbalance, Option.map_some, net_concat_of_counts hcounts, ← wrap_signed hbalance,
      Int256.wrap_add, Int.add_assoc]

/-- **One operation keeps the invariant** and gets the balance that the sums tell. -/
theorem apply_of_readable (h : balances.Follows opening earlier) {op : Operation}
    (hop : op.Readable) (hash : String) :
    ∃ balances', balances.apply hash op = .ok (noteAt opening (earlier ++ [op]) op, balances') ∧
      balances'.Follows opening (earlier ++ [op]) := by
  cases haccount : op.account with
  | none =>
    -- An operation that names nobody counts for nobody.
    refine ⟨balances, by simp only [apply, noteAt, haccount], fun account => ?_⟩
    rw [net_concat_of_not_counts, h account]
    intro hcounts
    have hnamed := hcounts.1
    rw [haccount] at hnamed
    cases hnamed
  | some account =>
    have hafter := after_eq haccount hop earlier (opening account.address)
    refine ⟨_, by simp only [apply, noteAt, haccount, h account.address, hafter]; rfl, ?_⟩
    intro other
    -- Only the entry of the account changes, and only its sum.
    by_cases hother : other = account.address
    · rw [hother, OrderedMap.find?_insert_self, Option.getD_some]
    · rw [OrderedMap.find?_insert_of_ne hother, net_concat_of_not_counts, h other]
      intro hcounts
      have hnamed := hcounts.1
      rw [haccount, Option.map_some] at hnamed
      exact hother (Option.some.inj hnamed).symm

theorem readable_of_apply {hash : String} {op : Operation} {result : Operation × Balances}
    (h : balances.apply hash op = .ok result) : op.Readable := by
  cases haccount : op.account with
  | none => exact .inl haccount
  | some account =>
    simp only [apply, haccount, after] at h
    by_cases hfail : op.status = some OperationStatus.fail
    · exact .inr (.inl hfail)
    · cases hchange : op.change? with
      | none => simp [hfail, hchange] at h
      | some balance => exact .inr (.inr (by rw [hchange]; rfl))

/-! ### Runs -/

/-- The operations of one transaction keep the invariant. -/
theorem annotateOperations_eq (h : balances.Follows opening earlier) {ops : List Operation}
    (hops : ∀ op ∈ ops, op.Readable) (hash : String) :
    ∃ balances', annotateOperations hash balances ops
        = (running opening earlier ops, .ok balances') ∧
      balances'.Follows opening (earlier ++ ops) := by
  -- The operations before are part of the invariant, so they grow with every step.
  induction ops generalizing balances earlier with
  | nil => exact ⟨balances, rfl, by rwa [List.append_nil]⟩
  | cons op ops ih =>
    obtain ⟨balances₁, happly, hfollows₁⟩ := apply_of_readable h (hops op List.mem_cons_self) hash
    obtain ⟨balances₂, hrest, hfollows₂⟩ :=
      ih hfollows₁ fun op hop => hops op (List.mem_cons_of_mem _ hop)
    refine ⟨balances₂, ?_, ?_⟩
    · simp only [annotateOperations, happly, hrest, running]
    · rwa [List.append_assoc, List.singleton_append] at hfollows₂

theorem readable_of_annotateOperations {hash : String} {ops ops' : List Operation}
    {balances' : Balances} (h : annotateOperations hash balances ops = (ops', .ok balances')) :
    ∀ op ∈ ops, op.Readable := by
  induction ops generalizing balances ops' with
  | nil => exact fun op hop => absurd hop List.not_mem_nil
  | cons op ops ih =>
    cases happly : balances.apply hash op with
    | error e =>
      simp only [annotateOperations, happly, Prod.mk.injEq, reduceCtorEq, and_false] at h
    | ok result =>
      simp only [annotateOperations, happly, Prod.mk.injEq] at h
      have hops := ih (Prod.ext rfl h.2)
      intro op' hop'
      rcases List.mem_cons.mp hop' with rfl | hop'
      · exact readable_of_apply happly
      · exact hops op' hop'

/-- **Annotation writes the sums**, across all transactions. -/
theorem annotate_eq (h : balances.Follows opening earlier) {txs : List Transaction}
    (htxs : ∀ op ∈ txs.flatMap Transaction.operations, op.Readable) :
    balances.annotate txs = (runningTransactions opening earlier txs, .ok ()) := by
  induction txs generalizing balances earlier with
  | nil => rfl
  | cons tx txs ih =>
    rw [List.flatMap_cons] at htxs
    obtain ⟨balances', hoperations, hfollows⟩ :=
      annotateOperations_eq h (fun op hop => htxs op (List.mem_append_left _ hop)) tx.hash
    -- The map that one transaction leaves is the one the next starts from.
    have hrest := ih hfollows fun op hop => htxs op (List.mem_append_right _ hop)
    simp only [annotate, hoperations, hrest, runningTransactions]

/-- Where annotation succeeds, every amount could be read. -/
theorem readable_of_annotate {txs txs' : List Transaction}
    (h : balances.annotate txs = (txs', .ok ())) :
    ∀ op ∈ txs.flatMap Transaction.operations, op.Readable := by
  induction txs generalizing balances txs' with
  | nil => exact fun op hop => absurd hop List.not_mem_nil
  | cons tx txs ih =>
    cases hoperations : balances.annotateOperations tx.hash tx.operations with
    | mk operations result =>
      cases result with
      | error e =>
        simp only [annotate, hoperations, Prod.mk.injEq, reduceCtorEq, and_false] at h
      | ok balances' =>
        simp only [annotate, hoperations, Prod.mk.injEq] at h
        have hrest := ih (Prod.ext rfl h.2)
        intro op hop
        rw [List.flatMap_cons] at hop
        rcases List.mem_append.mp hop with hop | hop
        · exact readable_of_annotateOperations hoperations op hop
        · exact hrest op hop

/-! ### What stands in an annotated operation -/

/-- Annotation changes nothing but the metadata. -/
theorem noteAt_eq_with (op : Operation) : noteAt opening earlier op =
    { op with metadata := (noteAt opening earlier op).metadata } := by
  unfold noteAt
  split <;> rfl

theorem noteAt_index (op : Operation) : (noteAt opening earlier op).index = op.index := by
  rw [noteAt_eq_with]

theorem noteAt_related (op : Operation) : (noteAt opening earlier op).related = op.related := by
  rw [noteAt_eq_with]

theorem noteAt_kind (op : Operation) : (noteAt opening earlier op).kind = op.kind := by
  rw [noteAt_eq_with]

theorem noteAt_status (op : Operation) : (noteAt opening earlier op).status = op.status := by
  rw [noteAt_eq_with]

theorem noteAt_account (op : Operation) : (noteAt opening earlier op).account = op.account := by
  rw [noteAt_eq_with]

theorem noteAt_amount (op : Operation) : (noteAt opening earlier op).amount = op.amount := by
  rw [noteAt_eq_with]

/-- What of an operation is no metadata is not changed. -/
theorem map_running {α : Type} {f : Operation → α}
    (hf : ∀ opening earlier op, f (noteAt opening earlier op) = f op) (ops : List Operation) :
    (running opening earlier ops).map f = ops.map f := by
  induction ops generalizing earlier with
  | nil => rfl
  | cons op ops ih => rw [running, List.map_cons, List.map_cons, hf, ih]

/-- What holds of operations and does not look at their metadata holds of the annotated ones. -/
theorem forall_running {p : Operation → Prop}
    (hp : ∀ opening earlier op, p op → p (noteAt opening earlier op)) {ops : List Operation}
    (h : ∀ op ∈ ops, p op) : ∀ op ∈ running opening earlier ops, p op := by
  induction ops generalizing earlier with
  | nil => exact fun op hop => absurd hop List.not_mem_nil
  | cons op ops ih =>
    intro op' hop'
    rcases List.mem_cons.mp hop' with rfl | hop'
    · exact hp _ _ op (h op List.mem_cons_self)
    · exact ih (fun op hop => h op (List.mem_cons_of_mem _ hop)) op' hop'

end Balances

end PosvGateway
