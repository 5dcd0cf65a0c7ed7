import PosvGateway.Proofs.Balance
import PosvGateway.Proofs.OrderedMap.Entry

/-!
# Annotation as far as it goes

Annotation stops at the first operation whose amount it cannot read. Then the operations in front of
that one have their balances, and all others are as they were.

* `Balances.annotate_stop` : what is left where annotation stops, and the error that it stops with;
* `Operation.Keeps`, `Transaction.Keeps` : nothing is changed but the balances;
* `Balances.annotate_again` : annotating a second time changes nothing;
* `Balances.Noted` : what stands in an operation that was annotated, or left;
* `Balances.annotate_tells` : **what annotation does** to any transactions.
-/

namespace PosvGateway

/-- A list is split by the first of its elements that has not a property. -/
theorem exists_first {α : Type} {p : α → Prop} {as : List α} (h : ¬ ∀ a ∈ as, p a) :
    ∃ front a back, as = front ++ a :: back ∧ (∀ a ∈ front, p a) ∧ ¬ p a := by
  induction as with
  | nil => exact absurd nofun h
  | cons a as ih =>
    by_cases ha : p a
    · have hrest : ¬ ∀ a ∈ as, p a := fun hall => h (List.forall_mem_cons.mpr ⟨ha, hall⟩)
      obtain ⟨front, first, back, rfl, hfront, hfirst⟩ := ih hrest
      exact ⟨a :: front, first, back, rfl, List.forall_mem_cons.mpr ⟨ha, hfront⟩, hfirst⟩
    · exact ⟨[], a, as, rfl, nofun, ha⟩

/-! ### Nothing else is changed -/

/-- The operation is shown as it is, but for the balance in its metadata. -/
def Operation.Keeps (op shown : Operation) : Prop :=
  shown = { op with metadata := shown.metadata } ∧
    OrderedMap.without [newBalanceKey] (shown.metadata.getD []) =
      OrderedMap.without [newBalanceKey] (op.metadata.getD [])

/-- The transaction is shown as it is, but for the balances in its operations. -/
def Transaction.Keeps (tx shown : Transaction) : Prop :=
  shown = { tx with operations := shown.operations } ∧
    List.Forall₂ Operation.Keeps tx.operations shown.operations

theorem Operation.Keeps.refl (op : Operation) : op.Keeps op := ⟨rfl, rfl⟩

theorem Transaction.Keeps.refl (tx : Transaction) : tx.Keeps tx :=
  ⟨rfl, List.forall₂_same.mpr fun op _ => .refl op⟩

namespace Balances

open Operation

variable {balances balances' : Balances} {hash : String} {op op' : Operation}

theorem keeps_note (op : Operation) (balance : Int256) : op.Keeps (note op balance) :=
  ⟨rfl, OrderedMap.without_insert _ _ _⟩

theorem note_note (op : Operation) (balance : Int256) :
    note (note op balance) balance = note op balance := by
  simp only [note, Option.getD_some, OrderedMap.insert_insert_self]

/-- An operation that names nobody stays as it is, and any other gets the balance after it. -/
theorem apply_cases (h : balances.apply hash op = .ok (op', balances')) :
    op.account = none ∧ op' = op ∧ balances' = balances ∨
      ∃ account balance, op.account = some account ∧
        after ((balances.find? account.address).getD .zero) op = some balance ∧
        op' = note op balance ∧ balances' = balances.insert account.address balance := by
  rw [apply] at h
  split at h
  · rename_i hnone
    cases h
    exact .inl ⟨hnone, rfl, rfl⟩
  · rename_i account haccount
    split at h
    · rename_i balance hafter
      cases h
      exact .inr ⟨account, balance, haccount, hafter, rfl, rfl⟩
    · cases h

theorem keeps_of_apply (h : balances.apply hash op = .ok (op', balances')) : op.Keeps op' := by
  obtain ⟨-, rfl, -⟩ | ⟨account, balance, -, -, rfl, -⟩ := apply_cases h
  · exact .refl op'
  · exact keeps_note op balance

/-- An operation with the balance after it gets the same balance. -/
theorem apply_again (h : balances.apply hash op = .ok (op', balances')) :
    balances.apply hash op' = .ok (op', balances') := by
  obtain ⟨-, rfl, -⟩ | ⟨account, balance, haccount, hafter, rfl, rfl⟩ := apply_cases h
  · exact h
  · have haccount' : (note op balance).account = some account := haccount
    have hafter' : after ((balances.find? account.address).getD .zero) (note op balance) =
        some balance := hafter
    simp only [apply, haccount', hafter', note_note]

theorem keeps_annotateOperations (hash : String) (balances : Balances) (ops : List Operation) :
    List.Forall₂ Operation.Keeps ops (balances.annotateOperations hash ops).1 := by
  induction ops generalizing balances with
  | nil => exact .nil
  | cons op ops ih =>
    rw [annotateOperations]
    split
    · exact List.forall₂_same.mpr fun op _ => .refl op
    · rename_i op' balances' happly
      exact .cons (keeps_of_apply happly) (ih balances')

theorem keeps_annotate (balances : Balances) (txs : List Transaction) :
    List.Forall₂ Transaction.Keeps txs (balances.annotate txs).1 := by
  induction txs generalizing balances with
  | nil => exact .nil
  | cons tx txs ih =>
    have htx : tx.Keeps { tx with
        operations := (balances.annotateOperations tx.hash tx.operations).1 } :=
      ⟨rfl, keeps_annotateOperations tx.hash balances tx.operations⟩
    simp only [annotate]
    split
    · exact .cons htx (List.forall₂_same.mpr fun tx _ => .refl tx)
    · rename_i balances' _
      exact .cons htx (ih balances')

theorem annotateOperations_again (hash : String) (balances : Balances) (ops : List Operation) :
    balances.annotateOperations hash (balances.annotateOperations hash ops).1 =
      balances.annotateOperations hash ops := by
  induction ops generalizing balances with
  | nil => rfl
  | cons op ops ih =>
    cases happly : balances.apply hash op with
    | error e => simp only [annotateOperations, happly]
    | ok result =>
      obtain ⟨op', balances'⟩ := result
      simp only [annotateOperations, happly, apply_again happly, ih]

/-- **Annotating a second time changes nothing.** -/
theorem annotate_again (balances : Balances) (txs : List Transaction) :
    balances.annotate (balances.annotate txs).1 = balances.annotate txs := by
  induction txs generalizing balances with
  | nil => rfl
  | cons tx txs ih =>
    have hagain := annotateOperations_again tx.hash balances tx.operations
    cases hoperations : balances.annotateOperations tx.hash tx.operations with
    | mk operations result =>
      rw [hoperations] at hagain
      cases result with
      | error e => simp only [annotate, hoperations, hagain]
      | ok balances' => simp only [annotate, hoperations, hagain, ih]

/-! ### Where annotation stops -/

/-- The error that tells of an operation of the transaction `hash` that it cannot be read. -/
def unreadable (hash : String) (op : Operation) : DerivationError :=
  .decode ("operation " ++ Numeral.signedDecimal op.index ++ " of " ++ hash
    ++ " has an unreadable amount")

theorem apply_of_not_readable (h : ¬ op.Readable) :
    balances.apply hash op = .error (unreadable hash op) := by
  rw [Readable, not_or, not_or, Option.not_isSome_iff_eq_none] at h
  obtain ⟨hnamed, hstatus, hchange⟩ := h
  obtain ⟨account, haccount⟩ := Option.ne_none_iff_exists'.mp hnamed
  simp only [apply, haccount, after, if_neg hstatus, hchange, Option.map_none]
  rfl

variable {opening : String → Int} {earlier front back : List Operation}

theorem annotateOperations_stop (h : balances.Follows opening earlier)
    (hfront : ∀ op ∈ front, op.Readable) (hop : ¬ op.Readable) (hash : String)
    (back : List Operation) :
    balances.annotateOperations hash (front ++ op :: back) =
      (running opening earlier front ++ op :: back, .error (unreadable hash op)) := by
  induction front generalizing balances earlier with
  | nil => simp only [List.nil_append, annotateOperations, apply_of_not_readable hop, running]
  | cons first front ih =>
    obtain ⟨hfirst, hfront⟩ := List.forall_mem_cons.mp hfront
    obtain ⟨balances', happly, hfollows⟩ := apply_of_readable h hfirst hash
    simp only [List.cons_append, annotateOperations, happly, ih hfollows hfront, running]

/-- **Where annotation stops**, all operations in front have their balances, and all others are as
they were. -/
theorem annotate_stop (h : balances.Follows opening earlier) {before after : List Transaction}
    {tx : Transaction} (htx : tx.operations = front ++ op :: back)
    (hbefore : ∀ op ∈ before.flatMap Transaction.operations, op.Readable)
    (hfront : ∀ op ∈ front, op.Readable) (hop : ¬ op.Readable) :
    balances.annotate (before ++ tx :: after) =
      (runningTransactions opening earlier before ++
        { tx with
          operations := running opening (earlier ++ before.flatMap Transaction.operations) front ++
            op :: back } :: after,
        .error (unreadable tx.hash op)) := by
  induction before generalizing balances earlier with
  | nil =>
    have hstop := annotateOperations_stop h hfront hop tx.hash back
    simp only [List.nil_append, annotate, htx, hstop, runningTransactions, List.flatMap_nil,
      List.append_nil]
  | cons first before ih =>
    rw [List.flatMap_cons] at hbefore
    obtain ⟨hfirst, hbefore⟩ := List.forall_mem_append.mp hbefore
    obtain ⟨balances', hoperations, hfollows⟩ := annotateOperations_eq h hfirst first.hash
    simp only [List.cons_append, annotate, hoperations, ih hfollows hbefore, runningTransactions,
      List.flatMap_cons, List.append_assoc]

/-! ### What stands in the operations -/

/-- What stands in an operation behind others, where `upTo` are these and itself. -/
structure Noted (opening : String → Int) (upTo : List Operation) (op shown : Operation) :
    Prop where
  /-- An operation that names nobody is left, and so is any one at which annotation stopped, or that
  it did not reach. -/
  left : op.account = none ∨ ¬ (∀ earlier ∈ upTo, earlier.Readable) → shown = op
  /-- Any other tells the balance of its account: the opening balance with the amounts of all
  operations that count for the account. -/
  balance : ∀ account, op.account = some account → (∀ earlier ∈ upTo, earlier.Readable) →
    -2 ^ 255 ≤ opening account.address + net account.address upTo →
    opening account.address + net account.address upTo < 2 ^ 255 →
    ∃ metadata, shown.metadata = some metadata ∧
      metadata.find? newBalanceKey = some (.string (Numeral.signedDecimal
        (opening account.address + net account.address upTo)))

theorem noted_noteAt {upTo : List Operation} (hupTo : ∀ earlier ∈ upTo, earlier.Readable)
    (op : Operation) : Noted opening upTo op (noteAt opening upTo op) where
  left hleft := by
    rcases hleft with hnone | hunread
    · simp only [noteAt, hnone]
    · exact absurd hupTo hunread
  balance account haccount _ hlow hhigh := by
    refine ⟨_, by simp only [noteAt, haccount]; rfl, ?_⟩
    rw [OrderedMap.find?_insert_self, Int256.toInt_wrap hlow hhigh]

theorem noted_self {upTo : List Operation} (hunread : ¬ ∀ earlier ∈ upTo, earlier.Readable)
    (op : Operation) : Noted opening upTo op op where
  left _ := rfl
  balance _ _ hupTo := absurd hupTo hunread

/-- The operations that could be read have their balances, and those behind stay as they are. -/
theorem noted_of_getElem? {read rest : List Operation} (hread : ∀ op ∈ read, op.Readable)
    (hrest : ∀ op, rest.head? = some op → ¬ op.Readable) {i : Nat}
    (hi : (read ++ rest)[i]? = some op) :
    ∃ shown, (running opening [] read ++ rest)[i]? = some shown ∧
      Noted opening ((read ++ rest).take (i + 1)) op shown := by
  rcases Nat.lt_or_ge i read.length with hlt | hge
  · rw [List.getElem?_append_left hlt] at hi
    rw [List.getElem?_append_left (by rwa [length_running]), getElem?_running_eq, hi,
      List.take_append_of_le_length hlt]
    exact ⟨_, rfl, noted_noteAt (fun earlier hmem => hread earlier (List.mem_of_mem_take hmem)) op⟩
  · rw [List.getElem?_append_right hge] at hi
    rw [List.getElem?_append_right (by rwa [length_running]), length_running, hi]
    refine ⟨op, rfl, noted_self (fun hall => ?_) op⟩
    -- Annotation stopped at the first of the rest, which stands in front or is this one.
    cases rest with
    | nil => cases hi
    | cons first rest =>
      refine hrest first rfl (hall first ?_)
      rw [List.take_append, Nat.succ_sub hge, List.take_succ_cons]
      exact List.mem_append_right _ List.mem_cons_self

/-- What of some transactions can be annotated, and what the result is. -/
theorem annotate_cases (balances : Balances) (txs : List Transaction) :
    ∃ read rest, txs.flatMap Transaction.operations = read ++ rest ∧
      (∀ op ∈ read, op.Readable) ∧
      (balances.annotate txs).1.flatMap Transaction.operations =
        running balances.openingOf [] read ++ rest ∧
      (rest = [] ∧ (balances.annotate txs).2 = .ok () ∨
        ∃ tx op back, tx ∈ txs ∧ op ∈ tx.operations ∧ rest = op :: back ∧ ¬ op.Readable ∧
          (balances.annotate txs).2 = .error (unreadable tx.hash op)) := by
  have hfollows := follows_openingOf balances
  by_cases hall : ∀ op ∈ txs.flatMap Transaction.operations, op.Readable
  · rw [annotate_eq hfollows hall, operations_runningTransactions]
    exact ⟨_, [], (List.append_nil _).symm, hall, (List.append_nil _).symm, .inl ⟨rfl, rfl⟩⟩
  · rw [List.forall_mem_flatMap] at hall
    obtain ⟨before, tx, after, rfl, hbefore, hunread⟩ := exists_first hall
    rw [← List.forall_mem_flatMap] at hbefore
    obtain ⟨front, op, back, htx, hfront, hop⟩ := exists_first hunread
    refine ⟨before.flatMap Transaction.operations ++ front,
      op :: (back ++ after.flatMap Transaction.operations), ?_,
      List.forall_mem_append.mpr ⟨hbefore, hfront⟩, ?_,
      .inr ⟨tx, op, _, List.mem_append_right _ List.mem_cons_self, ?_, rfl, hop, ?_⟩⟩
    · simp only [List.flatMap_append, List.flatMap_cons, htx, List.append_assoc, List.cons_append]
    · rw [annotate_stop hfollows htx hbefore hfront hop]
      simp only [List.flatMap_append, List.flatMap_cons, operations_runningTransactions,
        running_append, List.append_assoc, List.cons_append]
    · rw [htx]
      exact List.mem_append_right _ List.mem_cons_self
    · rw [annotate_stop hfollows htx hbefore hfront hop]

/-- **Annotation, as far as it goes.** It fails exactly if an operation that counts for an account
has an amount that cannot be read, and the error names the first such operation. Either way all
operations are shown in their places, with nothing changed but their balances: any operation in
front of the one where annotation fails has the balance of its account, and the others are as they
were. Annotating them again changes nothing. -/
theorem annotate_tells (balances : Balances) (txs : List Transaction) :
    ∃ shown result, balances.annotate txs = (shown, result) ∧
      ((∃ e, result = .error e) ↔ ∃ op ∈ txs.flatMap Transaction.operations, ¬ op.Readable) ∧
      (∀ e, result = .error e → ∃ tx op front back, tx ∈ txs ∧ op ∈ tx.operations ∧
        txs.flatMap Transaction.operations = front ++ op :: back ∧
        (∀ earlier ∈ front, earlier.Readable) ∧ ¬ op.Readable ∧ e = unreadable tx.hash op) ∧
      List.Forall₂ Transaction.Keeps txs shown ∧
      (∀ (i : Nat) op, (txs.flatMap Transaction.operations)[i]? = some op →
        ∃ op', (shown.flatMap Transaction.operations)[i]? = some op' ∧
          Noted balances.openingOf ((txs.flatMap Transaction.operations).take (i + 1)) op op') ∧
      balances.annotate shown = (shown, result) := by
  obtain ⟨read, rest, hsplit, hread, hshown, hresult⟩ := annotate_cases balances txs
  refine ⟨_, _, rfl, ?_, fun e he => ?_, keeps_annotate balances txs, fun i op hi => ?_,
    annotate_again balances txs⟩
  · rw [hsplit]
    rcases hresult with ⟨rfl, hok⟩ | ⟨tx, op, back, -, -, rfl, hop, herror⟩
    · rw [hok, List.append_nil]
      exact iff_of_false (fun ⟨e, he⟩ => nomatch he)
        fun ⟨op, hop, hunread⟩ => hunread (hread op hop)
    · rw [herror]
      exact iff_of_true ⟨_, rfl⟩ ⟨op, List.mem_append_right _ List.mem_cons_self, hop⟩
  · rcases hresult with ⟨-, hok⟩ | ⟨tx, op, back, htx, hmem, rfl, hop, herror⟩
    · rw [hok] at he
      cases he
    · rw [herror] at he
      cases he
      exact ⟨tx, op, read, back, htx, hmem, hsplit, hread, hop, rfl⟩
  · rw [hsplit] at hi ⊢
    rw [hshown]
    refine noted_of_getElem? hread (fun first hfirst => ?_) hi
    rcases hresult with ⟨rfl, -⟩ | ⟨tx, op, back, -, -, rfl, hop, -⟩
    · cases hfirst
    · obtain rfl : op = first := Option.some.inj hfirst
      exact hop

/-- A failed operation tells the balance whatever its amount is, and behind the operation where
annotation stops, none does. -/
example :
    let op (status value : String) : Operation :=
      { index := 0, kind := OperationType.call, status := some status,
        account := some ⟨"A", none⟩, amount := some ⟨value, .native⟩ }
    let tx : Transaction :=
      { hash := "0x01",
        operations := [op OperationStatus.success "-2", op OperationStatus.fail "?",
          op OperationStatus.success "?", op OperationStatus.success "1"] }
    ((annotate [("A", .wrap 5)] [tx]).1.flatMap Transaction.operations).map Operation.metadata =
      [some [(newBalanceKey, .string "3")], some [(newBalanceKey, .string "3")], none, none] := by
  rfl

end Balances

end PosvGateway
