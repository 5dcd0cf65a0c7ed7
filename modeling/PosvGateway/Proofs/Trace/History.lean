import PosvGateway.Proofs.Numeral
import PosvGateway.Proofs.Octets
import PosvGateway.Proofs.OrderedMap.Entry
import PosvGateway.Proofs.Trace.Executed

/-!
# Destroyed accounts by their history

The accounts that destroyed themselves are kept in a map that changes with every frame. What the map
holds in the end can be told from the frames alone.

* `DeadWith` : the last frame that destroys or creates an account destroys it, and the frames behind
  that one bring it some balance;
* `Destroyed.Records` : the invariant, the map holds the dead accounts with their balances;
* `Destroyed.Records.apply`, `Destroyed.records_foldl` : one frame keeps the invariant, and so does
  a whole trace;
* `operationsOfFrames_history` : **which operations destroyed accounts have**, and when there are
  none because one of them has spent.

Whether the frames that destroy or create an account were reverted makes no difference to either.
-/

namespace PosvGateway

/-! ### Histories -/

namespace FlatFrame

/-- The account destroys itself in this frame. -/
def Destroys (account : Address) (call : FlatFrame) : Prop :=
  call.destroys = true ∧ call.sender = account

/-- The account is created in this frame. -/
def Creates (account : Address) (call : FlatFrame) : Prop :=
  call.creates = true ∧ call.recipient = some account

/-- The frame decides whether the account is dead. -/
def Settles (account : Address) (call : FlatFrame) : Prop :=
  call.Destroys account ∨ call.Creates account

instance (account : Address) : DecidablePred (Destroys account) :=
  fun _ => inferInstanceAs (Decidable (_ ∧ _))

instance (account : Address) : DecidablePred (Settles account) :=
  fun _ => inferInstanceAs (Decidable ((_ ∧ _) ∨ (_ ∧ _)))

/-- The value that the frame sends to an account. A reverted frame sends nothing. -/
def received (account : Address) (call : FlatFrame) : Nat :=
  if call.revert = false ∧ call.recipient = some account then call.value.toNat else 0

/-- The value that an account sends in the frame. A reverted frame sends nothing. -/
def sent (account : Address) (call : FlatFrame) : Nat :=
  if call.revert = false ∧ call.sender = account then call.value.toNat else 0

/-- What the frame brings an account: the value sent to it, less the value sent by it. -/
def gain (account : Address) (call : FlatFrame) : Int := call.received account - call.sent account

/-- What some frames bring an account together. -/
def net (account : Address) (calls : List FlatFrame) : Int := (calls.map (gain account)).sum

end FlatFrame

/-- After some frames an account is dead with a balance: the last frame that destroys or creates it
destroys it, and the frames behind that one bring it the balance. -/
def DeadWith (calls : List FlatFrame) (account : Address) (balance : Int) : Prop :=
  ∃ before call after, calls = before ++ call :: after ∧ call.Destroys account ∧
    (∀ later ∈ after, ¬ later.Settles account) ∧ balance = FlatFrame.net account after

section History

variable {calls : List FlatFrame} {call : FlatFrame} {account : Address} {balance : Int}

theorem FlatFrame.net_concat :
    net account (calls ++ [call]) = net account calls + call.gain account := by
  simp [net]

theorem not_deadWith_nil : ¬ DeadWith [] account balance :=
  fun ⟨_, _, _, heq, _⟩ => List.append_ne_nil_of_right_ne_nil _ (List.cons_ne_nil _ _) heq.symm

/-- **One more frame** destroys the account, creates it, or brings it something. -/
theorem deadWith_concat :
    DeadWith (calls ++ [call]) account balance ↔
      call.Destroys account ∧ balance = 0 ∨
        ¬ call.Settles account ∧
          ∃ earlier, DeadWith calls account earlier ∧ balance = earlier + call.gain account := by
  constructor
  · rintro ⟨before, mark, after, heq, hmark, hafter, rfl⟩
    -- Either the frame is the one that destroys the account, or it stands behind that one.
    rcases List.eq_nil_or_concat after with rfl | ⟨after, last, rfl⟩
    · obtain ⟨-, hlast⟩ := List.append_inj' heq rfl
      obtain rfl : call = mark := List.singleton_injective hlast
      exact .inl ⟨hmark, rfl⟩
    · rw [List.concat_eq_append, ← List.cons_append, ← List.append_assoc] at heq
      obtain ⟨rfl, hlast⟩ := List.append_inj' heq rfl
      obtain rfl : call = last := List.singleton_injective hlast
      rw [List.concat_eq_append] at hafter ⊢
      obtain ⟨hafter, hcall⟩ := List.forall_mem_append.mp hafter
      exact .inr ⟨hcall call (List.mem_singleton_self call), _,
        ⟨before, mark, after, rfl, hmark, hafter, rfl⟩, FlatFrame.net_concat⟩
  · rintro (⟨hdestroys, rfl⟩ | ⟨hsettles, earlier, ⟨before, mark, after, rfl, hmark, hafter, rfl⟩,
      rfl⟩)
    · exact ⟨calls, call, [], rfl, hdestroys, nofun, rfl⟩
    · refine ⟨before, mark, after ++ [call], ?_, hmark, ?_, FlatFrame.net_concat.symm⟩
      · rw [List.append_assoc, List.cons_append]
      · exact List.forall_mem_append.mpr ⟨hafter, List.forall_mem_singleton.mpr hsettles⟩

end History

/-! ### Balances -/

namespace Int256

theorem mk_eq_wrap (v : Uint256) : (⟨v⟩ : Int256) = wrap v.toNat :=
  congrArg Int256.mk (by rw [BitVec.ofInt_natCast, BitVec.ofNat_toNat, BitVec.setWidth_eq])

theorem wrap_sub (a b : Int) : wrap a - wrap b = wrap (a - b) := by
  have hbits : BitVec.ofInt 256 a = BitVec.ofInt 256 (a - b) + BitVec.ofInt 256 b := by
    rw [← BitVec.ofInt_add, Int.sub_add_cancel]
  exact congrArg Int256.mk (BitVec.sub_eq_iff_eq_add.mpr hbits)

theorem map_sub_wrap_zero (held : Option Int256) : held.map (· - wrap (0 : Nat)) = held := by
  have hzero : (fun balance : Int256 => balance - wrap (0 : Nat)) = id :=
    funext fun balance => congrArg Int256.mk (BitVec.sub_zero balance.bits)
  rw [hzero, Option.map_id, id]

theorem map_add_wrap_zero (held : Option Int256) : held.map (· + wrap (0 : Nat)) = held := by
  have hzero : (fun balance : Int256 => balance + wrap (0 : Nat)) = id :=
    funext fun balance => congrArg Int256.mk (BitVec.add_zero balance.bits)
  rw [hzero, Option.map_id, id]

end Int256

/-! ### One frame -/

namespace FlatFrame

variable {call : FlatFrame} {account : Address}

theorem creates_of_destroys (h : call.destroys = true) : call.creates = false := by
  rw [creates, of_decide_eq_true h]
  decide

theorem sent_of_ne (h : account ≠ call.sender) : call.sent account = 0 :=
  if_neg fun hsent => h hsent.2.symm

theorem received_of_ne (h : call.recipient ≠ some account) : call.received account = 0 :=
  if_neg fun hreceived => h hreceived.2

/-- A frame that moves no value was reverted, or its value is zero. -/
theorem value_of_not_moves (h : call.moves = false) (hrevert : call.revert = false) :
    call.value.toNat = 0 := by
  have hzero : call.value = 0 := by simpa [moves, hrevert] using h
  rw [hzero]
  rfl

theorem sent_of_not_moves (h : call.moves = false) : call.sent account = 0 := by
  rw [sent]
  split
  · rename_i hsent
    exact value_of_not_moves h hsent.1
  · rfl

theorem received_of_not_moves (h : call.moves = false) : call.received account = 0 := by
  rw [received]
  split
  · rename_i hreceived
    exact value_of_not_moves h hreceived.1
  · rfl

theorem revert_of_moves (h : call.moves = true) : call.revert = false := by
  rw [moves, Bool.and_eq_true, Bool.not_eq_true'] at h
  exact h.2

theorem recipient_of_receiver (h : call.receiver = some account) :
    call.recipient = some account := by
  rw [receiver] at h
  split at h
  · cases h
  · exact h

/-- Only an account that destroys itself in its own favour is no receiver of what it is sent. -/
theorem receiver_of_recipient (hdestroys : ¬ call.Destroys account)
    (h : call.recipient = some account) : call.receiver = some account := by
  rw [receiver, if_neg, h]
  rw [destroysOntoItself, Bool.and_eq_true, decide_eq_true_eq, h, Option.some.injEq]
  exact fun hself => hdestroys ⟨hself.1, hself.2.symm⟩

theorem receiver_ne_of_destroys (h : call.Destroys account) : call.receiver ≠ some account := by
  intro hreceiver
  have hrecipient := recipient_of_receiver hreceiver
  rw [receiver, destroysOntoItself, h.1, hrecipient, ← h.2, decide_eq_true rfl, Bool.and_self,
    if_pos rfl] at hreceiver
  cases hreceiver

end FlatFrame

namespace Destroyed

open OrderedMap

variable {destroyed : Destroyed} {call : FlatFrame} {account : Address}

/-- Value leaves the caller. -/
def debited (destroyed : Destroyed) (call : FlatFrame) : Destroyed :=
  if call.moves then destroyed.adjust call.sender (· - ⟨call.value⟩) else destroyed

/-- The caller may be destroyed. -/
def marked (destroyed : Destroyed) (call : FlatFrame) : Destroyed :=
  if call.destroys then destroyed.insert call.sender .zero else destroyed

/-- The called account may be created. -/
def revived (destroyed : Destroyed) (call : FlatFrame) (receiver : Address) : Destroyed :=
  if call.creates then destroyed.erase receiver else destroyed

/-- Value arrives at the called account. -/
def credited (destroyed : Destroyed) (call : FlatFrame) (receiver : Address) : Destroyed :=
  if call.moves then destroyed.adjust receiver (· + ⟨call.value⟩) else destroyed

/-- What happens at the called account, if there is one. -/
def arrived (destroyed : Destroyed) (call : FlatFrame) : Destroyed :=
  match call.receiver with
  | none => destroyed
  | some receiver => (destroyed.revived call receiver).credited call receiver

theorem apply_eq (destroyed : Destroyed) (call : FlatFrame) :
    destroyed.apply call = ((destroyed.debited call).marked call).arrived call := by
  rw [arrived]
  cases hreceiver : call.receiver <;> simp only [apply, hreceiver] <;> rfl

theorem sorted_debited (h : Sorted destroyed) : Sorted (destroyed.debited call) := by
  rw [debited]
  split
  · exact sorted_adjust h
  · exact h

theorem sorted_marked (h : Sorted destroyed) : Sorted (destroyed.marked call) := by
  rw [marked]
  split
  · exact sorted_insert h
  · exact h

theorem sorted_arrived (h : Sorted destroyed) : Sorted (destroyed.arrived call) := by
  rw [arrived]
  split
  · exact h
  · rename_i receiver _
    have hrevived : Sorted (destroyed.revived call receiver) := by
      rw [revived]
      split
      · exact sorted_erase h
      · exact h
    rw [credited]
    split
    · exact sorted_adjust hrevived
    · exact hrevived

theorem find?_debited (destroyed : Destroyed) (call : FlatFrame) (account : Address) :
    OrderedMap.find? account (destroyed.debited call) =
      (OrderedMap.find? account destroyed).map (· - .wrap (call.sent account)) := by
  rw [debited]
  split
  · rename_i hmoves
    by_cases haccount : account = call.sender
    · have hsent : call.sent account = call.value.toNat :=
        if_pos ⟨FlatFrame.revert_of_moves hmoves, haccount.symm⟩
      rw [haccount, find?_adjust_self, ← haccount, hsent, Int256.mk_eq_wrap]
    · rw [find?_adjust_of_ne haccount, FlatFrame.sent_of_ne haccount, Int256.map_sub_wrap_zero]
  · rename_i hmoves
    rw [FlatFrame.sent_of_not_moves (Bool.eq_false_of_not_eq_true hmoves),
      Int256.map_sub_wrap_zero]

theorem find?_marked_of_not_destroys (h : ¬ call.Destroys account) :
    OrderedMap.find? account (destroyed.marked call) = OrderedMap.find? account destroyed := by
  rw [marked]
  split
  · rename_i hdestroys
    exact find?_insert_of_ne (fun heq => h ⟨hdestroys, heq.symm⟩) _ _
  · rfl

theorem find?_marked_of_destroys (h : call.Destroys account) :
    OrderedMap.find? account (destroyed.marked call) = some .zero := by
  rw [marked, if_pos h.1, h.2, find?_insert_self]

theorem find?_arrived_of_ne (h : call.receiver ≠ some account) :
    OrderedMap.find? account (destroyed.arrived call) = OrderedMap.find? account destroyed := by
  rw [arrived]
  split
  · rfl
  · rename_i receiver hreceiver
    have hne : account ≠ receiver := by
      rintro rfl
      exact h hreceiver
    have hrevived : OrderedMap.find? account (destroyed.revived call receiver) =
        OrderedMap.find? account destroyed := by
      rw [revived]
      split
      · exact find?_erase_of_ne hne _
      · rfl
    rw [credited]
    split
    · rw [find?_adjust_of_ne hne, hrevived]
    · exact hrevived

theorem find?_arrived_of_creates (hsorted : Sorted destroyed) (h : call.Creates account) :
    OrderedMap.find? account (destroyed.arrived call) = none := by
  have hdestroys : ¬ call.Destroys account := fun hdestroys => by
    have hcreates := h.1
    rw [FlatFrame.creates_of_destroys hdestroys.1] at hcreates
    cases hcreates
  have hrevived : OrderedMap.find? account (destroyed.revived call account) = none := by
    rw [revived, if_pos h.1, find?_erase_self hsorted]
  simp only [arrived, FlatFrame.receiver_of_recipient hdestroys h.2, credited]
  split
  · rw [find?_adjust_self, hrevived, Option.map_none]
  · exact hrevived

theorem find?_arrived (h : ¬ call.Settles account) :
    OrderedMap.find? account (destroyed.arrived call) =
      (OrderedMap.find? account destroyed).map (· + .wrap (call.received account)) := by
  have hdestroys : ¬ call.Destroys account := fun hdestroys => h (.inl hdestroys)
  by_cases hrecipient : call.recipient = some account
  · have hcreates : call.creates = false :=
      Bool.eq_false_of_not_eq_true fun hcreates => h (.inr ⟨hcreates, hrecipient⟩)
    simp only [arrived, FlatFrame.receiver_of_recipient hdestroys hrecipient, revived, hcreates,
      Bool.false_eq_true, ↓reduceIte, credited]
    split
    · rename_i hmoves
      have hreceived : call.received account = call.value.toNat :=
        if_pos ⟨FlatFrame.revert_of_moves hmoves, hrecipient⟩
      rw [find?_adjust_self, hreceived, Int256.mk_eq_wrap]
    · rename_i hmoves
      rw [FlatFrame.received_of_not_moves (Bool.eq_false_of_not_eq_true hmoves),
        Int256.map_add_wrap_zero]
  · rw [find?_arrived_of_ne fun hreceiver => hrecipient (FlatFrame.recipient_of_receiver hreceiver),
      FlatFrame.received_of_ne hrecipient, Int256.map_add_wrap_zero]

/-- A frame that settles nothing for an account changes its balance by what it brings. -/
theorem find?_apply_of_not_settles (h : ¬ call.Settles account) :
    OrderedMap.find? account (destroyed.apply call) =
      (OrderedMap.find? account destroyed).map (· + .wrap (call.gain account)) := by
  have hdestroys : ¬ call.Destroys account := fun hdestroys => h (.inl hdestroys)
  have hgain : ∀ held : Int256, held - .wrap (call.sent account) + .wrap (call.received account) =
      held + .wrap (call.gain account) := by
    intro held
    obtain ⟨z, rfl⟩ : ∃ z, held = .wrap z := ⟨held.toInt, held.wrap_toInt.symm⟩
    rw [Int256.wrap_sub, Int256.wrap_add, Int256.wrap_add, FlatFrame.gain]
    congr 1
    omega
  rw [apply_eq, find?_arrived h, find?_marked_of_not_destroys hdestroys, find?_debited,
    Option.map_map]
  exact congrArg (Option.map · _) (funext hgain)

/-- The map holds the accounts that are dead after some frames, with their balances. -/
structure Records (destroyed : Destroyed) (calls : List FlatFrame) : Prop where
  sorted : Sorted destroyed
  find? : ∀ account held, OrderedMap.find? account destroyed = some held ↔
    ∃ balance, DeadWith calls account balance ∧ held = .wrap balance

theorem records_nil : Records [] [] where
  sorted := List.Pairwise.nil
  find? _ _ := ⟨nofun, fun ⟨_, hdead, _⟩ => absurd hdead not_deadWith_nil⟩

/-- **One frame keeps the invariant.** -/
theorem Records.apply {calls : List FlatFrame} (h : destroyed.Records calls) (call : FlatFrame) :
    (destroyed.apply call).Records (calls ++ [call]) where
  sorted := by
    rw [apply_eq]
    exact sorted_arrived (sorted_marked (sorted_debited h.sorted))
  find? account held := by
    simp only [deadWith_concat]
    by_cases hdestroys : call.Destroys account
    · have hsettles : call.Settles account := .inl hdestroys
      rw [apply_eq, find?_arrived_of_ne (FlatFrame.receiver_ne_of_destroys hdestroys),
        find?_marked_of_destroys hdestroys, Option.some.injEq]
      simp only [hdestroys, hsettles, true_and, not_true, false_and, or_false, exists_eq_left]
      exact eq_comm
    by_cases hcreates : call.Creates account
    · have hsettles : call.Settles account := .inr hcreates
      rw [apply_eq, find?_arrived_of_creates (sorted_marked (sorted_debited h.sorted)) hcreates]
      simp [hdestroys, hsettles]
    · have hsettles : ¬ call.Settles account := not_or.mpr ⟨hdestroys, hcreates⟩
      simp only [hdestroys, hsettles, false_and, false_or, not_false_eq_true, true_and]
      rw [find?_apply_of_not_settles hsettles, Option.map_eq_some_iff]
      constructor
      · rintro ⟨earlier, hearlier, rfl⟩
        obtain ⟨balance, hbalance, rfl⟩ := (h.find? account earlier).mp hearlier
        exact ⟨_, ⟨balance, hbalance, rfl⟩, Int256.wrap_add _ _⟩
      · rintro ⟨_, ⟨balance, hbalance, rfl⟩, rfl⟩
        exact ⟨_, (h.find? account _).mpr ⟨balance, hbalance, rfl⟩, Int256.wrap_add _ _⟩

/-- **A whole trace keeps the invariant.** -/
theorem records_foldl {before : List FlatFrame} (h : destroyed.Records before)
    (calls : List FlatFrame) :
    Records (calls.foldl Destroyed.apply destroyed) (before ++ calls) := by
  induction calls generalizing destroyed before with
  | nil => rwa [List.append_nil]
  | cons call calls ih =>
    have hcalls := ih (h.apply call)
    rwa [List.append_assoc, List.singleton_append] at hcalls

/-! ### What remains -/

/-- The map is gone through up to the first negative balance. If there is none, the positive ones
remain. -/
theorem remains_cases (destroyed : Destroyed) :
    (∃ front account held back, destroyed = front ++ (account, held) :: back ∧
        (∀ entry ∈ front, entry.2.isNegative = false) ∧ held.isNegative = true ∧
        destroyed.remains = .error (.negativeDestroyedBalance account held)) ∨
      (∀ entry ∈ destroyed, entry.2.isNegative = false) ∧
        destroyed.remains = .ok ((destroyed.filter fun entry => entry.2.isPositive).map
          fun entry => (entry.1, entry.2.magnitude)) := by
  induction destroyed with
  | nil => exact .inr ⟨nofun, rfl⟩
  | cons entry rest ih =>
    obtain ⟨account, held⟩ := entry
    cases hnegative : held.isNegative with
    | true =>
      have hzero : held.isZero = false := by
        have hlt := Int256.isNegative_iff.mp hnegative
        refine Bool.eq_false_of_not_eq_true fun hzero => ?_
        rw [Int256.isZero_iff.mp hzero] at hlt
        exact absurd hlt (Int.lt_irrefl 0)
      exact .inl ⟨[], account, held, rest, rfl, nofun, hnegative,
        by simp [remains, hzero, hnegative]⟩
    | false =>
      rcases ih with ⟨front, account', held', back, rfl, hfront, hheld', hremains⟩ |
        ⟨hrest, hremains⟩
      · refine .inl ⟨(account, held) :: front, account', held', back, rfl,
          List.forall_mem_cons.mpr ⟨hnegative, hfront⟩, hheld', ?_⟩
        cases hzero : held.isZero <;> simp [remains, hzero, hnegative, hremains, Except.map]
      · refine .inr ⟨List.forall_mem_cons.mpr ⟨hnegative, hrest⟩, ?_⟩
        cases hzero : held.isZero <;>
          simp [remains, hzero, hnegative, hremains, Except.map, Int256.isPositive]

section Remains

variable {calls : List FlatFrame} (h : destroyed.Records calls)
  (hrange : ∀ account balance, DeadWith calls account balance →
    -2 ^ 255 ≤ balance ∧ balance < 2 ^ 255)

include h hrange

/-- The entries of the map are the dead accounts with their balances. -/
theorem Records.mem_iff {held : Int256} :
    (account, held) ∈ destroyed ↔ DeadWith calls account held.toInt := by
  rw [mem_iff_find? h.sorted, h.find?]
  constructor
  · rintro ⟨balance, hdead, rfl⟩
    obtain ⟨hlow, hhigh⟩ := hrange account balance hdead
    rwa [Int256.toInt_wrap hlow hhigh]
  · intro hdead
    exact ⟨held.toInt, hdead, held.wrap_toInt.symm⟩

theorem Records.exists_mem {balance : Int} (hdead : DeadWith calls account balance) :
    ∃ held, (account, held) ∈ destroyed ∧ held.toInt = balance := by
  obtain ⟨hlow, hhigh⟩ := hrange account balance hdead
  have htoInt := Int256.toInt_wrap hlow hhigh
  exact ⟨.wrap balance, (h.mem_iff hrange).mpr (by rwa [htoInt]), htoInt⟩

/-- If a dead account has spent more than it received, the first such account is named. -/
theorem Records.remains_of_neg {balance : Int} (hdead : DeadWith calls account balance)
    (hneg : balance < 0) :
    ∃ first held, destroyed.remains = .error (.negativeDestroyedBalance first held) ∧
      DeadWith calls first held.toInt ∧ held.toInt < 0 ∧
      ∀ other balance, DeadWith calls other balance → balance < 0 → first.toNat ≤ other.toNat := by
  have hnegative : ∀ {other : Address} {balance : Int}, DeadWith calls other balance →
      balance < 0 → ∃ held, (other, held) ∈ destroyed ∧ held.isNegative = true := by
    intro other balance hdead hneg
    obtain ⟨held, hmem, rfl⟩ := h.exists_mem hrange hdead
    exact ⟨held, hmem, Int256.isNegative_iff.mpr hneg⟩
  rcases destroyed.remains_cases with ⟨front, first, held, back, rfl, hfront, hheld, hremains⟩ |
    ⟨hnone, -⟩
  · refine ⟨first, held, hremains, (h.mem_iff hrange).mp ?_, Int256.isNegative_iff.mp hheld,
      fun other balance hdead hneg => ?_⟩
    · exact List.mem_append_right _ List.mem_cons_self
    · -- Another such account is no earlier entry, so it is this one or a later one.
      obtain ⟨held', hmem, hheld'⟩ := hnegative hdead hneg
      rcases List.mem_append.mp hmem with hmem | hmem
      · rw [hfront _ hmem] at hheld'
        cases hheld'
      rcases List.mem_cons.mp hmem with heq | hmem
      · rw [(Prod.mk.inj heq).1]
      · have hsorted := (List.pairwise_append.mp h.sorted).2.1
        exact Nat.le_of_lt (Nat.compare_eq_lt.mp ((List.pairwise_cons.mp hsorted).1 _ hmem))
  · obtain ⟨held, hmem, hheld⟩ := hnegative hdead hneg
    rw [hnone _ hmem] at hheld
    cases hheld

/-- If no dead account has, those that hold something remain. -/
theorem Records.remains_of_nonneg
    (hnonneg : ∀ account balance, DeadWith calls account balance → 0 ≤ balance) :
    ∃ lost, destroyed.remains = .ok lost ∧
      lost.Pairwise (fun a b => a.1.toNat < b.1.toNat) ∧
      ∀ account v, (account, v) ∈ lost ↔ 0 < v.toNat ∧ DeadWith calls account v.toNat := by
  rcases destroyed.remains_cases with ⟨front, first, held, back, rfl, -, hheld, -⟩ |
    ⟨-, hremains⟩
  · have hdead := (h.mem_iff hrange).mp (List.mem_append_right front List.mem_cons_self)
    exact absurd (Int256.isNegative_iff.mp hheld) (Int.not_lt.mpr (hnonneg first _ hdead))
  refine ⟨_, hremains, ?_, fun account v => ?_⟩
  · refine List.pairwise_map.mpr (List.Pairwise.filter _ (h.sorted.imp fun hlt => ?_))
    exact Nat.compare_eq_lt.mp hlt
  · simp only [List.mem_map, List.mem_filter, Prod.exists, Prod.mk.injEq]
    constructor
    · rintro ⟨account, held, ⟨hmem, hpositive⟩, rfl, rfl⟩
      have hpos := Int256.isPositive_iff.mp hpositive
      have hvalue := Int256.toNat_magnitude hpos
      rw [hvalue]
      exact ⟨by omega, (h.mem_iff hrange).mp hmem⟩
    · rintro ⟨hpos, hdead⟩
      obtain ⟨held, hmem, htoInt⟩ := h.exists_mem hrange hdead
      have hpositive : 0 < held.toInt := by omega
      refine ⟨account, held, ⟨hmem, Int256.isPositive_iff.mpr hpositive⟩, rfl, ?_⟩
      have hvalue := Int256.toNat_magnitude hpositive
      exact BitVec.eq_of_toNat_eq (by omega)

end Remains

end Destroyed

/-! ### Operations -/

/-- The operation at a place that takes from a destroyed account what is lost with it. -/
def Operation.loss (index : Int) (account : Address) (lost : Nat) : Operation where
  index := index
  kind := OperationType.destruct
  status := some OperationStatus.success
  account := some (.ofAddress account)
  amount := some ⟨Numeral.signedDecimal (-lost), .native⟩

theorem number_losses (start : Int) (lost : List (Address × Uint256)) :
    Leg.number start (lost.map fun (account, v) => Destroyed.leg account v) =
      lost.mapIdx fun i (account, v) => Operation.loss (start + i) account v.toNat := by
  induction lost generalizing start with
  | nil => rfl
  | cons entry lost ih =>
    have hplace : ∀ i : Nat, start + ((i + 1 : Nat) : Int) = start + 1 + i := by omega
    simp only [List.map_cons, Leg.number, List.mapIdx_cons, ih, hplace, Nat.cast_zero,
      Int.add_zero]
    rfl

/-- Unless a frame passes for a destroyed account, the operations of destroyed accounts are those
behind the frames. -/
theorem ofKind_destruct_number {calls : List FlatFrame}
    (hkind : ∀ call ∈ calls, call.kind ≠ OperationType.destruct) (start place : Int)
    (lost : List (Address × Uint256)) :
    Operation.ofKind OperationType.destruct (Leg.number start (calls.flatMap FlatFrame.legs) ++
        Leg.number place (lost.map fun (account, v) => Destroyed.leg account v)) =
      Leg.number place (lost.map fun (account, v) => Destroyed.leg account v) := by
  have hframes : Operation.ofKind OperationType.destruct
      (Leg.number start (calls.flatMap FlatFrame.legs)) = [] := by
    refine List.filter_eq_nil_iff.mpr fun op hop => ?_
    obtain ⟨leg, hleg, index, rfl⟩ := Leg.mem_number hop
    obtain ⟨call, hcall, hleg⟩ := List.mem_flatMap.mp hleg
    rw [decide_eq_true_eq]
    rcases FlatFrame.leg_of_mem_legs hleg with rfl | ⟨receiver, rfl⟩ <;> exact hkind call hcall
  have hlost : Operation.ofKind OperationType.destruct
      (Leg.number place (lost.map fun (account, v) => Destroyed.leg account v)) =
        Leg.number place (lost.map fun (account, v) => Destroyed.leg account v) := by
    refine List.filter_eq_self.mpr fun op hop => ?_
    obtain ⟨leg, hleg, index, rfl⟩ := Leg.mem_number hop
    obtain ⟨entry, -, rfl⟩ := List.mem_map.mp hleg
    rfl
  rw [Operation.ofKind] at hframes hlost ⊢
  rw [List.filter_append, hframes, hlost, List.nil_append]

/-- **Destroyed accounts by their history.** Where every value is a balance, and so is what any dead
account is brought, the operations of a trace are refused exactly if a dead account has sent more
than it received; the first such account is named, with its balance. Otherwise they are the legs of
the frames, one frame after another, and behind these, in the order of their accounts, one operation
for each dead account that holds something, which takes just that. -/
theorem operationsOfFrames_history (start : Int) {calls : List FlatFrame}
    (hsize : ∀ call ∈ calls, call.value.toNat < Int256.bound)
    (hkind : ∀ call ∈ calls, call.kind ≠ OperationType.destruct)
    (hrange : ∀ account balance, DeadWith calls account balance →
      -2 ^ 255 ≤ balance ∧ balance < 2 ^ 255) :
    ((∃ account balance, DeadWith calls account balance ∧ balance < 0) →
      ∃ first held,
        operationsOfFrames start calls = .error (.negativeDestroyedBalance first held) ∧
        DeadWith calls first held.toInt ∧ held.toInt < 0 ∧
        ∀ other balance, DeadWith calls other balance → balance < 0 →
          first.toNat ≤ other.toNat) ∧
    ((∀ account balance, DeadWith calls account balance → 0 ≤ balance) →
      ∃ (ops : List Operation) (lost : List (Address × Uint256)),
        operationsOfFrames start calls = .ok ops ∧
        lost.Pairwise (fun a b => a.1.toNat < b.1.toNat) ∧
        (∀ account v, (account, v) ∈ lost ↔ 0 < v.toNat ∧ DeadWith calls account v.toNat) ∧
        ops = Leg.number start (calls.flatMap FlatFrame.legs) ++
          Operation.ofKind OperationType.destruct ops ∧
        Operation.ofKind OperationType.destruct ops = lost.mapIdx fun i (account, v) =>
          Operation.loss (start + (calls.flatMap FlatFrame.legs).length + i) account v.toNat) := by
  have hrecords : Destroyed.Records (calls.foldl Destroyed.apply []) calls :=
    Destroyed.records_foldl Destroyed.records_nil calls
  have hoversized := oversized?_eq_none_iff.mpr hsize
  constructor
  · rintro ⟨account, balance, hdead, hneg⟩
    obtain ⟨first, held, hremains, hfirst⟩ := hrecords.remains_of_neg hrange hdead hneg
    refine ⟨first, held, ?_, hfirst⟩
    simp only [operationsOfFrames, hoversized, hremains]
  · intro hnonneg
    obtain ⟨lost, hremains, hsorted, hmem⟩ := hrecords.remains_of_nonneg hrange hnonneg
    have hops : operationsOfFrames start calls =
        .ok (Leg.number start (calls.flatMap FlatFrame.legs) ++
          Leg.number (start + (calls.flatMap FlatFrame.legs).length)
            (lost.map fun (account, v) => Destroyed.leg account v)) := by
      simp only [operationsOfFrames, hoversized, hremains, Leg.number_append]
    refine ⟨_, lost, hops, hsorted, hmem, ?_, ?_⟩
    · rw [ofKind_destruct_number hkind]
    · rw [ofKind_destruct_number hkind, number_losses]

/-! ### Totals -/

/-- The value of all frames together. -/
def FlatFrame.turnover (calls : List FlatFrame) : Nat :=
  (calls.map fun call => call.value.toNat).sum

theorem FlatFrame.natAbs_gain_le (account : Address) (call : FlatFrame) :
    (call.gain account).natAbs ≤ call.value.toNat := by
  have hreceived : call.received account ≤ call.value.toNat := by
    rw [received]
    split <;> omega
  have hsent : call.sent account ≤ call.value.toNat := by
    rw [sent]
    split <;> omega
  rw [gain]
  omega

theorem FlatFrame.natAbs_net_le (account : Address) (calls : List FlatFrame) :
    (net account calls).natAbs ≤ turnover calls := by
  induction calls with
  | nil => exact Nat.le_refl 0
  | cons call calls ih =>
    have hcall := natAbs_gain_le account call
    simp only [net, turnover, List.map_cons, List.sum_cons] at ih ⊢
    omega

/-- **No balance exceeds the turnover**, so all are in range where that is. -/
theorem DeadWith.natAbs_le {calls : List FlatFrame} {account : Address} {balance : Int}
    (h : DeadWith calls account balance) : balance.natAbs ≤ FlatFrame.turnover calls := by
  obtain ⟨before, call, after, rfl, -, -, rfl⟩ := h
  have hafter := FlatFrame.natAbs_net_le account after
  simp only [FlatFrame.turnover, List.map_append, List.map_cons, List.sum_append,
    List.sum_cons] at hafter ⊢
  omega

theorem DeadWith.range {calls : List FlatFrame} (hturnover : FlatFrame.turnover calls < 2 ^ 255)
    (account : Address) (balance : Int) (h : DeadWith calls account balance) :
    -2 ^ 255 ≤ balance ∧ balance < 2 ^ 255 := by
  have hle := h.natAbs_le
  omega

/-! ### Two traces -/

/-- A plain frame of a trace. -/
def FlatFrame.plain (kind : String) (sender recipient : Nat) (value : Uint256) : FlatFrame where
  kind := kind
  sender := .ofNat 20 sender
  recipient := some (.ofNat 20 recipient)
  value := value
  gasUsed := 0
  revert := false
  error := none

/-- A contract destroys itself and is paid twenty units after that; another one is created again
after it destroyed itself, and pays the first one seven units. -/
def bequest : List FlatFrame :=
  [.plain OperationType.selfDestruct 0x33 0x44 50, .plain OperationType.call 0x11 0x33 20,
    .plain OperationType.selfDestruct 0x55 0x55 9, .plain OperationType.create2 0x11 0x55 7,
    .plain OperationType.call 0x55 0x33 7]

/-- Only the first contract is dead, with what it was paid. -/
theorem deadWith_bequest {account : Address} {balance : Int} :
    DeadWith bequest account balance ↔ account = .ofNat 20 0x33 ∧ balance = 27 := by
  constructor
  · intro hdead
    have hrecords := Destroyed.records_foldl Destroyed.records_nil bequest
    obtain ⟨held, hmem, rfl⟩ := hrecords.exists_mem (DeadWith.range (by decide)) hdead
    have hall : ∀ entry ∈ bequest.foldl Destroyed.apply [],
        entry.1 = .ofNat 20 0x33 ∧ entry.2.toInt = 27 := by decide +kernel
    exact hall _ hmem
  · rintro ⟨rfl, rfl⟩
    exact ⟨[], _, _, rfl, by decide, by decide, by decide⟩

/-- A contract destroys itself and spends nine units after that. -/
def overspent : List FlatFrame :=
  [.plain OperationType.selfDestruct 0x33 0x44 50, .plain OperationType.call 0x33 0x11 9]

/-- The first contract loses what it was paid, and the last one must not spend. -/
theorem operationsOfFrames_history_bequest :
    ((∀ call ∈ bequest, call.value.toNat < Int256.bound) ∧
      (∀ call ∈ bequest, call.kind ≠ OperationType.destruct) ∧
      (∀ account balance, DeadWith bequest account balance →
        -2 ^ 255 ≤ balance ∧ balance < 2 ^ 255) ∧
      (∀ account balance, DeadWith bequest account balance → 0 ≤ balance) ∧
      ∃ ops, operationsOfFrames 2 bequest = .ok ops ∧
        Operation.ofKind OperationType.destruct ops = [Operation.loss 11 (.ofNat 20 0x33) 27]) ∧
    (∀ call ∈ overspent, call.value.toNat < Int256.bound) ∧
      (∀ call ∈ overspent, call.kind ≠ OperationType.destruct) ∧
      (∀ account balance, DeadWith overspent account balance →
        -2 ^ 255 ≤ balance ∧ balance < 2 ^ 255) ∧
      DeadWith overspent (.ofNat 20 0x33) (-9) ∧
      ∃ first held,
        operationsOfFrames 2 overspent = .error (.negativeDestroyedBalance first held) ∧
        DeadWith overspent first held.toInt ∧ held.toInt < 0 := by
  have hturnover : FlatFrame.turnover bequest < 2 ^ 255 := by decide
  have hturnover' : FlatFrame.turnover overspent < 2 ^ 255 := by decide
  have hbequest := DeadWith.range hturnover
  have hoverspent := DeadWith.range hturnover'
  have hnonneg : ∀ account balance, DeadWith bequest account balance → 0 ≤ balance := by
    intro account balance hdead
    obtain ⟨-, rfl⟩ := deadWith_bequest.mp hdead
    decide
  have hspent : DeadWith overspent (.ofNat 20 0x33) (-9) :=
    ⟨[], _, _, rfl, by decide, by decide, by decide⟩
  have hsize : ∀ call ∈ bequest, call.value.toNat < Int256.bound := by decide
  have hkind : ∀ call ∈ bequest, call.kind ≠ OperationType.destruct := by decide
  have hsize' : ∀ call ∈ overspent, call.value.toNat < Int256.bound := by decide
  have hkind' : ∀ call ∈ overspent, call.kind ≠ OperationType.destruct := by decide
  obtain ⟨ops, lost, hops, hsorted, hlost, -, hdestruct⟩ :=
    (operationsOfFrames_history 2 hsize hkind hbequest).2 hnonneg
  obtain rfl : lost = [(.ofNat 20 0x33, 27)] := by
    have hnodup : lost.Nodup := hsorted.imp fun hlt heq => by
      rw [heq] at hlt
      exact Nat.lt_irrefl _ hlt
    refine List.perm_singleton.mp ((List.perm_ext_iff_of_nodup hnodup (List.nodup_singleton _)).mpr
      fun (account, v) => ?_)
    rw [hlost, deadWith_bequest, List.mem_singleton, Prod.mk.injEq]
    constructor
    · rintro ⟨-, haccount, hv⟩
      exact ⟨haccount, BitVec.eq_of_toNat_eq (Int.ofNat_inj.mp hv)⟩
    · rintro ⟨rfl, rfl⟩
      exact ⟨by decide, rfl, rfl⟩
  obtain ⟨first, held, hrefused, hfirst, hheld, -⟩ :=
    (operationsOfFrames_history 2 hsize' hkind' hoverspent).1 ⟨_, _, hspent, by decide⟩
  exact ⟨⟨hsize, hkind, hbequest, hnonneg, ops, hops, hdestruct⟩, hsize', hkind', hoverspent,
    hspent, first, held, hrefused, hfirst, hheld⟩

end PosvGateway
