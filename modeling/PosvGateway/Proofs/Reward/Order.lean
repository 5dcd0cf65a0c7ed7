import PosvGateway.Proofs.Reward

/-!
# Rewards are listed in one order

The node may list signers and holders in any order and spell them in more than one way. Where the
spellings of a report mean different accounts, none of that shows in the reward transaction.

* `Rewards.Reports` : the splits that a report lists, with different accounts on both levels;
* `Rewards.exists_read_of_reports` : such a report is read, and no share is lost or altered;
* `Rewards.Earlier` : the order of shares, by signer and then by holder;
* `Rewards.transaction_of_reports` : **there is one operation for each share, in this order**, and
  reports of the same shares give the same transaction.
-/

namespace PosvGateway.Rewards

open OrderedMap (pairs merge Nested)

/-- The shares of each signer. -/
abbrev Splits := List (Address × List (Address × Uint256))

/-- A report lists splits, in the order of its text: its keys spell accounts, different ones on both
levels, and its raw amounts spell amounts. -/
structure Reports (text : String) (splits : Splits) : Prop where
  listing : ∃ listing, readListing text = .ok (some listing) ∧
    List.Forall₂ ReadsSplit listing splits
  signers : (splits.map Prod.fst).Nodup
  holders : ∀ split ∈ splits, (split.2.map Prod.fst).Nodup

/-- One pair of a signer and a holder comes before another, as numbers. -/
def Earlier (a b : Address × Address) : Prop :=
  a.1.toNat < b.1.toNat ∨ a.1 = b.1 ∧ a.2.toNat < b.2.toNat

theorem earlier_of_before {a b : Address × Address} (h : OrderedMap.Before a b) : Earlier a b :=
  h.imp Nat.compare_eq_lt.mp fun hinner => ⟨hinner.1, Nat.compare_eq_lt.mp hinner.2⟩

/-! ### Reading in key order -/

/-- Texts that are read as different accounts are different. -/
theorem nodup_of_reads {α β : Type} {key : α → String} {account : β → Address} {as : List α}
    {bs : List β} (h : List.Forall₂ (fun a b => Address.read (key a) = .ok (account b)) as bs)
    (hnodup : (bs.map account).Nodup) : (as.map key).Nodup := by
  have hread : (as.map key).map Address.read = (bs.map account).map .ok := by
    induction h with
    | nil => rfl
    | cons hread _ ih =>
      simp only [List.map_cons, hread, List.cons.injEq, true_and]
      exact ih (List.nodup_cons.mp hnodup).2
  exact .of_map Address.read (hread ▸ hnodup.map fun _ _ => Except.ok.inj)

/-- The holders of each signer may be put in key order before they are read. -/
theorem reads_map_ofList {listing : Listing} {splits : Splits}
    (h : List.Forall₂ ReadsSplit listing splits)
    (hholders : ∀ split ∈ splits, (split.2.map Prod.fst).Nodup) :
    ∃ sorted, List.Forall₂ ReadsSplit
        (listing.map fun split => (split.1, OrderedMap.ofList split.2)) sorted ∧
      (pairs sorted).Perm (pairs splits) := by
  induction h with
  | nil => exact ⟨[], .nil, .nil⟩
  | @cons split split' listing splits hsplit _ ih =>
    obtain ⟨hhead, hholders⟩ := List.forall_mem_cons.mp hholders
    obtain ⟨sorted, hsorted, hperm⟩ := ih hholders
    have hkeys : (split.2.map Prod.fst).Nodup :=
      nodup_of_reads (hsplit.2.imp fun _ _ hshare => hshare.1) hhead
    obtain ⟨shares, hshares, hsharesPerm⟩ :=
      List.perm_comp_forall₂ (OrderedMap.ofList_perm hkeys) hsplit.2
    refine ⟨(split'.1, shares) :: sorted, .cons ⟨hsplit.1, hshares⟩ hsorted, ?_⟩
    rw [OrderedMap.pairs_cons, OrderedMap.pairs_cons]
    exact (hsharesPerm.map _).append hperm

/-- The whole report may be put in key order before it is read. -/
theorem reads_report {listing : Listing} {splits : Splits}
    (h : List.Forall₂ ReadsSplit listing splits) (hsigners : (splits.map Prod.fst).Nodup)
    (hholders : ∀ split ∈ splits, (split.2.map Prod.fst).Nodup) :
    ∃ sorted, List.Forall₂ ReadsSplit listing.report sorted ∧
      (pairs sorted).Perm (pairs splits) := by
  obtain ⟨inner, hinner, hinnerPerm⟩ := reads_map_ofList h hholders
  have hkeys : ((listing.map fun split => (split.1, OrderedMap.ofList split.2)).map
      Prod.fst).Nodup := by
    rw [List.map_map]
    exact nodup_of_reads (h.imp fun _ _ hsplit => hsplit.1) hsigners
  obtain ⟨sorted, hsorted, hperm⟩ :=
    List.perm_comp_forall₂ (OrderedMap.ofList_perm hkeys) hinner
  exact ⟨sorted, hsorted, (hperm.flatMap_right _).trans hinnerPerm⟩

/-- **A report of different accounts is read**, and no share of it is lost or altered. -/
theorem exists_read_of_reports {text : String} {splits : Splits} (h : Reports text splits) :
    ∃ rewards, read text = .ok (some rewards) ∧ Nested rewards ∧
      (pairs rewards).Perm (pairs splits) := by
  obtain ⟨⟨listing, hlisting, hreads⟩, hsigners, hholders⟩ := h
  obtain ⟨sorted, hsorted, hperm⟩ := reads_report hreads hsigners hholders
  have hread : read text = .ok (some (sorted.foldl merge [])) :=
    read_eq_some.mpr ⟨listing.report, readReport_eq_some.mpr ⟨listing, hlisting, rfl⟩,
      addSigners_eq_ok_iff.mpr ⟨sorted, hsorted, rfl⟩⟩
  have hkeys : ((pairs sorted).map Prod.fst).Nodup :=
    (hperm.map Prod.fst).nodup_iff.mpr (OrderedMap.nodup_keys_pairs hsigners hholders)
  exact ⟨_, hread, OrderedMap.nested_foldl_merge sorted ⟨List.Pairwise.nil, nofun⟩,
    (OrderedMap.pairs_foldl_merge_perm_of_nodup hkeys).trans hperm⟩

/-! ### The transaction -/

/-- The operation of a share at a place. -/
def shareOperation (place : Nat) (share : (Address × Address) × Uint256) : Operation where
  index := place
  kind := "REWARD"
  status := some "SUCCESS"
  account := some (.ofAddress share.1.2)
  amount := some (.credit share.2)

theorem transaction_eq (block : Digest) (rewards : Rewards) :
    transaction block rewards =
      { hash := block.toHex, operations := (pairs rewards).mapIdx shareOperation } := by
  have hoperations : Leg.number 0 rewards.legs = (pairs rewards).mapIdx shareOperation := by
    refine List.ext_getElem? fun place => ?_
    rw [Leg.getElem?_number, legs_eq_map, List.getElem?_map, List.getElem?_mapIdx, Option.map_map,
      Int.zero_add]
    rfl
  rw [transaction, hoperations]

/-- **There is one operation for each share, by signer and then by holder**, whatever the order of a
report and its spellings: reports of the same shares give the same transaction. -/
theorem transaction_of_reports {text : String} {splits : Splits} (h : Reports text splits)
    (block : Digest) :
    ∃ (rewards : Rewards) (shares : List ((Address × Address) × Uint256)),
      read text = .ok (some rewards) ∧ shares.Perm (pairs splits) ∧
      shares.Pairwise (fun a b => Earlier a.1 b.1) ∧
      transaction block rewards =
        { hash := block.toHex, operations := shares.mapIdx shareOperation } ∧
      ∀ text' splits', Reports text' splits' → (pairs splits').Perm (pairs splits) →
        ∃ rewards', read text' = .ok (some rewards') ∧
          transaction block rewards' = transaction block rewards := by
  obtain ⟨rewards, hread, hnested, hperm⟩ := exists_read_of_reports h
  refine ⟨rewards, pairs rewards, hread, hperm,
    (OrderedMap.pairs_pairwise hnested).imp earlier_of_before, transaction_eq block rewards,
    fun text' splits' h' hsame => ?_⟩
  obtain ⟨rewards', hread', hnested', hperm'⟩ := exists_read_of_reports h'
  have hpairs : pairs rewards' = pairs rewards :=
    OrderedMap.pairs_eq_of_perm hnested' hnested (hperm'.trans (hsame.trans hperm.symm))
  exact ⟨rewards', hread', by rw [transaction_eq, transaction_eq, hpairs]⟩

/-! ### Two reports of the same shares -/

namespace Spelling

/-- The texts of the signers are in another order than their accounts, and so are those of the
holders of one. -/
def forward : Spelling :=
  [('0' :: 'x' :: List.replicate 40 '2',
      [('0' :: 'x' :: List.replicate 40 'b', ['7']),
        (List.replicate 40 'A', ['"', '0', 'x', '1', '0', '"'])]),
    (List.replicate 40 '1', [('0' :: 'x' :: List.replicate 40 'b', ['3'])])]

/-- The same shares in another order and in other spellings. -/
def backward : Spelling :=
  [('0' :: 'x' :: List.replicate 40 '1', [(List.replicate 40 'B', ['"', '3', '"'])]),
    (List.replicate 40 '2',
      [('0' :: 'x' :: List.replicate 40 'a', ['1', '6']), (List.replicate 40 'B', ['7'])])]

end Spelling

theorem reports_forward :
    Reports (String.ofList Spelling.forward.text)
      [(account 2, [(account 11, 7), (account 10, 16)]), (account 1, [(account 11, 3)])] where
  listing := by
    refine ⟨Spelling.forward.listing, Reader.runTo_ofList (by decide +kernel), ?_⟩
    have hseven : ReadsShare (String.ofList ('0' :: 'x' :: List.replicate 40 'b'), "7")
        (account 11, 7) := ⟨by decide +kernel, Except.toOption_eq_some.mp (by decide +kernel)⟩
    have hsixteen : ReadsShare (String.ofList (List.replicate 40 'A'), "\"0x10\"")
        (account 10, 16) := ⟨by decide +kernel, Except.toOption_eq_some.mp (by decide +kernel)⟩
    have hthree : ReadsShare (String.ofList ('0' :: 'x' :: List.replicate 40 'b'), "3")
        (account 11, 3) := ⟨by decide +kernel, Except.toOption_eq_some.mp (by decide +kernel)⟩
    exact .cons ⟨by decide +kernel, .cons hseven (.cons hsixteen .nil)⟩
      (.cons ⟨by decide +kernel, .cons hthree .nil⟩ .nil)
  signers := by decide +kernel
  holders := by decide +kernel

theorem reports_backward :
    Reports (String.ofList Spelling.backward.text)
      [(account 1, [(account 11, 3)]), (account 2, [(account 10, 16), (account 11, 7)])] where
  listing := by
    refine ⟨Spelling.backward.listing, Reader.runTo_ofList (by decide +kernel), ?_⟩
    have hthree : ReadsShare (String.ofList (List.replicate 40 'B'), "\"3\"")
        (account 11, 3) := ⟨by decide +kernel, Except.toOption_eq_some.mp (by decide +kernel)⟩
    have hsixteen : ReadsShare (String.ofList ('0' :: 'x' :: List.replicate 40 'a'), "16")
        (account 10, 16) := ⟨by decide +kernel, Except.toOption_eq_some.mp (by decide +kernel)⟩
    have hseven : ReadsShare (String.ofList (List.replicate 40 'B'), "7")
        (account 11, 7) := ⟨by decide +kernel, Except.toOption_eq_some.mp (by decide +kernel)⟩
    exact .cons ⟨by decide +kernel, .cons hthree .nil⟩
      (.cons ⟨by decide +kernel, .cons hsixteen (.cons hseven .nil)⟩ .nil)
  signers := by decide +kernel
  holders := by decide +kernel

theorem transaction_of_reports_reordered :
    let splits : Splits :=
      [(account 2, [(account 11, 7), (account 10, 16)]), (account 1, [(account 11, 3)])]
    ∃ rewards rewards' shares, read (String.ofList Spelling.forward.text) = .ok (some rewards) ∧
      read (String.ofList Spelling.backward.text) = .ok (some rewards') ∧
      List.Perm shares (pairs splits) ∧
      shares.Pairwise (fun a b => Earlier a.1 b.1) ∧
      (transaction (.zero 32) rewards).operations = shares.mapIdx shareOperation ∧
      transaction (.zero 32) rewards' = transaction (.zero 32) rewards := by
  obtain ⟨rewards, shares, hread, hperm, horder, htransaction, hsame⟩ :=
    transaction_of_reports reports_forward (.zero 32)
  obtain ⟨rewards', hread', heq⟩ := hsame _ _ reports_backward (by decide +kernel)
  exact ⟨rewards, rewards', shares, hread, hread', hperm, horder,
    congrArg Transaction.operations htransaction, heq⟩

end PosvGateway.Rewards
