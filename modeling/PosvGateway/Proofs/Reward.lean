import PosvGateway.Proofs.Amount
import PosvGateway.Proofs.Json
import PosvGateway.Proofs.Json.Reader
import PosvGateway.Proofs.Numeral.Value
import PosvGateway.Proofs.Octets
import PosvGateway.Proofs.OrderedMap.Merge
import PosvGateway.Reward

/-!
# Rewards are paid in full

A report lists an amount for each holder under each signer. Its keys spell accounts in more than
one way, so that several entries may mean one holder under one signer.

* `Rewards.readListing` : the entries of a report as its text lists them;
* `Rewards.Superseded` : a later entry, in the order of the spellings, means the same accounts;
* `Rewards.total_transaction` : **the reward transaction pays every amount but the superseded
  ones**, and so it pays in full exactly where those are zero.
-/

namespace PosvGateway.Rewards

open OrderedMap (pairs merge under without survivors Nested Before)

/-! ### Listings -/

/-- A report as its text lists it: signers, each with holders and raw amounts. -/
abbrev Listing := List (String × List (String × String))

/-- An entry of a listing: the spellings of a signer and a holder, and the raw amount. -/
abbrev Entry := (String × String) × String

/-- Reads the listing of a report, in which there may be no split. -/
def readListing (text : String) : Except Misfit (Option Listing) :=
  let reader : Reader (Option Listing) :=
    (Fields.optional "rewards" (Reader.members (Reader.members Reader.unopened))).record
  reader.runTo 3 text

/-- No signer is listed twice under one spelling, and no holder under one signer. -/
structure Distinct (listing : Listing) : Prop where
  signers : (listing.map Prod.fst).Nodup
  holders : ∀ split ∈ listing, (split.2.map Prod.fst).Nodup

/-- The number that a raw amount spells: a text in any base, any other value in base ten. -/
def amountOf (raw : String) : Nat :=
  if raw.startsWith "\"" then
    match Reader.text.run raw with
    | .ok s => Numeral.spelled s
    | .error _ => 0
  else Numeral.value 10 raw.toList

/-- The sum of the amounts of entries. -/
def total (entries : List Entry) : Nat := (entries.map fun entry => amountOf entry.2).sum

/-- The sum of the amounts of shares. -/
def paid (shares : List ((Address × Address) × Uint256)) : Nat :=
  (shares.map fun share => share.2.toNat).sum

/-- Both spellings mean the same accounts. -/
def SameAccounts (a b : String × String) : Prop :=
  Address.read a.1 = Address.read b.1 ∧ Address.read a.2 = Address.read b.2

/-- A later entry, in the order of the spellings, means the same signer and the same holder. -/
def Superseded (entries : List Entry) (entry : Entry) : Prop :=
  ∃ later ∈ entries, Before entry.1 later.1 ∧ SameAccounts entry.1 later.1

instance (a b : String × String) : Decidable (Before a b) :=
  inferInstanceAs (Decidable (_ ∨ _))

instance (a b : String × String) : Decidable (SameAccounts a b) :=
  inferInstanceAs (Decidable (_ ∧ _))

instance (entries : List Entry) : DecidablePred (Superseded entries) := fun entry =>
  inferInstanceAs (Decidable (∃ later ∈ entries, Before entry.1 later.1 ∧
    SameAccounts entry.1 later.1))

/-- The entries that are not superseded. -/
def standing (entries : List Entry) : List Entry :=
  entries.filter fun entry => ¬ Superseded entries entry

/-! ### Reading a report -/

/-- The report of a listing: both levels are put in key order. -/
def Listing.report (listing : Listing) : Report :=
  OrderedMap.ofList (listing.map fun split => (split.1, OrderedMap.ofList split.2))

/-- A report is that of its listing. -/
theorem readReport_eq_some {text : String} {report : Report} :
    readReport text = .ok (some report) ↔
      ∃ listing, readListing text = .ok (some listing) ∧ report = listing.report := by
  have hreader : Reader.table (Reader.table Reader.unopened) =
      (Reader.members (Reader.members Reader.unopened)).map Listing.report := by
    rw [Reader.table_eq_map, Reader.table_eq_map, Reader.members_map, Reader.map_map]
    rfl
  rw [readReport, hreader, Fields.record_optional_map, Reader.runTo, Reader.finish_map, readListing,
    Reader.runTo]
  cases Reader.finish _ (Document.parseTo 3 text) with
  | error misfit =>
    constructor
    · intro h
      cases h
    · rintro ⟨listing, h, -⟩
      cases h
  | ok listing =>
    constructor
    · intro h
      cases listing with
      | none => cases h
      | some listing =>
        cases h
        exact ⟨listing, rfl, rfl⟩
    · rintro ⟨listing, h, rfl⟩
      cases h
      rfl

theorem nested_report (listing : Listing) : Nested listing.report := by
  refine ⟨OrderedMap.sorted_ofList _, fun split hsplit => ?_⟩
  obtain ⟨split', -, rfl⟩ := List.mem_map.mp (OrderedMap.mem_of_mem_ofList hsplit)
  exact OrderedMap.sorted_ofList _

/-- With distinct keys no entry is lost. -/
theorem pairs_report_perm {listing : Listing} (h : Distinct listing) :
    (pairs listing.report).Perm (pairs listing) := by
  have hkeys : ((listing.map fun split => (split.1, OrderedMap.ofList split.2)).map Prod.fst).Nodup
      := by
    rw [List.map_map]
    exact h.signers
  refine ((OrderedMap.ofList_perm hkeys).flatMap_right _).trans ?_
  rw [List.flatMap_map]
  exact (List.Perm.refl listing).flatMap fun split hsplit =>
    (OrderedMap.ofList_perm (h.holders split hsplit)).map _

theorem read_eq_some {text : String} {rewards : Rewards} :
    read text = .ok (some rewards) ↔
      ∃ report, readReport text = .ok (some report) ∧ addSigners report [] = .ok rewards := by
  rw [read, Except.bind_eq_ok]
  constructor
  · rintro ⟨report, hreport, h⟩
    cases report with
    | none => cases h
    | some report =>
      obtain ⟨_, hrewards, h⟩ := Except.bind_eq_ok.mp h
      cases h
      exact ⟨report, hreport, hrewards⟩
  · rintro ⟨report, hreport, hrewards⟩
    exact ⟨some report, hreport, Except.bind_eq_ok.mpr ⟨rewards, hrewards, rfl⟩⟩

/-! ### Reading accounts and amounts -/

/-- An entry means a share: an amount of a holder under a signer. -/
structure Means (entry : Entry) (share : (Address × Address) × Uint256) : Prop where
  signer : Address.read entry.1.1 = .ok share.1.1
  holder : Address.read entry.1.2 = .ok share.1.2
  amount : share.2.toNat = amountOf entry.2

/-- A holder and a raw amount are read as an account and an amount. -/
def ReadsShare (entry : String × String) (share : Address × Uint256) : Prop :=
  Address.read entry.1 = .ok share.1 ∧ readAmount entry.2 = .ok share.2

/-- A signer with its holders is read as an account with its shares, in the same order. -/
def ReadsSplit (split : String × List (String × String))
    (shares : Address × List (Address × Uint256)) : Prop :=
  Address.read split.1 = .ok shares.1 ∧ List.Forall₂ ReadsShare split.2 shares.2

theorem readAddress_eq_ok {key : String} {account : Address} :
    readAddress key = .ok account ↔ Address.read key = .ok account := by
  rw [readAddress]
  cases Address.read key <;> simp

theorem toNat_of_readAmount {raw : String} {amount : Uint256} (h : readAmount raw = .ok amount) :
    amount.toNat = amountOf raw := by
  rw [readAmount] at h
  rw [amountOf]
  by_cases hquote : raw.startsWith "\""
  · simp only [if_pos hquote] at h ⊢
    cases hread : Reader.text.run raw with
    | error misfit =>
      rw [hread] at h
      cases h
    | ok s =>
      simp only [hread] at h ⊢
      split at h
      · cases h
      · rename_i hword
        cases h
        exact Numeral.readUint256_value (Except.ok.inj hword)
      · cases h
  · simp only [if_neg hquote] at h ⊢
    split at h
    · cases h
    · rename_i hword
      cases h
      exact Numeral.readDecimal_value (Except.ok.inj hword)
    · cases h

/-- The holders of a signer are set one after another. -/
theorem addHolders_eq_ok {entries : List (String × String)}
    {before merged : OrderedMap Address Uint256} :
    addHolders entries before = .ok merged ↔
      ∃ shares, List.Forall₂ ReadsShare entries shares ∧
        merged = shares.foldl (fun map share => OrderedMap.insert share.1 share.2 map) before := by
  induction entries generalizing before with
  | nil =>
    constructor
    · intro h
      cases h
      exact ⟨[], .nil, rfl⟩
    · rintro ⟨_, ⟨⟩, rfl⟩
      rfl
  | cons entry entries ih =>
    obtain ⟨holder, raw⟩ := entry
    simp only [addHolders, Except.bind_eq_ok, ih, readAddress_eq_ok]
    constructor
    · rintro ⟨address, haddress, amount, hamount, shares, hshares, hmerged⟩
      exact ⟨(address, amount) :: shares, .cons ⟨haddress, hamount⟩ hshares, hmerged⟩
    · rintro ⟨_, hreads, hmerged⟩
      cases hreads with
      | @cons _ share _ shares hshare hshares =>
        exact ⟨share.1, hshare.1, share.2, hshare.2, shares, hshares, hmerged⟩

/-- The signers of a report are merged one after another. -/
theorem addSigners_eq_ok_iff {report : Report} {before rewards : Rewards} :
    addSigners report before = .ok rewards ↔
      ∃ splits, List.Forall₂ ReadsSplit report splits ∧ rewards = splits.foldl merge before := by
  induction report generalizing before with
  | nil =>
    constructor
    · intro h
      cases h
      exact ⟨[], .nil, rfl⟩
    · rintro ⟨_, ⟨⟩, rfl⟩
      rfl
  | cons split report ih =>
    obtain ⟨signer, entries⟩ := split
    simp only [addSigners, Except.bind_eq_ok, ih, readAddress_eq_ok, addHolders_eq_ok]
    constructor
    · rintro ⟨account, haccount, _, ⟨shares, hshares, rfl⟩, splits, hsplits, hrewards⟩
      exact ⟨(account, shares) :: splits, .cons ⟨haccount, hshares⟩ hsplits, hrewards⟩
    · rintro ⟨_, hreads, hrewards⟩
      cases hreads with
      | @cons _ shares _ splits hsplit hsplits =>
        exact ⟨shares.1, hsplit.1, _, ⟨shares.2, hsplit.2, rfl⟩, splits, hsplits, hrewards⟩

/-- The entries under a signer mean what they are read as. -/
theorem means_of_readsShare {signer : String} {account : Address}
    (hsigner : Address.read signer = .ok account) {entries : List (String × String)}
    {shares : List (Address × Uint256)} (h : List.Forall₂ ReadsShare entries shares) :
    List.Forall₂ Means (under signer entries) (under account shares) := by
  induction h with
  | nil => exact .nil
  | cons hshare _ ih => exact .cons ⟨hsigner, hshare.1, toNat_of_readAmount hshare.2⟩ ih

theorem means_of_readsSplit {report : List (String × List (String × String))}
    {splits : List (Address × List (Address × Uint256))}
    (h : List.Forall₂ ReadsSplit report splits) :
    List.Forall₂ Means (pairs report) (pairs splits) := by
  induction h with
  | nil => exact .nil
  | cons hsplit _ ih =>
    rw [OrderedMap.pairs_cons, OrderedMap.pairs_cons]
    exact List.rel_append (means_of_readsShare hsplit.1 hsplit.2) ih

theorem addSigners_eq_ok {report : Report} {before rewards : Rewards}
    (h : addSigners report before = .ok rewards) :
    ∃ splits, List.Forall₂ Means (pairs report) (pairs splits) ∧
      rewards = splits.foldl merge before := by
  obtain ⟨splits, hreads, hrewards⟩ := addSigners_eq_ok_iff.mp h
  exact ⟨splits, means_of_readsSplit hreads, hrewards⟩

/-! ### Amounts -/

/-- Two entries mean shares of the same accounts where their spellings mean the same accounts. -/
theorem sameAccounts_iff {a b : Entry} {share share' : (Address × Address) × Uint256}
    (ha : Means a share) (hb : Means b share') : SameAccounts a.1 b.1 ↔ share.1 = share'.1 := by
  rw [SameAccounts, ha.signer, ha.holder, hb.signer, hb.holder, Except.ok.injEq, Except.ok.injEq,
    Prod.ext_iff]

/-- In a list that is in the order of the spellings an entry is superseded if a later one means the
same accounts. -/
theorem superseded_cons_iff {entry e : Entry} {entries : List Entry}
    (horder : (entry :: entries).Pairwise fun a b => Before a.1 b.1) (he : e ∈ entries) :
    Superseded (entry :: entries) e ↔ Superseded entries e := by
  have hbefore := (List.pairwise_cons.mp horder).1 e he
  constructor
  · rintro ⟨later, hlater, hafter, hsame⟩
    rcases List.mem_cons.mp hlater with rfl | hlater
    · exact absurd hafter (OrderedMap.not_before_of_before hbefore)
    · exact ⟨later, hlater, hafter, hsame⟩
  · rintro ⟨later, hlater, hafter, hsame⟩
    exact ⟨later, List.mem_cons_of_mem _ hlater, hafter, hsame⟩

theorem superseded_head_iff {entry : Entry} {entries : List Entry}
    (horder : (entry :: entries).Pairwise fun a b => Before a.1 b.1) :
    Superseded (entry :: entries) entry ↔ ∃ e ∈ entries, SameAccounts entry.1 e.1 := by
  constructor
  · rintro ⟨later, hlater, hafter, hsame⟩
    rcases List.mem_cons.mp hlater with rfl | hlater
    · exact absurd hafter (OrderedMap.not_before_of_before hafter)
    · exact ⟨later, hlater, hsame⟩
  · rintro ⟨later, hlater, hsame⟩
    exact ⟨later, List.mem_cons_of_mem _ hlater, (List.pairwise_cons.mp horder).1 later hlater,
      hsame⟩

theorem exists_sameAccounts_iff {entry : Entry} {share : (Address × Address) × Uint256}
    {entries : List Entry} {shares : List ((Address × Address) × Uint256)}
    (hentry : Means entry share) (hmeans : List.Forall₂ Means entries shares) :
    (∃ e ∈ entries, SameAccounts entry.1 e.1) ↔ share.1 ∈ shares.map Prod.fst := by
  induction hmeans with
  | nil => exact ⟨nofun, nofun⟩
  | cons he _ ih =>
    rw [List.exists_mem_cons_iff, List.map_cons, List.mem_cons, sameAccounts_iff hentry he, ih]

/-- The shares that no later one replaces are those of the entries that are not superseded. -/
theorem paid_survivors {entries : List Entry} {shares : List ((Address × Address) × Uint256)}
    (hmeans : List.Forall₂ Means entries shares)
    (horder : entries.Pairwise fun a b => Before a.1 b.1) :
    paid (survivors shares) = total (standing entries) := by
  induction hmeans with
  | nil => rfl
  | @cons entry share entries shares hentry hmeans ih =>
    -- The first entry supersedes none of the others, as it comes before them.
    have hrest : entries.filter (fun e => ¬ Superseded (entry :: entries) e) = standing entries :=
      List.filter_congr fun e he => by rw [decide_eq_decide, superseded_cons_iff horder he]
    have hreplaced : Superseded (entry :: entries) entry ↔ share.1 ∈ shares.map Prod.fst :=
      (superseded_head_iff horder).trans (exists_sameAccounts_iff hentry hmeans)
    have hsum := ih (List.pairwise_cons.mp horder).2
    rw [survivors, standing]
    by_cases h : share.1 ∈ shares.map Prod.fst
    · rw [if_pos h, List.filter_cons_of_neg (by simpa using hreplaced.mpr h), hrest, hsum]
    · rw [if_neg h, List.filter_cons_of_pos (by simpa using h ∘ hreplaced.mp), hrest, paid, total,
        List.map_cons, List.sum_cons, List.map_cons, List.sum_cons, hentry.amount]
      exact congrArg _ hsum

/-- What is superseded does not depend on the order in which a list is given. -/
theorem total_standing_perm {entries entries' : List Entry} (h : entries.Perm entries') :
    total (standing entries) = total (standing entries') := by
  have hsame : ∀ e, Superseded entries e ↔ Superseded entries' e := fun e =>
    exists_congr fun later => and_congr_left' h.mem_iff
  have hstanding : entries'.filter (fun e => ¬ Superseded entries e) = standing entries' :=
    List.filter_congr fun e _ => by rw [decide_eq_decide, hsame]
  rw [total, total, ← hstanding]
  exact ((h.filter _).map _).sum_eq

theorem total_standing_eq_iff (entries : List Entry) :
    total (standing entries) = total entries ↔
      ∀ entry ∈ entries, Superseded entries entry → amountOf entry.2 = 0 := by
  have hsplit : total (entries.filter fun e => Superseded entries e) + total (standing entries)
      = total entries := by
    have hnot : (fun e => decide ¬ Superseded entries e) = fun e => !decide (Superseded entries e)
        := by
      funext e
      exact decide_not
    rw [standing, hnot, total, total, ← List.sum_append, ← List.map_append]
    exact ((List.filter_append_perm _ _).map _).sum_eq
  have hzero : total (entries.filter fun e => Superseded entries e) = 0 ↔
      ∀ entry ∈ entries, Superseded entries entry → amountOf entry.2 = 0 := by
    rw [total, List.sum_eq_zero_iff, List.forall_mem_map]
    simp only [List.mem_filter, decide_eq_true_iff, and_imp]
  rw [← hzero]
  omega

/-- There is one leg for each share, in the order of the map. -/
theorem legs_eq_map (rewards : Rewards) :
    rewards.legs = (pairs rewards).map fun share => leg share.1.2 share.2 := by
  rw [legs, pairs, List.map_flatMap]
  refine List.flatMap_congr fun split _ => ?_
  rw [under, List.map_map]
  rfl

theorem total?_transaction (block : Digest) (rewards : Rewards) :
    Operation.total? (transaction block rewards).operations =
      some (paid (pairs rewards) : Int) := by
  have hnative : ∀ l ∈ rewards.legs, l.IsNative := by
    rw [legs_eq_map]
    intro l hl amount hamount
    obtain ⟨share, -, rfl⟩ := List.mem_map.mp hl
    exact ⟨share.2, .inl (Option.some.inj hamount).symm⟩
  have hworth : ∀ share : (Address × Address) × Uint256,
      (leg share.1.2 share.2).worth = share.2.toNat := fun _ => Leg.worth_of_credit rfl
  rw [transaction, Leg.total?_number hnative, Leg.net, List.filter_true, legs_eq_map, List.map_map,
    paid,
    Nat.cast_list_sum, List.map_map]
  exact congrArg (some ∘ List.sum) (List.map_congr_left fun share _ => hworth share)

/-- **The reward transaction pays every amount but the superseded ones**, and so it pays in full
exactly where those are zero. -/
theorem total_transaction {text : String} {rewards : Rewards}
    (h : read text = .ok (some rewards)) (block : Digest) :
    ∃ listing, readListing text = .ok (some listing) ∧ (Distinct listing →
      Operation.total? (transaction block rewards).operations =
        some (total (standing (pairs listing)) : Int) ∧
      (Operation.total? (transaction block rewards).operations =
          some (total (pairs listing) : Int) ↔
        ∀ entry ∈ pairs listing, Superseded (pairs listing) entry → amountOf entry.2 = 0)) := by
  obtain ⟨report, hreport, hsigners⟩ := read_eq_some.mp h
  obtain ⟨listing, hlisting, rfl⟩ := readReport_eq_some.mp hreport
  refine ⟨listing, hlisting, fun hdistinct => ?_⟩
  obtain ⟨splits, hmeans, rfl⟩ := addSigners_eq_ok hsigners
  have hpaid : Operation.total? (transaction block (splits.foldl merge [])).operations =
      some (total (standing (pairs listing)) : Int) := by
    have hnone : without ((pairs splits).map Prod.fst) (pairs ([] : Rewards)) = [] := rfl
    have hempty : Nested ([] : Rewards) := ⟨List.Pairwise.nil, nofun⟩
    have hperm := OrderedMap.pairs_foldl_merge_perm splits hempty
    rw [hnone, List.append_nil] at hperm
    rw [total?_transaction, paid, (hperm.map _).sum_eq, ← paid,
      paid_survivors hmeans (OrderedMap.pairs_pairwise (nested_report listing)),
      total_standing_perm (pairs_report_perm hdistinct)]
  refine ⟨hpaid, ?_⟩
  rw [hpaid, Option.some.injEq, Int.natCast_inj, total_standing_eq_iff]

/-! ### Reports with several spellings -/

/-- The splits of a report by the characters of their keys and amounts. -/
abbrev Spelling := List (List Char × List (List Char × List Char))

namespace Spelling

/-- An object with the given keys and values. -/
def object (members : List (List Char × List Char)) : List Char :=
  '\x7b' :: [','].intercalate (members.map fun member => '"' :: member.1 ++ '"' :: ':' :: member.2)
    ++ ['\x7d']

/-- The text of a report. -/
def text (splits : Spelling) : List Char :=
  object [("rewards".toList, object (splits.map fun split => (split.1, object split.2)))]

/-- The listing of a report. -/
def listing (splits : Spelling) : Listing :=
  splits.map fun split => (String.ofList split.1,
    split.2.map fun entry => (String.ofList entry.1, String.ofList entry.2))

/-- Two spellings of a signer list five for one holder and sixteen for another; two spellings of a
third holder list nothing and seven. -/
def complete : Spelling :=
  [(List.replicate 40 '1', [('0' :: 'x' :: List.replicate 40 'a', ['5'])]),
    ('0' :: 'x' :: List.replicate 40 '1',
      [(List.replicate 40 'b', ['"', '0', 'x', '1', '0', '"']),
        ('0' :: 'x' :: List.replicate 40 'c', ['7']),
        ('0' :: 'x' :: List.replicate 40 'C', ['0'])])]

/-- Two spellings of a holder list seven and five. -/
def lossy : Spelling :=
  [('0' :: 'x' :: List.replicate 40 '1',
    [('0' :: 'x' :: List.replicate 40 'b', ['7']), ('0' :: 'x' :: List.replicate 40 'B', ['5'])])]

end Spelling

/-- The account of a repeated digit. -/
def account (digit : Nat) : Address :=
  .ofNat 20 ((List.replicate 40 digit).foldl (fun n d => 16 * n + d) 0)

theorem total_transaction_complete :
    let text := String.ofList Spelling.complete.text
    let listing := Spelling.complete.listing
    ∃ rewards, read text = .ok (some rewards) ∧ readListing text = .ok (some listing) ∧
      Distinct listing ∧ total (pairs listing) = 28 ∧
      Operation.total? (transaction (.zero 32) rewards).operations = some 28 := by
  intro text listing
  let rewards : Rewards := [(account 1, [(account 10, 5), (account 11, 16), (account 12, 7)])]
  have hlisting : readListing text = .ok (some listing) :=
    Reader.runTo_ofList (by decide +kernel)
  have hread : read text = .ok (some rewards) := read_eq_some.mpr ⟨listing.report,
    readReport_eq_some.mpr ⟨listing, hlisting, rfl⟩, Except.toOption_eq_some.mp (by decide +kernel)⟩
  have hdistinct : Distinct listing := ⟨by decide +kernel, by decide +kernel⟩
  have htotal : total (pairs listing) = 28 := by decide +kernel
  have hzero : ∀ entry ∈ pairs listing, Superseded (pairs listing) entry →
      amountOf entry.2 = 0 := by decide +kernel
  obtain ⟨listing', hlisting', hpaid⟩ := total_transaction hread (.zero 32)
  obtain rfl : listing = listing' := Option.some.inj (Except.ok.inj (hlisting.symm.trans hlisting'))
  have hfull := (hpaid hdistinct).2.mpr hzero
  rw [htotal] at hfull
  exact ⟨rewards, hread, hlisting, hdistinct, htotal, hfull⟩

/-- The spellings of one holder lose one of its amounts. -/
theorem total_transaction_lossy :
    let text := String.ofList Spelling.lossy.text
    let listing := Spelling.lossy.listing
    ∃ rewards, read text = .ok (some rewards) ∧ readListing text = .ok (some listing) ∧
      Distinct listing ∧ total (pairs listing) = 12 ∧
      Operation.total? (transaction (.zero 32) rewards).operations = some 7 := by
  intro text listing
  have hlisting : readListing text = .ok (some listing) :=
    Reader.runTo_ofList (by decide +kernel)
  have hread : read text = .ok (some [(account 1, [(account 11, 7)])]) :=
    read_eq_some.mpr ⟨listing.report, readReport_eq_some.mpr ⟨listing, hlisting, rfl⟩,
      Except.toOption_eq_some.mp (by decide +kernel)⟩
  refine ⟨_, hread, hlisting, ⟨by decide +kernel, by decide +kernel⟩, by decide +kernel, ?_⟩
  rw [total?_transaction]
  rfl

end PosvGateway.Rewards
