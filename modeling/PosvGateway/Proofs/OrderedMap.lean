import PosvGateway.OrderedMap

/-!
# Maps in key order

* `OrderedMap.find?_insert_self`, `OrderedMap.find?_insert_of_ne` : setting the value of a key
  changes what is found at that key alone;
* `OrderedMap.find?_ofList` : what is found in a map that is built from a list;
* `OrderedMap.mem_keys_insert`, `OrderedMap.mem_keys_ofList` : which keys a map has;
* `OrderedMap.sorted_ofList` : a map that is built from a list is in key order, and so has every key
  once (`OrderedMap.Sorted.nodup_keys`);
* `OrderedMap.foldl_insert_perm` : setting the values of a list leaves the entries of the list that
  no later one replaces (`OrderedMap.survivors`), and those of the map with other keys.

What is found does not depend on the order; only that a key stands once does.
-/

namespace PosvGateway.OrderedMap

open Std

variable {κ ν : Type} [Ord κ]

/-- The keys of a map. -/
def keys (map : OrderedMap κ ν) : List κ := map.map Prod.fst

/-- A map is in key order. -/
def Sorted (map : OrderedMap κ ν) : Prop := map.Pairwise fun a b => compare a.1 b.1 = .lt

/-! ### Look-ups -/

section LookUp

variable [LawfulEqOrd κ]

theorem find?_cons_self (key : κ) (value : ν) (rest : OrderedMap κ ν) :
    find? key ((key, value) :: rest) = some value := by
  rw [find?, if_pos ReflCmp.compare_self]

theorem find?_cons_of_ne {key other : κ} (h : other ≠ key) (value : ν) (rest : OrderedMap κ ν) :
    find? other ((key, value) :: rest) = find? other rest := by
  rw [find?, if_neg]
  exact fun heq => h (LawfulEqCmp.compare_eq_iff_eq.mp heq)

@[simp] theorem find?_insert_self (key : κ) (value : ν) (map : OrderedMap κ ν) :
    find? key (insert key value map) = some value := by
  induction map with
  | nil => exact find?_cons_self key value []
  | cons entry rest ih =>
    obtain ⟨k, v⟩ := entry
    rw [insert]
    cases hcompare : compare key k with
    | lt => exact find?_cons_self key value _
    | eq => exact find?_cons_self key value _
    | gt =>
      have hne : key ≠ k := by
        rintro rfl
        have hself : compare key key = .eq := ReflCmp.compare_self
        rw [hself] at hcompare
        cases hcompare
      exact (find?_cons_of_ne hne _ _).trans ih

theorem find?_insert_of_ne {key other : κ} (h : other ≠ key) (value : ν) (map : OrderedMap κ ν) :
    find? other (insert key value map) = find? other map := by
  induction map with
  | nil => exact find?_cons_of_ne h value []
  | cons entry rest ih =>
    obtain ⟨k, v⟩ := entry
    rw [insert]
    cases hcompare : compare key k with
    | lt => exact find?_cons_of_ne h value _
    | eq =>
      obtain rfl : key = k := LawfulEqCmp.compare_eq_iff_eq.mp hcompare
      exact (find?_cons_of_ne h value _).trans (find?_cons_of_ne h v _).symm
    | gt =>
      simp only
      by_cases hk : other = k
      · rw [hk, find?_cons_self, find?_cons_self]
      · rw [find?_cons_of_ne hk, find?_cons_of_ne hk, ih]

/-- What is found in a map that is built from a list is the last entry of its key. -/
theorem find?_ofList [DecidableEq κ] (key : κ) (entries : List (κ × ν)) :
    find? key (ofList entries) =
      (entries.reverse.find? fun entry => entry.1 = key).map Prod.snd := by
  rw [ofList, List.foldl_eq_foldr_reverse]
  induction entries.reverse with
  | nil => rfl
  | cons entry earlier ih =>
    rw [List.foldr_cons]
    by_cases h : entry.1 = key
    · rw [List.find?_cons_of_pos (by simpa using h), ← h, find?_insert_self, Option.map_some]
    · rw [List.find?_cons_of_neg (by simpa using h), find?_insert_of_ne (Ne.symm h), ih]

end LookUp

/-! ### Keys -/

theorem mem_keys_insert [LawfulEqOrd κ] {key other : κ} {value : ν} {map : OrderedMap κ ν} :
    other ∈ keys (insert key value map) ↔ other = key ∨ other ∈ keys map := by
  induction map with
  | nil => simp [keys, insert]
  | cons entry rest ih =>
    obtain ⟨k, v⟩ := entry
    rw [insert]
    cases hcompare : compare key k with
    | lt => simp [keys]
    | eq =>
      obtain rfl : key = k := LawfulEqCmp.compare_eq_iff_eq.mp hcompare
      simp [keys]
    | gt =>
      simp only [keys, List.map_cons, List.mem_cons] at ih ⊢
      rw [ih]
      exact or_left_comm

section Order

variable [TransOrd κ] [LawfulEqOrd κ]

theorem sorted_insert {key : κ} {value : ν} {map : OrderedMap κ ν} (h : Sorted map) :
    Sorted (insert key value map) := by
  induction map with
  | nil => exact List.pairwise_singleton _ _
  | cons entry rest ih =>
    obtain ⟨k, v⟩ := entry
    obtain ⟨hhead, hrest⟩ := List.pairwise_cons.mp h
    rw [insert]
    cases hcompare : compare key k with
    | lt =>
      refine List.pairwise_cons.mpr ⟨fun entry hentry => ?_, h⟩
      rcases List.mem_cons.mp hentry with rfl | hentry
      · exact hcompare
      · exact TransCmp.lt_trans hcompare (hhead entry hentry)
    | eq =>
      obtain rfl : key = k := LawfulEqCmp.compare_eq_iff_eq.mp hcompare
      exact List.pairwise_cons.mpr ⟨hhead, hrest⟩
    | gt =>
      refine List.pairwise_cons.mpr ⟨fun entry hentry => ?_, ih hrest⟩
      -- The rest got no key but the new one, which is above this entry.
      have hkey : entry.1 ∈ keys (insert key value rest) := List.mem_map_of_mem hentry
      rcases mem_keys_insert.mp hkey with heq | hmem
      · rw [heq]
        exact OrientedCmp.lt_of_gt hcompare
      · obtain ⟨entry', hentry', heq⟩ := List.mem_map.mp hmem
        rw [← heq]
        exact hhead entry' hentry'

theorem sorted_foldl_insert (entries : List (κ × ν)) {map : OrderedMap κ ν} (h : Sorted map) :
    Sorted (entries.foldl (fun map entry => insert entry.1 entry.2 map) map) := by
  induction entries generalizing map with
  | nil => exact h
  | cons entry entries ih => exact ih (sorted_insert h)

/-- **A map that is built from a list is in key order.** -/
theorem sorted_ofList (entries : List (κ × ν)) : Sorted (ofList entries) :=
  sorted_foldl_insert entries List.Pairwise.nil

end Order

theorem Sorted.nodup_keys [LawfulEqOrd κ] {map : OrderedMap κ ν} (h : Sorted map) :
    (keys map).Nodup := by
  refine List.pairwise_map.mpr (h.imp fun {a b} hlt heq => ?_)
  have hself : compare b.1 b.1 = .eq := ReflCmp.compare_self
  rw [heq, hself] at hlt
  cases hlt

/-! ### Entries -/

section Entries

variable [DecidableEq κ]

/-- The entries whose keys are none of these. -/
def without (keys : List κ) (entries : List (κ × ν)) : List (κ × ν) :=
  entries.filter fun entry => entry.1 ∉ keys

/-- The entries of a list that no later one of their key replaces. -/
def survivors : List (κ × ν) → List (κ × ν)
  | [] => []
  | entry :: later =>
    if entry.1 ∈ later.map Prod.fst then survivors later else entry :: survivors later

omit [Ord κ] in
theorem mem_without {keys : List κ} {entries : List (κ × ν)} {entry : κ × ν} :
    entry ∈ without keys entries ↔ entry ∈ entries ∧ entry.1 ∉ keys := by
  rw [without, List.mem_filter, decide_eq_true_iff]

omit [Ord κ] in
theorem without_eq_self {keys : List κ} {entries : List (κ × ν)}
    (h : ∀ entry ∈ entries, entry.1 ∉ keys) : without keys entries = entries :=
  List.filter_eq_self.mpr fun entry hentry => decide_eq_true (h entry hentry)

omit [Ord κ] in
theorem without_nil (entries : List (κ × ν)) : without [] entries = entries :=
  without_eq_self fun _ _ => List.not_mem_nil

omit [Ord κ] in
theorem without_cons_of_mem {keys : List κ} {entry : κ × ν} (h : entry.1 ∈ keys)
    (entries : List (κ × ν)) : without keys (entry :: entries) = without keys entries :=
  List.filter_cons_of_neg (by simpa using h)

omit [Ord κ] in
theorem without_cons_of_not_mem {keys : List κ} {entry : κ × ν} (h : entry.1 ∉ keys)
    (entries : List (κ × ν)) : without keys (entry :: entries) = entry :: without keys entries :=
  List.filter_cons_of_pos (by simpa using h)

omit [Ord κ] in
theorem without_append (keys : List κ) (front back : List (κ × ν)) :
    without keys (front ++ back) = without keys front ++ without keys back :=
  List.filter_append _ _

omit [Ord κ] in
theorem without_without (keys keys' : List κ) (entries : List (κ × ν)) :
    without keys' (without keys entries) = without (keys ++ keys') entries := by
  rw [without, without, without, List.filter_filter]
  refine List.filter_congr fun entry _ => ?_
  simp only [List.mem_append, not_or, Bool.decide_and, Bool.and_comm]

omit [Ord κ] in
theorem survivors_sublist (entries : List (κ × ν)) : (survivors entries).Sublist entries := by
  induction entries with
  | nil => exact .slnil
  | cons entry later ih =>
    rw [survivors]
    split
    · exact ih.cons _
    · exact ih.cons_cons _

omit [Ord κ] in
theorem survivors_of_nodup {entries : List (κ × ν)} (h : (entries.map Prod.fst).Nodup) :
    survivors entries = entries := by
  induction entries with
  | nil => rfl
  | cons entry later ih =>
    obtain ⟨hentry, hlater⟩ := List.nodup_cons.mp h
    rw [survivors, if_neg hentry, ih hlater]

omit [Ord κ] in
theorem survivors_append (front back : List (κ × ν)) :
    survivors (front ++ back) =
      without (back.map Prod.fst) (survivors front) ++ survivors back := by
  induction front with
  | nil => rfl
  | cons entry front ih =>
    rw [List.cons_append, survivors, survivors, List.map_append]
    by_cases hfront : entry.1 ∈ front.map Prod.fst
    · rw [if_pos (List.mem_append_left _ hfront), if_pos hfront, ih]
    rw [if_neg hfront]
    by_cases hback : entry.1 ∈ back.map Prod.fst
    · rw [if_pos (List.mem_append_right _ hback), without_cons_of_mem hback, ih]
    · rw [if_neg (not_or.mpr ⟨hfront, hback⟩ ∘ List.mem_append.mp), without_cons_of_not_mem hback,
        ih, List.cons_append]

variable [TransOrd κ] [LawfulEqOrd κ]

/-- Setting a value replaces the entry of its key, if there is one. -/
theorem insert_perm {key : κ} {value : ν} {map : OrderedMap κ ν} (h : Sorted map) :
    (insert key value map).Perm ((key, value) :: without [key] map) := by
  have hne : ∀ {a b : κ}, compare a b = .lt → b ∉ [a] := by
    rintro a b hlt hmem
    obtain rfl := List.mem_singleton.mp hmem
    exact absurd (ReflCmp.compare_self.symm.trans hlt) (by decide)
  induction map with
  | nil => exact .refl _
  | cons entry rest ih =>
    obtain ⟨k, v⟩ := entry
    obtain ⟨hhead, hrest⟩ := List.pairwise_cons.mp h
    rw [insert]
    cases hcompare : compare key k with
    | lt =>
      have hkeep : without [key] ((k, v) :: rest) = (k, v) :: rest := by
        refine without_eq_self fun entry hentry => ?_
        rcases List.mem_cons.mp hentry with rfl | hentry
        · exact hne hcompare
        · exact hne (TransCmp.lt_trans hcompare (hhead entry hentry))
      rw [hkeep]
    | eq =>
      obtain rfl : key = k := LawfulEqCmp.compare_eq_iff_eq.mp hcompare
      have hmem : (key, v).1 ∈ [key] := List.mem_singleton_self key
      have hkeep : without [key] rest = rest :=
        without_eq_self fun entry hentry => hne (hhead entry hentry)
      rw [without_cons_of_mem hmem, hkeep]
    | gt =>
      have hk : k ∉ [key] := fun hmem => hne (OrientedCmp.lt_of_gt hcompare)
        (List.mem_singleton.mpr (List.mem_singleton.mp hmem).symm)
      rw [without_cons_of_not_mem hk]
      exact ((ih hrest).cons _).trans (.swap _ _ _)

/-- **Setting the values of a list replaces the entries of its keys.** -/
theorem foldl_insert_perm (entries : List (κ × ν)) {map : OrderedMap κ ν} (h : Sorted map) :
    (entries.foldl (fun map entry => insert entry.1 entry.2 map) map).Perm
      (survivors entries ++ without (entries.map Prod.fst) map) := by
  induction entries generalizing map with
  | nil =>
    rw [List.map_nil, without_nil]
    exact .refl _
  | cons entry later ih =>
    have hinsert : (without (later.map Prod.fst) (insert entry.1 entry.2 map)).Perm
        (without (later.map Prod.fst) (entry :: without [entry.1] map)) :=
      (insert_perm h).filter _
    have hkeys : without (later.map Prod.fst) (without [entry.1] map)
        = without ((entry :: later).map Prod.fst) map := without_without _ _ map
    refine (ih (sorted_insert h)).trans ((hinsert.append_left _).trans ?_)
    rw [survivors, ← hkeys]
    by_cases hlater : entry.1 ∈ later.map Prod.fst
    · rw [if_pos hlater, without_cons_of_mem hlater]
    · rw [if_neg hlater, without_cons_of_not_mem hlater]
      exact List.perm_middle

/-- A map that is built from entries has those that no later one replaces. -/
theorem ofList_perm_survivors (entries : List (κ × ν)) :
    (ofList entries).Perm (survivors entries) := by
  have hperm := foldl_insert_perm entries (show Sorted ([] : OrderedMap κ ν) from List.Pairwise.nil)
  rwa [without, List.filter_nil, List.append_nil] at hperm

theorem mem_of_mem_ofList {entries : List (κ × ν)} {entry : κ × ν} (h : entry ∈ ofList entries) :
    entry ∈ entries :=
  (survivors_sublist entries).subset ((ofList_perm_survivors entries).mem_iff.mp h)

/-- A map that is built from entries with different keys has just these entries. -/
theorem ofList_perm {entries : List (κ × ν)} (h : (entries.map Prod.fst).Nodup) :
    (ofList entries).Perm entries := by
  have hperm := ofList_perm_survivors entries
  rwa [survivors_of_nodup h] at hperm

end Entries

end PosvGateway.OrderedMap
