import PosvGateway.Proofs.OrderedMap

/-!
# Changing one entry of a map

* `OrderedMap.find?_adjust_self`, `OrderedMap.find?_erase_self` and their companions : changing or
  erasing the value of a key changes what is found at that key alone;
* `OrderedMap.sorted_adjust`, `OrderedMap.sorted_erase` : either keeps the order;
* `OrderedMap.mem_iff_find?` : a map in order has just the entries that are found in it;
* `OrderedMap.insert_insert_self`, `OrderedMap.without_insert` : setting a value twice sets it once,
  and leaves all other entries.
-/

namespace PosvGateway.OrderedMap

open Std

variable {κ ν : Type} [Ord κ]

/-! ### Look-ups -/

section LookUp

variable [LawfulEqOrd κ]

theorem find?_eq_none_iff {key : κ} {map : OrderedMap κ ν} :
    find? key map = none ↔ key ∉ keys map := by
  induction map with
  | nil => simp [find?, keys]
  | cons entry rest ih =>
    obtain ⟨k, v⟩ := entry
    by_cases h : key = k
    · rw [h, find?_cons_self]
      simp [keys]
    · rw [find?_cons_of_ne h, ih]
      simp [keys, h]

@[simp] theorem find?_adjust_self (key : κ) (f : ν → ν) (map : OrderedMap κ ν) :
    find? key (adjust key f map) = (find? key map).map f := by
  induction map with
  | nil => rfl
  | cons entry rest ih =>
    obtain ⟨k, v⟩ := entry
    rw [adjust]
    split
    · rename_i hcompare
      obtain rfl : key = k := LawfulEqCmp.compare_eq_iff_eq.mp hcompare
      rw [find?_cons_self, find?_cons_self, Option.map_some]
    · rename_i hcompare
      rw [find?, find?, if_neg hcompare, if_neg hcompare, ih]

theorem find?_adjust_of_ne {key other : κ} (h : other ≠ key) (f : ν → ν) (map : OrderedMap κ ν) :
    find? other (adjust key f map) = find? other map := by
  induction map with
  | nil => rfl
  | cons entry rest ih =>
    obtain ⟨k, v⟩ := entry
    rw [adjust]
    split
    · rename_i hcompare
      obtain rfl : key = k := LawfulEqCmp.compare_eq_iff_eq.mp hcompare
      rw [find?_cons_of_ne h, find?_cons_of_ne h]
    · rw [find?, find?, ih]

theorem find?_erase_of_ne {key other : κ} (h : other ≠ key) (map : OrderedMap κ ν) :
    find? other (erase key map) = find? other map := by
  induction map with
  | nil => rfl
  | cons entry rest ih =>
    obtain ⟨k, v⟩ := entry
    rw [erase]
    split
    · rename_i hcompare
      obtain rfl : key = k := LawfulEqCmp.compare_eq_iff_eq.mp hcompare
      rw [find?_cons_of_ne h]
    · rw [find?, find?, ih]

end LookUp

/-! ### Order -/

theorem sorted_iff_keys {map : OrderedMap κ ν} :
    Sorted map ↔ (keys map).Pairwise fun a b => compare a b = .lt := by
  rw [keys, List.pairwise_map]
  rfl

theorem keys_adjust (key : κ) (f : ν → ν) (map : OrderedMap κ ν) :
    keys (adjust key f map) = keys map := by
  induction map with
  | nil => rfl
  | cons entry rest ih =>
    obtain ⟨k, v⟩ := entry
    rw [adjust]
    split
    · rfl
    · exact congrArg (k :: ·) ih

theorem sorted_adjust {key : κ} {f : ν → ν} {map : OrderedMap κ ν} (h : Sorted map) :
    Sorted (adjust key f map) := by
  rwa [sorted_iff_keys, keys_adjust, ← sorted_iff_keys]

theorem erase_sublist (key : κ) (map : OrderedMap κ ν) : (erase key map).Sublist map := by
  induction map with
  | nil => exact .slnil
  | cons entry rest ih =>
    obtain ⟨k, v⟩ := entry
    rw [erase]
    split
    · exact .cons _ (.refl rest)
    · exact ih.cons_cons _

theorem sorted_erase {key : κ} {map : OrderedMap κ ν} (h : Sorted map) :
    Sorted (erase key map) :=
  List.Pairwise.sublist (erase_sublist key map) h

section Order

variable [LawfulEqOrd κ]

/-- A key stands only once, so nothing is left of it. -/
theorem find?_erase_self {key : κ} {map : OrderedMap κ ν} (h : Sorted map) :
    find? key (erase key map) = none := by
  induction map with
  | nil => rfl
  | cons entry rest ih =>
    obtain ⟨k, v⟩ := entry
    have hnodup : k ∉ keys rest := (List.nodup_cons.mp h.nodup_keys).1
    rw [erase]
    split
    · rename_i hcompare
      obtain rfl : key = k := LawfulEqCmp.compare_eq_iff_eq.mp hcompare
      exact find?_eq_none_iff.mpr hnodup
    · rename_i hcompare
      rw [find?, if_neg hcompare]
      exact ih (List.pairwise_cons.mp h).2

/-- **A map in order has just the entries that are found in it.** -/
theorem mem_iff_find? {key : κ} {value : ν} {map : OrderedMap κ ν} (h : Sorted map) :
    (key, value) ∈ map ↔ find? key map = some value := by
  induction map with
  | nil => exact iff_of_false List.not_mem_nil (Option.some_ne_none value).symm
  | cons entry rest ih =>
    obtain ⟨k, v⟩ := entry
    have hnodup : k ∉ keys rest := (List.nodup_cons.mp h.nodup_keys).1
    by_cases hkey : key = k
    · subst hkey
      have hrest : (key, value) ∉ rest := fun hmem => hnodup (List.mem_map_of_mem hmem)
      rw [find?_cons_self, List.mem_cons, or_iff_left hrest, Prod.mk.injEq, Option.some.injEq]
      exact ⟨fun heq => heq.2.symm, fun heq => ⟨rfl, heq.symm⟩⟩
    · rw [find?_cons_of_ne hkey, ← ih (List.pairwise_cons.mp h).2, List.mem_cons, Prod.mk.injEq]
      exact or_iff_right fun heq => hkey heq.1

end Order

/-! ### Setting a value -/

section Insert

variable [LawfulEqOrd κ]

theorem insert_insert_self (key : κ) (value : ν) (map : OrderedMap κ ν) :
    insert key value (insert key value map) = insert key value map := by
  have hself : compare key key = .eq := ReflCmp.compare_self
  induction map with
  | nil => simp only [insert, hself]
  | cons entry rest ih =>
    obtain ⟨k, v⟩ := entry
    cases hcompare : compare key k with
    | lt => simp only [insert, hcompare, hself]
    | eq => simp only [insert, hcompare, hself]
    | gt => simp only [insert, hcompare, ih]

/-- Setting the value of a key leaves the entries of all others. -/
theorem without_insert [DecidableEq κ] (key : κ) (value : ν) (map : OrderedMap κ ν) :
    without [key] (insert key value map) = without [key] map := by
  have hmem : (key, value).1 ∈ [key] := List.mem_singleton_self key
  induction map with
  | nil => exact without_cons_of_mem hmem []
  | cons entry rest ih =>
    obtain ⟨k, v⟩ := entry
    rw [insert]
    cases hcompare : compare key k with
    | lt => exact without_cons_of_mem hmem _
    | eq =>
      obtain rfl : key = k := LawfulEqCmp.compare_eq_iff_eq.mp hcompare
      exact (without_cons_of_mem hmem _).trans
        (without_cons_of_mem (List.mem_singleton_self key) _).symm
    | gt =>
      have hk : (k, v).1 ∉ [key] := by
        intro hk
        obtain rfl : k = key := List.mem_singleton.mp hk
        have hself : compare k k = .eq := ReflCmp.compare_self
        rw [hself] at hcompare
        cases hcompare
      rw [without_cons_of_not_mem hk, without_cons_of_not_mem hk, ih]

end Insert

end PosvGateway.OrderedMap
