import PosvGateway.Proofs.OrderedMap

/-!
# Maps of maps

A map of maps may be taken as one list of entries with two keys, its `pairs`. Merging entries into
it under an outer key sets their values beside those that are already there.

* `OrderedMap.Nested` : both levels are in key order, which merging keeps;
* `OrderedMap.pairs_pairwise` : then the pairs are in the order of their two keys;
* `OrderedMap.pairs_merge_perm`, `OrderedMap.pairs_foldl_merge_perm` : **merging leaves the merged
  pairs that no later one replaces**, and those of the map with other keys.
-/

namespace PosvGateway.OrderedMap

open Std

variable {κ ν : Type}

/-- Entries under an outer key. -/
def under (outer : κ) (entries : List (κ × ν)) : List ((κ × κ) × ν) :=
  entries.map fun entry => ((outer, entry.1), entry.2)

/-- The entries of all inner maps, with both keys. -/
def pairs (maps : List (κ × List (κ × ν))) : List ((κ × κ) × ν) :=
  maps.flatMap fun map => under map.1 map.2

/-- The entries under one outer key. -/
def atOuter [DecidableEq κ] (outer : κ) (pairs : List ((κ × κ) × ν)) : List ((κ × κ) × ν) :=
  pairs.filter fun pair => pair.1.1 = outer

/-- The entries under the other outer keys. -/
def offOuter [DecidableEq κ] (outer : κ) (pairs : List ((κ × κ) × ν)) : List ((κ × κ) × ν) :=
  pairs.filter fun pair => !decide (pair.1.1 = outer)

theorem pairs_cons (outer : κ) (entries : List (κ × ν)) (maps : List (κ × List (κ × ν))) :
    pairs ((outer, entries) :: maps) = under outer entries ++ pairs maps :=
  List.flatMap_cons

theorem under_append (outer : κ) (front back : List (κ × ν)) :
    under outer (front ++ back) = under outer front ++ under outer back :=
  List.map_append

theorem outer_of_mem_under {outer : κ} {entries : List (κ × ν)} {pair : (κ × κ) × ν}
    (h : pair ∈ under outer entries) : pair.1.1 = outer := by
  obtain ⟨entry, -, rfl⟩ := List.mem_map.mp h
  rfl

theorem mem_keys_under {outer : κ} {entries : List (κ × ν)} {key : κ × κ} :
    key ∈ (under outer entries).map Prod.fst ↔ key.1 = outer ∧ key.2 ∈ entries.map Prod.fst := by
  obtain ⟨a, b⟩ := key
  simp only [under, List.map_map, List.mem_map, Function.comp_apply, Prod.mk.injEq]
  exact ⟨fun ⟨e, he, ha, hb⟩ => ⟨ha.symm, e, he, hb⟩, fun ⟨ha, e, he, hb⟩ => ⟨e, he, ha.symm, hb⟩⟩

theorem outer_of_mem_pairs {maps : List (κ × List (κ × ν))} {pair : (κ × κ) × ν}
    (h : pair ∈ pairs maps) : pair.1.1 ∈ maps.map Prod.fst := by
  obtain ⟨map, hmap, hpair⟩ := List.mem_flatMap.mp h
  rw [outer_of_mem_under hpair]
  exact List.mem_map_of_mem hmap

/-- Where keys are different on both levels, so are pairs of keys. -/
theorem nodup_keys_pairs {maps : List (κ × List (κ × ν))} (houter : (maps.map Prod.fst).Nodup)
    (hinner : ∀ map ∈ maps, (map.2.map Prod.fst).Nodup) : ((pairs maps).map Prod.fst).Nodup := by
  induction maps with
  | nil => exact List.nodup_nil
  | cons map maps ih =>
    obtain ⟨outer, entries⟩ := map
    obtain ⟨hnew, houter⟩ := List.nodup_cons.mp houter
    obtain ⟨hentries, hinner⟩ := List.forall_mem_cons.mp hinner
    have hunder : ((under outer entries).map Prod.fst).Nodup :=
      List.pairwise_map.mpr (List.pairwise_map.mpr
        ((List.pairwise_map.mp hentries).imp fun hne heq => hne (Prod.mk.inj heq).2))
    rw [pairs_cons, List.map_append]
    refine List.nodup_append.mpr ⟨hunder, ih houter hinner, fun key hkey key' hkey' heq => ?_⟩
    -- The outer key of a pair is one of its own map.
    obtain ⟨pair, hpair, rfl⟩ := List.mem_map.mp hkey'
    have hmem := outer_of_mem_pairs hpair
    rw [← heq, (mem_keys_under.mp hkey).1] at hmem
    exact hnew hmem

section Keys

variable [DecidableEq κ]

theorem survivors_under (outer : κ) (entries : List (κ × ν)) :
    survivors (under outer entries) = under outer (survivors entries) := by
  induction entries with
  | nil => rfl
  | cons entry later ih =>
    have hcons : ∀ rest : List (κ × ν),
        under outer (entry :: rest) = ((outer, entry.1), entry.2) :: under outer rest :=
      fun _ => rfl
    have hmem : ((outer, entry.1) ∈ (under outer later).map Prod.fst) ↔
        entry.1 ∈ later.map Prod.fst := by
      rw [mem_keys_under]
      exact and_iff_right rfl
    rw [hcons, survivors, survivors, ih]
    by_cases h : entry.1 ∈ later.map Prod.fst
    · rw [if_pos (hmem.mpr h), if_pos h]
    · rw [if_neg (h ∘ hmem.mp), if_neg h, hcons]

theorem without_under (outer : κ) (entries held : List (κ × ν)) :
    without ((under outer entries).map Prod.fst) (under outer held) =
      under outer (without (entries.map Prod.fst) held) := by
  have hheld : under outer held = held.map fun entry => ((outer, entry.1), entry.2) := rfl
  rw [without, hheld, List.filter_map]
  refine congrArg _ (List.filter_congr fun entry _ => ?_)
  simp only [Function.comp_apply, mem_keys_under, true_and]

theorem without_offOuter (outer : κ) (entries : List (κ × ν)) (pairs : List ((κ × κ) × ν)) :
    without ((under outer entries).map Prod.fst) (offOuter outer pairs) = offOuter outer pairs := by
  refine without_eq_self fun pair hpair hmem => ?_
  have hother := (List.mem_filter.mp hpair).2
  rw [(mem_keys_under.mp hmem).1, decide_eq_true rfl] at hother
  cases hother

/-- Leaving out one outer key leaves out the entries under it. -/
theorem pairs_without (outer : κ) (maps : List (κ × List (κ × ν))) :
    pairs (without [outer] maps) = offOuter outer (pairs maps) := by
  induction maps with
  | nil => rfl
  | cons map maps ih =>
    obtain ⟨k, entries⟩ := map
    rw [pairs_cons, offOuter, List.filter_append]
    by_cases h : k = outer
    · have hnone : (under k entries).filter (fun pair => !decide (pair.1.1 = outer)) = [] :=
        List.filter_eq_nil_iff.mpr fun pair hpair => by
          rw [outer_of_mem_under hpair, decide_eq_true h]
          decide
      rw [without_cons_of_mem (List.mem_singleton.mpr h), hnone, ih, List.nil_append, offOuter]
    · have hall : (under k entries).filter (fun pair => !decide (pair.1.1 = outer))
          = under k entries :=
        List.filter_eq_self.mpr fun pair hpair => by
          rw [outer_of_mem_under hpair, decide_eq_false h]
          decide
      rw [without_cons_of_not_mem (h ∘ List.mem_singleton.mp), hall, pairs_cons, ih, offOuter]

end Keys

variable [Ord κ]

/-- Both levels are in key order. -/
structure Nested (maps : OrderedMap κ (OrderedMap κ ν)) : Prop where
  outer : Sorted maps
  inner : ∀ map ∈ maps, Sorted map.2

/-- One pair of keys comes before another. -/
def Before (a b : κ × κ) : Prop :=
  compare a.1 b.1 = .lt ∨ a.1 = b.1 ∧ compare a.2 b.2 = .lt

/-- The entries under an outer key, of which there may be none. -/
def held (maps : OrderedMap κ (OrderedMap κ ν)) (outer : κ) : OrderedMap κ ν :=
  (find? outer maps).getD []

/-- Sets values under an outer key. -/
def merge (maps : OrderedMap κ (OrderedMap κ ν)) (map : κ × List (κ × ν)) :
    OrderedMap κ (OrderedMap κ ν) :=
  insert map.1 (map.2.foldl (fun map entry => insert entry.1 entry.2 map) (held maps map.1)) maps

theorem pairs_pairwise {maps : OrderedMap κ (OrderedMap κ ν)} (h : Nested maps) :
    (pairs maps).Pairwise fun a b => Before a.1 b.1 := by
  refine List.pairwise_flatMap.mpr ⟨fun map hmap => ?_, h.outer.imp fun {a b} hlt => ?_⟩
  · exact List.pairwise_map.mpr ((h.inner map hmap).imp fun hlt => .inr ⟨rfl, hlt⟩)
  · intro pair hpair pair' hpair'
    rw [← outer_of_mem_under hpair, ← outer_of_mem_under hpair'] at hlt
    exact .inl hlt

theorem sorted_held {maps : OrderedMap κ (OrderedMap κ ν)} (h : Nested maps) (outer : κ) :
    Sorted (held maps outer) := by
  obtain ⟨-, h⟩ := h
  rw [held]
  induction maps with
  | nil => exact List.Pairwise.nil
  | cons map maps ih =>
    rw [find?]
    split
    · exact h _ List.mem_cons_self
    · exact ih fun map hmap => h map (List.mem_cons_of_mem _ hmap)

section Merge

variable [TransOrd κ] [LawfulEqOrd κ]

theorem not_before_of_before {a b : κ × κ} (h : Before a b) : ¬ Before b a := by
  have hself : ∀ {x : κ}, compare x x ≠ .lt := fun {x} hlt =>
    absurd (ReflCmp.compare_self.symm.trans hlt) (by decide)
  rintro (hlt | ⟨heq, hlt⟩) <;> obtain hlt' | ⟨heq', hlt'⟩ := h
  · exact hself (TransCmp.lt_trans hlt hlt')
  · exact hself (heq' ▸ hlt)
  · exact hself (heq ▸ hlt')
  · exact hself (TransCmp.lt_trans hlt hlt')

/-- The order of the pairs follows from what they are. -/
theorem pairs_eq_of_perm {maps maps' : OrderedMap κ (OrderedMap κ ν)} (h : Nested maps)
    (h' : Nested maps') (hperm : (pairs maps).Perm (pairs maps')) : pairs maps = pairs maps' :=
  hperm.eq_of_pairwise (fun _ _ _ _ hlt hlt' => absurd hlt' (not_before_of_before hlt))
    (pairs_pairwise h) (pairs_pairwise h')

variable [DecidableEq κ]

theorem nested_merge {maps : OrderedMap κ (OrderedMap κ ν)} (h : Nested maps)
    (map : κ × List (κ × ν)) : Nested (merge maps map) := by
  refine ⟨sorted_insert h.outer, fun map' hmap' => ?_⟩
  rcases List.mem_cons.mp ((insert_perm h.outer).mem_iff.mp hmap') with rfl | hmap'
  · exact sorted_foldl_insert _ (sorted_held h _)
  · exact h.inner map' (mem_without.mp hmap').1

theorem nested_foldl_merge (merged : List (κ × List (κ × ν)))
    {maps : OrderedMap κ (OrderedMap κ ν)} (h : Nested maps) :
    Nested (merged.foldl merge maps) := by
  induction merged generalizing maps with
  | nil => exact h
  | cons map merged ih => exact ih (nested_merge h map)

omit [TransOrd κ] in
/-- What a map of maps holds under an outer key are its pairs there. -/
theorem under_held {maps : OrderedMap κ (OrderedMap κ ν)} (h : Sorted maps) (outer : κ) :
    under outer (held maps outer) = atOuter outer (pairs maps) := by
  rw [held]
  induction maps with
  | nil => rfl
  | cons map maps ih =>
    obtain ⟨k, entries⟩ := map
    obtain ⟨-, hrest⟩ := List.pairwise_cons.mp h
    have hhead : atOuter outer (pairs ((k, entries) :: maps)) =
        (under k entries).filter (fun pair => pair.1.1 = outer) ++ atOuter outer (pairs maps) := by
      rw [pairs_cons, atOuter, List.filter_append, atOuter]
    rw [hhead]
    by_cases hk : outer = k
    · have hall : (under k entries).filter (fun pair => pair.1.1 = outer) = under k entries :=
        List.filter_eq_self.mpr fun pair hpair =>
          decide_eq_true ((outer_of_mem_under hpair).trans hk.symm)
      have hothers : atOuter outer (pairs maps) = [] := by
        refine List.filter_eq_nil_iff.mpr fun pair hpair heq => ?_
        have hnodup := List.nodup_cons.mp h.nodup_keys
        have hmem := outer_of_mem_pairs hpair
        rw [of_decide_eq_true heq, hk] at hmem
        exact hnodup.1 hmem
      rw [hall, hothers, hk, find?_cons_self, Option.getD_some, List.append_nil]
    · have hnone : (under k entries).filter (fun pair => pair.1.1 = outer) = [] :=
        List.filter_eq_nil_iff.mpr fun pair hpair heq =>
          hk ((of_decide_eq_true heq).symm.trans (outer_of_mem_under hpair))
      rw [hnone, List.nil_append, find?_cons_of_ne hk, ih hrest]

/-- **Merging leaves the merged pairs that no later one replaces**, and those with other keys. -/
theorem pairs_merge_perm {maps : OrderedMap κ (OrderedMap κ ν)} (h : Nested maps) (outer : κ)
    (entries : List (κ × ν)) :
    (pairs (merge maps (outer, entries))).Perm (survivors (under outer entries) ++
      without ((under outer entries).map Prod.fst) (pairs maps)) := by
  let keys := (under outer entries).map Prod.fst
  let merged := entries.foldl (fun map entry => insert entry.1 entry.2 map) (held maps outer)
  have hmerged : (under outer merged).Perm
      (survivors (under outer entries) ++ without keys (under outer (held maps outer))) := by
    rw [survivors_under, without_under, ← under_append]
    exact (foldl_insert_perm entries (sorted_held h outer)).map _
  have hsplit : (under outer (held maps outer) ++ offOuter outer (pairs maps)).Perm
      (pairs maps) := by
    rw [under_held h.outer]
    exact List.filter_append_perm _ _
  calc (pairs (merge maps (outer, entries))).Perm
        (pairs ((outer, merged) :: without [outer] maps)) :=
        (insert_perm h.outer).flatMap_right _
    _ |>.Perm (under outer merged ++ offOuter outer (pairs maps)) := by
        rw [pairs_cons, pairs_without]
    _ |>.Perm (survivors (under outer entries) ++ without keys (under outer (held maps outer))
          ++ without keys (offOuter outer (pairs maps))) := by
        rw [without_offOuter]
        exact hmerged.append_right _
    _ |>.Perm (survivors (under outer entries) ++
          without keys (under outer (held maps outer) ++ offOuter outer (pairs maps))) := by
        rw [without_append, List.append_assoc]
    _ |>.Perm _ := (hsplit.filter _).append_left _

/-- **The same of several merges in a row.** -/
theorem pairs_foldl_merge_perm (merged : List (κ × List (κ × ν)))
    {maps : OrderedMap κ (OrderedMap κ ν)} (h : Nested maps) :
    (pairs (merged.foldl merge maps)).Perm (survivors (pairs merged) ++
      without ((pairs merged).map Prod.fst) (pairs maps)) := by
  -- The first merge leaves a map in order; what it set stays unless a later merge replaces it.
  induction merged generalizing maps with
  | nil =>
    have hnone : (pairs ([] : List (κ × List (κ × ν)))).map Prod.fst = [] := rfl
    rw [hnone, without_nil]
    exact .refl _
  | cons map merged ih =>
    obtain ⟨outer, entries⟩ := map
    have hstep : (without ((pairs merged).map Prod.fst) (pairs (merge maps (outer, entries)))).Perm
        (without ((pairs merged).map Prod.fst) (survivors (under outer entries) ++
          without ((under outer entries).map Prod.fst) (pairs maps))) :=
      (pairs_merge_perm h outer entries).filter _
    rw [without_append, without_without, ← List.map_append, ← pairs_cons] at hstep
    refine (ih (nested_merge h (outer, entries))).trans ((hstep.append_left _).trans ?_)
    rw [pairs_cons, survivors_append, ← List.append_assoc]
    exact List.perm_append_comm.append_right _

/-- Merging pairs of different keys, from nothing on, leaves all of them. -/
theorem pairs_foldl_merge_perm_of_nodup {merged : List (κ × List (κ × ν))}
    (h : ((pairs merged).map Prod.fst).Nodup) :
    (pairs (merged.foldl merge [])).Perm (pairs merged) := by
  have hempty : Nested ([] : OrderedMap κ (OrderedMap κ ν)) := ⟨List.Pairwise.nil, nofun⟩
  have hnone : without ((pairs merged).map Prod.fst) (pairs ([] : OrderedMap κ (OrderedMap κ ν)))
      = [] := rfl
  have hperm := pairs_foldl_merge_perm merged hempty
  rwa [hnone, List.append_nil, survivors_of_nodup h] at hperm

end Merge

end PosvGateway.OrderedMap
