import Mathlib.Tactic
import RouteScribe.Route.Scan

/-!
# Gathering items by key

Putting items one by one into the groups of their keys gives every key once, in the
order of its first item, with all of its items in order.  No item is lost and none
is in two groups.
-/

namespace RouteScribe.Route

variable {κ α : Type} [DecidableEq κ]

def itemsOf (pairs : List (κ × α)) (key : κ) : List α :=
  (pairs.filter (·.1 = key)).map Prod.snd

/-- Adding a pair at the end adds its item to its own key only. -/
theorem itemsOf_append_singleton (pairs : List (κ × α)) (key other : κ) (item : α) :
    itemsOf (pairs ++ [(key, item)]) other =
      if other = key then itemsOf pairs other ++ [item] else itemsOf pairs other := by
  by_cases hkey : other = key
  · simp [itemsOf, hkey]
  · have hne : ¬key = other := fun h => hkey h.symm
    simp [itemsOf, hkey, hne]

theorem itemsOf_ne_nil {pairs : List (κ × α)} {key : κ} (hkey : key ∈ pairs.map Prod.fst) :
    itemsOf pairs key ≠ [] := by
  obtain ⟨⟨_, item⟩, hpair, rfl⟩ := List.mem_map.mp hkey
  exact List.ne_nil_of_mem (List.mem_map.mpr
    ⟨_, List.mem_filter.mpr ⟨hpair, by simp⟩, rfl⟩)

/-- A key at the end counts if it has not occurred before. -/
theorem eraseDups_append_singleton (keys : List κ) (key : κ) :
    (keys ++ [key]).eraseDups =
      if key ∈ keys then keys.eraseDups else keys.eraseDups ++ [key] := by
  rw [List.eraseDups_append]
  by_cases hkey : key ∈ keys
  · simp [List.removeAll, hkey]
  · simp [List.removeAll, hkey, List.eraseDups_cons]

theorem nodup_eraseDups (keys : List κ) : keys.eraseDups.Nodup := by
  induction keys using List.reverseRecOn with
  | nil => simp
  | append_singleton keys key ih =>
      rw [eraseDups_append_singleton]
      by_cases hkey : key ∈ keys
      · simpa [hkey] using ih
      · rw [if_neg hkey, List.nodup_append_comm]
        simpa [hkey] using ih

/-- Adding to groups whose keys are given puts the item at the end of its group, or a
new group at the end. -/
theorem addTo_map (key : κ) (item : α) (keys : List κ) (items : κ → List α)
    (hnodup : keys.Nodup) :
    addTo key item (keys.map fun other => (other, items other)) =
      (if key ∈ keys then keys else keys ++ [key]).map fun other =>
        (other, if other = key then (if key ∈ keys then items other ++ [item] else [item])
          else items other) := by
  induction keys with
  | nil => simp [addTo]
  | cons head keys ih =>
      obtain ⟨hhead, hkeys⟩ := List.nodup_cons.mp hnodup
      by_cases hkey : head = key
      · subst hkey
        have hrest : ∀ other ∈ keys, other ≠ head := fun other hother heq =>
          hhead (heq ▸ hother)
        simp only [List.map_cons, addTo, List.mem_cons, true_or, if_true, List.cons.injEq,
          true_and]
        exact List.map_congr_left fun other hother => by simp [hrest other hother]
      · have hne : ¬key = head := fun h => hkey h.symm
        simp only [List.map_cons, addTo, hkey, if_false, List.mem_cons, hne, false_or, ih hkeys]
        split <;> simp [hkey]

/-- Gathering a pair more adds its item to the groups gathered before. -/
theorem gather_append_singleton (pairs : List (κ × α)) (key : κ) (item : α) :
    gather (pairs ++ [(key, item)]) = addTo key item (gather pairs) := by
  simp [gather]

/-- The groups are the keys in order of first occurrence, each with its items. -/
theorem gather_eq (pairs : List (κ × α)) :
    gather pairs =
      (pairs.map Prod.fst).eraseDups.map fun key => (key, itemsOf pairs key) := by
  induction pairs using List.reverseRecOn with
  | nil => rfl
  | append_singleton pairs pair ih =>
      obtain ⟨key, item⟩ := pair
      rw [gather_append_singleton, ih, addTo_map key item _ _ (nodup_eraseDups _),
        List.map_append, List.map_singleton, eraseDups_append_singleton]
      simp only [List.mem_eraseDups]
      by_cases hkey : key ∈ pairs.map Prod.fst
      · simp only [hkey, if_true, itemsOf_append_singleton]
      · have hnone : itemsOf pairs key = [] := by
          simp only [itemsOf, List.map_eq_nil_iff, List.filter_eq_nil_iff, decide_eq_true_eq]
          exact fun pair hpair heq => hkey (List.mem_map.mpr ⟨pair, hpair, heq⟩)
        simp only [hkey, if_false, itemsOf_append_singleton]
        refine List.map_congr_left fun other _ => ?_
        by_cases hother : other = key
        · simp [hother, hnone]
        · simp [hother]

theorem itemsOf_map {β : Type} (convert : α → β) (pairs : List (κ × α)) (key : κ) :
    itemsOf (pairs.map (Prod.map id convert)) key = (itemsOf pairs key).map convert := by
  simp only [itemsOf, List.filter_map, List.map_map]
  rfl

/-- The groups do not depend on what the items are. -/
theorem gather_map_item {β : Type} (convert : α → β) (pairs : List (κ × α)) :
    gather (pairs.map (Prod.map id convert)) =
      (gather pairs).map (Prod.map id (List.map convert)) := by
  have hkeys : (pairs.map (Prod.map id convert)).map Prod.fst = pairs.map Prod.fst := by
    rw [List.map_map]
    rfl
  rw [gather_eq, gather_eq, hkeys, List.map_map]
  apply List.map_congr_left
  intro key _
  rw [itemsOf_map]
  rfl

/-- Groups may be renamed before or after an item is added. -/
theorem addTo_map_key {ι : Type} [DecidableEq ι] {convert : κ → ι}
    (hinjective : Function.Injective convert) (key : κ) (item : α)
    (groups : List (κ × List α)) :
    addTo (convert key) item (groups.map (Prod.map convert id)) =
      (addTo key item groups).map (Prod.map convert id) := by
  induction groups with
  | nil => rfl
  | cons group groups ih =>
      obtain ⟨other, items⟩ := group
      by_cases hother : other = key
      · simp [addTo, hother]
      · have hconverted : ¬convert other = convert key := fun heq => hother (hinjective heq)
        simp only [List.map_cons, Prod.map_apply, addTo, hother, hconverted, if_false, ih]

/-- Keys that stay different give the same groups. -/
theorem gather_map_key {ι : Type} [DecidableEq ι] {convert : κ → ι}
    (hinjective : Function.Injective convert) (pairs : List (κ × α)) :
    gather (pairs.map (Prod.map convert id)) = (gather pairs).map (Prod.map convert id) := by
  induction pairs using List.reverseRecOn with
  | nil => rfl
  | append_singleton pairs pair ih =>
      obtain ⟨key, item⟩ := pair
      rw [List.map_append, List.map_singleton, Prod.map_apply, id_eq, gather_append_singleton,
        gather_append_singleton, ih, addTo_map_key hinjective]

/-- Adding an item to a group adds it to all that is gathered. -/
theorem perm_addTo (key : κ) (item : α) (groups : List (κ × List α)) :
    ((addTo key item groups).flatMap Prod.snd).Perm (groups.flatMap Prod.snd ++ [item]) := by
  induction groups with
  | nil => simp [addTo]
  | cons group groups ih =>
      obtain ⟨other, items⟩ := group
      by_cases hother : other = key
      · simp only [addTo, hother, if_true, List.flatMap_cons, List.append_assoc]
        exact List.Perm.append_left items List.perm_append_comm
      · simp only [addTo, hother, if_false, List.flatMap_cons, List.append_assoc]
        exact List.Perm.append_left items ih

/-- Every item is in exactly one group, as often as it was there. -/
theorem perm_gather (pairs : List (κ × α)) :
    ((gather pairs).flatMap Prod.snd).Perm (pairs.map Prod.snd) := by
  induction pairs using List.reverseRecOn with
  | nil => exact List.Perm.refl _
  | append_singleton pairs pair ih =>
      rw [gather_append_singleton, List.map_append, List.map_singleton]
      exact (perm_addTo pair.1 pair.2 _).trans (ih.append_right _)

end RouteScribe.Route
