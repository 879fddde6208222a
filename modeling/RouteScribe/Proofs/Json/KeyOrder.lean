import Mathlib.Data.List.Forall2
import Mathlib.Data.List.Nodup
import RouteScribe.Json.Value

/-!
# The order of keys

Two values are alike if they differ at most in the order in which the keys of their objects
stand.  Sorting the keys leads from a value to one that is alike, and it is the same one for
all values that are alike, provided that no object has a key twice.
-/

namespace RouteScribe.Json.Value

/-! ### All values inside a value -/

/-- Induction on values: an array from its items, an object from the values of its keys. -/
@[elab_as_elim]
theorem inductionOn {motive : Value → Prop} (value : Value) (null : motive .null)
    (bool : ∀ value, motive (.bool value)) (int : ∀ value, motive (.int value))
    (float : ∀ value, motive (.float value)) (str : ∀ text, motive (.str text))
    (arr : ∀ items, (∀ item ∈ items, motive item) → motive (.arr items))
    (obj : ∀ entries : Table Value, (∀ entry ∈ entries, motive entry.2) → motive (.obj entries))
    (foreign : ∀ literal, motive (.foreign literal)) : motive value :=
  @Value.rec motive (fun items => ∀ item ∈ items, motive item)
    (fun entries => ∀ entry ∈ entries, motive entry.2) (fun entry => motive entry.2)
    null bool int float str arr obj foreign (List.forall_mem_nil _)
    (fun _ _ hitem hitems => List.forall_mem_cons.mpr ⟨hitem, hitems⟩) (List.forall_mem_nil _)
    (fun _ _ hentry hentries => List.forall_mem_cons.mpr ⟨hentry, hentries⟩)
    (fun _ _ hvalue => hvalue) value

mutual

/-- Whether a value and all values inside it pass a test. -/
def everywhere (passes : Value → Bool) : Value → Bool
  | .arr items => passes (.arr items) && everywhereItems passes items
  | .obj entries => passes (.obj entries) && everywhereEntries passes entries
  | other => passes other

def everywhereItems (passes : Value → Bool) : List Value → Bool
  | [] => true
  | item :: items => item.everywhere passes && everywhereItems passes items

def everywhereEntries (passes : Value → Bool) : List (String × Value) → Bool
  | [] => true
  | (_, value) :: entries => value.everywhere passes && everywhereEntries passes entries

end

variable {passes : Value → Bool}

theorem everywhereItems_iff {items : List Value} :
    everywhereItems passes items ↔ ∀ item ∈ items, item.everywhere passes := by
  induction items with
  | nil => simp [everywhereItems]
  | cons item items ih => simp [everywhereItems, ih]

theorem everywhereEntries_iff {entries : Table Value} :
    everywhereEntries passes entries ↔ ∀ entry ∈ entries, entry.2.everywhere passes := by
  induction entries with
  | nil => simp [everywhereEntries]
  | cons entry entries ih =>
      rw [everywhereEntries, Bool.and_eq_true, ih, List.forall_mem_cons]

theorem everywhere_arr {items : List Value} :
    (Value.arr items).everywhere passes ↔
      passes (.arr items) ∧ ∀ item ∈ items, item.everywhere passes := by
  rw [everywhere, Bool.and_eq_true, everywhereItems_iff]

theorem everywhere_obj {entries : Table Value} :
    (Value.obj entries).everywhere passes ↔
      passes (.obj entries) ∧ ∀ entry ∈ entries, entry.2.everywhere passes := by
  rw [everywhere, Bool.and_eq_true, everywhereEntries_iff]

/-! ### Values that are alike -/

/-- Values that differ at most in the order of the keys of objects, at any depth. -/
inductive Alike : Value → Value → Prop where
  | refl (value : Value) : Alike value value
  | arr {items others : List Value} (hitems : List.Forall₂ Alike items others) :
      Alike (.arr items) (.arr others)
  | obj {entries others reordered : Table Value}
      (hnames : entries.names = others.names)
      (hvalues : List.Forall₂ Alike (entries.map Prod.snd) (others.map Prod.snd))
      (hperm : others.Perm reordered) : Alike (.obj entries) (.obj reordered)

/-- Whether no key stands twice in an object. -/
def keysDiffer : Value → Bool
  | .obj entries => decide (Table.names entries).Nodup
  | _ => true

/-- Whether no key stands twice in an object, at any depth. -/
def hasDistinctKeys (value : Value) : Bool :=
  value.everywhere keysDiffer

/-! ### Sorting keys -/

theorem sortKeysItems_eq_map (items : List Value) :
    sortKeysItems items = items.map sortKeys := by
  induction items with
  | nil => rfl
  | cons item items ih => rw [sortKeysItems, ih, List.map_cons]

def sortEntry (entry : String × Value) : String × Value :=
  (entry.1, entry.2.sortKeys)

theorem sortKeysEntries_eq_map (entries : Table Value) :
    sortKeysEntries entries = entries.map sortEntry := by
  induction entries with
  | nil => rfl
  | cons entry entries ih =>
      rw [sortKeysEntries, ih, List.map_cons]
      rfl

theorem sortKeys_arr (items : List Value) :
    (Value.arr items).sortKeys = .arr (items.map sortKeys) := by
  rw [sortKeys, sortKeysItems_eq_map]

theorem sortKeys_obj (entries : Table Value) :
    (Value.obj entries).sortKeys = .obj ((entries.map sortEntry).mergeSort keyLe) := by
  rw [sortKeys, sortKeysEntries_eq_map]

theorem names_map_sortEntry (entries : Table Value) :
    Table.names (entries.map sortEntry) = entries.names := by
  rw [Table.names, List.map_map]
  rfl

theorem map_sortEntry_eq_zip (entries : Table Value) :
    entries.map sortEntry = entries.names.zip ((entries.map Prod.snd).map sortKeys) := by
  rw [Table.names, List.map_map, List.zip_map']
  rfl

theorem keyLe_iff {left right : String × Value} : keyLe left right ↔ left.1 ≤ right.1 := by
  rw [keyLe, Bool.not_eq_true', decide_eq_false_iff_not, String.not_lt]

theorem pairwise_mergeSort_keyLe (entries : Table Value) :
    (entries.mergeSort keyLe).Pairwise fun left right => keyLe left right := by
  apply List.pairwise_mergeSort
  · intro first second third hfirst hsecond
    rw [keyLe_iff] at hfirst hsecond ⊢
    exact String.le_trans hfirst hsecond
  · intro left right
    rw [Bool.or_eq_true, keyLe_iff, keyLe_iff]
    exact String.le_total left.1 right.1

/-- Sorting undoes every change of order, as long as keys differ. -/
theorem mergeSort_keyLe_eq {left right : Table Value} (hperm : left.Perm right)
    (hnodup : (Table.names left).Nodup) : left.mergeSort keyLe = right.mergeSort keyLe := by
  apply List.Perm.eq_of_pairwise ?_ (pairwise_mergeSort_keyLe left)
    (pairwise_mergeSort_keyLe right)
  · exact (left.mergeSort_perm keyLe).trans (hperm.trans (right.mergeSort_perm keyLe).symm)
  · intro first second hfirst hsecond hle hge
    have hkeys : first.1 = second.1 :=
      String.le_antisymm (keyLe_iff.mp hle) (keyLe_iff.mp hge)
    rw [List.mem_mergeSort] at hfirst hsecond
    exact List.inj_on_of_nodup_map hnodup hfirst (hperm.mem_iff.mpr hsecond) hkeys

theorem map_eq_map_of_forall₂ {α β γ : Type} {related : α → β → Prop} {f : α → γ} {g : β → γ}
    {xs : List α} {ys : List β} (hrelated : List.Forall₂ related xs ys)
    (hsame : ∀ x ∈ xs, ∀ y, related x y → f x = g y) : xs.map f = ys.map g := by
  induction hrelated with
  | nil => rfl
  | cons hxy _ ih =>
      rw [List.forall_mem_cons] at hsame
      rw [List.map_cons, List.map_cons, hsame.1 _ hxy, ih hsame.2]

/-- Values that are alike are sorted to the same value. -/
theorem Alike.sortKeys_eq {left right : Value} (halike : Alike left right)
    (hdistinct : left.hasDistinctKeys) : left.sortKeys = right.sortKeys := by
  induction left using inductionOn generalizing right with
  | arr items ih =>
      cases halike with
      | refl => rfl
      | arr hitems =>
          rw [sortKeys_arr, sortKeys_arr]
          congr 1
          apply map_eq_map_of_forall₂ hitems
          intro item hitem other hother
          exact ih item hitem hother ((everywhere_arr.mp hdistinct).2 item hitem)
  | obj entries ih =>
      cases halike with
      | refl => rfl
      | @obj _ others reordered hnames hvalues hperm =>
          obtain ⟨hkeys, hinner⟩ := everywhere_obj.mp hdistinct
          have hsame : entries.map sortEntry = others.map sortEntry := by
            rw [map_sortEntry_eq_zip, map_sortEntry_eq_zip, hnames]
            congr 1
            apply map_eq_map_of_forall₂ hvalues
            intro value hvalue other hother
            obtain ⟨entry, hentry, rfl⟩ := List.mem_map.mp hvalue
            exact ih entry hentry hother (hinner entry hentry)
          have hnodup : (Table.names (entries.map sortEntry)).Nodup := by
            rw [names_map_sortEntry]
            exact of_decide_eq_true hkeys
          rw [sortKeys_obj, sortKeys_obj]
          congr 1
          apply mergeSort_keyLe_eq ?_ hnodup
          rw [hsame]
          exact hperm.map sortEntry
  | _ =>
      cases halike
      rfl

/-- Sorting the keys changes nothing but their order. -/
theorem alike_sortKeys (value : Value) : Alike value value.sortKeys := by
  induction value using inductionOn with
  | arr items ih =>
      rw [sortKeys_arr]
      apply Alike.arr
      rw [List.forall₂_map_right_iff, List.forall₂_same]
      exact ih
  | obj entries ih =>
      rw [sortKeys_obj]
      apply Alike.obj (names_map_sortEntry entries).symm ?_
        ((entries.map sortEntry).mergeSort_perm keyLe).symm
      rw [List.forall₂_map_left_iff, List.forall₂_map_right_iff, List.forall₂_map_right_iff,
        List.forall₂_same]
      exact ih
  | _ => exact .refl _

end RouteScribe.Json.Value
