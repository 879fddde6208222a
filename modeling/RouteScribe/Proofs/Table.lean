import Mathlib.Data.List.Nodup
import RouteScribe.Table

/-!
# Tables as maps

A table is read by its names.  Of the pairs that are entered one after the other, the last
one with a name counts if they replace each other, and the first one if they do not.  The
order of the entries does not matter where every name occurs once.
-/

namespace RouteScribe.Table

variable {α : Type}

/-- The value of a pair with a name. -/
def valueFor (name : String) (pair : String × α) : Option α :=
  if pair.1 = name then some pair.2 else none

def lastValue (pairs : List (String × α)) (name : String) : Option α :=
  (pairs.filterMap (valueFor name)).getLast?

/-- After a merge the last value of a name counts, and then the table's own. -/
theorem get?_merge (table : Table α) (pairs : List (String × α)) (name : String) :
    (table.merge pairs).get? name = (lastValue pairs name).or (table.get? name) := by
  induction pairs generalizing table with
  | nil => rfl
  | cons pair pairs ih =>
      obtain ⟨other, value⟩ := pair
      have hstep : (table.merge ((other, value) :: pairs)).get? name =
          (lastValue pairs name).or ((put other value table).get? name) := ih _
      rw [hstep]
      by_cases hname : other = name
      · subst hname
        simp [lastValue, valueFor, get?_put_self, List.getLast?_cons, Option.or_some]
      · simp [lastValue, valueFor, hname, get?_put_of_ne (Ne.symm hname)]

theorem mem_of_get? {table : Table α} {name : String} {value : α}
    (hvalue : table.get? name = some value) : (name, value) ∈ table := by
  obtain ⟨before, after, rfl, -⟩ := List.lookup_eq_some_iff.mp hvalue
  exact List.mem_append_right _ List.mem_cons_self

theorem mem_names_of_get? {table : Table α} {name : String} {value : α}
    (hvalue : table.get? name = some value) : name ∈ table.names :=
  List.mem_map_of_mem (mem_of_get? hvalue)

theorem get?_eq_none {table : Table α} {name : String} (hname : name ∉ table.names) :
    table.get? name = none := by
  rw [Option.eq_none_iff_forall_ne_some]
  intro value hvalue
  exact hname (mem_names_of_get? hvalue)

theorem has_of_mem {table : Table α} {name : String} {value : α}
    (hentry : (name, value) ∈ table) : table.has name = true :=
  List.lookup_isSome_iff.mpr ⟨(name, value), hentry, beq_self_eq_true name⟩

/-- In a table that gives each name one value, an entry is the value of its name. -/
theorem get?_of_mem {table : Table α} (hnodup : table.names.Nodup) {name : String} {value : α}
    (hentry : (name, value) ∈ table) : table.get? name = some value := by
  obtain ⟨other, hother⟩ := Option.isSome_iff_exists.mp (has_of_mem hentry)
  have hpair := List.inj_on_of_nodup_map hnodup (mem_of_get? hother) hentry rfl
  rw [hother, (Prod.mk.inj hpair).2]

/-- Pairs that are entered under names of their own come after the others in their order. -/
theorem merge_eq_append {table pairs : Table α} (hnodup : (names (table ++ pairs)).Nodup) :
    table.merge pairs = table ++ pairs := by
  induction pairs generalizing table with
  | nil => exact (List.append_nil table).symm
  | cons pair pairs ih =>
      have hnames : names (table ++ pair :: pairs) = names table ++ pair.1 :: names pairs :=
        List.map_append
      have hfirst : pair.1 ∉ names table := by
        rw [hnames] at hnodup
        intro hmem
        exact List.disjoint_of_nodup_append hnodup hmem List.mem_cons_self
      have hput : put pair.1 pair.2 table = table ++ [pair] := by
        have happend := put_append hfirst pair.2 []
        rwa [List.append_nil] at happend
      rw [List.append_cons] at hnodup ⊢
      rw [← ih hnodup, ← hput]
      rfl

theorem ofPairs_eq_self {pairs : Table α} (hnodup : pairs.names.Nodup) : ofPairs pairs = pairs :=
  merge_eq_append hnodup

theorem lastValue_eq_get? {pairs : Table α} (hnodup : pairs.names.Nodup) (name : String) :
    lastValue pairs name = pairs.get? name := by
  have hmerge := get?_merge [] pairs name
  rw [← ofPairs, ofPairs_eq_self hnodup] at hmerge
  exact (Option.or_none.symm.trans hmerge.symm)

/-! ### Entries before and after others -/

theorem get?_cons_self (name : String) (value : α) (table : Table α) :
    get? ((name, value) :: table) name = some value := by
  simp [get?]

theorem get?_cons_of_ne {name other : String} (hne : other ≠ name) (value : α)
    (table : Table α) : get? ((name, value) :: table) other = table.get? other := by
  have hother : (other == name) = false := by simpa using hne
  simp [get?, List.lookup_cons, hother]

theorem get?_append (table more : Table α) (name : String) :
    get? (table ++ more) name = (table.get? name).or (get? more name) := by
  simp [get?, List.lookup_append]

/-! ### First definitions -/

/-- An entry of a new name counts only where the table has none. -/
theorem get?_putNew (table : Table α) (entry : String × α) (name : String) :
    (table.putNew entry.1 entry.2).get? name = (table.get? name).or (get? [entry] name) := by
  by_cases hname : name = entry.1
  · subst hname
    have hentry : get? [entry] entry.1 = some entry.2 := get?_cons_self entry.1 entry.2 []
    cases hvalue : table.get? entry.1 with
    | none => simp [putNew, has, hvalue, hentry, get?_put_self]
    | some value => simp [putNew, has, hvalue]
  · have hentry : get? [entry] name = none := get?_cons_of_ne hname entry.2 []
    rw [hentry, Option.or_none, putNew]
    split
    · rfl
    · exact get?_put_of_ne hname entry.2 table

/-- Entering pairs that do not replace each other is reading them after the table. -/
theorem get?_foldl_putNew (table : Table α) (pairs : List (String × α)) (name : String) :
    (pairs.foldl (fun table pair => table.putNew pair.1 pair.2) table).get? name =
      (table.get? name).or (get? pairs name) := by
  induction pairs generalizing table with
  | nil => simp [get?]
  | cons pair pairs ih =>
      calc ((pair :: pairs).foldl (fun table pair => table.putNew pair.1 pair.2) table).get? name
          = ((table.putNew pair.1 pair.2).get? name).or (get? pairs name) := ih _
        _ = ((table.get? name).or (get? [pair] name)).or (get? pairs name) := by
            rw [get?_putNew]
        _ = (table.get? name).or (get? (pair :: pairs) name) := by
            rw [Option.or_assoc, ← get?_append, List.singleton_append]

/-- The order of entries does not matter if every name has one of them. -/
theorem get?_of_perm {table other : Table α} (hperm : table.Perm other)
    (hnodup : table.names.Nodup) : table.get? = other.get? := by
  funext name
  have hother : (names other).Nodup := (hperm.map Prod.fst).nodup_iff.mp hnodup
  apply Option.ext
  intro value
  constructor
  · intro hvalue
    exact get?_of_mem hother (hperm.mem_iff.mp (mem_of_get? hvalue))
  · intro hvalue
    exact get?_of_mem hnodup (hperm.mem_iff.mpr (mem_of_get? hvalue))

end RouteScribe.Table
