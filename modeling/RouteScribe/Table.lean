/-!
# Insertion-ordered tables

A table pairs names with values and remembers the order in which the names were
first entered.  Entering a name again replaces its value and keeps its place.
-/

namespace RouteScribe

/-- Names with their values, in order of first entry. -/
abbrev Table (α : Type) := List (String × α)

namespace Table

variable {α : Type}

def get? (table : Table α) (name : String) : Option α :=
  List.lookup name table

def has (table : Table α) (name : String) : Bool :=
  (table.get? name).isSome

def names (table : Table α) : List String :=
  table.map Prod.fst

/-- Gives a name a value: in place if the name is there, at the end otherwise. -/
def put (name : String) (value : α) : Table α → Table α
  | [] => [(name, value)]
  | (other, old) :: rest =>
      if other = name then (name, value) :: rest else (other, old) :: put name value rest

/-- Gives a name a value unless it has one. -/
def putNew (name : String) (value : α) (table : Table α) : Table α :=
  if table.has name then table else table.put name value

def erase (name : String) (table : Table α) : Table α :=
  table.filter (·.1 != name)

/-- Enters all pairs of a second table into the first. -/
def merge (table more : Table α) : Table α :=
  more.foldl (fun result (name, value) => result.put name value) table

/-- A table from pairs, where the last value of a repeated name counts. -/
def ofPairs (pairs : List (String × α)) : Table α :=
  merge [] pairs

theorem get?_put_self (name : String) (value : α) (table : Table α) :
    (put name value table).get? name = some value := by
  induction table with
  | nil => simp [put, get?]
  | cons entry rest ih =>
      obtain ⟨other, old⟩ := entry
      by_cases hname : other = name
      · simp [put, get?, hname]
      · have hne : (name == other) = false := by simpa using fun h => hname h.symm
        simpa [put, get?, hname, List.lookup_cons, hne] using ih

theorem get?_put_of_ne {name other : String} (hne : other ≠ name) (value : α) (table : Table α) :
    (put name value table).get? other = table.get? other := by
  induction table with
  | nil =>
      have hself : (other == name) = false := by simpa using hne
      simp [put, get?, List.lookup_cons, hself]
  | cons entry rest ih =>
      obtain ⟨head, old⟩ := entry
      by_cases hname : head = name
      · have hself : (other == name) = false := by simpa using hne
        simp [put, get?, hname, List.lookup_cons, hself]
      · simp only [put, hname, if_false, get?, List.lookup_cons]
        simp only [get?] at ih
        rw [ih]

theorem mem_names_put {name other : String} {value : α} {table : Table α} :
    other ∈ (put name value table).names ↔ other = name ∨ other ∈ table.names := by
  induction table with
  | nil => simp [put, names]
  | cons entry rest ih =>
      obtain ⟨head, old⟩ := entry
      simp only [names] at ih
      by_cases hname : head = name
      · simp [put, names, hname]
      · simp only [put, hname, if_false, names, List.map_cons, List.mem_cons, ih]
        exact or_left_comm

theorem nodup_names_put (name : String) (value : α) {table : Table α}
    (hnodup : table.names.Nodup) : (put name value table).names.Nodup := by
  induction table with
  | nil => simp [put, names]
  | cons entry rest ih =>
      obtain ⟨head, old⟩ := entry
      have ⟨hhead, hrest⟩ : head ∉ names rest ∧ (names rest).Nodup := List.nodup_cons.mp hnodup
      by_cases hname : head = name
      · subst hname
        simpa [put, names] using hnodup
      · simp only [put, hname, if_false]
        refine List.nodup_cons.mpr ⟨fun hmem => ?_, ih hrest⟩
        exact (mem_names_put.mp hmem).elim hname hhead

/-- An entry after a name was given a value is the new one or an old one. -/
theorem eq_or_mem_of_mem_put {name : String} {value : α} {table : Table α} {entry : String × α}
    (hentry : entry ∈ put name value table) : entry = (name, value) ∨ entry ∈ table := by
  induction table with
  | nil => exact .inl (List.mem_singleton.mp hentry)
  | cons first rest ih =>
      obtain ⟨head, old⟩ := first
      by_cases hname : head = name
      · simp only [put, hname, if_true] at hentry
        exact (List.mem_cons.mp hentry).imp_right (List.mem_cons_of_mem _)
      · simp only [put, hname, if_false] at hentry
        rcases List.mem_cons.mp hentry with rfl | hrest
        · exact .inr List.mem_cons_self
        · exact (ih hrest).imp_right (List.mem_cons_of_mem _)

/-- A name that is not among the first entries gets its value among the others. -/
theorem put_append {name : String} {table : Table α} (hname : name ∉ table.names) (value : α)
    (more : Table α) : put name value (table ++ more) = table ++ put name value more := by
  induction table with
  | nil => rfl
  | cons entry rest ih =>
      have ⟨hhead, hrest⟩ : name ≠ entry.1 ∧ name ∉ names rest := by
        simpa [names] using hname
      rw [List.cons_append, put, if_neg hhead.symm, ih hrest, List.cons_append]

theorem mem_names_merge {other : String} {table more : Table α} :
    other ∈ (table.merge more).names ↔ other ∈ table.names ∨ other ∈ names more := by
  induction more generalizing table with
  | nil => simp [merge, names]
  | cons entry more ih =>
      have hstep : other ∈ (merge (put entry.1 entry.2 table) more).names ↔ _ := ih
      rw [mem_names_put] at hstep
      simp only [names, List.map_cons, List.mem_cons] at hstep ⊢
      rw [merge, List.foldl_cons, ← merge, hstep, or_assoc, or_left_comm]

theorem nodup_names_merge (more : Table α) {table : Table α} (hnodup : table.names.Nodup) :
    (table.merge more).names.Nodup := by
  induction more generalizing table with
  | nil => exact hnodup
  | cons entry more ih => exact ih (nodup_names_put entry.1 entry.2 hnodup)

theorem mem_or_mem_of_mem_merge {table more : Table α} {entry : String × α}
    (hentry : entry ∈ table.merge more) : entry ∈ table ∨ entry ∈ more := by
  induction more generalizing table with
  | nil => exact .inl hentry
  | cons first more ih =>
      have hsplit : entry ∈ put first.1 first.2 table ∨ entry ∈ more := ih hentry
      rcases hsplit with hput | hmore
      · rcases eq_or_mem_of_mem_put hput with rfl | htable
        · exact .inr List.mem_cons_self
        · exact .inl htable
      · exact .inr (List.mem_cons_of_mem _ hmore)

end Table

end RouteScribe
