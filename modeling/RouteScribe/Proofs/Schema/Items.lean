import Mathlib.Tactic.ByContra
import RouteScribe.Proofs.Schema.Request

/-!
# What the items of a call are

The requests of a call are its items seen from its stack: a part is asked for under the
same stack, a name and a base are entered.  Which requests cannot be made is decided by
the items as well: a type or a base lacks an argument, a type has no meaning, or a name
cannot be entered.  The last way to fail is that of a union, which refuses a choice of
kinds among its members.
-/

namespace RouteScribe.Schema

open RouteScribe.Source

/-! ### Entering a name -/

/-- A name is entered if it is not on the stack and a class or an alias has it. -/
theorem enter_eq_ok_iff {table : TypeTable} {stack : List String} {name : String} {sub : Call} :
    table.enter stack name = .ok sub ↔ name ∉ stack ∧
      ((∃ definition, table.classes.get? name = some definition ∧
        sub = .classType (stack ++ [name]) definition) ∨
      ∃ target, table.classes.get? name = none ∧ table.aliases.get? name = some target ∧
        sub = .type (stack ++ [name]) target) := by
  unfold TypeTable.enter
  by_cases hstack : name ∈ stack
  · simp [hstack, throw, throwThe, MonadExceptOf.throw]
  · cases hclass : table.classes.get? name with
    | some definition => simp [hstack, pure, Except.pure, eq_comm]
    | none =>
        cases halias : table.aliases.get? name with
        | some target => simp [hstack, pure, Except.pure, eq_comm]
        | none => simp [hstack, throw, throwThe, MonadExceptOf.throw]

theorem enter_of_mem {table : TypeTable} {stack : List String} {name : String}
    (hname : name ∈ stack) : table.enter stack name = .error (.fault (.recursive name)) := by
  rw [TypeTable.enter, if_pos (List.contains_iff_mem.mpr hname)]
  rfl

/-- Entering a name fails with a declared fault only. -/
theorem enter_eq_error {table : TypeTable} {stack : List String} {name : String}
    {err : ResolveError} (henter : table.enter stack name = .error err) :
    ∃ fault, err = .fault fault := by
  unfold TypeTable.enter at henter
  split_ifs at henter
  · exact ⟨_, (Except.error.inj henter).symm⟩
  · split at henter
    · cases henter
    · split at henter
      · cases henter
      · exact ⟨_, (Except.error.inj henter).symm⟩

/-! ### Requests and items -/

variable {table : TypeTable} {stack : List String} {call sub : Call} {err : ResolveError}

theorem mem_requestsFor {items : List Item} {request : Resolved Call} :
    request ∈ requestsFor table stack items ↔
      ∃ item ∈ items, request ∈ item.requests table stack :=
  List.mem_flatMap

theorem ok_mem_item_requests {item : Item} :
    .ok sub ∈ item.requests table stack ↔
      (∃ part, item = .part (.ok part) ∧ sub = .type stack part) ∨
        ∃ id, (item = .name id ∨ item = .base id) ∧ table.enter stack id = .ok sub := by
  cases item with
  | part expr =>
      cases expr with
      | ok part => simp
      | error other => simp [Item.requests, bind, Except.bind]
  | name id => simp [Item.requests, eq_comm]
  | base id =>
      by_cases hstack : id ∈ stack
      · simp [Item.requests, hstack, enter_of_mem]
      · simp [Item.requests, hstack, eq_comm]

theorem error_mem_item_requests {item : Item} :
    .error err ∈ item.requests table stack ↔ item = .part (.error err) ∨
      ∃ id, (item = .name id ∨ item = .base id ∧ id ∉ stack) ∧
        table.enter stack id = .error err := by
  cases item with
  | part expr =>
      cases expr with
      | ok part => simp
      | error other => simp [Item.requests, bind, Except.bind, eq_comm]
  | name id => simp [Item.requests, eq_comm]
  | base id =>
      by_cases hstack : id ∈ stack
      · simp [Item.requests, hstack]
      · simp [Item.requests, hstack, eq_comm]

/-- The calls that a call asks for are those of its parts, names and bases. -/
theorem ok_mem_requests : .ok sub ∈ call.requests table ↔
    (∃ part, .part (.ok part) ∈ call.items table ∧ sub = .type call.stack part) ∨
      ∃ id, (.name id ∈ call.items table ∨ .base id ∈ call.items table) ∧
        table.enter call.stack id = .ok sub := by
  rw [Call.requests, mem_requestsFor]
  constructor
  · rintro ⟨item, hitem, hsub⟩
    rcases ok_mem_item_requests.mp hsub with ⟨part, rfl, hpart⟩ | ⟨id, rfl | rfl, henter⟩
    · exact .inl ⟨part, hitem, hpart⟩
    · exact .inr ⟨id, .inl hitem, henter⟩
    · exact .inr ⟨id, .inr hitem, henter⟩
  · rintro (⟨part, hitem, hpart⟩ | ⟨id, hitem | hitem, henter⟩)
    · exact ⟨_, hitem, ok_mem_item_requests.mpr (.inl ⟨part, rfl, hpart⟩)⟩
    · exact ⟨_, hitem, ok_mem_item_requests.mpr (.inr ⟨id, .inl rfl, henter⟩)⟩
    · exact ⟨_, hitem, ok_mem_item_requests.mpr (.inr ⟨id, .inr rfl, henter⟩)⟩

/-- A call asks for an error where a part is one or a name cannot be entered. -/
theorem error_mem_requests : .error err ∈ call.requests table ↔
    .part (.error err) ∈ call.items table ∨
      ∃ id, (.name id ∈ call.items table ∨ .base id ∈ call.items table ∧ id ∉ call.stack) ∧
        table.enter call.stack id = .error err := by
  rw [Call.requests, mem_requestsFor]
  constructor
  · rintro ⟨item, hitem, herror⟩
    rcases error_mem_item_requests.mp herror with rfl | ⟨id, rfl | ⟨rfl, hstack⟩, henter⟩
    · exact .inl hitem
    · exact .inr ⟨id, .inl hitem, henter⟩
    · exact .inr ⟨id, .inr ⟨hitem, hstack⟩, henter⟩
  · rintro (hitem | ⟨id, hitem | ⟨hitem, hstack⟩, henter⟩)
    · exact ⟨_, hitem, error_mem_item_requests.mpr (.inl rfl)⟩
    · exact ⟨_, hitem, error_mem_item_requests.mpr (.inr ⟨id, .inl rfl, henter⟩)⟩
    · exact ⟨_, hitem, error_mem_item_requests.mpr (.inr ⟨id, .inr ⟨rfl, hstack⟩, henter⟩)⟩

/-! ### The items of a type -/

theorem TypeForm.name_mem_items {form : TypeForm} {id : String} :
    .name id ∈ form.items ↔ form = .named id ∧ builtinSchema? id = none := by
  cases form with
  | settled result => cases result <;> simp [items]
  | named name =>
      cases hbuiltin : builtinSchema? name with
      | some schema =>
          simp only [items, hbuiltin, Option.isSome_some, if_true, List.not_mem_nil, false_iff]
          rintro ⟨heq, hnone⟩
          cases heq
          rw [hbuiltin] at hnone
          cases hnone
      | none =>
          simp only [items, hbuiltin, Option.isSome_none, Bool.false_eq_true, if_false,
            List.mem_singleton, Item.name.injEq, TypeForm.named.injEq]
          constructor
          · rintro rfl
            exact ⟨rfl, hbuiltin⟩
          · rintro ⟨rfl, -⟩
            rfl
  | _ => simp [items]

theorem TypeForm.base_notMem_items {form : TypeForm} {id : String} : .base id ∉ form.items := by
  cases form with
  | settled result => cases result <;> simp [items]
  | named name =>
      simp only [items]
      split <;> simp
  | _ => simp [items]

theorem TypeForm.error_mem_items {form : TypeForm} :
    .part (.error err) ∈ form.items ↔ form = .settled (.error err) := by
  cases form with
  | settled result => cases result <;> simp [items, eq_comm]
  | named name =>
      simp only [items]
      split <;> simp
  | _ => simp [items]

/-! ### The items of a class -/

/-- A class is described by its members: it is neither an enumeration nor a tuple. -/
def HasMembers (definition : ClassDef) : Prop :=
  ∀ base ∈ definition.bases, base.genericName ∉ enumBases ∧ base.genericName ≠ "NamedTuple"

theorem hasMembers_iff {definition : ClassDef} :
    HasMembers definition ↔
      (definition.bases.map Expr.genericName).any enumBases.contains = false ∧
        (definition.bases.map Expr.genericName).contains "NamedTuple" = false := by
  rw [← Bool.not_eq_true, ← Bool.not_eq_true]
  simp only [HasMembers, List.any_map, List.any_eq_true, Function.comp_apply,
    List.contains_iff_mem, List.mem_map, not_exists, not_and, ← forall_and]

theorem classItems_of_hasMembers {definition : ClassDef} (hmembers : HasMembers definition) :
    classItems table definition = definition.bases.flatMap (baseItems table) ++
      (extraItems definition ++ fieldItems definition) := by
  obtain ⟨henum, htuple⟩ := hasMembers_iff.mp hmembers
  simp only [classItems, henum, htuple, Bool.false_eq_true, if_false]

/-- A class without members asks for its fields at most. -/
theorem classItems_subset {definition : ClassDef} (hmembers : ¬ HasMembers definition) :
    classItems table definition ⊆ fieldItems definition := by
  unfold classItems
  dsimp only
  split
  · exact List.nil_subset _
  · rename_i henum
    split
    · exact List.Subset.refl _
    · rename_i htuple
      rw [Bool.not_eq_true] at henum htuple
      exact absurd (hasMembers_iff.mpr ⟨henum, htuple⟩) hmembers

theorem mem_fieldItems {definition : ClassDef} {item : Item} :
    item ∈ fieldItems definition ↔
      ∃ field ∈ fieldsOf definition.body, item = .part (.ok field.hint) := by
  simp only [fieldItems, List.mem_map, eq_comm]

theorem mem_extraItems {definition : ClassDef} {item : Item} :
    item ∈ extraItems definition ↔
      ∃ type, keywordValue? definition.keywords "extra_items" = some type ∧
        item = .part (.ok type) := by
  unfold extraItems
  cases keywordValue? definition.keywords "extra_items" with
  | none => simp
  | some type => simp

theorem mem_baseItems {base : Expr} {item : Item} :
    item ∈ baseItems table base ↔ (∃ value, entriesOf? base = some value ∧ item = .part value) ∨
      entriesOf? base = none ∧ (table.classes.get? base.genericName).isSome ∧
        item = .base base.genericName := by
  unfold baseItems
  cases entriesOf? base with
  | some value => simp
  | none => simp

/-- An item of a class is what a base says, what further entries are, or a field. -/
theorem mem_classItems {definition : ClassDef} {item : Item}
    (hitem : item ∈ classItems table definition) :
    (HasMembers definition ∧ ∃ base ∈ definition.bases, item ∈ baseItems table base) ∨
      item ∈ extraItems definition ∨ item ∈ fieldItems definition := by
  by_cases hmembers : HasMembers definition
  · rw [classItems_of_hasMembers hmembers] at hitem
    simp only [List.mem_append, List.mem_flatMap] at hitem
    exact hitem.imp_left (⟨hmembers, ·⟩)
  · exact .inr (.inr (classItems_subset hmembers hitem))

/-- The classes of the table that a class takes members over from. -/
def TypeTable.Inherits (table : TypeTable) (definition : ClassDef) (id : String) : Prop :=
  HasMembers definition ∧ (table.classes.get? id).isSome ∧
    ∃ base ∈ definition.bases, entriesOf? base = none ∧ base.genericName = id

/-- The bases among the items of a class are those it inherits from. -/
theorem base_mem_classItems {definition : ClassDef} {id : String} :
    .base id ∈ classItems table definition ↔ table.Inherits definition id := by
  constructor
  · intro hitem
    rcases mem_classItems hitem with ⟨hmembers, base, hbase, hitem⟩ | hitem | hitem
    · rcases mem_baseItems.mp hitem with ⟨value, -, heq⟩ | ⟨hentries, hclass, heq⟩
      · cases heq
      · cases heq
        exact ⟨hmembers, hclass, base, hbase, hentries, rfl⟩
    · obtain ⟨type, -, heq⟩ := mem_extraItems.mp hitem
      cases heq
    · obtain ⟨field, -, heq⟩ := mem_fieldItems.mp hitem
      cases heq
  · rintro ⟨hmembers, hclass, base, hbase, hentries, rfl⟩
    rw [classItems_of_hasMembers hmembers]
    refine List.mem_append_left _ (List.mem_flatMap.mpr ⟨base, hbase, ?_⟩)
    exact mem_baseItems.mpr (.inr ⟨hentries, hclass, rfl⟩)

theorem name_notMem_classItems {definition : ClassDef} {id : String} :
    .name id ∉ classItems table definition := by
  intro hitem
  rcases mem_classItems hitem with ⟨-, base, -, hitem⟩ | hitem | hitem
  · rcases mem_baseItems.mp hitem with ⟨value, -, heq⟩ | ⟨-, -, heq⟩
    · cases heq
    · cases heq
  · obtain ⟨type, -, heq⟩ := mem_extraItems.mp hitem
    cases heq
  · obtain ⟨field, -, heq⟩ := mem_fieldItems.mp hitem
    cases heq

/-- An error among the items of a class is that of one of its bases. -/
theorem error_mem_classItems {definition : ClassDef}
    (herror : .part (.error err) ∈ classItems table definition) :
    HasMembers definition ∧ ∃ base ∈ definition.bases, entriesOf? base = some (.error err) := by
  rcases mem_classItems herror with ⟨hmembers, base, hbase, hitem⟩ | hitem | hitem
  · rcases mem_baseItems.mp hitem with ⟨value, hentries, heq⟩ | ⟨-, -, heq⟩
    · cases heq
      exact ⟨hmembers, base, hbase, hentries⟩
    · cases heq
  · obtain ⟨type, -, heq⟩ := mem_extraItems.mp hitem
    cases heq
  · obtain ⟨field, -, heq⟩ := mem_fieldItems.mp hitem
    cases heq

/-- A base that is asked for is there to be entered. -/
theorem enter_base {id : String} (hbase : .base id ∈ call.items table) (hstack : id ∉ stack) :
    ∃ definition, table.classes.get? id = some definition ∧
      table.enter stack id = .ok (.classType (stack ++ [id]) definition) := by
  cases call with
  | type _ expr => exact absurd hbase TypeForm.base_notMem_items
  | classType _ definition =>
      obtain ⟨found, hfound⟩ := Option.isSome_iff_exists.mp (base_mem_classItems.mp hbase).2.1
      exact ⟨found, hfound, enter_eq_ok_iff.mpr ⟨hstack, .inl ⟨found, hfound, rfl⟩⟩⟩

/-! ### Items that lack an argument -/

/-- A type stands for its argument, or for a list or a mapping of it, so that it must
have one. -/
def NeedsArgument (base : String) : Prop :=
  base = "Optional" ∨ base ∈ wrapperTypes ∨ base ∈ listTypes ∨ base ∈ mappingTypes

/-- An expression is a type without the argument that it must have. -/
def LacksArgument (expr : Expr) : Prop :=
  ∃ value, expr = .subscript value (.tuple []) ∧ NeedsArgument value.simpleName

theorem subscriptArgs_eq_nil_iff {index : Expr} : index.subscriptArgs = [] ↔ index = .tuple [] := by
  cases index with
  | tuple elements => simp [Expr.subscriptArgs]
  | _ => simp [Expr.subscriptArgs]

theorem firstArgument_eq_error {args : List Expr} {err : ResolveError}
    (herror : firstArgument args = .error err) : args = [] ∧ err = .missingArgument := by
  cases args with
  | nil => exact ⟨rfl, (Except.error.inj herror).symm⟩
  | cons arg args => cases herror

theorem lastArgument_eq_error {args : List Expr} {err : ResolveError}
    (herror : lastArgument args = .error err) : args = [] ∧ err = .missingArgument := by
  cases hlast : args.getLast? with
  | none =>
      rw [lastArgument, hlast] at herror
      exact ⟨List.getLast?_eq_none_iff.mp hlast, (Except.error.inj herror).symm⟩
  | some arg =>
      rw [lastArgument, hlast] at herror
      cases herror

theorem literalSchema_eq_error {args : List Expr} {err : ResolveError}
    (herror : literalSchema args = .error err) :
    ∃ arg, err = .fault (.unsupportedLiteral arg) := by
  unfold literalSchema at herror
  rw [bind_pure_comp, map_eq_error_iff, mapM_eq_error_iff] at herror
  obtain ⟨before, arg, after, -, -, harg⟩ := herror
  split at harg
  · cases harg
  · exact ⟨arg, (Except.error.inj harg).symm⟩

/-- A text that is no type expression is a fault, or is given up. -/
theorem ResolveError.ofText_eq {text : String} {fault : TypeFault} :
    ResolveError.ofText text fault = .fault fault ∨
      ResolveError.ofText text fault = .uncovered := by
  unfold ResolveError.ofText
  split
  · exact .inl rfl
  · exact .inr rfl

namespace TypeForm

theorem ofArgument_eq_settled {argument : Resolved Expr} {form : Expr → TypeForm}
    {err : ResolveError} (hform : ∀ arg result, form arg ≠ .settled result)
    (hsettled : ofArgument argument form = .settled (.error err)) : argument = .error err := by
  cases argument with
  | ok arg => exact absurd hsettled (hform arg _)
  | error other =>
      cases hsettled
      rfl

/-- A subscript fails with a declared fault, or for want of an argument. -/
theorem ofSubscript_eq_error {base : String} {args : List Expr} {err : ResolveError}
    (hsettled : ofSubscript base args = .settled (.error err)) :
    (∃ fault, err = .fault fault) ∨
      err = .missingArgument ∧ args = [] ∧ NeedsArgument base := by
  unfold ofSubscript at hsettled
  split_ifs at hsettled with hoptional hunion hwrapper hliteral hlist htuple hmapping
  · have ⟨hargs, herr⟩ := firstArgument_eq_error (ofArgument_eq_settled (by simp) hsettled)
    exact .inr ⟨herr, hargs, .inl hoptional⟩
  · have ⟨hargs, herr⟩ := firstArgument_eq_error (ofArgument_eq_settled (by simp) hsettled)
    exact .inr ⟨herr, hargs, .inr (.inl (List.contains_iff_mem.mp hwrapper))⟩
  · obtain ⟨arg, hfault⟩ := literalSchema_eq_error (TypeForm.settled.inj hsettled)
    exact .inl ⟨_, hfault⟩
  · have ⟨hargs, herr⟩ := firstArgument_eq_error (ofArgument_eq_settled (by simp) hsettled)
    exact .inr ⟨herr, hargs, .inr (.inr (.inl (List.contains_iff_mem.mp hlist)))⟩
  · split at hsettled
    · cases hsettled
    · cases hsettled
  · have ⟨hargs, herr⟩ := lastArgument_eq_error (ofArgument_eq_settled (by simp) hsettled)
    exact .inr ⟨herr, hargs, .inr (.inr (.inr (List.contains_iff_mem.mp hmapping)))⟩

/-- An expression fails with a declared fault, outside what is covered, or for want of an
argument. -/
theorem ofExpr_eq_error {expr : Expr} {err : ResolveError}
    (hsettled : ofExpr expr = .settled (.error err)) :
    (∃ fault, err = .fault fault) ∨ err = .uncovered ∨
      err = .missingArgument ∧ LacksArgument expr := by
  revert hsettled
  fun_cases ofExpr expr with
  | case8 value index =>
      intro hsettled
      rcases ofSubscript_eq_error hsettled with hfault | ⟨herr, hargs, hneeds⟩
      · exact .inl hfault
      · rw [subscriptArgs_eq_nil_iff] at hargs
        exact .inr (.inr ⟨herr, value, by rw [hargs], hneeds⟩)
  | case3 text _ _ =>
      intro hsettled
      cases hsettled
      exact ResolveError.ofText_eq.imp (⟨_, ·⟩) .inl
  | case4 | case9 =>
      intro hsettled
      cases hsettled
      exact .inl ⟨_, rfl⟩
  | _ =>
      intro hsettled
      cases hsettled

end TypeForm

/-- The entries of a mapping base fail only for want of an argument. -/
theorem entriesOf_eq_error {base : Expr} {err : ResolveError}
    (hentries : entriesOf? base = some (.error err)) :
    err = .missingArgument ∧
      ∃ value, base = .subscript value (.tuple []) ∧ value.simpleName ∈ mappingTypes := by
  cases base with
  | subscript value index =>
      simp only [entriesOf?, Option.ite_none_right_eq_some, Option.some.injEq,
        List.contains_iff_mem] at hentries
      obtain ⟨hargs, herr⟩ := lastArgument_eq_error hentries.2
      rw [subscriptArgs_eq_nil_iff] at hargs
      exact ⟨herr, value, by rw [hargs], hentries.1⟩
  | _ => cases hentries

/-- A request that cannot be made is a fault of the type, lacks an argument or is given
up. -/
theorem Call.error_of_mem_requests (herror : .error err ∈ call.requests table) :
    (∃ fault, err = .fault fault) ∨ err = .uncovered ∨ err = .missingArgument := by
  rcases error_mem_requests.mp herror with hitem | ⟨id, -, henter⟩
  · cases call with
    | type stack expr =>
        exact (TypeForm.ofExpr_eq_error (TypeForm.error_mem_items.mp hitem)).imp_right
          (Or.imp_right And.left)
    | classType stack definition =>
        obtain ⟨-, base, -, hentries⟩ := error_mem_classItems hitem
        exact .inr (.inr (entriesOf_eq_error hentries).1)
  · exact .inl (enter_eq_error henter)

/-! ### Unions that refuse their members -/

/-- Kinds cannot be collected where a member is a choice of kinds itself. -/
theorem plainKinds_eq_error_iff {schemas : List Schema} {err : ResolveError} :
    plainKinds? schemas = .error err ↔ err = .nestedKinds ∧
      ∃ plain kinds rest, schemas = plain ++ .oneOfKinds kinds :: rest ∧
        ∀ schema ∈ plain, ∃ kind, schema = .primitive kind none := by
  fun_induction plainKinds? schemas with
  | case1 => simp [pure, Except.pure]
  | case2 kind members ih =>
      rw [bind_pure_comp, map_eq_error_iff, ih]
      refine and_congr_right fun _ => ?_
      constructor
      · rintro ⟨plain, kinds, rest, rfl, hplain⟩
        refine ⟨.primitive kind none :: plain, kinds, rest, rfl, ?_⟩
        simpa using hplain
      · rintro ⟨plain, kinds, rest, hsplit, hplain⟩
        cases plain with
        | nil => cases hsplit
        | cons first plain =>
            cases hsplit
            exact ⟨plain, kinds, rest, rfl, fun schema hschema => hplain schema (.tail _ hschema)⟩
  | case3 kinds members =>
      constructor
      · intro herror
        exact ⟨(Except.error.inj herror).symm, [], _, _, rfl, by simp⟩
      · rintro ⟨rfl, -⟩
        rfl
  | case4 schema members hprimitive hchoice =>
      constructor
      · intro herror
        cases herror
      · rintro ⟨-, plain, kinds, rest, hsplit, hplain⟩
        cases plain with
        | nil =>
            cases hsplit
            exact absurd rfl (hchoice kinds)
        | cons first plain =>
            cases hsplit
            obtain ⟨kind, rfl⟩ := hplain schema List.mem_cons_self
            exact absurd rfl (hprimitive kind)

/-- A union refuses its members if it has several and the first that is not plain is a
choice of kinds. -/
theorem unionSchema_eq_error_iff {schemas : List Schema} {err : ResolveError} :
    unionSchema schemas = .error err ↔ err = .nestedKinds ∧
      ∃ plain kinds rest, schemas = plain ++ .oneOfKinds kinds :: rest ∧
        (∀ schema ∈ plain, ∃ kind, schema = .primitive kind none) ∧ (plain ≠ [] ∨ rest ≠ []) := by
  have hone : ∀ schema : Schema, ¬ ∃ plain kinds rest,
      [schema] = plain ++ .oneOfKinds kinds :: rest ∧
      (∀ other ∈ plain, ∃ kind, other = .primitive kind none) ∧ (plain ≠ [] ∨ rest ≠ []) := by
    rintro schema ⟨plain, kinds, rest, hsplit, -, hseveral⟩
    cases plain with
    | nil =>
        cases hsplit
        exact hseveral.elim (· rfl) (· rfl)
    | cons first plain => simp at hsplit
  fun_cases unionSchema schemas with
  | case1 => simp [pure, Except.pure]
  | case2 single => simp [hone, pure, Except.pure]
  | case3 _ hempty hsingle =>
      -- There are several members: what counts is how their kinds are collected.
      constructor
      · intro herror
        cases hkinds : plainKinds? schemas with
        | error other =>
            rw [hkinds] at herror
            cases herror
            obtain ⟨herr, plain, kinds, rest, rfl, hplain⟩ := plainKinds_eq_error_iff.mp hkinds
            refine ⟨herr, plain, kinds, rest, rfl, hplain, ?_⟩
            by_contra! hboth
            obtain ⟨rfl, rfl⟩ := hboth
            exact hsingle _ rfl
        | ok found =>
            simp only [hkinds, bind, Except.bind, pure, Except.pure] at herror
            split at herror
            · cases herror
            · split at herror
              · cases herror
              · cases herror
      · rintro ⟨rfl, plain, kinds, rest, rfl, hplain, -⟩
        rw [plainKinds_eq_error_iff.mpr ⟨rfl, plain, kinds, rest, rfl, hplain⟩]
        rfl

end RouteScribe.Schema
