import Mathlib.Data.List.InsertIdx
import RouteScribe.Proofs.Schema.Failure
import RouteScribe.Proofs.Schema.Shift

/-!
# Aliases stand for their targets

While the target of an alias is resolved, the alias is on the stack.  No class has its
name, so no base is left out because of it, and where the name is not met it changes
nothing.  Where it is met, the type contains itself, and this shows without the name on the
stack too: the alias is then entered a second time, and the first name that its target
comes to is on the stack by then.
-/

namespace RouteScribe.Schema

open RouteScribe.Source RouteScribe.Text Relation

variable {table : TypeTable} {call sub : Call} {stack : List String} {schema : Schema}
variable {name : String} {target : Expr} {depth : Nat}

/-! ### One more name on the stack -/

theorem insertIdx_append_of_le {α : Type} {front : List α} (hdepth : depth ≤ front.length)
    (value : α) (back : List α) :
    (front ++ back).insertIdx depth value = front.insertIdx depth value ++ back := by
  induction front generalizing depth with
  | nil =>
      obtain rfl := Nat.le_zero.mp hdepth
      rfl
  | cons first front ih =>
      cases depth with
      | zero => rfl
      | succ depth =>
          have hrest := ih (Nat.le_of_succ_le_succ hdepth)
          simp only [List.cons_append, List.insertIdx_succ_cons, hrest]

/-- Another name on the stack is the same to all names but itself. -/
theorem follows_insertIdx (hdepth : depth ≤ stack.length) {id : String} (hid : id ≠ name) :
    Follows (·.insertIdx depth name) stack id where
  mem_iff := by
    rw [List.mem_insertIdx hdepth]
    exact or_iff_right hid
  push := insertIdx_append_of_le hdepth name [id]

/-- The same call with a name after the first names on its stack. -/
def Call.inserting (name : String) (depth : Nat) (call : Call) : Call :=
  call.withStack (call.stack.insertIdx depth name)

theorem Call.mem_stack_inserting (hdepth : depth ≤ call.stack.length) :
    name ∈ (call.inserting name depth).stack := by
  rw [Call.inserting, Call.stack_withStack, List.mem_insertIdx hdepth]
  exact .inl rfl

theorem Call.items_inserting : (call.inserting name depth).items table = call.items table :=
  call.items_withStack _

theorem Call.Requests.isPrefix_stack (hrequests : call.Requests table sub) :
    call.stack <+: sub.stack := by
  rcases ok_mem_requests.mp hrequests with ⟨part, -, rfl⟩ | ⟨id, -, henter⟩
  · exact List.prefix_rfl
  · rw [stack_of_enter henter]
    exact List.prefix_append _ _

/-- What is met on the way of a call is not a name that the table has no class for, unless
the call comes to it as a name. -/
theorem Call.ne_of_item {id : String} (hclass : table.classes.get? name = none)
    (hname : .name name ∉ call.items table)
    (hitem : .name id ∈ call.items table ∨ .base id ∈ call.items table) : id ≠ name := by
  rintro rfl
  rcases hitem with hitem | hitem
  · exact hname hitem
  · obtain ⟨definition, hfound, -⟩ := enter_base hitem (List.not_mem_nil (a := id))
    rw [hclass] at hfound
    cases hfound

/-- A request that does not enter the name is made with the name on the stack, too. -/
theorem Call.Requests.inserting (hclass : table.classes.get? name = none)
    (hname : .name name ∉ call.items table) (hdepth : depth ≤ call.stack.length)
    (hrequests : call.Requests table sub) :
    (call.inserting name depth).Requests table (sub.inserting name depth) := by
  rcases ok_mem_requests.mp hrequests with ⟨part, hpart, rfl⟩ | ⟨id, hitem, henter⟩
  · refine ok_mem_requests.mpr (.inl ⟨part, by rwa [Call.items_inserting], ?_⟩)
    rw [Call.inserting, Call.inserting, Call.stack_withStack]
    rfl
  · have hfollows := follows_insertIdx hdepth (Call.ne_of_item hclass hname hitem)
    refine ok_mem_requests.mpr (.inr ⟨id, by rwa [Call.items_inserting], ?_⟩)
    have hid : id ∉ call.stack.insertIdx depth name := by
      rw [hfollows.mem_iff]
      exact (enter_eq_ok_iff.mp henter).1
    rw [Call.inserting, Call.inserting, Call.stack_withStack, enter_withStack henter hid,
      stack_of_enter henter, hfollows.push]

/-- A call that does not come to the name has the answer that its requests have. -/
theorem answer_inserting (hclass : table.classes.get? name = none)
    (hname : .name name ∉ call.items table) (hdepth : depth ≤ call.stack.length)
    (hsubs : ∀ sub, call.Requests table sub →
      table.resolver.answer (sub.inserting name depth) = table.resolver.answer sub) :
    table.resolver.answer (call.inserting name depth) = table.resolver.answer call := by
  calc
    table.resolver.answer (call.inserting name depth)
        = (table.resolver.step table).answer (call.inserting name depth) :=
          (table.answer_step_resolver _).symm
    _ = ((table.resolver.along (·.insertIdx depth name)).step table).answer call := by
        apply Resolver.answer_step_along
        intro id hitem
        exact follows_insertIdx hdepth (Call.ne_of_item hclass hname hitem)
    _ = (table.resolver.step table).answer call := by
        apply Resolver.answer_step_congr
        intro sub hreaches
        rw [Resolver.answer_along]
        exact hsubs sub hreaches.mem_requests
    _ = table.resolver.answer call := table.answer_step_resolver call

/-! ### With the alias on the stack -/

/-- What has a schema with the name on the stack has the same one without it. -/
theorem answer_of_inserting (hclass : table.classes.get? name = none)
    (hdepth : depth ≤ call.stack.length)
    (hanswer : table.resolver.answer (call.inserting name depth) = .ok schema) :
    table.resolver.answer call = .ok schema := by
  induction hneed : (call.inserting name depth).need table using Nat.strong_induction_on
    generalizing call schema with
  | _ need ih =>
      have hname : .name name ∉ call.items table := by
        intro hitem
        refine name_notMem_stack hanswer ?_ (Call.mem_stack_inserting hdepth)
        rwa [Call.items_inserting]
      rw [← hanswer]
      apply (answer_inserting hclass hname hdepth _).symm
      intro sub hrequests
      have hinserted := hrequests.inserting hclass hname hdepth
      obtain ⟨answer, hsub⟩ := hinserted.answer_ok hanswer
      have hlt := (Call.descends_of_mem_requests hinserted).need_lt
      have hsubDepth := hdepth.trans hrequests.isPrefix_stack.length_le
      rw [hsub, ih _ (hneed ▸ hlt) hsubDepth hsub rfl]

/-! ### Without the alias on the stack -/

/-- One expression is a part of another that is resolved under the same stack. -/
def IsPart (expr part : Expr) : Prop :=
  .part (.ok part) ∈ (TypeForm.ofExpr expr).items

/-- An expression comes to a name before any name in it is entered. -/
def Meets (expr : Expr) (id : String) : Prop :=
  ∃ part, ReflTransGen IsPart expr part ∧ .name id ∈ (TypeForm.ofExpr part).items

theorem path_of_parts {expr part : Expr} (hparts : ReflTransGen IsPart expr part)
    (table : TypeTable) (stack : List String) :
    ReflTransGen (Call.Requests table) (.type stack expr) (.type stack part) := by
  induction hparts with
  | refl => exact .refl
  | tail _ hpart ih => exact ih.tail (ok_mem_requests.mpr (.inl ⟨_, hpart, rfl⟩))

/-- An expression that comes to a name on the stack first has no schema. -/
theorem Meets.answer_ne_ok {expr : Expr} {id : String} (hmeets : Meets expr id)
    (hid : id ∈ stack) : table.resolver.answer (.type stack expr) ≠ .ok schema := by
  intro hanswer
  obtain ⟨part, hparts, hitem⟩ := hmeets
  obtain ⟨answer, hpart⟩ := answer_ok_of_path (path_of_parts hparts table stack) hanswer
  exact name_notMem_stack hpart hitem hid

/-- Below an expression, either no name has been entered yet, or the first one is on the
stack. -/
theorem part_or_meets {expr : Expr}
    (hpath : ReflTransGen (Call.Requests table) (.type stack expr) call) :
    (∃ part, call = .type stack part ∧ ReflTransGen IsPart expr part) ∨
      ∃ id ∈ call.stack, Meets expr id := by
  induction hpath with
  | refl => exact .inl ⟨expr, rfl, .refl⟩
  | tail _ hrequests ih =>
      rcases ih with ⟨part, rfl, hparts⟩ | ⟨id, hid, hmeets⟩
      · rcases ok_mem_requests.mp hrequests with ⟨inner, hinner, rfl⟩ | ⟨id, hitem, henter⟩
        · exact .inl ⟨inner, rfl, hparts.tail hinner⟩
        · have hname := hitem.resolve_right TypeForm.base_notMem_items
          refine .inr ⟨id, ?_, part, hparts, hname⟩
          rw [stack_of_enter henter]
          exact List.mem_append_right _ (List.mem_singleton_self id)
      · exact .inr ⟨id, hrequests.isPrefix_stack.subset hid, hmeets⟩

/-- A target with a schema does not come to its own alias. -/
theorem name_notMem_items_of_path (hclass : table.classes.get? name = none)
    (halias : table.aliases.get? name = some target)
    (hpath : ReflTransGen (Call.Requests table) (.type stack target) call)
    (hanswer : table.resolver.answer call = .ok schema) : .name name ∉ call.items table := by
  intro hitem
  have henter : table.enter call.stack name = .ok (.type (call.stack ++ [name]) target) :=
    enter_eq_ok_iff.mpr ⟨name_notMem_stack hanswer hitem, .inr ⟨target, hclass, halias, rfl⟩⟩
  have hagain : call.Requests table (.type (call.stack ++ [name]) target) :=
    ok_mem_requests.mpr (.inr ⟨name, .inl hitem, henter⟩)
  obtain ⟨answer, hsecond⟩ := hagain.answer_ok hanswer
  rcases part_or_meets hpath with ⟨part, rfl, hparts⟩ | ⟨id, hid, hmeets⟩
  · have hmeets : Meets target name := ⟨part, hparts, hitem⟩
    exact hmeets.answer_ne_ok (List.mem_append_right _ (List.mem_singleton_self name)) hsecond
  · exact hmeets.answer_ne_ok (List.mem_append_left _ hid) hsecond

/-- Below a target with a schema, all answers are the same with the alias on the stack. -/
theorem answer_inserting_of_path (hclass : table.classes.get? name = none)
    (halias : table.aliases.get? name = some target) (hdepth : depth ≤ call.stack.length)
    (hpath : ReflTransGen (Call.Requests table) (.type stack target) call)
    (hanswer : table.resolver.answer call = .ok schema) :
    table.resolver.answer (call.inserting name depth) = table.resolver.answer call := by
  induction hneed : call.need table using Nat.strong_induction_on generalizing call schema with
  | _ need ih =>
      have hname := name_notMem_items_of_path hclass halias hpath hanswer
      apply answer_inserting hclass hname hdepth
      intro sub hrequests
      obtain ⟨answer, hsub⟩ := hrequests.answer_ok hanswer
      have hlt := (Call.descends_of_mem_requests hrequests).need_lt
      have hsubDepth := hdepth.trans hrequests.isPrefix_stack.length_le
      exact ih _ (hneed ▸ hlt) hsubDepth (hpath.tail hrequests) hsub rfl

/-! ### Aliases -/

/-- The name of an alias is resolved like its target with the name on the stack. -/
theorem resolveName_alias (hbuiltin : builtinSchema? name = none)
    (hclass : table.classes.get? name = none) (halias : table.aliases.get? name = some target)
    (hname : name ∉ stack) :
    resolveName table table.resolver stack name =
      table.resolver.answer ((Call.type stack target).inserting name stack.length) := by
  have henter : table.enter stack name = .ok (.type (stack ++ [name]) target) :=
    enter_eq_ok_iff.mpr ⟨hname, .inr ⟨target, hclass, halias, rfl⟩⟩
  rw [resolveName_eq _ _ _ _ hbuiltin, henter, Resolver.perform_ok, Call.inserting, Call.stack,
    List.insertIdx_length_self]
  rfl

theorem resolveName_eq_ok_iff (hbuiltin : builtinSchema? name = none)
    (hclass : table.classes.get? name = none) (halias : table.aliases.get? name = some target)
    (hname : name ∉ stack) :
    resolveName table table.resolver stack name = .ok schema ↔
      table.resolver.type stack target = .ok schema := by
  rw [resolveName_alias hbuiltin hclass halias hname]
  constructor
  · exact answer_of_inserting hclass le_rfl
  · intro hanswer
    exact (answer_inserting_of_path hclass halias le_rfl .refl hanswer).trans hanswer

/-- The name of an alias and its target have the same schema or none, under every stack
without the alias.  A text that is the name has the schema of the target. -/
theorem alias_transparent {table : TypeTable} {name : String} {target : Expr}
    (hbuiltin : builtinSchema? name = none) (hclass : table.classes.get? name = none)
    (halias : table.aliases.get? name = some target) :
    (∀ stack, name ∉ stack → ∀ schema,
      resolveName table table.resolver stack name = .ok schema ↔
        table.resolver.type stack target = .ok schema) ∧
    ∀ text, readExpression? (trimString text) = some (.name name) → ∀ schema,
      table.schemaOf text = .ok schema ↔ table.resolve target = .ok schema := by
  constructor
  · intro stack hname schema
    exact resolveName_eq_ok_iff hbuiltin hclass halias hname
  · intro text hread schema
    have huse : table.resolve (.name name) = resolveName table table.resolver [] name := by
      rw [TypeTable.resolve_eq]
      exact (table.type_resolver [] (.name name)).symm
    rw [schemaOf_eq hread, huse, TypeTable.resolve_eq]
    exact resolveName_eq_ok_iff hbuiltin hclass halias List.not_mem_nil

/-- A class with a field of an alias for lists of the class. -/
def treeNodeClass : ClassDef :=
  .mk "TreeNode" [] [] [] [.annotated ⟨2, 4⟩ (.name "children") (.name "Forest") none]

def forestType : Expr := .subscript (.name "list") (.name "TreeNode")

def userIdsType : Expr := .subscript (.name "list") (.name "UserId")

/-- An alias of an alias, and one that contains itself. -/
def aliasTable : TypeTable where
  classes := [("TreeNode", treeNodeClass)]
  aliases := [("UserId", .name "int"), ("UserIds", userIdsType), ("Forest", forestType)]

theorem resolve_userIds :
    aliasTable.resolve userIdsType = .ok (.list (.primitive .number none)) := by
  rfl

/-- From the target of the alias through the class back to the alias. -/
theorem path_to_forest :
    ReflTransGen (Call.Requests aliasTable) (.type [] forestType)
      (.type ["TreeNode"] (.name "Forest")) := by
  have hfirst : ∀ {call sub : Call} {after : List (Resolved Call)},
      call.requests aliasTable = .ok sub :: after → call.Requests aliasTable sub := by
    intro call sub after hrequests
    rw [Call.Requests, hrequests]
    exact List.mem_cons_self
  have hfield : (Call.classType ["TreeNode"] treeNodeClass).requests aliasTable =
      [.ok (.type ["TreeNode"] (.name "Forest"))] := by
    cbv
  have hitem : Call.Requests aliasTable (.type [] forestType) (.type [] (.name "TreeNode")) :=
    hfirst rfl
  have hclass : Call.Requests aliasTable (.type [] (.name "TreeNode"))
      (.classType ["TreeNode"] treeNodeClass) :=
    hfirst rfl
  exact ((ReflTransGen.single hitem).tail hclass).tail (hfirst hfield)

theorem resolve_forest_ne_ok (schema : Schema) : aliasTable.resolve forestType ≠ .ok schema := by
  intro hresolve
  rw [TypeTable.resolve_eq] at hresolve
  obtain ⟨answer, hanswer⟩ := answer_ok_of_path path_to_forest hresolve
  have hmet : .name "Forest" ∈ (Call.type ["TreeNode"] (.name "Forest")).items aliasTable :=
    TypeForm.name_mem_items.mpr ⟨rfl, rfl⟩
  exact name_notMem_items_of_path rfl rfl path_to_forest hanswer hmet

/-- An alias of a list of numbers, and one that a class leads back to. -/
theorem alias_transparent_forest :
    aliasTable.schemaOf "UserIds" = .ok (.list (.primitive .number none)) ∧
    ∀ schema, aliasTable.schemaOf "Forest" ≠ .ok schema := by
  have hids : readExpression? (trimString "UserIds") = some (.name "UserIds") := by
    cbv
  have hforest : readExpression? (trimString "Forest") = some (.name "Forest") := by
    cbv
  constructor
  · exact ((alias_transparent rfl rfl rfl).2 "UserIds" hids _).mpr resolve_userIds
  · intro schema hschema
    have halias : aliasTable.aliases.get? "Forest" = some forestType := rfl
    exact resolve_forest_ne_ok schema
      (((alias_transparent rfl rfl halias).2 "Forest" hforest schema).mp hschema)

end RouteScribe.Schema
