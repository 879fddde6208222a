import Mathlib.Logic.Relation
import RouteScribe.Proofs.Schema.Termination

/-!
# Calls under other stacks

What a call asks for does not depend on its stack, only whether a name or a base is
entered does.  A chain of requests can therefore be followed under another stack as long
as that stack holds none of the names that are entered on the way, and a call has the
same answer under another stack if that stack is the same to the names that it comes to.
In particular it has the same answer below further names that it does not come to.
-/

namespace RouteScribe.Schema

open RouteScribe.Source Relation

variable {table : TypeTable} {call sub root : Call} {outer other stack : List String}

/-! ### Moving a call -/

def Call.withStack (call : Call) (stack : List String) : Call :=
  match call with
  | .type _ expr => .type stack expr
  | .classType _ definition => .classType stack definition

/-- The same call below further names. -/
def Call.under (outer : List String) (call : Call) : Call :=
  call.withStack (outer ++ call.stack)

@[simp]
theorem Call.stack_withStack (call : Call) (stack : List String) :
    (call.withStack stack).stack = stack := by
  cases call <;> rfl

@[simp]
theorem Call.withStack_withStack (call : Call) (stack other : List String) :
    (call.withStack stack).withStack other = call.withStack other := by
  cases call <;> rfl

theorem Call.withStack_eq_self {call : Call} {stack : List String} (hstack : call.stack = stack) :
    call.withStack stack = call := by
  subst hstack
  cases call <;> rfl

@[simp]
theorem Call.items_withStack (call : Call) (stack : List String) :
    (call.withStack stack).items table = call.items table := by
  cases call <;> rfl

@[simp]
theorem Call.stack_under (outer : List String) (call : Call) :
    (call.under outer).stack = outer ++ call.stack :=
  call.stack_withStack _

@[simp]
theorem Call.items_under (outer : List String) (call : Call) :
    (call.under outer).items table = call.items table :=
  call.items_withStack _

@[simp]
theorem Call.under_nil (call : Call) : call.under [] = call :=
  Call.withStack_eq_self rfl

theorem stack_of_enter {id : String} (henter : table.enter stack id = .ok sub) :
    sub.stack = stack ++ [id] := by
  obtain ⟨-, ⟨definition, -, rfl⟩ | ⟨target, -, -, rfl⟩⟩ := enter_eq_ok_iff.mp henter
  · rfl
  · rfl

theorem enter_withStack {id : String} (henter : table.enter stack id = .ok sub)
    (hid : id ∉ other) : table.enter other id = .ok (sub.withStack (other ++ [id])) := by
  obtain ⟨-, ⟨definition, hclass, rfl⟩ | ⟨target, hclass, halias, rfl⟩⟩ :=
    enter_eq_ok_iff.mp henter
  · exact enter_eq_ok_iff.mpr ⟨hid, .inl ⟨definition, hclass, rfl⟩⟩
  · exact enter_eq_ok_iff.mpr ⟨hid, .inr ⟨target, hclass, halias, rfl⟩⟩

/-! ### Chains of requests -/

/-- One call asks for another. -/
def Call.Requests (table : TypeTable) (call sub : Call) : Prop :=
  .ok sub ∈ call.requests table

/-- A request below some names is the same request below others that hold none of the
names that it enters. -/
theorem Call.Requests.shift {below : Call} (hrequests : (call.under outer).Requests table below) :
    ∃ sub : Call, below = sub.under outer ∧ call.stack <+: sub.stack ∧
      ∀ other : List String, (∀ id ∈ sub.stack, id ∉ other) →
        (call.under other).Requests table (sub.under other) := by
  rcases ok_mem_requests.mp hrequests with ⟨part, hpart, rfl⟩ | ⟨id, hitem, henter⟩
  · rw [Call.items_under] at hpart
    refine ⟨.type call.stack part, by rw [Call.stack_under]; rfl, List.prefix_rfl,
      fun other _ => ?_⟩
    refine ok_mem_requests.mpr (.inl ⟨part, by rwa [Call.items_under], ?_⟩)
    rw [Call.stack_under]
    rfl
  · rw [Call.items_under] at hitem
    rw [Call.stack_under] at henter
    have hid := (enter_eq_ok_iff.mp henter).1
    refine ⟨below.withStack (call.stack ++ [id]), ?_, ?_, fun other hother => ?_⟩
    · have hstack := stack_of_enter henter
      rw [List.append_assoc] at hstack
      rw [Call.under, Call.withStack_withStack, Call.stack_withStack,
        Call.withStack_eq_self hstack]
    · rw [Call.stack_withStack]
      exact List.prefix_append _ _
    · refine ok_mem_requests.mpr (.inr ⟨id, by rwa [Call.items_under], ?_⟩)
      have hnot : id ∉ other ++ call.stack := by
        rw [List.mem_append, not_or]
        exact ⟨hother id (by simp), fun hmem => hid (List.mem_append_right _ hmem)⟩
      rw [Call.stack_under, enter_withStack henter hnot, Call.under, Call.withStack_withStack,
        Call.stack_withStack, List.append_assoc]

theorem Call.Requests.under (hrequests : call.Requests table sub)
    (hdisjoint : ∀ id ∈ sub.stack, id ∉ outer) :
    (call.under outer).Requests table (sub.under outer) := by
  rw [← call.under_nil] at hrequests
  obtain ⟨_, rfl, -, hshift⟩ := hrequests.shift
  rw [Call.under_nil] at hdisjoint ⊢
  exact hshift outer hdisjoint

/-- A path of requests can be walked under any stack that does not meet its names. -/
theorem Call.path_shift {below : Call}
    (hpath : ReflTransGen (Call.Requests table) (call.under outer) below) :
    ∃ target : Call, below = target.under outer ∧ call.stack <+: target.stack ∧
      ∀ other : List String, (∀ id ∈ target.stack, id ∉ other) →
        ReflTransGen (Call.Requests table) (call.under other) (target.under other) := by
  induction hpath with
  | refl => exact ⟨call, rfl, List.prefix_rfl, fun _ _ => .refl⟩
  | tail _ hrequests ih =>
      obtain ⟨middle, rfl, hmiddle, hpath⟩ := ih
      obtain ⟨target, rfl, htarget, hstep⟩ := hrequests.shift
      refine ⟨target, rfl, hmiddle.trans htarget, fun other hother => ?_⟩
      have hdisjoint : ∀ id ∈ middle.stack, id ∉ other := fun id hid =>
        hother id (htarget.subset hid)
      exact (hpath other hdisjoint).tail (hstep other hother)

/-- A name on the stack of a call has been entered on the way to the call. -/
theorem Call.entry_on_path (hroot : root.stack = [])
    (hpath : ReflTransGen (Call.Requests table) root call) {before after : List String}
    {id : String} (hstack : call.stack = before ++ id :: after) :
    ∃ entry, table.enter before id = .ok entry ∧
      ReflTransGen (Call.Requests table) root entry ∧
      ReflTransGen (Call.Requests table) entry call := by
  induction hpath generalizing after with
  | refl =>
      rw [hroot] at hstack
      simp at hstack
  | @tail middle call hpath hrequests ih =>
      rcases ok_mem_requests.mp hrequests with ⟨part, -, rfl⟩ | ⟨name, -, henter⟩
      · obtain ⟨entry, henter, hfirst, hsecond⟩ := ih hstack
        exact ⟨entry, henter, hfirst, hsecond.tail hrequests⟩
      · rw [stack_of_enter henter] at hstack
        rcases List.eq_nil_or_concat after with rfl | ⟨rest, last, rfl⟩
        · obtain ⟨rfl, heq⟩ := List.append_inj' hstack rfl
          cases heq
          exact ⟨call, henter, hpath.tail hrequests, .refl⟩
        · rw [List.concat_eq_append, ← List.cons_append, ← List.append_assoc] at hstack
          obtain ⟨hmiddle, -⟩ := List.append_inj' hstack rfl
          obtain ⟨entry, henter, hfirst, hsecond⟩ := ih hmiddle
          exact ⟨entry, henter, hfirst, hsecond.tail hrequests⟩

/-- From a name on the stack of a call, the way to the call can be gone again under
another stack. -/
theorem Call.path_again (hroot : root.stack = [])
    (hpath : ReflTransGen (Call.Requests table) root call) {id : String} (hid : id ∈ call.stack)
    (hdisjoint : ∀ name ∈ call.stack, name ∉ other) :
    ∃ entry inner, table.enter other id = .ok entry ∧
      ReflTransGen (Call.Requests table) entry (call.withStack (other ++ inner)) := by
  obtain ⟨before, after, hstack⟩ := List.append_of_mem hid
  obtain ⟨entry, henter, -, hpath⟩ := Call.entry_on_path hroot hpath hstack
  have hentry : entry = (entry.withStack [id]).under before := by
    rw [Call.under, Call.withStack_withStack, Call.stack_withStack]
    exact (Call.withStack_eq_self (stack_of_enter henter)).symm
  rw [hentry] at hpath
  obtain ⟨target, rfl, -, hshift⟩ := Call.path_shift hpath
  rw [Call.stack_under] at hdisjoint
  have hagain := hshift other fun name hname => hdisjoint name (List.mem_append_right _ hname)
  refine ⟨entry.withStack (other ++ [id]), target.stack, ?_, ?_⟩
  · exact enter_withStack henter (hdisjoint id (by rwa [← Call.stack_under]))
  · simpa only [Call.under, Call.withStack_withStack, Call.stack_withStack] using hagain

/-! ### Calls with an answer -/

theorem Call.Requests.answer_ok {schema : Schema} (hrequests : call.Requests table sub)
    (hanswer : table.resolver.answer call = .ok schema) :
    ∃ answer, table.resolver.answer sub = .ok answer := by
  rw [← TypeTable.answer_step_resolver] at hanswer
  exact Resolver.perform_of_answer_step hanswer hrequests

theorem answer_ok_of_path {schema : Schema}
    (hpath : ReflTransGen (Call.Requests table) root call)
    (hanswer : table.resolver.answer root = .ok schema) :
    ∃ answer, table.resolver.answer call = .ok answer := by
  induction hpath with
  | refl => exact ⟨schema, hanswer⟩
  | tail _ hrequests ih =>
      obtain ⟨answer, hanswer⟩ := ih
      exact hrequests.answer_ok hanswer

/-- A call with an answer consults all that it asks for. -/
theorem consults_iff_requests {schema : Schema}
    (hanswer : table.resolver.answer call = .ok schema) :
    call.Consults table table.resolver sub ↔ call.Requests table sub := by
  rw [Call.consults_iff_reaches]
  constructor
  · exact Call.Reaches.mem_requests
  · intro hrequests
    obtain ⟨before, after, hsplit⟩ := List.append_of_mem hrequests
    refine ⟨before, after, hsplit, fun request hrequest => ?_⟩
    rw [← TypeTable.answer_step_resolver] at hanswer
    refine Resolver.perform_of_answer_step hanswer ?_
    rw [hsplit]
    exact List.mem_append_left _ hrequest

/-- If a call succeeds, all that it asks for is consulted. -/
theorem path_consults_iff {schema : Schema} (hanswer : table.resolver.answer root = .ok schema) :
    ReflTransGen (Call.Consults table table.resolver) root call ↔
      ReflTransGen (Call.Requests table) root call := by
  constructor
  · intro hpath
    induction hpath with
    | refl => exact .refl
    | tail _ hconsults ih =>
        obtain ⟨answer, hmiddle⟩ := answer_ok_of_path ih hanswer
        exact ih.tail ((consults_iff_requests hmiddle).mp hconsults)
  · intro hpath
    induction hpath with
    | refl => exact .refl
    | tail hpath hrequests ih =>
        obtain ⟨answer, hmiddle⟩ := answer_ok_of_path hpath hanswer
        exact ih.tail ((consults_iff_requests hmiddle).mpr hrequests)

theorem soundStack_of_path (hpath : ReflTransGen (Call.Requests table) root call)
    (hsound : SoundStack table root.stack) : SoundStack table call.stack := by
  induction hpath with
  | refl => exact hsound
  | tail _ hrequests ih =>
      exact (Call.descends_of_mem_requests hrequests).progresses.soundStack ih

theorem mem_requests_of_item {id : String}
    (hitem : .name id ∈ call.items table ∨ .base id ∈ call.items table) (hid : id ∉ call.stack) :
    table.enter call.stack id ∈ call.requests table := by
  refine mem_requestsFor.mpr ?_
  rcases hitem with hitem | hitem
  · exact ⟨_, hitem, List.mem_singleton_self _⟩
  · exact ⟨_, hitem, by simp [Item.requests, hid]⟩

/-- What a call with an answer comes to, it enters. -/
theorem exists_enter_of_item {schema : Schema} {id : String}
    (hanswer : table.resolver.answer call = .ok schema)
    (hitem : .name id ∈ call.items table ∨ .base id ∈ call.items table) (hid : id ∉ call.stack) :
    ∃ entry, table.enter call.stack id = .ok entry := by
  rw [← TypeTable.answer_step_resolver] at hanswer
  obtain ⟨answer, hperform⟩ :=
    Resolver.perform_of_answer_step hanswer (mem_requests_of_item hitem hid)
  cases henter : table.enter call.stack id with
  | ok entry => exact ⟨entry, rfl⟩
  | error err =>
      rw [henter] at hperform
      cases hperform

theorem name_notMem_stack {schema : Schema} {id : String}
    (hanswer : table.resolver.answer call = .ok schema)
    (hname : .name id ∈ call.items table) : id ∉ call.stack := by
  intro hid
  have hrequest : table.enter call.stack id ∈ call.requests table :=
    mem_requestsFor.mpr ⟨_, hname, List.mem_singleton_self _⟩
  rw [← TypeTable.answer_step_resolver] at hanswer
  obtain ⟨answer, hperform⟩ := Resolver.perform_of_answer_step hanswer hrequest
  rw [enter_of_mem hid] at hperform
  cases hperform

/-- A use of a name is answered by what the name stands for. -/
theorem answer_named {use : Expr} {name : String} (hform : TypeForm.ofExpr use = .named name)
    (hbuiltin : builtinSchema? name = none) :
    table.resolver.answer (.type stack use) = table.resolver.perform (table.enter stack name) := by
  calc
    table.resolver.answer (.type stack use)
        = resolveType table table.resolver stack use := (table.type_resolver stack use).symm
    _ = resolveName table table.resolver stack name := by
        rw [TypeForm.resolveType_eq, hform, TypeForm.resolve_named]
    _ = table.resolver.perform (table.enter stack name) := resolveName_eq _ _ _ _ hbuiltin

theorem requests_of_named {use : Expr} {name : String} (hform : TypeForm.ofExpr use = .named name)
    (hbuiltin : builtinSchema? name = none) (henter : table.enter stack name = .ok sub) :
    Call.Requests table (.type stack use) sub :=
  ok_mem_requests.mpr (.inr ⟨name, .inl (TypeForm.name_mem_items.mpr ⟨hform, hbuiltin⟩), henter⟩)

theorem answer_class {use : Expr} {name : String} {definition : ClassDef}
    (hform : TypeForm.ofExpr use = .named name) (hbuiltin : builtinSchema? name = none)
    (hclass : table.classes.get? name = some definition) (hname : name ∉ stack) :
    table.resolver.answer (.type stack use) =
      table.resolver.answer (.classType (stack ++ [name]) definition) := by
  rw [answer_named hform hbuiltin, enter_eq_ok_iff.mpr ⟨hname, .inl ⟨definition, hclass, rfl⟩⟩,
    Resolver.perform_ok]

/-! ### Answers under moved stacks -/

/-- The rules under stacks that are moved before they are used. -/
def Resolver.along (resolver : Resolver) (move : List String → List String) : Resolver where
  type stack expr := resolver.type (move stack) expr
  classType stack definition := resolver.classType (move stack) definition

@[simp]
theorem Resolver.answer_along (resolver : Resolver) (move : List String → List String)
    (call : Call) :
    (resolver.along move).answer call = resolver.answer (call.withStack (move call.stack)) := by
  cases call <;> rfl

/-- A moved stack does for a name what the stack does: it holds the name if the stack does,
and the name can as well be entered before the stack is moved. -/
structure Follows (move : List String → List String) (stack : List String) (id : String) :
    Prop where
  mem_iff : id ∈ move stack ↔ id ∈ stack
  push : move (stack ++ [id]) = move stack ++ [id]

variable {move : List String → List String}

theorem Follows.contains_eq {id : String} (hid : Follows move stack id) :
    (move stack).contains id = stack.contains id := by
  rw [Bool.eq_iff_iff, List.contains_iff_mem, List.contains_iff_mem]
  exact hid.mem_iff

/-- A base is taken up alike along a change of the stack. -/
theorem addBase_along (resolver : Resolver) (members : Members) {base : Expr}
    (hbase : .base base.genericName ∈ baseItems table base →
      Follows move stack base.genericName) :
    addBase table resolver (move stack) members base =
      addBase table (resolver.along move) stack members base := by
  cases hentries : entriesOf? base with
  | some value =>
      rw [addBase_eq_typed _ _ _ _ hentries, addBase_eq_typed _ _ _ _ hentries]
      rfl
  | none =>
      rw [addBase_eq_inheritFrom _ _ _ _ hentries, addBase_eq_inheritFrom _ _ _ _ hentries]
      unfold addBase.inheritFrom
      cases hclass : table.classes.get? base.genericName with
      | none => rfl
      | some definition =>
          have hfollows : Follows move stack base.genericName :=
            hbase (mem_baseItems.mpr (.inr ⟨hentries, by rw [hclass]; rfl, rfl⟩))
          simp only [hfollows.contains_eq, ← hfollows.push]
          rfl

theorem foldlM_congr_mem {α β : Type} {f g : α → β → Resolved α} {xs : List β}
    (hsame : ∀ x ∈ xs, ∀ state, f state x = g state x) (state : α) :
    xs.foldlM f state = xs.foldlM g state := by
  induction xs generalizing state with
  | nil => rfl
  | cons x xs ih =>
      rw [List.foldlM_cons, List.foldlM_cons, hsame x List.mem_cons_self]
      exact bind_congr fun next => ih (fun y hy => hsame y (List.mem_cons_of_mem x hy)) next

theorem resolveName_along (resolver : Resolver) {id : String} (hid : Follows move stack id) :
    resolveName table resolver (move stack) id =
      resolveName table (resolver.along move) stack id := by
  simp only [resolveName, hid.contains_eq, ← hid.push]
  rfl

/-- A call under a moved stack is answered as if the stack were moved one step deeper. -/
theorem Resolver.answer_step_along (resolver : Resolver)
    (hmove : ∀ id, (.name id ∈ call.items table ∨ .base id ∈ call.items table) →
      Follows move call.stack id) :
    (resolver.step table).answer (call.withStack (move call.stack)) =
      ((resolver.along move).step table).answer call := by
  cases call with
  | type stack expr =>
      change resolveType table resolver (move stack) expr =
        resolveType table (resolver.along move) stack expr
      rw [TypeForm.resolveType_eq, TypeForm.resolveType_eq]
      cases hform : TypeForm.ofExpr expr with
      | named id =>
          rw [TypeForm.resolve_named, TypeForm.resolve_named]
          cases hbuiltin : builtinSchema? id with
          | some schema => simp only [resolveName, hbuiltin]
          | none =>
              refine resolveName_along resolver (hmove id (.inl ?_))
              exact TypeForm.name_mem_items.mpr ⟨hform, hbuiltin⟩
      | settled result => rw [TypeForm.resolve_settled, TypeForm.resolve_settled]
      | same inside =>
          rw [TypeForm.resolve_same, TypeForm.resolve_same]
          rfl
      | listOf item =>
          rw [TypeForm.resolve_listOf, TypeForm.resolve_listOf]
          rfl
      | mappingTo value =>
          rw [TypeForm.resolve_mappingTo, TypeForm.resolve_mappingTo]
          rfl
      | tupleOf exprs =>
          rw [TypeForm.resolve_tupleOf, TypeForm.resolve_tupleOf]
          rfl
      | unionOf members =>
          rw [TypeForm.resolve_unionOf, TypeForm.resolve_unionOf]
          rfl
  | classType stack definition =>
      change resolveClass table resolver (move stack) definition =
        resolveClass table (resolver.along move) stack definition
      cases henum : (definition.bases.map Expr.genericName).any enumBases.contains with
      | true => simp only [resolveClass, henum, if_true]
      | false =>
          cases htuple : (definition.bases.map Expr.genericName).contains "NamedTuple" with
          | true =>
              simp only [resolveClass, henum, htuple, if_true]
              rfl
          | false =>
              have hitems : classItems table definition = _ :=
                classItems_of_hasMembers (hasMembers_iff.mpr ⟨henum, htuple⟩)
              have hbases :
                  definition.bases.foldlM (addBase table resolver (move stack)) .empty =
                    definition.bases.foldlM (addBase table (resolver.along move) stack)
                      .empty := by
                refine foldlM_congr_mem (fun base hbase members =>
                  addBase_along resolver members fun hitem => hmove _ (.inr ?_)) _
                rw [Call.items, hitems]
                exact List.mem_append_left _ (List.mem_flatMap.mpr ⟨base, hbase, hitem⟩)
              simp only [resolveClass, henum, htuple, hbases]
              rfl

/-! ### Answers below further names -/

/-- The rules below further names. -/
def Resolver.under (resolver : Resolver) (outer : List String) : Resolver where
  type stack expr := resolver.type (outer ++ stack) expr
  classType stack definition := resolver.classType (outer ++ stack) definition

@[simp]
theorem Resolver.answer_under (resolver : Resolver) (outer : List String) (call : Call) :
    (resolver.under outer).answer call = resolver.answer (call.under outer) := by
  cases call <;> rfl

/-- A call below further names that it does not come to is answered as if they were not
there. -/
theorem Resolver.answer_step_under (resolver : Resolver)
    (houter : ∀ id, (.name id ∈ call.items table ∨ .base id ∈ call.items table) → id ∉ outer) :
    (resolver.step table).answer (call.under outer) =
      ((resolver.under outer).step table).answer call := by
  apply answer_step_along
  intro id hitem
  constructor
  · simp [houter id hitem]
  · exact (List.append_assoc outer call.stack [id]).symm

end RouteScribe.Schema
