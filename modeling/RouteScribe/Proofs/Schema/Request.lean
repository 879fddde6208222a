import Mathlib.Data.List.Forall2
import Mathlib.Tactic.Basic
import RouteScribe.Schema.Resolve

/-!
# What a rule asks for

A rule for a type or for a class asks the rules one step deeper for schemas and puts
the answers together.  What it asks for are items of the type or of the class, whatever
the stack and the answers are: parts, which are resolved under the same stack, and names
and bases, which are entered.  The stack turns the items into requests, in which one that
cannot be made stands with its error, and the rule stops at the first request that has
no answer.
-/

namespace RouteScribe.Schema

open RouteScribe.Json RouteScribe.Source

/-! ### Collecting answers -/

section Collecting

variable {α β γ : Type} {f g : α → Resolved β}

theorem map_eq_error_iff {result : Resolved α} {h : α → γ} {err : ResolveError} :
    h <$> result = .error err ↔ result = .error err := by
  cases result with
  | ok value => simp [Functor.map, Except.map]
  | error other => simp [Functor.map, Except.map]

theorem bind_eq_ok {result : Resolved α} {next : α → Resolved γ} {value : γ}
    (hbind : result >>= next = .ok value) :
    ∃ found, result = .ok found ∧ next found = .ok value := by
  cases result with
  | ok found => exact ⟨found, rfl, hbind⟩
  | error err => cases hbind

/-- Going through a list succeeds exactly if each step gives its own result. -/
theorem mapM_eq_ok_iff {xs : List α} {ys : List β} :
    xs.mapM f = .ok ys ↔ List.Forall₂ (fun x y => f x = .ok y) xs ys := by
  induction xs generalizing ys with
  | nil =>
      rw [List.forall₂_nil_left_iff, List.mapM_nil]
      exact ⟨fun h => (Except.ok.inj h).symm, fun h => h ▸ rfl⟩
  | cons x xs ih =>
      rw [List.mapM_cons, List.forall₂_cons_left_iff]
      constructor
      · intro hmap
        cases hx : f x with
        | error err => simp [hx, bind, Except.bind] at hmap
        | ok y =>
            cases hxs : xs.mapM f with
            | error err => simp [hx, hxs, bind, Except.bind] at hmap
            | ok rest =>
                simp only [hx, hxs, bind, Except.bind, pure, Except.pure, Except.ok.injEq] at hmap
                exact ⟨y, rest, rfl, ih.mp hxs, hmap.symm⟩
      · rintro ⟨y, rest, hx, hxs, rfl⟩
        rw [hx, ih.mpr hxs]
        rfl

theorem exists_of_mapM_eq_ok {xs : List α} {ys : List β} (hmap : xs.mapM f = .ok ys) {x : α}
    (hx : x ∈ xs) : ∃ y, f x = .ok y := by
  induction mapM_eq_ok_iff.mp hmap with
  | nil => cases hx
  | cons hhead htail ih =>
      rcases List.mem_cons.mp hx with rfl | hx
      · exact ⟨_, hhead⟩
      · exact ih (mapM_eq_ok_iff.mpr htail) hx

/-- Collecting fails with the error of the first element that has no answer. -/
theorem mapM_eq_error_iff {xs : List α} {err : ResolveError} :
    xs.mapM f = .error err ↔
      ∃ before x after, xs = before ++ x :: after ∧ (∀ y ∈ before, ∃ v, f y = .ok v) ∧
        f x = .error err := by
  induction xs with
  | nil =>
      constructor
      · intro hmap
        cases hmap
      · rintro ⟨before, x, after, hsplit, -⟩
        simp at hsplit
  | cons x xs ih =>
      rw [List.mapM_cons]
      constructor
      · intro hmap
        cases hx : f x with
        | error other =>
            simp only [hx, bind, Except.bind, Except.error.injEq] at hmap
            exact ⟨[], x, xs, rfl, by simp, by rw [hx, hmap]⟩
        | ok y =>
            cases hxs : xs.mapM f with
            | ok rest => simp [hx, hxs, bind, Except.bind, pure, Except.pure] at hmap
            | error other =>
                simp only [hx, hxs, bind, Except.bind, Except.error.injEq] at hmap
                obtain ⟨before, z, after, rfl, hbefore, hz⟩ := ih.mp (hmap ▸ hxs)
                refine ⟨x :: before, z, after, rfl, ?_, hz⟩
                simpa using ⟨⟨y, hx⟩, hbefore⟩
      · rintro ⟨before, z, after, hsplit, hbefore, hz⟩
        cases before with
        | nil =>
            cases hsplit
            rw [hz]
            rfl
        | cons first before =>
            cases hsplit
            obtain ⟨y, hx⟩ := hbefore x List.mem_cons_self
            have hrest := ih.mpr ⟨before, z, after, rfl,
              fun w hw => hbefore w (List.mem_cons_of_mem _ hw), hz⟩
            rw [hx, hrest]
            rfl

/-- Only the elements that are reached matter. -/
theorem mapM_congr_reached {xs : List α}
    (hsame : ∀ before x after, xs = before ++ x :: after → (∀ y ∈ before, ∃ v, f y = .ok v) →
      g x = f x) : xs.mapM g = xs.mapM f := by
  induction xs with
  | nil => rfl
  | cons x xs ih =>
      rw [List.mapM_cons, List.mapM_cons, hsame [] x xs rfl (by simp)]
      cases hx : f x with
      | error err => rfl
      | ok y =>
          rw [ih fun before z after hsplit hbefore => ?_]
          refine hsame (x :: before) z after (by rw [hsplit]; rfl) ?_
          simpa using ⟨⟨y, hx⟩, hbefore⟩

end Collecting

/-! ### Calls -/

/-- A use of the rule for types or of the rule for classes. -/
inductive Call where
  | type (stack : List String) (expr : Expr)
  | classType (stack : List String) (definition : ClassDef)

/-- The names that are being resolved when a rule is used. -/
def Call.stack : Call → List String
  | .type stack _ => stack
  | .classType stack _ => stack

namespace Resolver

def answer (resolver : Resolver) : Call → Resolved Schema
  | .type stack expr => resolver.type stack expr
  | .classType stack definition => resolver.classType stack definition

/-- The answer to a request, if the request can be made. -/
def perform (resolver : Resolver) (request : Resolved Call) : Resolved Schema := do
  resolver.answer (← request)

/-- The rules on top of the ones for what lies one step deeper. -/
def step (table : TypeTable) (inner : Resolver) : Resolver where
  type := resolveType table inner
  classType := resolveClass table inner

@[simp]
theorem perform_ok (resolver : Resolver) (call : Call) :
    resolver.perform (.ok call) = resolver.answer call := rfl

@[simp]
theorem perform_error (resolver : Resolver) (err : ResolveError) :
    resolver.perform (.error err) = .error err := rfl

end Resolver

/-- The call that enters a name, unless the name is being resolved already or is not
in the table. -/
def TypeTable.enter (table : TypeTable) (stack : List String) (name : String) : Resolved Call :=
  if stack.contains name then throw (.fault (.recursive name))
  else if let some definition := table.classes.get? name then
    pure (.classType (stack ++ [name]) definition)
  else if let some target := table.aliases.get? name then pure (.type (stack ++ [name]) target)
  else throw (.fault (.unknown name))

/-- Something that a rule asks for. -/
inductive Item where
  /-- A part of the type or of the class, if it is there. -/
  | part (expr : Resolved Expr)
  /-- A name that must not be on the stack. -/
  | name (id : String)
  /-- A class of the table that is left out if it is on the stack. -/
  | base (id : String)

def Item.requests (table : TypeTable) (stack : List String) : Item → List (Resolved Call)
  | .part expr => [do return .type stack (← expr)]
  | .name id => [table.enter stack id]
  | .base id => if stack.contains id then [] else [table.enter stack id]

@[simp]
theorem Item.requests_part_ok (table : TypeTable) (stack : List String) (expr : Expr) :
    (Item.part (.ok expr)).requests table stack = [.ok (.type stack expr)] := rfl

def requestsFor (table : TypeTable) (stack : List String) (items : List Item) :
    List (Resolved Call) :=
  items.flatMap (Item.requests table stack)

@[simp]
theorem requestsFor_nil (table : TypeTable) (stack : List String) :
    requestsFor table stack [] = [] := rfl

@[simp]
theorem requestsFor_cons (table : TypeTable) (stack : List String) (item : Item)
    (items : List Item) :
    requestsFor table stack (item :: items) =
      item.requests table stack ++ requestsFor table stack items := rfl

@[simp]
theorem requestsFor_append (table : TypeTable) (stack : List String) (items more : List Item) :
    requestsFor table stack (items ++ more) =
      requestsFor table stack items ++ requestsFor table stack more :=
  List.flatMap_append

theorem requestsFor_parts {α : Type} (table : TypeTable) (stack : List String) (part : α → Expr)
    (xs : List α) :
    requestsFor table stack (xs.map fun x => .part (.ok (part x))) =
      xs.map fun x => .ok (.type stack (part x)) := by
  rw [requestsFor, List.flatMap_map, List.map_eq_flatMap]
  rfl

/-- A name that is not built in is resolved by entering it. -/
theorem resolveName_eq (table : TypeTable) (inner : Resolver) (stack : List String)
    (name : String) (hbuiltin : builtinSchema? name = none) :
    resolveName table inner stack name = inner.perform (table.enter stack name) := by
  simp only [resolveName, hbuiltin, TypeTable.enter]
  split
  · rfl
  · cases table.classes.get? name with
    | some definition => rfl
    | none =>
        cases table.aliases.get? name with
        | some target => rfl
        | none => rfl

/-! ### Types -/

/-- What a type expression comes to, one step down. -/
inductive TypeForm where
  /-- A schema of its own, or none. -/
  | settled (result : Resolved Schema)
  | named (name : String)
  /-- The same type in other words. -/
  | same (expr : Expr)
  | listOf (item : Expr)
  | mappingTo (value : Expr)
  | tupleOf (items : List Expr)
  | unionOf (members : List Expr)

namespace TypeForm

/-- The form that an argument gives, if the argument is there. -/
def ofArgument (argument : Resolved Expr) (form : Expr → TypeForm) : TypeForm :=
  match argument with
  | .ok arg => form arg
  | .error err => .settled (.error err)

def ofSubscript (base : String) (args : List Expr) : TypeForm :=
  if base = "Optional" then ofArgument (firstArgument args) .same
  else if base = "Union" then .unionOf (args.filter (!isNone ·))
  else if wrapperTypes.contains base then ofArgument (firstArgument args) .same
  else if base = "Literal" then .settled (literalSchema args)
  else if listTypes.contains base then ofArgument (firstArgument args) .listOf
  else if tupleTypes.contains base then
    match args with
    | [item, .literal .ellipsis] => .listOf item
    | items => .tupleOf items
  else if mappingTypes.contains base then ofArgument (lastArgument args) .mappingTo
  else .named base

def ofExpr : Expr → TypeForm
  | .literal .none => .settled (pure (.primitive .null none))
  | .literal (.str text _) =>
      match readExpression? text with
      | some expr => .same expr
      | none => .settled (throw (.ofText text (.badReference text)))
  | .literal value => .settled (throw (.fault (.notAType value)))
  | .name id => .named id
  | .attribute _ member => .named member
  | .binary left .bitOr right =>
      .unionOf ((unionMembers (.binary left .bitOr right)).filter (!isNone ·))
  | .subscript value index => ofSubscript value.simpleName index.subscriptArgs
  | expr => .settled (throw (.fault (.unsupportedForm expr)))

theorem ofExpr_text {text : String} {isMarked : Bool} {expr : Expr}
    (hread : readExpression? text = some expr) :
    ofExpr (.literal (.str text isMarked)) = .same expr := by
  rw [ofExpr, hread]

def items : TypeForm → List Item
  | .settled (.ok _) => []
  | .settled (.error err) => [.part (.error err)]
  | .named name => if (builtinSchema? name).isSome then [] else [.name name]
  | .same expr | .listOf expr | .mappingTo expr => [.part (.ok expr)]
  | .tupleOf exprs | .unionOf exprs => exprs.map fun expr => .part (.ok expr)

/-- The schema of a form from the answers to its requests. -/
def finish : TypeForm → List Schema → Resolved Schema
  | .settled result, _ => result
  | .named name, answers => pure ((builtinSchema? name).getD (answers.headD .any))
  | .same _, answers => pure (answers.headD .any)
  | .listOf _, answers => pure (.list (answers.headD .any))
  | .mappingTo _, answers => pure (mappingSchema (.typed (answers.headD .any)))
  | .tupleOf _, answers => pure (.tuple answers)
  | .unionOf _, answers => unionSchema answers

/-- The schema of a form by the rules one step deeper. -/
def resolve (table : TypeTable) (inner : Resolver) (stack : List String) (form : TypeForm) :
    Resolved Schema := do
  form.finish (← (requestsFor table stack form.items).mapM inner.perform)

section Resolve

variable (table : TypeTable) (inner : Resolver) (stack : List String)

theorem resolve_settled (result : Resolved Schema) :
    (settled result).resolve table inner stack = result := by
  cases result with
  | ok schema => rfl
  | error err => rfl

theorem resolve_named (name : String) :
    (named name).resolve table inner stack = resolveName table inner stack name := by
  cases hbuiltin : builtinSchema? name with
  | some schema => simp [resolve, items, finish, resolveName, hbuiltin]
  | none =>
      rw [resolveName_eq table inner stack name hbuiltin]
      simp [resolve, items, Item.requests, finish, hbuiltin]

theorem resolve_same (expr : Expr) :
    (same expr).resolve table inner stack = inner.type stack expr := by
  simp [resolve, items, finish, Resolver.answer]

theorem resolve_listOf (item : Expr) :
    (listOf item).resolve table inner stack = (do return .list (← inner.type stack item)) := by
  simp [resolve, items, finish, Resolver.answer]

theorem resolve_mappingTo (value : Expr) :
    (mappingTo value).resolve table inner stack =
      (do return mappingSchema (.typed (← inner.type stack value))) := by
  simp [resolve, items, finish, Resolver.answer]

theorem resolve_tupleOf (exprs : List Expr) :
    (tupleOf exprs).resolve table inner stack =
      (do return .tuple (← exprs.mapM (inner.type stack))) := by
  simp only [resolve, items, finish, requestsFor_parts, List.mapM_map]
  rfl

theorem resolve_unionOf (members : List Expr) :
    (unionOf members).resolve table inner stack =
      (do unionSchema (← members.mapM (inner.type stack))) := by
  simp only [resolve, items, finish, requestsFor_parts, List.mapM_map]
  rfl

theorem resolve_ofArgument (argument : Resolved Expr) (form : Expr → TypeForm) :
    (ofArgument argument form).resolve table inner stack =
      (do (form (← argument)).resolve table inner stack) := by
  cases argument with
  | ok arg => rfl
  | error err => rfl

/-- The form of a subscript resolves as the subscript does. -/
theorem resolve_ofSubscript (base : String) (args : List Expr) :
    (ofSubscript base args).resolve table inner stack =
      resolveSubscript table inner stack base args := by
  unfold ofSubscript resolveSubscript
  split_ifs
  · rw [resolve_ofArgument]
    simp only [resolve_same]
  · rw [resolve_unionOf]
    rfl
  · rw [resolve_ofArgument]
    simp only [resolve_same]
  · rw [resolve_settled]
  · rw [resolve_ofArgument]
    simp only [resolve_listOf]
  · split
    · rw [resolve_listOf, resolveTuple]
    · rename_i hnot
      rw [resolve_tupleOf, resolveTuple]
      exact hnot
  · rw [resolve_ofArgument]
    simp only [resolve_mappingTo]
  · rw [resolve_named]

/-- The form of a type resolves as the type does. -/
theorem resolveType_eq (expr : Expr) :
    resolveType table inner stack expr = (ofExpr expr).resolve table inner stack := by
  fun_cases ofExpr expr with
  | case1 => rw [resolve_settled, resolveType]
  | case2 text isMarked inside hread => rw [resolve_same, resolveType, hread]
  | case3 text isMarked hread => rw [resolve_settled, resolveType, hread]
  | case4 value hnone hstr =>
      rw [resolve_settled, resolveType]
      · exact hnone
      · exact hstr
  | case5 id => rw [resolve_named, resolveType]
  | case6 value member => rw [resolve_named, resolveType]
  | case7 left right =>
      rw [resolve_unionOf, resolveType]
      rfl
  | case8 value index => rw [resolve_ofSubscript, resolveType]
  | case9 expr => rw [resolve_settled, resolveType] <;> assumption

end Resolve

end TypeForm

/-! ### Classes -/

/-- A rule asks for some calls in order and puts the answers together. -/
def Asks {α : Type} (rule : Resolver → Resolved α) (requests : List (Resolved Call)) : Prop :=
  ∃ finish : List Schema → α, ∀ resolver : Resolver,
    rule resolver = finish <$> requests.mapM resolver.perform

namespace Asks

variable {α β : Type} {rule : Resolver → Resolved α} {requests : List (Resolved Call)}

theorem nothing (value : α) : Asks (fun _ => pure value) [] :=
  ⟨fun _ => value, fun _ => rfl⟩

theorem one (request : Resolved Call) : Asks (·.perform request) [request] := by
  refine ⟨(·.headD .any), fun resolver => ?_⟩
  simp

theorem type (stack : List String) (expr : Expr) :
    Asks (·.type stack expr) [.ok (.type stack expr)] :=
  one (.ok (.type stack expr))

theorem classType (stack : List String) (definition : ClassDef) :
    Asks (·.classType stack definition) [.ok (.classType stack definition)] :=
  one (.ok (.classType stack definition))

theorem map (f : α → β) (hrule : Asks rule requests) :
    Asks (fun resolver => f <$> rule resolver) requests := by
  obtain ⟨finish, hfinish⟩ := hrule
  refine ⟨f ∘ finish, fun resolver => ?_⟩
  simp only [hfinish, Functor.map_map, Function.comp_def]

/-- A rule and the rule behind it ask one after the other. -/
theorem bind {next : α → Resolver → Resolved β} {more : List (Resolved Call)}
    (hrule : Asks rule requests) (hnext : ∀ value, Asks (next value) more) :
    Asks (fun resolver => rule resolver >>= fun value => next value resolver)
      (requests ++ more) := by
  obtain ⟨finish, hfinish⟩ := hrule
  choose finishNext hfinishNext using hnext
  -- The answers to the first requests come first, and there are as many of them.
  refine ⟨fun answers => finishNext (finish (answers.take requests.length))
    (answers.drop requests.length), fun resolver => ?_⟩
  simp only [hfinish, hfinishNext, List.mapM_append]
  cases hfirst : requests.mapM resolver.perform with
  | error err => rfl
  | ok firsts =>
      have hlength := (mapM_eq_ok_iff.mp hfirst).length_eq
      cases more.mapM resolver.perform with
      | error err => rfl
      | ok seconds =>
          change Except.ok (finishNext (finish firsts) seconds) =
            Except.ok (finishNext (finish ((firsts ++ seconds).take requests.length))
              ((firsts ++ seconds).drop requests.length))
          rw [hlength, List.take_left, List.drop_left]

theorem foldlM {step : Resolver → α → β → Resolved α} {asked : β → List (Resolved Call)}
    (hstep : ∀ state x, Asks (step · state x) (asked x)) (xs : List β) (state : α) :
    Asks (fun resolver => xs.foldlM (step resolver) state) (xs.flatMap asked) := by
  induction xs generalizing state with
  | nil => exact .nothing state
  | cons x xs ih =>
      simp only [List.foldlM_cons, List.flatMap_cons]
      exact (hstep state x).bind ih

theorem types (stack : List String) (hint : β → Expr) (xs : List β) :
    Asks (fun resolver => xs.mapM fun x => resolver.type stack (hint x))
      (xs.map fun x => .ok (.type stack (hint x))) := by
  refine ⟨id, fun resolver => ?_⟩
  rw [id_map, List.mapM_map]
  rfl

end Asks

/-- The shape of further entries that a base gives, if it is a mapping type with
arguments. -/
def entriesOf? : Expr → Option (Resolved Expr)
  | .subscript value index =>
      if mappingTypes.contains value.simpleName then some (lastArgument index.subscriptArgs)
      else none
  | _ => none

section Class

variable (table : TypeTable) (stack : List String)

def baseItems (base : Expr) : List Item :=
  match entriesOf? base with
  | some value => [.part value]
  | none => if (table.classes.get? base.genericName).isSome then [.base base.genericName] else []

def fieldItems (definition : ClassDef) : List Item :=
  (fieldsOf definition.body).map fun field => .part (.ok field.hint)

def extraItems (definition : ClassDef) : List Item :=
  match keywordValue? definition.keywords "extra_items" with
  | some type => [.part (.ok type)]
  | none => []

def classItems (definition : ClassDef) : List Item :=
  let baseNames := definition.bases.map Expr.genericName
  if baseNames.any enumBases.contains then []
  else if baseNames.contains "NamedTuple" then fieldItems definition
  else
    definition.bases.flatMap (baseItems table) ++ (extraItems definition ++ fieldItems definition)

theorem asks_inheritFrom (members : Members) (base : Expr) (hentries : entriesOf? base = none) :
    Asks (addBase.inheritFrom table · stack members base.genericName)
      (requestsFor table stack (baseItems table base)) := by
  simp only [baseItems, addBase.inheritFrom, hentries]
  cases hclass : table.classes.get? base.genericName with
  | none => exact .nothing members
  | some definition =>
      simp only [Option.isSome_some, if_true, requestsFor_cons, requestsFor_nil, Item.requests,
        TypeTable.enter, hclass]
      split
      · exact .nothing members
      · exact Asks.map members.inherit (.classType _ definition)

/-- A base that is no mapping type with arguments is taken over as a class. -/
theorem addBase_eq_inheritFrom (inner : Resolver) (members : Members) {base : Expr}
    (hentries : entriesOf? base = none) :
    addBase table inner stack members base =
      addBase.inheritFrom table inner stack members base.genericName := by
  cases base with
  | subscript value index =>
      have hmapping : mappingTypes.contains value.simpleName = false := by
        simpa [entriesOf?] using hentries
      simp only [addBase, Expr.genericName, hmapping]
      rfl
  | _ => rfl

/-- A mapping type with arguments gives the shape of further entries. -/
theorem addBase_eq_typed (inner : Resolver) (members : Members) {base : Expr}
    {value : Resolved Expr} (hentries : entriesOf? base = some value) :
    addBase table inner stack members base = (do
      let schema ← inner.type stack (← value)
      return { members with additional := .typed schema }) := by
  cases base with
  | subscript value index =>
      simp only [entriesOf?, Option.ite_none_right_eq_some, Option.some.injEq] at hentries
      obtain ⟨hmapping, rfl⟩ := hentries
      simp only [addBase, Expr.genericName, hmapping, if_true]
  | _ => cases hentries

/-- Taking up a base asks for its items only. -/
theorem asks_addBase (members : Members) (base : Expr) :
    Asks (addBase table · stack members base)
      (requestsFor table stack (baseItems table base)) := by
  cases hentries : entriesOf? base with
  | none =>
      simp only [addBase_eq_inheritFrom _ _ _ _ hentries]
      exact asks_inheritFrom table stack members base hentries
  | some value =>
      simp only [addBase_eq_typed _ _ _ _ hentries, baseItems, hentries]
      cases value with
      | error err => exact Asks.map (fun _ => members) (.one (.error err))
      | ok arg => exact Asks.map _ (.type stack arg)

theorem asks_additionalOf (definition : ClassDef) (inherited : Additional) :
    Asks (additionalOf · stack definition inherited)
      (requestsFor table stack (extraItems definition)) := by
  unfold additionalOf extraItems
  cases keywordValue? definition.keywords "extra_items" with
  | none => exact .nothing _
  | some type => exact Asks.map _ (.type stack type)

theorem asks_addField (total : Bool) (members : Members) (field : Field) :
    Asks (addField · stack total members field) [.ok (.type stack field.hint)] :=
  Asks.map _ (.type stack field.hint)

/-- A class asks for its items only. -/
theorem asks_resolveClass (definition : ClassDef) :
    Asks (resolveClass table · stack definition)
      (requestsFor table stack (classItems table definition)) := by
  have hfields : requestsFor table stack (fieldItems definition) =
      (fieldsOf definition.body).map fun field => .ok (.type stack field.hint) :=
    requestsFor_parts table stack Field.hint _
  unfold resolveClass classItems
  dsimp only
  split
  · exact .nothing _
  · split
    · rw [hfields]
      exact Asks.map _ (.types stack Field.hint _)
    · rw [requestsFor_append, requestsFor_append, requestsFor, List.flatMap_assoc]
      refine Asks.bind (.foldlM (asks_addBase table stack) definition.bases .empty) fun inherited =>
        .bind (asks_additionalOf table stack definition inherited.additional) fun additional => ?_
      have hflat : requestsFor table stack (fieldItems definition) =
          (fieldsOf definition.body).flatMap fun field => [.ok (.type stack field.hint)] :=
        hfields.trans List.map_eq_flatMap
      rw [hflat]
      exact Asks.map _ (.foldlM (asks_addField stack _) _ _)

end Class

/-! ### Calls and their requests -/

/-- What a call asks for, whatever its stack. -/
def Call.items (table : TypeTable) : Call → List Item
  | .type _ expr => (TypeForm.ofExpr expr).items
  | .classType _ definition => classItems table definition

/-- The requests of a call in the order in which they are made. -/
def Call.requests (table : TypeTable) (call : Call) : List (Resolved Call) :=
  requestsFor table call.stack (call.items table)

/-- One call reaches another with a request, because every request before that one has
an answer. -/
def Call.Reaches (table : TypeTable) (resolver : Resolver) (call sub : Call) : Prop :=
  ∃ before after, call.requests table = before ++ .ok sub :: after ∧
    ∀ request ∈ before, ∃ schema, resolver.perform request = .ok schema

theorem Call.Reaches.mem_requests {table : TypeTable} {resolver : Resolver} {call sub : Call}
    (hreaches : call.Reaches table resolver sub) : .ok sub ∈ call.requests table := by
  obtain ⟨before, after, hsplit, -⟩ := hreaches
  rw [hsplit]
  exact List.mem_append_right before List.mem_cons_self

/-- Some answers are refused: a call for a union puts them together and fails. -/
def Call.Refuses (call : Call) (answers : List Schema) (err : ResolveError) : Prop :=
  ∃ stack expr members, call = .type stack expr ∧ TypeForm.ofExpr expr = .unionOf members ∧
    unionSchema answers = .error err

namespace Resolver

variable {table : TypeTable} {resolver other : Resolver} {call : Call}

/-- A call is answered from the answers to its requests. -/
theorem answer_step (table : TypeTable) (call : Call) :
    ∃ finish : List Schema → Resolved Schema,
      (∀ resolver : Resolver, (resolver.step table).answer call =
        (call.requests table).mapM resolver.perform >>= finish) ∧
      ∀ (resolver : Resolver) (answers : List Schema) (err : ResolveError),
        (call.requests table).mapM resolver.perform = .ok answers →
        (finish answers = .error err ↔ call.Refuses answers err) := by
  cases call with
  | type stack expr =>
      refine ⟨(TypeForm.ofExpr expr).finish, fun inner => ?_, fun inner answers err hanswers => ?_⟩
      · exact TypeForm.resolveType_eq table inner stack expr
      · have hrefuses : Call.Refuses (.type stack expr) answers err ↔
            ∃ members, TypeForm.ofExpr expr = .unionOf members ∧
              unionSchema answers = .error err := by
          constructor
          · rintro ⟨_, _, members, heq, hform, hunion⟩
            cases heq
            exact ⟨members, hform, hunion⟩
          · rintro ⟨members, hform, hunion⟩
            exact ⟨stack, expr, members, rfl, hform, hunion⟩
        rw [hrefuses]
        simp only [Call.requests, Call.items] at hanswers
        cases hform : TypeForm.ofExpr expr with
        | unionOf members => simp [TypeForm.finish]
        | settled result =>
            cases result with
            | ok schema => simp [TypeForm.finish]
            | error first =>
                rw [hform] at hanswers
                cases hanswers
        | _ => simp [TypeForm.finish, pure, Except.pure]
  | classType stack definition =>
      obtain ⟨finish, hfinish⟩ := asks_resolveClass table stack definition
      refine ⟨fun answers => pure (finish answers), fun inner => ?_, ?_⟩
      · rw [← map_eq_pure_bind]
        exact hfinish inner
      · rintro inner answers err -
        constructor
        · intro herror
          cases herror
        · rintro ⟨_, _, _, heq, -⟩
          cases heq

/-- A call fails with its first failing request, or refuses answers that are all there. -/
theorem answer_step_eq_error_iff {err : ResolveError} :
    (resolver.step table).answer call = .error err ↔
      (∃ before request after, call.requests table = before ++ request :: after ∧
        (∀ earlier ∈ before, ∃ schema, resolver.perform earlier = .ok schema) ∧
        resolver.perform request = .error err) ∨
      ∃ answers, (call.requests table).mapM resolver.perform = .ok answers ∧
        call.Refuses answers err := by
  obtain ⟨finish, hanswer, hrefuses⟩ := answer_step table call
  rw [hanswer, ← mapM_eq_error_iff]
  cases hmap : (call.requests table).mapM resolver.perform with
  | error first => simp [bind, Except.bind]
  | ok answers =>
      have hfinish := hrefuses resolver answers err hmap
      simpa [bind, Except.bind] using hfinish

theorem perform_of_answer_step {schema : Schema}
    (hanswer : (resolver.step table).answer call = .ok schema) {request : Resolved Call}
    (hrequest : request ∈ call.requests table) :
    ∃ answer, resolver.perform request = .ok answer := by
  obtain ⟨finish, hstep, -⟩ := answer_step table call
  rw [hstep] at hanswer
  cases hmap : (call.requests table).mapM resolver.perform with
  | error err => simp [hmap, bind, Except.bind] at hanswer
  | ok answers =>
      exact exists_of_mapM_eq_ok hmap hrequest

/-- A call is answered alike by rules that agree on what it reaches. -/
theorem answer_step_congr
    (hsame : ∀ sub, call.Reaches table resolver sub → other.answer sub = resolver.answer sub) :
    (other.step table).answer call = (resolver.step table).answer call := by
  obtain ⟨finish, hanswer, -⟩ := answer_step table call
  rw [hanswer, hanswer, mapM_congr_reached]
  intro before request after hsplit hbefore
  cases request with
  | error err => rfl
  | ok sub => exact hsame sub ⟨before, after, hsplit, hbefore⟩

end Resolver

end RouteScribe.Schema
