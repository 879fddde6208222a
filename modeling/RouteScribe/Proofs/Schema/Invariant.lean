import RouteScribe.Proofs.Schema.Failure

/-!
# What every rule keeps

The rules build a schema out of the schemas one step deeper.  The one place where they
look inside a schema is a class that takes over the members of its bases, so the members
collected so far carry an invariant from base to base and from field to field.

An invariant is a property of schemas and one of members, with a law for each way in which
the rules make the one or the other.  The laws suffice for all answers at every depth.
-/

namespace RouteScribe.Schema

open RouteScribe.Source

/-! ### Results of the rules -/

/-- Whatever a result holds has a property. -/
def Yields {α : Type} (holds : α → Prop) (result : Resolved α) : Prop :=
  ∀ ⦃value : α⦄, result = .ok value → holds value

namespace Yields

variable {α β : Type} {holds : α → Prop}

theorem ok {value : α} (hvalue : holds value) : Yields holds (.ok value) := by
  intro found hfound
  cases hfound
  exact hvalue

theorem error {err : ResolveError} : Yields holds (.error err) := by
  intro found hfound
  cases hfound

theorem anything {result : Resolved α} : Yields (fun _ => True) result :=
  fun _ _ => trivial

theorem bind {first : Resolved β} {next : β → Resolved α} {holdsFirst : β → Prop}
    (hfirst : Yields holdsFirst first)
    (hnext : ∀ value, holdsFirst value → Yields holds (next value)) :
    Yields holds (first >>= next) := by
  intro value hvalue
  obtain ⟨middle, hmiddle, hnextValue⟩ := bind_eq_ok hvalue
  exact hnext middle (hfirst hmiddle) hnextValue

theorem mapM {act : β → Resolved α} {xs : List β} (hact : ∀ x, Yields holds (act x)) :
    Yields (∀ value ∈ ·, holds value) (xs.mapM act) := by
  intro values hvalues
  induction mapM_eq_ok_iff.mp hvalues with
  | nil => simp
  | @cons x value xs values hx hxs ih =>
      have hrest := ih (mapM_eq_ok_iff.mpr hxs)
      exact List.forall_mem_cons.mpr ⟨hact x hx, hrest⟩

/-- What every step keeps holds of the outcome of a run. -/
theorem foldlM {step : α → β → Resolved α}
    (hstep : ∀ state x, holds state → Yields holds (step state x)) (xs : List β) {state : α}
    (hstate : holds state) : Yields holds (xs.foldlM step state) := by
  induction xs generalizing state with
  | nil => exact ok hstate
  | cons x xs ih =>
      rw [List.foldlM_cons]
      exact bind (hstep state x hstate) fun _ hnext => ih hnext

end Yields

/-! ### Types that are settled -/

namespace TypeForm

/-- An argument that is there does not settle a type. -/
theorem ofArgument_ne_settled_ok {argument : Resolved Expr} {form : Expr → TypeForm}
    (hform : ∀ arg result, form arg ≠ .settled result) (schema : Schema) :
    ofArgument argument form ≠ .settled (.ok schema) := by
  cases argument with
  | ok arg => exact hform arg _
  | error err =>
      intro hsettled
      cases hsettled

theorem literals_of_ofSubscript {base : String} {args : List Expr} {schema : Schema}
    (hsettled : ofSubscript base args = .settled (.ok schema)) :
    literalSchema args = .ok schema := by
  unfold ofSubscript at hsettled
  split_ifs at hsettled with hoptional hunion hwrapper hliteral hlist htuple hmapping
  · exact absurd hsettled (ofArgument_ne_settled_ok (by simp) schema)
  · exact absurd hsettled (ofArgument_ne_settled_ok (by simp) schema)
  · exact TypeForm.settled.inj hsettled
  · exact absurd hsettled (ofArgument_ne_settled_ok (by simp) schema)
  · split at hsettled
    · cases hsettled
    · cases hsettled
  · exact absurd hsettled (ofArgument_ne_settled_ok (by simp) schema)

/-- A type with a schema of its own is the type of nothing or one of literals. -/
theorem null_or_literals_of_ofExpr {expr : Expr} {schema : Schema}
    (hsettled : ofExpr expr = .settled (.ok schema)) :
    schema = .primitive .null none ∨ ∃ args, literalSchema args = .ok schema := by
  revert hsettled
  fun_cases ofExpr expr with
  | case1 =>
      intro hsettled
      cases hsettled
      exact .inl rfl
  | case8 value index =>
      intro hsettled
      exact .inr ⟨_, literals_of_ofSubscript hsettled⟩
  | _ =>
      intro hsettled
      cases hsettled

end TypeForm

/-! ### Invariants -/

/-- A class whose members are the values of its schema. -/
def IsEnumeration (definition : ClassDef) : Prop :=
  (definition.bases.map Expr.genericName).any enumBases.contains = true

instance (definition : ClassDef) : Decidable (IsEnumeration definition) :=
  inferInstanceAs (Decidable (_ = true))

/-- A property of schemas and one of members that the rules keep, as long as they enter
known classes. -/
structure Invariant (known : ClassDef → Prop) (holds : Schema → Prop)
    (holdsMembers : Members → Prop) : Prop where
  null : holds (.primitive .null none)
  builtin : ∀ {name schema}, builtinSchema? name = some schema → holds schema
  literals : ∀ args, Yields holds (literalSchema args)
  enumeration : ∀ {definition : ClassDef}, known definition → IsEnumeration definition →
    holds (enumSchema (definition.bases.map Expr.genericName) definition.body)
  list : ∀ {item}, holds item → holds (.list item)
  tuple : ∀ {items : List Schema}, (∀ item ∈ items, holds item) → holds (.tuple items)
  mapping : ∀ {value}, holds value → holds (mappingSchema (.typed value))
  union : ∀ {members : List Schema}, (∀ member ∈ members, holds member) →
    Yields holds (unionSchema members)
  empty : holdsMembers .empty
  inherit : ∀ {members schema}, holdsMembers members → holds schema →
    holdsMembers (members.inherit schema)
  typed : ∀ {members schema}, holdsMembers members → holds schema →
    holdsMembers { members with additional := .typed schema }
  allowed : ∀ {members}, holdsMembers members → holdsMembers { members with additional := .allowed }
  field : ∀ {members schema}, holdsMembers members → holds schema →
    ∀ (name : String) (note : Option String) (isRequired : Bool), holdsMembers
      { members with
        properties := members.properties.put name (.mk schema note)
        required := if isRequired then addNames members.required [name] else members.required }
  object : ∀ {members}, holdsMembers members → ∀ description,
    holds (.object members.properties members.required members.additional description)

/-- A call for a class is for a known one. -/
def Call.Known (known : ClassDef → Prop) : Call → Prop
  | .type _ _ => True
  | .classType _ definition => known definition

/-- All answers of a resolver to calls for known classes have a property. -/
def Resolver.Keeps (known : ClassDef → Prop) (holds : Schema → Prop) (resolver : Resolver) : Prop :=
  ∀ call, call.Known known → Yields holds (resolver.answer call)

namespace Invariant

variable {known : ClassDef → Prop} {holds : Schema → Prop} {holdsMembers : Members → Prop}
variable (hinvariant : Invariant known holds holdsMembers)
variable {table : TypeTable} (hknown : ∀ name definition,
  table.classes.get? name = some definition → known definition)
variable {inner : Resolver} (hinner : inner.Keeps known holds) (stack : List String)

include hknown in
theorem known_of_enter {name : String} {sub : Call} (henter : table.enter stack name = .ok sub) :
    sub.Known known := by
  obtain ⟨-, ⟨definition, hclass, rfl⟩ | ⟨target, -, -, rfl⟩⟩ := enter_eq_ok_iff.mp henter
  · exact hknown name definition hclass
  · trivial

include hinner

theorem type (expr : Expr) : Yields holds (inner.type stack expr) :=
  hinner (.type stack expr) trivial

theorem types {α : Type} (hint : α → Expr) (xs : List α) :
    Yields (∀ schema ∈ ·, holds schema) (xs.mapM fun x => inner.type stack (hint x)) :=
  .mapM fun x => type hinner stack (hint x)

include hinvariant

/-- The members of a class keep the invariant with its further entries. -/
theorem additionalOf (definition : ClassDef) {members : Members} (hmembers : holdsMembers members) :
    Yields (fun additional => holdsMembers { members with additional })
      (Schema.additionalOf inner stack definition members.additional) := by
  have hallowed : ∀ additional : Additional, holdsMembers { members with additional } →
      Yields (fun additional => holdsMembers { members with additional })
        (pure (if allowsExtra definition then .allowed else additional)) := by
    intro additional hadditional
    split
    · exact .ok (hinvariant.allowed hmembers)
    · exact .ok hadditional
  unfold Schema.additionalOf
  dsimp only
  split
  · rename_i extra _
    exact .bind (type hinner stack extra) fun schema hschema =>
      hallowed _ (hinvariant.typed hmembers hschema)
  · exact hallowed members.additional hmembers

theorem addField (total : Bool) {members : Members} (hmembers : holdsMembers members)
    (field : Field) :
    Yields holdsMembers (Schema.addField inner stack total members field) :=
  .bind (type hinner stack field.hint) fun _ hschema =>
    .ok (hinvariant.field hmembers hschema field.name _ _)

include hknown

/-- The invariant holds of the schema of every type. -/
theorem resolveType (expr : Expr) : Yields holds (resolveType table inner stack expr) := by
  rw [TypeForm.resolveType_eq]
  cases hform : TypeForm.ofExpr expr with
  | settled result =>
      rw [TypeForm.resolve_settled]
      intro schema hresult
      rcases TypeForm.null_or_literals_of_ofExpr (hresult ▸ hform) with rfl | ⟨args, hliteral⟩
      · exact hinvariant.null
      · exact hinvariant.literals args hliteral
  | named name =>
      rw [TypeForm.resolve_named]
      cases hbuiltin : builtinSchema? name with
      | some schema =>
          simp only [resolveName, hbuiltin]
          exact .ok (hinvariant.builtin hbuiltin)
      | none =>
          rw [resolveName_eq _ _ _ _ hbuiltin]
          cases henter : table.enter stack name with
          | error err => exact .error
          | ok sub => exact hinner sub (known_of_enter hknown stack henter)
  | same expr =>
      rw [TypeForm.resolve_same]
      exact type hinner stack expr
  | listOf item =>
      rw [TypeForm.resolve_listOf]
      exact .bind (type hinner stack item) fun _ hitem => .ok (hinvariant.list hitem)
  | mappingTo value =>
      rw [TypeForm.resolve_mappingTo]
      exact .bind (type hinner stack value) fun _ hvalue => .ok (hinvariant.mapping hvalue)
  | tupleOf exprs =>
      rw [TypeForm.resolve_tupleOf]
      exact .bind (types hinner stack id exprs) fun _ hitems => .ok (hinvariant.tuple hitems)
  | unionOf members =>
      rw [TypeForm.resolve_unionOf]
      exact .bind (types hinner stack id members) fun _ hmembers => hinvariant.union hmembers

/-- Taking up a base keeps the invariant of the members. -/
theorem addBase {members : Members} (hmembers : holdsMembers members) (base : Expr) :
    Yields holdsMembers (Schema.addBase table inner stack members base) := by
  cases hentries : entriesOf? base with
  | some value =>
      rw [addBase_eq_typed _ _ _ _ hentries]
      refine .bind .anything fun arg _ => ?_
      exact .bind (type hinner stack arg) fun _ hschema => .ok (hinvariant.typed hmembers hschema)
  | none =>
      rw [addBase_eq_inheritFrom _ _ _ _ hentries]
      unfold addBase.inheritFrom
      split
      · rename_i definition hclass
        split
        · exact .ok hmembers
        · have hparent := hinner (.classType (stack ++ [base.genericName]) definition)
            (hknown _ definition hclass)
          exact .bind hparent fun _ hschema => .ok (hinvariant.inherit hmembers hschema)
      · exact .ok hmembers

/-- The invariant holds of the schema of every known class. -/
theorem resolveClass {definition : ClassDef} (hdefinition : known definition) :
    Yields holds (resolveClass table inner stack definition) := by
  unfold Schema.resolveClass
  dsimp only
  split
  · rename_i henum
    exact .ok (hinvariant.enumeration hdefinition henum)
  · split
    · exact .bind (types hinner stack Field.hint _) fun _ hitems =>
        .ok (hinvariant.tuple hitems)
    · refine .bind (.foldlM (fun _ base hmembers =>
        hinvariant.addBase hknown hinner stack hmembers base) _ hinvariant.empty)
        fun inherited hinherited => ?_
      refine .bind (hinvariant.additionalOf hinner stack definition hinherited)
        fun additional hstart => ?_
      refine .bind (.foldlM (fun _ field hmembers =>
        hinvariant.addField hinner stack _ hmembers field) _ hstart) fun members hmembers => ?_
      exact .ok (hinvariant.object hmembers _)

theorem step : (inner.step table).Keeps known holds := by
  intro call hcall
  cases call with
  | type stack expr => exact hinvariant.resolveType hknown hinner stack expr
  | classType stack definition => exact hinvariant.resolveClass hknown hinner stack hcall

omit hinner

/-- The rules keep an invariant at every depth. -/
theorem upTo (depth : Nat) : (Resolver.upTo table depth).Keeps known holds := by
  induction depth with
  | zero =>
      intro call _
      cases call with
      | type => exact .error
      | classType => exact .error
  | succ depth ih => exact hinvariant.step hknown ih

end Invariant

end RouteScribe.Schema
