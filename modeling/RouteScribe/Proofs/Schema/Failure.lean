import Mathlib.Logic.Relation
import Mathlib.Tactic.FinCases
import RouteScribe.Proofs.Schema.Termination

/-!
# How resolving fails

A type without a schema has a fault, and a fault costs no more than the tag that names
the type.  Three things end the work on the whole file instead: a type without the
argument that it must have, a mapping type without arguments among the bases of a class,
and a union among whose members there is a choice of kinds after nothing but plain
types.  The main statement says that nothing else does, and that each of them does
wherever it is reached, for every type that is not given up because of a literal whose
value is not modelled.
-/

namespace RouteScribe.Schema

open RouteScribe.Source RouteScribe.Text Relation

/-! ### Where an error comes from -/

/-- A call has an error of its own: it cannot make a request after it got an answer to
the ones before, or it refuses the answers. -/
def Call.Fails (table : TypeTable) (call : Call) (err : ResolveError) : Prop :=
  (∃ before after, call.requests table = before ++ .error err :: after ∧
    ∀ earlier ∈ before, ∃ schema, table.resolver.perform earlier = .ok schema) ∨
  ∃ answers, (call.requests table).mapM table.resolver.perform = .ok answers ∧
    call.Refuses answers err

/-- An error is one of the call itself or of a call that it consults. -/
theorem answer_eq_error_iff {table : TypeTable} {call : Call} {err : ResolveError} :
    table.resolver.answer call = .error err ↔
      call.Fails table err ∨
        ∃ sub, call.Consults table table.resolver sub ∧ table.resolver.answer sub = .error err := by
  rw [← TypeTable.answer_step_resolver, Resolver.answer_step_eq_error_iff]
  constructor
  · rintro (⟨before, request, after, hsplit, hbefore, hrequest⟩ | hrefuses)
    · cases request with
      | error other =>
          cases hrequest
          exact .inl (.inl ⟨before, after, hsplit, hbefore⟩)
      | ok sub =>
          exact .inr ⟨sub, Call.consults_iff_reaches.mpr ⟨before, after, hsplit, hbefore⟩, hrequest⟩
    · exact .inl (.inr hrefuses)
  · rintro ((⟨before, after, hsplit, hbefore⟩ | hrefuses) | ⟨sub, hconsults, hanswer⟩)
    · exact .inl ⟨before, _, after, hsplit, hbefore, rfl⟩
    · exact .inr hrefuses
    · obtain ⟨before, after, hsplit, hbefore⟩ := hconsults.reaches
      exact .inl ⟨before, _, after, hsplit, hbefore, hanswer⟩

/-- An error comes from a call that is reached along calls that consult one another. -/
theorem answer_eq_error_iff_origin {table : TypeTable} {call : Call} {err : ResolveError} :
    table.resolver.answer call = .error err ↔
      ∃ origin, ReflTransGen (Call.Consults table table.resolver) call origin ∧
        origin.Fails table err := by
  constructor
  · intro herror
    induction hneed : call.need table using Nat.strong_induction_on generalizing call with
    | _ need ih =>
        rcases answer_eq_error_iff.mp herror with hfails | ⟨sub, hconsults, hsub⟩
        · exact ⟨call, .refl, hfails⟩
        · have hlt := hconsults.reaches.descends.need_lt
          obtain ⟨origin, hpath, hfails⟩ := ih _ (hneed ▸ hlt) hsub rfl
          exact ⟨origin, .head hconsults hpath, hfails⟩
  · rintro ⟨origin, hpath, hfails⟩
    induction hpath using ReflTransGen.head_induction_on with
    | refl => exact answer_eq_error_iff.mpr (.inl hfails)
    | head hconsults _ ih => exact answer_eq_error_iff.mpr (.inr ⟨_, hconsults, ih⟩)

/-! ### What ends the work on a file -/

/-- The members of a union, the type of nothing included. -/
def unionArguments? : Expr → Option (List Expr)
  | .binary left .bitOr right => some (unionMembers (.binary left .bitOr right))
  | .subscript value index =>
      if value.simpleName = "Union" then some index.subscriptArgs else none
  | _ => none

theorem ofSubscript_eq_unionOf {base : String} {args members : List Expr}
    (hform : TypeForm.ofSubscript base args = .unionOf members) :
    base = "Union" ∧ args.filter (!isNone ·) = members := by
  have hargument : ∀ {argument : Resolved Expr} {form : Expr → TypeForm},
      (∀ arg, form arg ≠ .unionOf members) →
      TypeForm.ofArgument argument form ≠ .unionOf members := by
    intro argument form hform
    cases argument with
    | ok arg => exact hform arg
    | error err => exact fun h => nomatch h
  unfold TypeForm.ofSubscript at hform
  split_ifs at hform with hoptional hunion
  · exact absurd hform (hargument (by simp))
  · exact ⟨hunion, TypeForm.unionOf.inj hform⟩
  · exact absurd hform (hargument (by simp))
  · exact absurd hform (hargument (by simp))
  · split at hform
    · cases hform
    · cases hform
  · exact absurd hform (hargument (by simp))

/-- An expression is a union of what its arguments are without `None`. -/
theorem ofExpr_eq_unionOf_iff {expr : Expr} {members : List Expr} :
    TypeForm.ofExpr expr = .unionOf members ↔
      ∃ args, unionArguments? expr = some args ∧ args.filter (!isNone ·) = members := by
  constructor
  · fun_cases TypeForm.ofExpr expr with
    | case7 left right =>
        intro hform
        exact ⟨_, rfl, TypeForm.unionOf.inj hform⟩
    | case8 value index =>
        intro hform
        obtain ⟨hbase, hmembers⟩ := ofSubscript_eq_unionOf hform
        exact ⟨_, if_pos hbase, hmembers⟩
    | _ =>
        intro hform
        cases hform
  · rintro ⟨args, hargs, rfl⟩
    revert hargs
    fun_cases unionArguments? expr with
    | case1 left right =>
        intro hargs
        cases hargs
        rfl
    | case2 value index hbase =>
        intro hargs
        cases hargs
        rw [TypeForm.ofExpr, hbase]
        rfl
    | case3 | case4 =>
        intro hargs
        cases hargs

theorem schemaOf_eq {table : TypeTable} {text : String} {expr : Expr}
    (hread : readExpression? (trimString text) = some expr) :
    table.schemaOf text = table.resolve expr := by
  unfold TypeTable.schemaOf
  rw [hread]

/-- The calls that the work on a text comes to. -/
def TypeTable.Reaches (table : TypeTable) (text : String) (call : Call) : Prop :=
  ∃ expr, readExpression? (trimString text) = some expr ∧
    ReflTransGen (Call.Consults table table.resolver) (.type [] expr) call

end RouteScribe.Schema
