import RouteScribe.Proofs.Schema.Termination
import RouteScribe.Proofs.Source.Unplaced

/-!
# Types do not depend on places

The schema of a type expression is the same wherever the calls in it stand.  A fault may
hold the expression that is at fault, with its places, but its message shows none of them.
-/

namespace RouteScribe.Schema

open RouteScribe.Json RouteScribe.Source

/-! ### Results that read the same -/

/-- Two results are the same, where faults with one message are not told apart. -/
inductive SameResult {α : Type} : (left right : Resolved α) → Prop where
  | refl (result : Resolved α) : SameResult result result
  | fault {left right : TypeFault} (hmessage : left.message = right.message) :
      SameResult (.error (.fault left)) (.error (.fault right))

namespace SameResult

variable {α β : Type} {left middle right : Resolved α}

theorem of_eq (heq : left = right) : SameResult left right :=
  heq ▸ .refl left

theorem symm (hsame : SameResult left right) : SameResult right left := by
  cases hsame with
  | refl => exact .refl left
  | fault hmessage => exact .fault hmessage.symm

theorem trans (hfirst : SameResult left middle) (hsecond : SameResult middle right) :
    SameResult left right := by
  cases hfirst with
  | refl => exact hsecond
  | fault hmessage =>
      cases hsecond with
      | refl => exact .fault hmessage
      | fault hother => exact .fault (hmessage.trans hother)

theorem eq_ok_iff (hsame : SameResult left right) {value : α} :
    left = .ok value ↔ right = .ok value := by
  cases hsame with
  | refl => rfl
  | fault => simp

theorem bind {next after : α → Resolved β} (hsame : SameResult left right)
    (hnext : ∀ value, SameResult (next value) (after value)) :
    SameResult (left >>= next) (right >>= after) := by
  cases hsame with
  | fault hmessage => exact .fault hmessage
  | refl =>
      cases left with
      | ok value => exact hnext value
      | error err => exact .refl _

/-- Collecting over lists whose elements have the same results in turn. -/
theorem mapM {γ : Type} {f : β → Resolved α} {g : γ → Resolved α} {xs : List β} {ys : List γ}
    (hsame : List.Forall₂ (fun x y => SameResult (f x) (g y)) xs ys) :
    SameResult (xs.mapM f) (ys.mapM g) := by
  induction hsame with
  | nil => exact .refl _
  | cons hhead _ ih =>
      rw [List.mapM_cons, List.mapM_cons]
      exact hhead.bind fun _ => ih.bind fun _ => .refl _

theorem foldlM {γ : Type} {f : α → β → Resolved α} {g : α → γ → Resolved α} {xs : List β}
    {ys : List γ}
    (hsame : List.Forall₂ (fun x y => ∀ state, SameResult (f state x) (g state y)) xs ys)
    (state : α) : SameResult (xs.foldlM f state) (ys.foldlM g state) := by
  induction hsame generalizing state with
  | nil => exact .refl _
  | cons hhead _ ih =>
      rw [List.foldlM_cons, List.foldlM_cons]
      exact (hhead state).bind ih

end SameResult

/-! ### Forms of types without places -/

theorem isNone_unplaced (expr : Expr) : isNone expr.unplaced = isNone expr := by
  cases expr <;> rfl

/-- The members of a union do not depend on their places. -/
theorem unionMembers_unplaced (expr : Expr) :
    unionMembers expr.unplaced = (unionMembers expr).map Expr.unplaced := by
  fun_induction unionMembers expr with
  | case1 left right ihLeft ihRight =>
      rw [Expr.unplaced, unionMembers, ihLeft, ihRight, List.map_append]
  | case2 expr hbinary =>
      rw [List.map_singleton, unionMembers]
      intro left right heq
      cases expr with
      | binary first op second =>
          cases heq
          exact hbinary first second rfl
      | _ => cases heq

theorem firstArgument_unplaced (args : List Expr) :
    firstArgument (args.map Expr.unplaced) = Expr.unplaced <$> firstArgument args := by
  cases args <;> rfl

theorem lastArgument_unplaced (args : List Expr) :
    lastArgument (args.map Expr.unplaced) = Expr.unplaced <$> lastArgument args := by
  unfold lastArgument
  rw [List.getLast?_map]
  cases args.getLast? <;> rfl

theorem eq_literal_of_unplaced {expr : Expr} {value : Literal}
    (hliteral : expr.unplaced = .literal value) : expr = .literal value := by
  cases expr with
  | literal found => exact hliteral
  | _ => cases hliteral

theorem message_unsupportedLiteral (expr : Expr) :
    (TypeFault.unsupportedLiteral expr.unplaced).message =
      (TypeFault.unsupportedLiteral expr).message :=
  congrArg ("unsupported Literal value " ++ ·) expr.text_unplaced

theorem message_unsupportedForm (expr : Expr) :
    (TypeFault.unsupportedForm expr.unplaced).message =
      (TypeFault.unsupportedForm expr).message :=
  congrArg ("unsupported type expression " ++ ·) expr.text_unplaced

theorem sameResult_literalSchema (args : List Expr) :
    SameResult (literalSchema (args.map Expr.unplaced)) (literalSchema args) := by
  unfold literalSchema
  refine SameResult.bind (.mapM ?_) fun values => .refl _
  rw [List.forall₂_map_left_iff, List.forall₂_same]
  intro arg _
  rw [Expr.literal?_unplaced]
  cases arg.literal? with
  | some value => exact .refl _
  | none => exact .fault (message_unsupportedLiteral arg)

/-! ### The rules for types -/

/-- The answers of a resolver do not depend on places. -/
def Resolver.IgnoresPlaces (resolver : Resolver) : Prop :=
  ∀ stack expr, SameResult (resolver.type stack expr.unplaced) (resolver.type stack expr)

theorem sameResult_argument {α : Type} {argument : Resolved Expr} {next : Expr → Resolved α}
    (hnext : ∀ arg, SameResult (next arg.unplaced) (next arg)) :
    SameResult (Expr.unplaced <$> argument >>= next) (argument >>= next) := by
  cases argument with
  | error err => exact .refl _
  | ok arg => exact hnext arg

section Rules

variable {table : TypeTable} {inner : Resolver} (hinner : inner.IgnoresPlaces)
variable (stack : List String)

include hinner

theorem sameResult_types (exprs : List Expr) :
    SameResult ((exprs.map Expr.unplaced).mapM (inner.type stack))
      (exprs.mapM (inner.type stack)) := by
  apply SameResult.mapM
  rw [List.forall₂_map_left_iff, List.forall₂_same]
  exact fun expr _ => hinner stack expr

theorem sameResult_resolveUnion (members : List Expr) :
    SameResult (resolveUnion inner stack (members.map Expr.unplaced))
      (resolveUnion inner stack members) := by
  have hfilter : (members.map Expr.unplaced).filter (!isNone ·) =
      (members.filter (!isNone ·)).map Expr.unplaced := by
    simp only [List.filter_map, Function.comp_def, isNone_unplaced]
  unfold resolveUnion
  rw [hfilter]
  exact (sameResult_types hinner stack _).bind fun _ => .refl _

/-- A tuple is resolved alike in any place. -/
theorem sameResult_resolveTuple (args : List Expr) :
    SameResult (resolveTuple inner stack (args.map Expr.unplaced))
      (resolveTuple inner stack args) := by
  fun_cases resolveTuple inner stack args with
  | case1 item => exact (hinner stack item).bind fun _ => .refl _
  | case2 args hnot =>
      rw [resolveTuple]
      · exact (sameResult_types hinner stack args).bind fun _ => .refl _
      · intro item heq
        obtain ⟨first, second, rfl, -, hsecond⟩ : ∃ first second, args = [first, second] ∧
            first.unplaced = item ∧ second.unplaced = .literal .ellipsis := by
          simpa [List.map_eq_cons_iff] using heq
        exact hnot first (by rw [eq_literal_of_unplaced hsecond])

/-- A subscript is resolved alike in any place. -/
theorem sameResult_resolveSubscript (base : String) (args : List Expr) :
    SameResult (resolveSubscript table inner stack base (args.map Expr.unplaced))
      (resolveSubscript table inner stack base args) := by
  unfold resolveSubscript
  simp only [firstArgument_unplaced, lastArgument_unplaced]
  split_ifs
  · exact sameResult_argument (hinner stack)
  · exact sameResult_resolveUnion hinner stack args
  · exact sameResult_argument (hinner stack)
  · exact sameResult_literalSchema args
  · exact sameResult_argument fun arg => (hinner stack arg).bind fun _ => .refl _
  · exact sameResult_resolveTuple hinner stack args
  · exact sameResult_argument fun arg => (hinner stack arg).bind fun _ => .refl _
  · exact .refl _

/-- A type is resolved alike in any place. -/
theorem sameResult_resolveType (expr : Expr) :
    SameResult (resolveType table inner stack expr.unplaced)
      (resolveType table inner stack expr) := by
  have hunsupported := message_unsupportedForm expr
  cases expr with
  | literal | name => exact .refl _
  | subscript value index =>
      rw [Expr.unplaced, resolveType, resolveType, Expr.simpleName_unplaced,
        Expr.subscriptArgs_unplaced]
      exact sameResult_resolveSubscript hinner stack _ _
  | binary left op right =>
      cases op with
      | bitOr =>
          rw [Expr.unplaced, resolveType, resolveType]
          have hmembers := unionMembers_unplaced (.binary left .bitOr right)
          rw [Expr.unplaced] at hmembers
          rw [hmembers]
          exact sameResult_resolveUnion hinner stack _
      | _ => exact .fault hunsupported
  | _ => first | exact .fault hunsupported | exact .refl _

theorem Resolver.IgnoresPlaces.step (table : TypeTable) : (inner.step table).IgnoresPlaces :=
  fun stack expr => sameResult_resolveType hinner stack expr

end Rules

theorem Resolver.ignoresPlaces_upTo (table : TypeTable) (depth : Nat) :
    (Resolver.upTo table depth).IgnoresPlaces := by
  induction depth with
  | zero => exact fun _ _ => .refl _
  | succ depth ih => exact ih.step table

theorem TypeTable.ignoresPlaces_resolver (table : TypeTable) : table.resolver.IgnoresPlaces := by
  intro stack expr
  have hplaced := answer_upTo (le_max_left (Call.need table (.type stack expr))
    (Call.need table (.type stack expr.unplaced)))
  have hunplaced := answer_upTo (le_max_right (Call.need table (.type stack expr))
    (Call.need table (.type stack expr.unplaced)))
  simp only [Resolver.answer] at hplaced hunplaced
  rw [← hplaced, ← hunplaced]
  exact Resolver.ignoresPlaces_upTo table _ stack expr

/-- Two expressions that differ in places only have the same schema or are refused with the
same message. -/
theorem sameResult_of_unplaced (table : TypeTable) (stack : List String) {left right : Expr}
    (hsame : left.unplaced = right.unplaced) :
    SameResult (table.resolver.type stack left) (table.resolver.type stack right) := by
  have hright := table.ignoresPlaces_resolver stack right
  rw [← hsame] at hright
  exact (table.ignoresPlaces_resolver stack left).symm.trans hright

end RouteScribe.Schema
