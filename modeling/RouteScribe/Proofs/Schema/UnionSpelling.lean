import RouteScribe.Proofs.Schema.Failure

/-!
# Spellings of a union

A type that may be nothing can be written as an optional type or as a union with the type
of nothing on either side, and a union with bars or with brackets.  The rules for these
spellings differ, but all of them come to the members that are not the type of nothing, in
order: a single member stands for the union, and bars are opened up however they are
grouped.  Whether a field may be absent is read off its annotation by other rules, and they
see an optional type in each of the spellings.
-/

namespace RouteScribe.Schema

open RouteScribe.Source

variable {table : TypeTable} {stack : List String}

/-! ### Unions as lists of members -/

theorem type_of_same {expr inside : Expr} (hform : TypeForm.ofExpr expr = .same inside) :
    table.resolver.type stack expr = table.resolver.type stack inside := by
  rw [← table.type_resolver stack expr, TypeForm.resolveType_eq, hform, TypeForm.resolve_same]

theorem unionArguments_of_word {word : Expr} (hword : word.simpleName = "Union") (index : Expr) :
    unionArguments? (.subscript word index) = some index.subscriptArgs :=
  if_pos hword

theorem type_of_union {expr : Expr} {args : List Expr} (hargs : unionArguments? expr = some args) :
    table.resolver.type stack expr = resolveUnion table.resolver stack args := by
  have hform := ofExpr_eq_unionOf_iff.mpr ⟨args, hargs, rfl⟩
  rw [← table.type_resolver stack expr, TypeForm.resolveType_eq, hform, TypeForm.resolve_unionOf]
  rfl

/-- A union does not count the type of nothing. -/
theorem resolveUnion_congr {inner : Resolver} {args others : List Expr}
    (hmembers : args.filter (!isNone ·) = others.filter (!isNone ·)) :
    resolveUnion inner stack args = resolveUnion inner stack others := by
  rw [resolveUnion, resolveUnion, hmembers]

theorem eq_none_of_isNone {expr : Expr} (hname : expr ≠ .name "None")
    (hnone : isNone expr = true) : expr = .literal .none := by
  revert hnone
  fun_cases isNone expr with
  | case1 =>
      intro
      rfl
  | case2 id =>
      intro hid
      exact absurd (congrArg Expr.name (of_decide_eq_true hid)) hname
  | case3 =>
      intro hfalse
      cases hfalse

/-- A union of one type is that type. -/
theorem resolveUnion_singleton {expr : Expr} (hname : expr ≠ .name "None") :
    resolveUnion table.resolver stack [expr] = table.resolver.type stack expr := by
  cases hnone : isNone expr with
  | true =>
      rw [eq_none_of_isNone hname hnone]
      exact table.type_resolver stack (.literal .none)
  | false =>
      have hfilter : [expr].filter (!isNone ·) = [expr] := by simp [hnone]
      rw [resolveUnion, hfilter, List.mapM_cons, List.mapM_nil]
      cases table.resolver.type stack expr with
      | ok schema => rfl
      | error err => rfl

/-- An expression with bars between its parts. -/
def IsBarred (expr : Expr) : Prop :=
  ∃ left right, expr = .binary left .bitOr right

theorem unionMembers_of_not_isBarred {expr : Expr} (hbarred : ¬ IsBarred expr) :
    unionMembers expr = [expr] := by
  fun_cases unionMembers expr with
  | case1 left right => exact absurd ⟨left, right, rfl⟩ hbarred
  | case2 => rfl

/-- A type is the union of the members that it has. -/
theorem resolveUnion_unionMembers {expr : Expr} (hname : expr ≠ .name "None") :
    resolveUnion table.resolver stack (unionMembers expr) = table.resolver.type stack expr := by
  by_cases hbarred : IsBarred expr
  · obtain ⟨left, right, rfl⟩ := hbarred
    exact (type_of_union rfl).symm
  · rw [unionMembers_of_not_isBarred hbarred]
    exact resolveUnion_singleton hname

/-! ### Optional types -/

/-- The spellings of a type that may be nothing. -/
inductive OptionalOf (type : Expr) : Expr → Prop where
  | optional {word : Expr} (hword : word.simpleName = "Optional") :
      OptionalOf type (.subscript word type)
  | orNone : OptionalOf type (.binary type .bitOr (.literal .none))
  | noneOr : OptionalOf type (.binary (.literal .none) .bitOr type)
  | unionNone {word : Expr} (hword : word.simpleName = "Union") :
      OptionalOf type (.subscript word (.tuple [type, .literal .none]))
  | noneUnion {word : Expr} (hword : word.simpleName = "Union") :
      OptionalOf type (.subscript word (.tuple [.literal .none, type]))

section Optional

variable {type spelling : Expr}

theorem ofExpr_optional {word : Expr} (hword : word.simpleName = "Optional")
    (htuple : ∀ elements, type ≠ .tuple elements) :
    TypeForm.ofExpr (.subscript word type) = .same type := by
  have hargs : type.subscriptArgs = [type] := by
    fun_cases Expr.subscriptArgs type with
    | case1 elements => exact absurd rfl (htuple elements)
    | case2 => rfl
  rw [TypeForm.ofExpr, hword, hargs]
  rfl

/-- A type that may be nothing has the schema of the type, however it is spelled. -/
theorem OptionalOf.type_eq (hspelling : OptionalOf type spelling) (hname : type ≠ .name "None")
    (htuple : ∀ elements, type ≠ .tuple elements) :
    table.resolver.type stack spelling = table.resolver.type stack type := by
  cases hspelling with
  | optional hword => exact type_of_same (ofExpr_optional hword htuple)
  | orNone =>
      rw [type_of_union rfl, ← resolveUnion_unionMembers hname]
      apply resolveUnion_congr
      rw [unionMembers, List.filter_append]
      exact List.append_nil _
  | noneOr =>
      rw [type_of_union rfl, ← resolveUnion_unionMembers hname]
      apply resolveUnion_congr
      rw [unionMembers, List.filter_append]
      exact List.nil_append _
  | unionNone hword =>
      rw [type_of_union (unionArguments_of_word hword _), ← resolveUnion_singleton hname]
      apply resolveUnion_congr
      exact List.filter_append [type] [.literal .none] |>.trans (List.append_nil _)
  | noneUnion hword =>
      rw [type_of_union (unionArguments_of_word hword _), ← resolveUnion_singleton hname]
      exact resolveUnion_congr rfl

/-- Every spelling of an optional type counts as optional. -/
theorem OptionalOf.isOptional_eq (hspelling : OptionalOf type spelling) :
    isOptional spelling = true := by
  cases hspelling with
  | optional hword =>
      cases type with
      | tuple elements => cases elements <;> simp [isOptional, hword]
      | _ => simp [isOptional, hword]
  | orNone => simp [isOptional, unionMembers, isNone]
  | noneOr => simp [isOptional, unionMembers, isNone]
  | unionNone hword => simp [isOptional, hword, isNone]
  | noneUnion hword => simp [isOptional, hword, isNone]

theorem OptionalOf.isRequired_eq {field : Field} (hspelling : OptionalOf type field.hint)
    (total : Bool) : isRequired total field = false := by
  have hoptional := hspelling.isOptional_eq
  obtain ⟨name, hint, hasDefault, note⟩ := field
  cases hspelling with
  | orNone | noneOr => simp [isRequired, hoptional]
  | optional hword | unionNone hword | noneUnion hword => simp [isRequired, hword, hoptional]

/-- A field that may be nothing is entered without being required. -/
theorem OptionalOf.required_addField {inner : Resolver} {total : Bool} {members after : Members}
    {field : Field} (hspelling : OptionalOf type field.hint)
    (hafter : addField inner stack total members field = .ok after) :
    after.required = members.required := by
  obtain ⟨schema, -, hresult⟩ := bind_eq_ok hafter
  cases hresult
  simp [hspelling.isRequired_eq total]

end Optional

/-! ### Bars in any grouping -/

/-- An expression joins some members with bars, in order and grouped in some way. -/
inductive Joins : List Expr → Expr → Prop where
  | one (member : Expr) : Joins [member] member
  | bar {front back : List Expr} {left right : Expr} (hleft : Joins front left)
      (hright : Joins back right) : Joins (front ++ back) (.binary left .bitOr right)

namespace Joins

variable {members : List Expr} {expr other : Expr}

theorem ne_nil (hjoins : Joins members expr) : members ≠ [] := by
  induction hjoins with
  | one member => exact List.cons_ne_nil member []
  | bar _ _ hfront _ => exact List.append_ne_nil_of_left_ne_nil hfront _

theorem unionMembers_eq (hjoins : Joins members expr) :
    unionMembers expr = members.flatMap unionMembers := by
  induction hjoins with
  | one member => simp
  | bar _ _ hfront hback => rw [unionMembers, hfront, hback, List.flatMap_append]

/-- Bars make an expression of their own unless there is a single member. -/
theorem eq_or_isBarred (hjoins : Joins members expr) : members = [expr] ∨
    2 ≤ members.length ∧ IsBarred expr := by
  cases hjoins with
  | one member => exact .inl rfl
  | @bar front back left right hleft hright =>
      have hfront := List.length_pos_of_ne_nil hleft.ne_nil
      have hback := List.length_pos_of_ne_nil hright.ne_nil
      refine .inr ⟨?_, left, right, rfl⟩
      rw [List.length_append]
      omega

theorem type_of_isBarred (hjoins : Joins members expr) (hbarred : IsBarred expr) :
    table.resolver.type stack expr =
      resolveUnion table.resolver stack (members.flatMap unionMembers) := by
  obtain ⟨left, right, rfl⟩ := hbarred
  rw [← hjoins.unionMembers_eq]
  exact type_of_union rfl

/-- How bars are grouped does not matter. -/
theorem type_eq (hjoins : Joins members expr) (hother : Joins members other) :
    table.resolver.type stack expr = table.resolver.type stack other := by
  rcases hjoins.eq_or_isBarred with hone | ⟨hseveral, hbarred⟩
  · rcases hother.eq_or_isBarred with hsame | ⟨hseveral, -⟩
    · obtain rfl : expr = other := by simpa using hone.symm.trans hsame
      rfl
    · simp [hone] at hseveral
  · rcases hother.eq_or_isBarred with hone | ⟨-, hotherBarred⟩
    · simp [hone] at hseveral
    · rw [hjoins.type_of_isBarred hbarred, hother.type_of_isBarred hotherBarred]

/-- A `Union` of members is the same type as these members joined. -/
theorem type_eq_union {word index : Expr} (hjoins : Joins members expr)
    (hplain : ∀ member ∈ members, ¬ IsBarred member ∧ member ≠ .name "None")
    (hword : word.simpleName = "Union") (hindex : index.subscriptArgs = members) :
    table.resolver.type stack (.subscript word index) = table.resolver.type stack expr := by
  rw [type_of_union (unionArguments_of_word hword index), hindex]
  rcases hjoins.eq_or_isBarred with rfl | ⟨-, hbarred⟩
  · exact resolveUnion_singleton (hplain expr List.mem_cons_self).2
  · have hopened : members.flatMap unionMembers = members := by
      calc members.flatMap unionMembers
          = members.flatMap fun member => [member] :=
            List.flatMap_congr fun member hmember =>
              unionMembers_of_not_isBarred (hplain member hmember).1
        _ = members := List.flatMap_singleton' members
    rw [hjoins.type_of_isBarred hbarred, hopened]

end Joins

/-- All spellings of a union agree, whatever the table and the names around it: the five
ways to write that a type may be nothing have the schema or the error of the type itself,
and none of them makes a field required; bars may be grouped in any way, and brackets stand
for bars.  The word `None` is read as a literal and is no name. -/
theorem union_spellings_agree (table : TypeTable) (stack : List String) :
    (∀ type spelling, type ≠ .name "None" → (∀ elements, type ≠ .tuple elements) →
      OptionalOf type spelling →
      table.resolver.type stack spelling = table.resolver.type stack type ∧
      ∀ total members after field, field.hint = spelling →
        addField table.resolver stack total members field = .ok after →
        after.required = members.required) ∧
    (∀ members expr other, Joins members expr → Joins members other →
      table.resolver.type stack expr = table.resolver.type stack other) ∧
    ∀ members expr word index, Joins members expr →
      (∀ member ∈ members, ¬ IsBarred member ∧ member ≠ .name "None") →
      word.simpleName = "Union" → index.subscriptArgs = members →
      table.resolver.type stack (.subscript word index) = table.resolver.type stack expr := by
  refine ⟨fun type spelling hname htuple hspelling => ⟨?_, ?_⟩, ?_, ?_⟩
  · exact hspelling.type_eq hname htuple
  · rintro total members after field rfl hafter
    exact hspelling.required_addField hafter
  · intro members expr other hjoins hother
    exact hjoins.type_eq hother
  · intro members expr word index hjoins hplain hword hindex
    exact hjoins.type_eq_union hplain hword hindex

def portType : Expr := .binary (.name "int") .bitOr (.name "str")

/-- A field with nothing before the bars of its type. -/
def portField : Field where
  name := "port"
  hint := .binary (.literal .none) .bitOr portType
  hasDefault := false
  note := ""

def portMembers : Members where
  properties := [("port", .mk (.oneOfKinds [.number, .string]) none)]
  required := []
  additional := .forbidden

/-- A port that may be missing, spelled with a bar. -/
theorem union_spellings_agree_port :
    OptionalOf portType portField.hint ∧
    TypeTable.empty.resolver.type [] portField.hint = TypeTable.empty.resolver.type [] portType ∧
    addField TypeTable.empty.resolver [] true .empty portField = .ok portMembers ∧
    portMembers.required = Members.empty.required ∧
    TypeTable.empty.resolver.type [] (.subscript (.name "Union")
        (.tuple [.name "int", .name "str", .literal .none])) =
      TypeTable.empty.resolver.type []
        (.binary (.name "int") .bitOr (.binary (.name "str") .bitOr (.literal .none))) ∧
    TypeTable.empty.resolver.type [] (.binary portType .bitOr (.literal .none)) =
      TypeTable.empty.resolver.type []
        (.binary (.name "int") .bitOr (.binary (.name "str") .bitOr (.literal .none))) := by
  obtain ⟨hoptional, hgrouped, hbrackets⟩ := union_spellings_agree .empty []
  have hadded : addField TypeTable.empty.resolver [] true .empty portField = .ok portMembers := rfl
  have hright : Joins [.name "int", .name "str", .literal .none]
      (.binary (.name "int") .bitOr (.binary (.name "str") .bitOr (.literal .none))) :=
    .bar (.one _) (.bar (.one _) (.one _))
  have hleft : Joins [.name "int", .name "str", .literal .none]
      (.binary portType .bitOr (.literal .none)) :=
    .bar (.bar (.one _) (.one _)) (.one _)
  obtain ⟨hsame, hrequired⟩ :=
    hoptional portType _ (by simp [portType]) (by simp [portType]) .noneOr
  refine ⟨.noneOr, hsame, hadded, hrequired true _ _ portField rfl hadded, ?_, ?_⟩
  · exact hbrackets _ _ _ _ hright (by simp [IsBarred]) rfl rfl
  · exact hgrouped _ _ _ hleft hright

end RouteScribe.Schema
