import Mathlib.Data.List.Chain
import Mathlib.Data.List.Dedup
import Mathlib.Data.List.Perm.Subperm
import RouteScribe.Proofs.Schema.Items
import RouteScribe.Proofs.Schema.Reading
import RouteScribe.Proofs.Table

/-!
# Resolving comes to an end

Each request of a call either is for a smaller expression under the same stack, or
enters a name of the table that is not on the stack yet.  The depth of a call together
with the depth of all definitions that are not on its stack therefore falls with each
request.  It bounds the depth to which the rules must be tied together, and with it the
length of every chain of calls; beyond that bound the answers no longer change, so the
rules have one resolver that satisfies them.
-/

namespace RouteScribe.Schema

open RouteScribe.Source

/-! ### Smaller expressions -/

theorem typeDepth_le_typesDepth {expr : Expr} {exprs : List Expr} (hmem : expr ∈ exprs) :
    typeDepth expr ≤ typesDepth exprs := by
  induction exprs with
  | nil => cases hmem
  | cons first exprs ih =>
      rw [typesDepth]
      rcases List.mem_cons.mp hmem with rfl | hmem
      · exact Nat.le_max_left _ _
      · exact (ih hmem).trans (Nat.le_max_right _ _)

theorem typeDepth_subscriptArgs {index arg : Expr} (hmem : arg ∈ index.subscriptArgs) :
    typeDepth arg ≤ typeDepth index := by
  cases index with
  | tuple elements =>
      rw [typeDepth]
      exact typeDepth_le_typesDepth hmem
  | _ => rw [List.mem_singleton.mp hmem]

/-- The members of a union are no deeper than the union. -/
theorem typeDepth_unionMembers (expr : Expr) :
    ∀ member ∈ unionMembers expr, typeDepth member ≤ typeDepth expr := by
  fun_induction unionMembers expr with
  | case1 left right ihLeft ihRight =>
      intro member hmember
      rw [typeDepth]
      rcases List.mem_append.mp hmember with hmember | hmember
      · have := ihLeft member hmember
        omega
      · have := ihRight member hmember
        omega
  | case2 expr =>
      intro member hmember
      rw [List.mem_singleton.mp hmember]

theorem typeDepth_unionMembers_lt {left right member : Expr}
    (hmember : member ∈ unionMembers (.binary left .bitOr right)) :
    typeDepth member < typeDepth (.binary left .bitOr right) := by
  rw [typeDepth]
  rcases List.mem_append.mp hmember with hmember | hmember
  · have := typeDepth_unionMembers left member hmember
    omega
  · have := typeDepth_unionMembers right member hmember
    omega

theorem mem_of_firstArgument {args : List Expr} {arg : Expr} (harg : firstArgument args = .ok arg) :
    arg ∈ args := by
  unfold firstArgument at harg
  split at harg
  · rename_i first hfirst
    cases harg
    exact List.mem_of_head? hfirst
  · cases harg

theorem mem_of_lastArgument {args : List Expr} {arg : Expr} (harg : lastArgument args = .ok arg) :
    arg ∈ args := by
  unfold lastArgument at harg
  split at harg
  · rename_i last hlast
    cases harg
    exact List.mem_of_getLast? hlast
  · cases harg

namespace TypeForm

theorem part_mem_ofArgument {argument : Resolved Expr} {form : Expr → TypeForm} {part : Expr}
    (hform : ∀ arg, (form arg).items = [.part (.ok arg)])
    (hpart : .part (.ok part) ∈ (ofArgument argument form).items) : argument = .ok part := by
  cases argument with
  | error err => cases List.mem_singleton.mp hpart
  | ok arg =>
      rw [ofArgument, hform] at hpart
      cases List.mem_singleton.mp hpart
      rfl

theorem part_mem_map {part : Expr} {exprs : List Expr}
    (hpart : Item.part (.ok part) ∈ exprs.map fun expr => Item.part (.ok expr)) :
    part ∈ exprs := by
  obtain ⟨expr, hexpr, heq⟩ := List.mem_map.mp hpart
  cases heq
  exact hexpr

theorem part_mem_ofSubscript {base : String} {args : List Expr} {part : Expr}
    (hpart : .part (.ok part) ∈ (ofSubscript base args).items) : part ∈ args := by
  unfold ofSubscript at hpart
  split_ifs at hpart with _ _ _ hliteral
  · exact mem_of_firstArgument (part_mem_ofArgument (fun _ => rfl) hpart)
  · exact List.mem_of_mem_filter (part_mem_map hpart)
  · exact mem_of_firstArgument (part_mem_ofArgument (fun _ => rfl) hpart)
  · exact absurd hpart (by cases literalSchema args <;> simp [items])
  · exact mem_of_firstArgument (part_mem_ofArgument (fun _ => rfl) hpart)
  · split at hpart
    · cases List.mem_singleton.mp hpart
      exact List.mem_cons_self
    · exact part_mem_map hpart
  · exact mem_of_lastArgument (part_mem_ofArgument (fun _ => rfl) hpart)
  · simp only [items] at hpart
    split at hpart
    · cases hpart
    · cases List.mem_singleton.mp hpart

/-- A part is less deep than the type. -/
theorem typeDepth_part {expr part : Expr} (hpart : .part (.ok part) ∈ (ofExpr expr).items) :
    typeDepth part < typeDepth expr := by
  revert hpart
  fun_cases ofExpr expr with
  | case2 text isMarked inside hread =>
      intro hpart
      cases List.mem_singleton.mp hpart
      rw [typeDepth]
      exact Nat.lt_succ_of_le (typeDepth_readExpression hread)
  | case7 left right =>
      intro hpart
      exact typeDepth_unionMembers_lt (List.mem_of_mem_filter (part_mem_map hpart))
  | case8 value index =>
      intro hpart
      rw [typeDepth]
      exact Nat.lt_succ_of_le (typeDepth_subscriptArgs (part_mem_ofSubscript hpart))
  | case5 | case6 =>
      intro hpart
      simp only [items] at hpart
      split at hpart
      · cases hpart
      · cases List.mem_singleton.mp hpart
  | case1 =>
      intro hpart
      cases hpart
  | _ =>
      intro hpart
      cases List.mem_singleton.mp hpart

end TypeForm

theorem typeDepth_entriesOf {base part : Expr} (hentries : entriesOf? base = some (.ok part)) :
    typeDepth part ≤ typeDepth base := by
  cases base with
  | subscript value index =>
      simp only [entriesOf?, Option.ite_none_right_eq_some, Option.some.injEq] at hentries
      rw [typeDepth]
      exact (typeDepth_subscriptArgs (mem_of_lastArgument hentries.2)).trans (Nat.le_succ _)
  | _ => cases hentries

/-- A part of a class is less deep than the class. -/
theorem typeDepth_classPart {table : TypeTable} {definition : ClassDef} {part : Expr}
    (hpart : .part (.ok part) ∈ classItems table definition) :
    typeDepth part < classDepth definition := by
  rw [classDepth]
  rcases mem_classItems hpart with ⟨-, base, hbase, hpart⟩ | hpart | hpart
  · rcases mem_baseItems.mp hpart with ⟨value, hentries, heq⟩ | ⟨-, -, heq⟩
    · cases heq
      have hentry := typeDepth_entriesOf hentries
      have hbases := typeDepth_le_typesDepth hbase
      omega
    · cases heq
  · obtain ⟨type, hextra, heq⟩ := mem_extraItems.mp hpart
    cases heq
    obtain ⟨keyword, hkeyword, rfl⟩ := Option.map_eq_some_iff.mp hextra
    have hvalue := typeDepth_le_typesDepth
      (List.mem_map_of_mem (f := Keyword.value) (List.mem_of_find?_eq_some hkeyword))
    omega
  · obtain ⟨field, hfield, heq⟩ := mem_fieldItems.mp hpart
    cases heq
    have hhint := typeDepth_le_typesDepth (List.mem_map_of_mem (f := Field.hint) hfield)
    omega

/-! ### What a request is for -/

/-- The number of steps that a call can take before it enters another name. -/
def Call.depth : Call → Nat
  | .type _ expr => typeDepth expr
  | .classType _ definition => classDepth definition

/-- One call leads down to another: to a part of its expression or of its class under
the same stack, or to what a name stands for that is entered. -/
inductive Call.Descends (table : TypeTable) (call : Call) : Call → Prop where
  | part {part : Expr} (hdepth : typeDepth part < call.depth) :
      Descends table call (.type call.stack part)
  | enter {name : String} {sub : Call} (henter : table.enter call.stack name = .ok sub) :
      Descends table call sub

theorem Call.descends_of_mem_requests {table : TypeTable} {call sub : Call}
    (hsub : .ok sub ∈ call.requests table) : call.Descends table sub := by
  rcases ok_mem_requests.mp hsub with ⟨part, hpart, rfl⟩ | ⟨id, -, henter⟩
  · cases call with
    | type stack expr => exact .part (TypeForm.typeDepth_part hpart)
    | classType stack definition => exact .part (typeDepth_classPart hpart)
  · exact .enter henter

/-! ### A measure that falls -/

/-- The weight of the entries of a table whose names are not on the stack. -/
def offStack {α : Type} (weight : α → Nat) (stack : List String) (table : Table α) : Nat :=
  ((table.filter (·.1 ∉ stack)).map (weight ·.2)).sum

theorem offStack_cons {α : Type} (weight : α → Nat) (stack : List String) (name : String)
    (value : α) (table : Table α) :
    offStack weight stack ((name, value) :: table) =
      (if name ∈ stack then 0 else weight value) + offStack weight stack table := by
  unfold offStack
  split
  · rename_i hname
    simp [hname]
  · rename_i hname
    simp [hname]

theorem offStack_push_le {α : Type} (weight : α → Nat) (stack : List String) (name : String)
    (table : Table α) : offStack weight (stack ++ [name]) table ≤ offStack weight stack table := by
  induction table with
  | nil => exact le_rfl
  | cons entry table ih =>
      obtain ⟨other, value⟩ := entry
      rw [offStack_cons, offStack_cons]
      refine Nat.add_le_add ?_ ih
      split_ifs with hpushed hstack
      · exact le_rfl
      · exact Nat.zero_le _
      · exact absurd (List.mem_append_left [name] ‹other ∈ stack›) hpushed
      · exact le_rfl

/-- A name that is pushed takes its own weight off the rest. -/
theorem offStack_push {α : Type} {weight : α → Nat} {stack : List String} {name : String}
    {table : Table α} {value : α} (hname : name ∉ stack) (hvalue : table.get? name = some value) :
    offStack weight (stack ++ [name]) table + weight value ≤ offStack weight stack table := by
  induction table with
  | nil => cases hvalue
  | cons entry table ih =>
      obtain ⟨other, first⟩ := entry
      rw [offStack_cons, offStack_cons]
      rw [Table.get?, List.lookup_cons] at hvalue
      cases heq : name == other with
      | true =>
          rw [heq] at hvalue
          cases hvalue
          obtain rfl := eq_of_beq heq
          have hrest := offStack_push_le weight stack name table
          rw [if_pos (by simp), if_neg hname]
          omega
      | false =>
          rw [heq] at hvalue
          have hrest := ih hvalue
          have hother : other ∈ stack ++ [name] ↔ other ∈ stack := by
            have hne : other ≠ name := fun h => by simp [h] at heq
            simp [hne]
          simp only [hother]
          omega

/-- The depth of the definitions that can still be entered. -/
def TypeTable.left (table : TypeTable) (stack : List String) : Nat :=
  offStack classDepth stack table.classes + offStack (typeDepth · + 1) stack table.aliases

/-- A depth that suffices for a call. -/
def Call.need (table : TypeTable) (call : Call) : Nat :=
  call.depth + table.left call.stack

theorem Call.one_le_depth (call : Call) : 1 ≤ call.depth := by
  cases call with
  | type stack expr => exact one_le_typeDepth expr
  | classType stack definition => exact Nat.le_add_left 1 _

/-- What a name stands for is paid for by taking the name off the table. -/
theorem need_of_enter {table : TypeTable} {stack : List String} {name : String} {sub : Call}
    (henter : table.enter stack name = .ok sub) : sub.need table ≤ table.left stack := by
  obtain ⟨hname, ⟨definition, hclass, rfl⟩ | ⟨target, -, halias, rfl⟩⟩ := enter_eq_ok_iff.mp henter
  · have hclasses : offStack classDepth (stack ++ [name]) table.classes + classDepth definition ≤
        offStack classDepth stack table.classes := offStack_push hname hclass
    have haliases := offStack_push_le (typeDepth · + 1) stack name table.aliases
    simp only [Call.need, Call.depth, Call.stack, TypeTable.left]
    omega
  · have haliases : offStack (typeDepth · + 1) (stack ++ [name]) table.aliases +
        (typeDepth target + 1) ≤ offStack (typeDepth · + 1) stack table.aliases :=
      offStack_push hname halias
    have hclasses := offStack_push_le classDepth stack name table.classes
    simp only [Call.need, Call.depth, Call.stack, TypeTable.left]
    omega

theorem Call.Descends.need_lt {table : TypeTable} {call sub : Call}
    (hdescends : call.Descends table sub) : sub.need table < call.need table := by
  cases hdescends with
  | part hdepth => exact Nat.add_lt_add_right hdepth _
  | enter henter =>
      have hdepth := call.one_le_depth
      have hsub := need_of_enter henter
      rw [Call.need.eq_def table call]
      omega

theorem Call.Reaches.descends {table : TypeTable} {resolver : Resolver} {call sub : Call}
    (hreaches : call.Reaches table resolver sub) : call.Descends table sub :=
  Call.descends_of_mem_requests hreaches.mem_requests

/-! ### The resolver of a table -/

namespace TypeTable

variable {table : TypeTable} {call : Call}

/-- Beyond the depth that a call needs, its answer is always the same. -/
theorem answer_upTo_eq {depth other : Nat} (hdepth : call.need table ≤ depth)
    (hother : call.need table ≤ other) :
    (Resolver.upTo table depth).answer call = (Resolver.upTo table other).answer call := by
  induction hneed : call.need table using Nat.strong_induction_on generalizing call depth other with
  | _ need ih =>
      have hone : 1 ≤ call.need table := call.one_le_depth.trans (Nat.le_add_right _ _)
      obtain ⟨depth, rfl⟩ := Nat.exists_eq_add_of_le' (hone.trans hdepth)
      obtain ⟨other, rfl⟩ := Nat.exists_eq_add_of_le' (hone.trans hother)
      refine Resolver.answer_step_congr fun sub hreaches => ?_
      have hsub := hreaches.descends.need_lt
      exact ih _ (hneed ▸ hsub) (by omega) (by omega) rfl

/-- The rules of a table, tied together as deeply as each call needs. -/
def resolver (table : TypeTable) : Resolver where
  type stack expr := (Resolver.upTo table (Call.need table (.type stack expr))).type stack expr
  classType stack definition :=
    (Resolver.upTo table (Call.need table (.classType stack definition))).classType stack definition

theorem answer_upTo {depth : Nat} (hdepth : call.need table ≤ depth) :
    (Resolver.upTo table depth).answer call = table.resolver.answer call := by
  cases call with
  | type stack expr => exact answer_upTo_eq hdepth le_rfl
  | classType stack definition => exact answer_upTo_eq hdepth le_rfl

/-- The resolver of a table satisfies its rules. -/
theorem answer_step_resolver (table : TypeTable) (call : Call) :
    (table.resolver.step table).answer call = table.resolver.answer call := by
  calc
    (table.resolver.step table).answer call
        = ((Resolver.upTo table (call.need table)).step table).answer call := by
          refine (Resolver.answer_step_congr fun sub hreaches => ?_).symm
          exact answer_upTo hreaches.descends.need_lt.le
    _ = table.resolver.answer call := answer_upTo (Nat.le_succ _)

theorem type_resolver (table : TypeTable) (stack : List String) (expr : Expr) :
    resolveType table table.resolver stack expr = table.resolver.type stack expr :=
  table.answer_step_resolver (.type stack expr)

theorem classType_resolver (table : TypeTable) (stack : List String) (definition : ClassDef) :
    resolveClass table table.resolver stack definition =
      table.resolver.classType stack definition :=
  table.answer_step_resolver (.classType stack definition)

/-- The depth that is tried is what the call needs, and two more. -/
theorem depthFor_eq (table : TypeTable) (expr : Expr) :
    table.depthFor expr = Call.need table (.type [] expr) + 2 := by
  have hall : ∀ {α : Type} (weight : α → Nat) (entries : Table α),
      entries.foldr (fun entry depth => weight entry.2 + depth) 0 = offStack weight [] entries := by
    intro α weight entries
    induction entries with
    | nil => rfl
    | cons entry entries ih => rw [List.foldr_cons, ih, offStack_cons, if_neg List.not_mem_nil]
  simp only [depthFor, Call.need, Call.depth, Call.stack, left]
  rw [hall classDepth, ← hall (typeDepth · + 1)]
  omega

theorem resolve_eq (table : TypeTable) (expr : Expr) :
    table.resolve expr = table.resolver.answer (.type [] expr) := by
  have hdepth : Call.need table (.type [] expr) ≤ table.depthFor expr := by
    rw [depthFor_eq]
    exact Nat.le_add_right _ 2
  exact answer_upTo hdepth

/-- The depth always suffices. -/
theorem answer_ne_tooDeep (table : TypeTable) (call : Call) :
    table.resolver.answer call ≠ .error .tooDeep := by
  induction hneed : call.need table using Nat.strong_induction_on generalizing call with
  | _ need ih =>
      intro htooDeep
      rw [← answer_step_resolver, Resolver.answer_step_eq_error_iff] at htooDeep
      rcases htooDeep with
        ⟨before, request, after, hsplit, hbefore, hrequest⟩ | ⟨answers, -, hrefuses⟩
      · cases request with
        | error err =>
            cases hrequest
            have hmem : .error .tooDeep ∈ call.requests table := by simp [hsplit]
            rcases Call.error_of_mem_requests hmem with ⟨fault, hfault⟩ | huncovered | hmissing
            · cases hfault
            · cases huncovered
            · cases hmissing
        | ok sub =>
            have hsub : call.Reaches table table.resolver sub := ⟨before, after, hsplit, hbefore⟩
            exact ih _ (hneed ▸ hsub.descends.need_lt) sub rfl hrequest
      · obtain ⟨-, -, -, -, -, hunion⟩ := hrefuses
        cases (unionSchema_eq_error_iff.mp hunion).1

end TypeTable

/-! ### Chains of calls -/

/-- One call consults another: with no other answer than the one to the second call
replaced, the first comes out differently. -/
def Call.Consults (table : TypeTable) (resolver : Resolver) (call sub : Call) : Prop :=
  ∃ other : Resolver, (∀ asked, asked ≠ sub → other.answer asked = resolver.answer asked) ∧
    (other.step table).answer call ≠ (resolver.step table).answer call

theorem Call.Consults.reaches {table : TypeTable} {resolver : Resolver} {call sub : Call}
    (hconsults : call.Consults table resolver sub) : call.Reaches table resolver sub := by
  obtain ⟨other, hsame, hdiffer⟩ := hconsults
  by_contra hnot
  refine hdiffer (Resolver.answer_step_congr fun asked hasked => hsame asked ?_)
  rintro rfl
  exact hnot hasked

open Classical in
noncomputable def Resolver.replace (resolver : Resolver) (call : Call) (result : Resolved Schema) :
    Resolver where
  type stack expr := if .type stack expr = call then result else resolver.type stack expr
  classType stack definition :=
    if .classType stack definition = call then result else resolver.classType stack definition

theorem Resolver.answer_replace_self (resolver : Resolver) (call : Call)
    (result : Resolved Schema) : (resolver.replace call result).answer call = result := by
  cases call with
  | type stack expr => exact if_pos rfl
  | classType stack definition => exact if_pos rfl

theorem Resolver.answer_replace_of_ne (resolver : Resolver) {call asked : Call}
    (result : Resolved Schema) (hne : asked ≠ call) :
    (resolver.replace call result).answer asked = resolver.answer asked := by
  cases asked with
  | type stack expr => exact if_neg hne
  | classType stack definition => exact if_neg hne

/-- Without an answer to a call that is reached, there is none. -/
theorem Call.Reaches.answer_replace {table : TypeTable} {resolver : Resolver} {call sub : Call}
    (hreaches : call.Reaches table resolver sub) (err : ResolveError) :
    ((resolver.replace sub (.error err)).step table).answer call = .error err := by
  obtain ⟨before, after, hsplit, hbefore⟩ := hreaches
  obtain ⟨finish, hstep, -⟩ := Resolver.answer_step table call
  rw [hstep, hsplit]
  suffices hmap : (before ++ .ok sub :: after).mapM (resolver.replace sub (.error err)).perform =
      .error err by
    rw [hmap]
    rfl
  clear hsplit
  -- The call may have been reached before, among the requests that had an answer.
  induction before with
  | nil =>
      rw [List.nil_append, List.mapM_cons, Resolver.perform_ok, Resolver.answer_replace_self]
      rfl
  | cons request before ih =>
      rw [List.cons_append, List.mapM_cons, ih fun r hr => hbefore r (.tail _ hr)]
      obtain ⟨schema, hschema⟩ := hbefore request List.mem_cons_self
      cases request with
      | error other => cases hschema
      | ok asked =>
          rw [Resolver.perform_ok]
          by_cases heq : asked = sub
          · rw [heq, Resolver.answer_replace_self]
            rfl
          · rw [resolver.answer_replace_of_ne _ heq]
            rw [Resolver.perform_ok] at hschema
            rw [hschema]
            rfl

/-- The calls that are consulted are the ones that are reached. -/
theorem Call.consults_iff_reaches {table : TypeTable} {call sub : Call} :
    call.Consults table table.resolver sub ↔ call.Reaches table table.resolver sub := by
  refine ⟨Call.Consults.reaches, fun hreaches => ⟨table.resolver.replace sub (.error .tooDeep),
    fun asked hne => table.resolver.answer_replace_of_ne _ hne, ?_⟩⟩
  rw [hreaches.answer_replace, TypeTable.answer_step_resolver]
  exact (table.answer_ne_tooDeep call).symm

/-- The names that a table gives a meaning. -/
def TypeTable.names (table : TypeTable) : List String :=
  table.classes.names ++ table.aliases.names

/-- Between a call and the one it leads to, a name of the table is entered or the
expression shrinks. -/
def Call.Progresses (table : TypeTable) (call sub : Call) : Prop :=
  (sub.stack = call.stack ∧ sub.depth < call.depth) ∨
    ∃ name ∈ table.names, name ∉ call.stack ∧ sub.stack = call.stack ++ [name]

theorem Call.Descends.progresses {table : TypeTable} {call sub : Call}
    (hdescends : call.Descends table sub) : call.Progresses table sub := by
  cases hdescends with
  | part hdepth => exact .inl ⟨rfl, hdepth⟩
  | @enter name sub henter =>
      obtain ⟨hname, ⟨definition, hclass, rfl⟩ | ⟨target, -, halias, rfl⟩⟩ :=
        enter_eq_ok_iff.mp henter
      · exact .inr ⟨name, List.mem_append_left _ (Table.mem_names_of_get? hclass), hname, rfl⟩
      · exact .inr ⟨name, List.mem_append_right _ (Table.mem_names_of_get? halias), hname, rfl⟩

/-- A stack holds names of the table, and none of them twice. -/
structure SoundStack (table : TypeTable) (stack : List String) : Prop where
  nodup : stack.Nodup
  known : stack ⊆ table.names

theorem Call.Progresses.soundStack {table : TypeTable} {call sub : Call}
    (hprogresses : call.Progresses table sub) (hsound : SoundStack table call.stack) :
    SoundStack table sub.stack := by
  rcases hprogresses with ⟨hstack, -⟩ | ⟨name, hknown, hname, hstack⟩
  · rwa [hstack]
  · rw [hstack]
    refine ⟨?_, ?_⟩
    · exact hsound.nodup.append (List.nodup_singleton name) (by simpa using hname)
    · exact List.append_subset.mpr ⟨hsound.known, by simpa using hknown⟩

theorem SoundStack.length_le {table : TypeTable} {stack : List String}
    (hsound : SoundStack table stack) : stack.length ≤ table.names.dedup.length := by
  refine (List.subperm_of_subset hsound.nodup fun name hname => ?_).length_le
  exact List.mem_dedup.mpr (hsound.known hname)

section Chains

variable {table : TypeTable} {root : Call} {path : List Call}

theorem length_lt_of_chain (hchain : (root :: path).IsChain (Call.Descends table)) :
    path.length < root.need table := by
  induction path generalizing root with
  | nil => exact root.one_le_depth.trans (Nat.le_add_right _ _)
  | cons call path ih =>
      rw [List.isChain_cons_cons] at hchain
      exact (Nat.succ_le_of_lt (ih hchain.2)).trans_lt hchain.1.need_lt

/-- Along a chain of calls every stack is sound. -/
theorem soundStack_of_chain (hchain : (root :: path).IsChain (Call.Descends table))
    (hsound : SoundStack table root.stack) {call : Call} (hcall : call ∈ path) :
    SoundStack table call.stack := by
  induction path generalizing root with
  | nil => cases hcall
  | cons next path ih =>
      rw [List.isChain_cons_cons] at hchain
      have hnext := hchain.1.progresses.soundStack hsound
      rcases List.mem_cons.mp hcall with rfl | hcall
      · exact hnext
      · exact ih hchain.2 hnext hcall

end Chains

/-- Resolving ends: more depth than the table's own changes nothing, and along every
chain of calls in which each may depend on the next, the stack holds names of the table
without repetition, so that no more names are entered inside one another than the table
has, and between two of them the expression shrinks. -/
theorem resolve_terminates (table : TypeTable) (expr : Expr) :
    table.resolve expr ≠ .error .tooDeep ∧
    (∀ depth, table.depthFor expr ≤ depth →
      (Resolver.upTo table depth).type [] expr = table.resolve expr) ∧
    ∀ path : List Call,
      (Call.type [] expr :: path).IsChain (fun call sub =>
        ∃ resolver, call.Consults table resolver sub) →
      path.length < table.depthFor expr ∧
      (∀ call ∈ path, call.stack.Nodup ∧ call.stack ⊆ table.names ∧
        call.stack.length ≤ table.names.dedup.length) ∧
      (Call.type [] expr :: path).IsChain (Call.Progresses table) := by
  refine ⟨?_, fun depth hdepth => ?_, fun path hconsults => ?_⟩
  · rw [TypeTable.resolve_eq]
    exact table.answer_ne_tooDeep _
  · rw [TypeTable.depthFor_eq] at hdepth
    rw [TypeTable.resolve_eq]
    exact TypeTable.answer_upTo ((Nat.le_add_right _ 2).trans hdepth)
  · have hchain : (Call.type [] expr :: path).IsChain (Call.Descends table) :=
      hconsults.imp fun _ _ ⟨_, hconsults⟩ => hconsults.reaches.descends
    have hsound : SoundStack table (Call.type [] expr).stack :=
      ⟨List.nodup_nil, List.nil_subset _⟩
    refine ⟨?_, fun call hcall => ?_, hchain.imp fun _ _ hdescends => hdescends.progresses⟩
    · rw [TypeTable.depthFor_eq]
      exact (length_lt_of_chain hchain).trans_le (Nat.le_add_right _ 2)
    · have hstack := soundStack_of_chain hchain hsound hcall
      exact ⟨hstack.nodup, hstack.known, hstack.length_le⟩

def nodeClass : ClassDef :=
  .mk "Node" [] [] [] [.annotated ⟨2, 4⟩ (.name "child") (.literal (.str "Leaf" false)) none]

def leafClass : ClassDef :=
  .mk "Leaf" [.name "Node"] [] [] [.annotated ⟨5, 4⟩ (.name "size") (.name "int") none]

def treeTable : TypeTable where
  classes := [("Node", nodeClass), ("Leaf", leafClass)]
  aliases := []

theorem readExpression_leaf : readExpression? "Leaf" = some (.name "Leaf") := by
  cbv

/-- From the class through its field and the text in it to the class that extends it, and
on to a field of that one. -/
def treePath : List Call :=
  [.classType ["Node"] nodeClass, .type ["Node"] (.literal (.str "Leaf" false)),
    .type ["Node"] (.name "Leaf"), .classType ["Node", "Leaf"] leafClass,
    .type ["Node", "Leaf"] (.name "int")]

theorem treePath_consults :
    (Call.type [] (.name "Node") :: treePath).IsChain
      (Call.Consults treeTable treeTable.resolver) := by
  have hfirst : ∀ {call sub : Call} {after : List (Resolved Call)},
      call.requests treeTable = .ok sub :: after →
      call.Consults treeTable treeTable.resolver sub := by
    intro call sub after hrequests
    exact Call.consults_iff_reaches.mpr ⟨[], after, hrequests, by simp⟩
  have hread : (Call.type ["Node"] (.literal (.str "Leaf" false))).requests treeTable =
      [.ok (.type ["Node"] (.name "Leaf"))] := by
    rw [Call.requests, Call.items, TypeForm.ofExpr_text readExpression_leaf]
    rfl
  have hfield : (Call.classType ["Node", "Leaf"] leafClass).requests treeTable =
      [.ok (.type ["Node", "Leaf"] (.name "int"))] := by
    cbv
  have hchild : (Call.classType ["Node"] nodeClass).requests treeTable =
      [.ok (.type ["Node"] (.literal (.str "Leaf" false)))] := by
    cbv
  simp only [treePath, List.isChain_cons_cons, List.isChain_singleton, and_true]
  exact ⟨hfirst rfl, hfirst hchild, hfirst hread, hfirst rfl, hfirst hfield⟩

theorem resolve_terminates_tree :
    (Call.type [] (.name "Node") :: treePath).IsChain (fun call sub =>
      ∃ resolver, call.Consults treeTable resolver sub) ∧
    treePath.length < treeTable.depthFor (.name "Node") := by
  have hchain : (Call.type [] (.name "Node") :: treePath).IsChain (fun call sub =>
      ∃ resolver, call.Consults treeTable resolver sub) :=
    treePath_consults.imp fun _ _ hconsults => ⟨_, hconsults⟩
  exact ⟨hchain, ((resolve_terminates treeTable (.name "Node")).2.2 treePath hchain).1⟩

end RouteScribe.Schema
