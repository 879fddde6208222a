import RouteScribe.Proofs.Schema.Failure
import RouteScribe.Proofs.Schema.Inlining

/-!
# Types that contain themselves

Types refer to one another by the names that occur in them: in the fields of a class, among
its bases, in the shape of its further entries, and in what an alias stands for.  The names
that are being resolved always form a path of these references, and whatever a call still
comes to is referred to by the last of them.  A name that is met again while it is being
resolved therefore closes a cycle, so that a type is never refused as one that contains
itself unless it does, however often it is used in different places.
-/

namespace RouteScribe.Schema

open RouteScribe.Source Relation

/-! ### References -/

/-- The names that occur in a type expression where a type can stand, those in a text that
is read as a type included. -/
inductive Mentions : Expr → String → Prop where
  | name {id : String} : Mentions (.name id) id
  | member {value : Expr} {member : String} : Mentions (.attribute value member) member
  | left {left right : Expr} {id : String} (hleft : Mentions left id) :
      Mentions (.binary left .bitOr right) id
  | right {left right : Expr} {id : String} (hright : Mentions right id) :
      Mentions (.binary left .bitOr right) id
  /-- A type with arguments is named by what is subscripted. -/
  | generic {value index : Expr} : Mentions (.subscript value index) value.simpleName
  | argument {value index arg : Expr} {id : String} (harg : arg ∈ index.subscriptArgs)
      (hmentions : Mentions arg id) : Mentions (.subscript value index) id
  | text {text : String} {isMarked : Bool} {inside : Expr} {id : String}
      (hread : readExpression? text = some inside) (hinside : Mentions inside id) :
      Mentions (.literal (.str text isMarked)) id

/-- The names that occur in a class where a type can stand. -/
inductive ClassMentions (definition : ClassDef) : String → Prop where
  | field {field : Field} {id : String} (hfield : field ∈ fieldsOf definition.body)
      (hmentions : Mentions field.hint id) : ClassMentions definition id
  | base {base : Expr} (hbase : base ∈ definition.bases) :
      ClassMentions definition base.genericName
  /-- A mapping type among the bases gives the shape of further entries. -/
  | entries {base value : Expr} {id : String} (hbase : base ∈ definition.bases)
      (hentries : entriesOf? base = some (.ok value)) (hmentions : Mentions value id) :
      ClassMentions definition id
  | extra {type : Expr} {id : String}
      (hextra : keywordValue? definition.keywords "extra_items" = some type)
      (hmentions : Mentions type id) : ClassMentions definition id

/-- One name of a table refers to another: the second occurs in the class that the first
stands for, or else in the target of the alias. -/
inductive TypeTable.Refers (table : TypeTable) (name other : String) : Prop where
  | ofClass {definition : ClassDef} (hclass : table.classes.get? name = some definition)
      (hmentions : ClassMentions definition other) : Refers table name other
  | ofAlias {target : Expr} (hclass : table.classes.get? name = none)
      (halias : table.aliases.get? name = some target) (hmentions : Mentions target other) :
      Refers table name other

/-- The names that occur in what a call is for. -/
def Call.Mentions : Call → String → Prop
  | .type _ expr => Schema.Mentions expr
  | .classType _ definition => ClassMentions definition

/-! ### What a call comes to is mentioned -/

/-- What a member mentions is mentioned by the union. -/
theorem mentions_of_unionMembers {expr member : Expr} {id : String}
    (hmember : member ∈ unionMembers expr) (hmentions : Mentions member id) :
    Mentions expr id := by
  fun_induction unionMembers expr with
  | case1 left right ihLeft ihRight =>
      rcases List.mem_append.mp hmember with hmember | hmember
      · exact .left (ihLeft hmember)
      · exact .right (ihRight hmember)
  | case2 expr =>
      rw [List.mem_singleton.mp hmember] at hmentions
      exact hmentions

namespace TypeForm

/-- What a part mentions is mentioned by the whole type. -/
theorem mentions_of_part {expr part : Expr} {id : String}
    (hpart : .part (.ok part) ∈ (ofExpr expr).items) (hmentions : Mentions part id) :
    Mentions expr id := by
  revert hpart
  fun_cases ofExpr expr with
  | case2 text isMarked inside hread =>
      intro hpart
      cases List.mem_singleton.mp hpart
      exact .text hread hmentions
  | case7 left right =>
      intro hpart
      exact mentions_of_unionMembers (List.mem_of_mem_filter (part_mem_map hpart)) hmentions
  | case8 value index =>
      intro hpart
      exact .argument (part_mem_ofSubscript hpart) hmentions
  | case5 | case6 =>
      intro hpart
      simp only [items] at hpart
      split at hpart
      · cases hpart
      · cases List.mem_singleton.mp hpart
  | case1 =>
      intro hpart
      cases hpart
  | _ =>
      intro hpart
      cases List.mem_singleton.mp hpart

theorem ofArgument_ne_named {argument : Resolved Expr} {form : Expr → TypeForm} {id : String}
    (hform : ∀ arg, form arg ≠ .named id) : ofArgument argument form ≠ .named id := by
  cases argument with
  | ok arg => exact hform arg
  | error err => exact fun h => nomatch h

theorem eq_of_ofSubscript_named {base id : String} {args : List Expr}
    (hform : ofSubscript base args = .named id) : base = id := by
  unfold ofSubscript at hform
  split_ifs at hform
  · exact absurd hform (ofArgument_ne_named (by simp))
  · exact absurd hform (ofArgument_ne_named (by simp))
  · exact absurd hform (ofArgument_ne_named (by simp))
  · split at hform
    · cases hform
    · cases hform
  · exact absurd hform (ofArgument_ne_named (by simp))
  · exact TypeForm.named.inj hform

/-- A type that comes down to a name mentions it. -/
theorem mentions_of_named {expr : Expr} {id : String} (hform : ofExpr expr = .named id) :
    Mentions expr id := by
  revert hform
  fun_cases ofExpr expr with
  | case5 name =>
      intro hform
      cases hform
      exact .name
  | case6 value member =>
      intro hform
      cases hform
      exact .member
  | case8 value index =>
      intro hform
      rw [← eq_of_ofSubscript_named hform]
      exact .generic
  | _ =>
      intro hform
      cases hform

theorem ofSubscript_ne_recursive (base : String) (args : List Expr) (id : String) :
    ofSubscript base args ≠ .settled (.error (.fault (.recursive id))) := by
  intro hform
  unfold ofSubscript at hform
  split_ifs at hform
  · cases (firstArgument_eq_error (ofArgument_eq_settled (by simp) hform)).2
  · cases (firstArgument_eq_error (ofArgument_eq_settled (by simp) hform)).2
  · obtain ⟨arg, harg⟩ := literalSchema_eq_error (TypeForm.settled.inj hform)
    cases harg
  · cases (firstArgument_eq_error (ofArgument_eq_settled (by simp) hform)).2
  · split at hform
    · cases hform
    · cases hform
  · cases (lastArgument_eq_error (ofArgument_eq_settled (by simp) hform)).2

/-- No type is refused as one that contains itself before a name in it is entered. -/
theorem ofExpr_ne_recursive (expr : Expr) (id : String) :
    ofExpr expr ≠ .settled (.error (.fault (.recursive id))) := by
  fun_cases ofExpr expr with
  | case8 value index => exact ofSubscript_ne_recursive _ _ id
  | case3 text _ _ =>
      intro hform
      rcases ResolveError.ofText_eq with htext | htext
      · cases htext.symm.trans (Except.error.inj (settled.inj hform))
      · cases htext.symm.trans (Except.error.inj (settled.inj hform))
  | _ =>
      intro hform
      cases hform

end TypeForm

variable {table : TypeTable} {call sub root : Call} {id : String}

theorem Call.mentions_of_part {part : Expr} (hpart : .part (.ok part) ∈ call.items table)
    (hmentions : Schema.Mentions part id) : call.Mentions id := by
  cases call with
  | type stack expr => exact TypeForm.mentions_of_part hpart hmentions
  | classType stack definition =>
      rcases mem_classItems hpart with ⟨-, base, hbase, hitem⟩ | hitem | hitem
      · rcases mem_baseItems.mp hitem with ⟨value, hentries, heq⟩ | ⟨-, -, heq⟩
        · cases heq
          exact .entries hbase hentries hmentions
        · cases heq
      · obtain ⟨type, hextra, heq⟩ := mem_extraItems.mp hitem
        cases heq
        exact .extra hextra hmentions
      · obtain ⟨field, hfield, heq⟩ := mem_fieldItems.mp hitem
        cases heq
        exact .field hfield hmentions

/-- A call mentions the names and bases that it asks for. -/
theorem Call.mentions_of_item (hitem : .name id ∈ call.items table ∨ .base id ∈ call.items table) :
    call.Mentions id := by
  cases call with
  | type stack expr =>
      rcases hitem with hname | hbase
      · exact TypeForm.mentions_of_named (TypeForm.name_mem_items.mp hname).1
      · exact absurd hbase TypeForm.base_notMem_items
  | classType stack definition =>
      rcases hitem with hname | hitem
      · exact absurd hname name_notMem_classItems
      · obtain ⟨-, -, base, hbase, -, rfl⟩ := base_mem_classItems.mp hitem
        exact .base hbase

/-! ### The stack as a path of references -/

/-- The names that are being resolved refer to one another in turn, and the last of them
refers to whatever occurs in the call. -/
structure Call.OnPath (table : TypeTable) (call : Call) : Prop where
  chain : call.stack.IsChain table.Refers
  next : ∀ last ∈ call.stack.getLast?, ∀ id, call.Mentions id → table.Refers last id

theorem refers_of_enter {stack : List String} {name : String}
    (henter : table.enter stack name = .ok sub) (hmentions : sub.Mentions id) :
    table.Refers name id := by
  obtain ⟨-, ⟨definition, hclass, rfl⟩ | ⟨target, hclass, halias, rfl⟩⟩ := enter_eq_ok_iff.mp henter
  · exact .ofClass hclass hmentions
  · exact .ofAlias hclass halias hmentions

/-- What a call on a path asks for is on a path too. -/
theorem Call.OnPath.step (hpath : call.OnPath table) (hrequests : call.Requests table sub) :
    sub.OnPath table := by
  rcases ok_mem_requests.mp hrequests with ⟨part, hpart, rfl⟩ | ⟨name, hitem, henter⟩
  · exact ⟨hpath.chain, fun last hlast id hmentions =>
      hpath.next last hlast id (Call.mentions_of_part hpart hmentions)⟩
  · have hname : call.Mentions name := Call.mentions_of_item hitem
    constructor
    · rw [stack_of_enter henter, List.isChain_append]
      refine ⟨hpath.chain, List.isChain_singleton name, fun last hlast next hnext => ?_⟩
      obtain rfl : name = next := by simpa using hnext
      exact hpath.next last hlast name hname
    · intro last hlast id hmentions
      rw [stack_of_enter henter, List.getLast?_concat] at hlast
      obtain rfl : name = last := by simpa using hlast
      exact refers_of_enter henter hmentions

theorem Call.onPath_of_path (hroot : root.stack = [])
    (hpath : ReflTransGen (Call.Requests table) root call) : call.OnPath table := by
  induction hpath with
  | refl => exact ⟨by simp [hroot], by simp [hroot]⟩
  | tail _ hrequests ih => exact ih.step hrequests

/-- A name on the stack that is mentioned once more closes a cycle. -/
theorem Call.OnPath.cycle (hpath : call.OnPath table) (hid : id ∈ call.stack)
    (hmentions : call.Mentions id) : TransGen table.Refers id id := by
  obtain ⟨before, after, hstack⟩ := List.append_of_mem hid
  have hchain : (id :: after).IsChain table.Refers := by
    have hchain := hpath.chain
    rw [hstack] at hchain
    exact hchain.right_of_append
  have hlast : (id :: after).getLast (List.cons_ne_nil id after) ∈ call.stack.getLast? := by
    rw [hstack, List.getLast?_append, List.getLast?_eq_some_getLast (List.cons_ne_nil id after)]
    rfl
  have hreach : ReflTransGen table.Refers id ((id :: after).getLast (List.cons_ne_nil id after)) :=
    List.relationReflTransGen_of_exists_isChain_cons after hchain rfl
  exact .tail' hreach (hpath.next _ hlast id hmentions)

/-! ### Types that are refused -/

/-- A name that is refused as recursive is on the stack already. -/
theorem enter_eq_recursive {stack : List String} {name : String}
    (henter : table.enter stack name = .error (.fault (.recursive id))) :
    name = id ∧ name ∈ stack := by
  unfold TypeTable.enter at henter
  split at henter
  · rename_i hstack
    cases henter
    exact ⟨rfl, List.contains_iff_mem.mp hstack⟩
  · split at henter
    · cases henter
    · split at henter
      · cases henter
      · cases henter

/-- A call that refuses a type of its own as one that contains itself has come to a name
that is being resolved. -/
theorem Call.Fails.mentions (hfails : call.Fails table (.fault (.recursive id))) :
    id ∈ call.stack ∧ call.Mentions id := by
  rcases hfails with ⟨before, after, hsplit, -⟩ | ⟨answers, -, hrefuses⟩
  · have hmem : .error (.fault (.recursive id)) ∈ call.requests table := by simp [hsplit]
    rcases error_mem_requests.mp hmem with hitem | ⟨name, hitem, henter⟩
    · cases call with
      | type stack expr =>
          exact absurd (TypeForm.error_mem_items.mp hitem) (TypeForm.ofExpr_ne_recursive expr id)
      | classType stack definition =>
          obtain ⟨-, base, -, hentries⟩ := error_mem_classItems hitem
          cases (entriesOf_eq_error hentries).1
    · obtain ⟨rfl, hstack⟩ := enter_eq_recursive henter
      exact ⟨hstack, Call.mentions_of_item (hitem.imp_right And.left)⟩
  · obtain ⟨-, -, -, -, -, hunion⟩ := hrefuses
    cases (unionSchema_eq_error_iff.mp hunion).1

theorem cycle_of_answer (hroot : root.stack = [])
    (hanswer : table.resolver.answer root = .error (.fault (.recursive id))) :
    TransGen table.Refers id id := by
  obtain ⟨origin, hpath, hfails⟩ := answer_eq_error_iff_origin.mp hanswer
  have hrequests : ReflTransGen (Call.Requests table) root origin :=
    ReflTransGen.mono (fun _ _ hconsults => hconsults.reaches.mem_requests) _ _ hpath
  obtain ⟨hstack, hmentions⟩ := hfails.mentions
  exact (Call.onPath_of_path hroot hrequests).cycle hstack hmentions

/-- A text is refused because a type contains itself only if that type lies on a cycle of
references, so that types without such a cycle are never refused for it. -/
theorem recursive_on_cycle (table : TypeTable) :
    (∀ text name, table.schemaOf text = .error (.fault (.recursive name)) →
      TransGen table.Refers name name) ∧
    ((∀ name, ¬ TransGen table.Refers name name) →
      ∀ text name, table.schemaOf text ≠ .error (.fault (.recursive name))) := by
  have hcycle : ∀ text name, table.schemaOf text = .error (.fault (.recursive name)) →
      TransGen table.Refers name name := by
    intro text name hrefused
    unfold TypeTable.schemaOf at hrefused
    split at hrefused
    · rw [TypeTable.resolve_eq] at hrefused
      exact cycle_of_answer rfl hrefused
    · rcases ResolveError.ofText_eq with htext | htext
      · cases htext.symm.trans (Except.error.inj hrefused)
      · cases htext.symm.trans (Except.error.inj hrefused)
  refine ⟨hcycle, fun hacyclic text name hrefused => ?_⟩
  exact hacyclic name (hcycle text name hrefused)

def lineClass : ClassDef :=
  .mk "Line" [] [] []
    [.annotated ⟨5, 4⟩ (.name "start") (.name "Point") none,
      .annotated ⟨6, 4⟩ (.name "stop") (.name "Point") none]

def pointClass : ClassDef :=
  .mk "Point" [] [] [] [.annotated ⟨2, 4⟩ (.name "x") (.name "int") none]

def lineTable : TypeTable where
  classes := [("Point", pointClass), ("Line", lineClass)]
  aliases := []

theorem mentions_name {id other : String} (hmentions : Mentions (.name id) other) : other = id := by
  cases hmentions
  rfl

/-- A line refers to its points, and a point to numbers. -/
theorem refers_line {name other : String} (hrefers : lineTable.Refers name other) :
    name = "Line" ∧ other = "Point" ∨ name = "Point" ∧ other = "int" := by
  have hline : ∀ field ∈ fieldsOf lineClass.body, field.hint = .name "Point" := by
    have hfields : fieldsOf lineClass.body =
        [⟨"start", .name "Point", false, ""⟩, ⟨"stop", .name "Point", false, ""⟩] := by
      cbv
    simp [hfields]
  have hpoint : ∀ field ∈ fieldsOf pointClass.body, field.hint = .name "int" := by
    have hfields : fieldsOf pointClass.body = [⟨"x", .name "int", false, ""⟩] := by
      cbv
    simp [hfields]
  cases hrefers with
  | ofAlias hclass halias hmentions => cases halias
  | @ofClass definition hclass hmentions =>
      have hentry : (name, definition) ∈ lineTable.classes := Table.mem_of_get? hclass
      simp only [lineTable, List.mem_cons, Prod.mk.injEq, List.not_mem_nil, or_false] at hentry
      rcases hentry with ⟨rfl, rfl⟩ | ⟨rfl, rfl⟩
      · cases hmentions with
        | field hfield hmentions =>
            rw [hpoint _ hfield] at hmentions
            exact .inr ⟨rfl, mentions_name hmentions⟩
        | base hbase | entries hbase => cases hbase
        | extra hextra => cases hextra
      · cases hmentions with
        | field hfield hmentions =>
            rw [hline _ hfield] at hmentions
            exact .inl ⟨rfl, mentions_name hmentions⟩
        | base hbase | entries hbase => cases hbase
        | extra hextra => cases hextra

/-- Two uses of one class are no cycle. -/
theorem acyclic_line (name : String) : ¬ TransGen lineTable.Refers name name := by
  have hpath : ∀ {first last : String}, TransGen lineTable.Refers first last → last ≠ "Line" ∧
      (first = "Point" → last = "int") ∧ first ≠ "int" := by
    intro first last hpath
    induction hpath with
    | single hrefers =>
        rcases refers_line hrefers with ⟨rfl, rfl⟩ | ⟨rfl, rfl⟩
        · decide
        · decide
    | tail _ hrefers ih =>
        obtain ⟨hnotLine, hpoint, hnotInt⟩ := ih
        rcases refers_line hrefers with ⟨rfl, rfl⟩ | ⟨rfl, rfl⟩
        · exact absurd rfl hnotLine
        · exact ⟨by decide, fun _ => rfl, hnotInt⟩
  intro hcycle
  obtain ⟨hnotLine, hpoint, hnotInt⟩ := hpath hcycle
  obtain ⟨other, hrefers, -⟩ := TransGen.head'_iff.mp hcycle
  rcases refers_line hrefers with ⟨rfl, -⟩ | ⟨rfl, -⟩
  · exact hnotLine rfl
  · exact absurd (hpoint rfl) (by decide)

theorem schemaOf_leaf :
    treeTable.schemaOf "Leaf" = .error (.fault (.recursive "Leaf")) := by
  have hread : readExpression? (Text.trimString "Leaf") = some (.name "Leaf") := by
    cbv
  have hleaf : treeTable.resolver.answer (.type [] (.name "Leaf")) =
      treeTable.resolver.classType ["Leaf"] leafClass :=
    answer_class rfl rfl rfl List.not_mem_nil
  rw [schemaOf_eq hread, TypeTable.resolve_eq, hleaf, classType_leaf]

theorem recursive_on_cycle_leaf :
    treeTable.schemaOf "Leaf" = .error (.fault (.recursive "Leaf")) ∧
    TransGen treeTable.Refers "Leaf" "Leaf" ∧
    (∀ name, ¬ TransGen lineTable.Refers name name) ∧
    ∀ text name, lineTable.schemaOf text ≠ .error (.fault (.recursive name)) :=
  ⟨schemaOf_leaf, (recursive_on_cycle treeTable).1 "Leaf" "Leaf" schemaOf_leaf, acyclic_line,
    (recursive_on_cycle lineTable).2 acyclic_line⟩

end RouteScribe.Schema
