import RouteScribe.Proofs.Schema.Resemblance

/-!
# Classes where they are used

A class is written out under the names of all the types around it, and these names are
used in two ways: a field cannot enter one of them again, and a base among them is left
out.  As long as no base is left out because of the types around a class, the class has
the schema that it has alone.  Otherwise it has no schema alone: the base that is left
out leads back to the class, and alone this is a type that contains itself.
-/

namespace RouteScribe.Schema

open RouteScribe.Source Relation

variable {table : TypeTable} {root call sub : Call} {outer other stack : List String}
variable {schema : Schema}

/-! ### Without a base that is left out -/

/-- A class takes nothing over from one of its bases, because the base is being resolved
already. -/
def Call.LeavesOut (table : TypeTable) (call : Call) (base : String) : Prop :=
  ∃ stack definition, call = .classType stack definition ∧ table.Inherits definition base ∧
    base ∈ stack

/-- The work on a call comes to a class that leaves out a base among some names. -/
def Call.LosesBase (table : TypeTable) (call : Call) (names : List String) : Prop :=
  ∃ below, ReflTransGen (Call.Consults table table.resolver) call below ∧
    ∃ base ∈ names, below.LeavesOut table base

/-- A base is left out exactly if it is asked for below itself. -/
theorem Call.leavesOut_iff {base : String} :
    call.LeavesOut table base ↔ .base base ∈ call.items table ∧ base ∈ call.stack := by
  cases call with
  | type stack expr =>
      constructor
      · rintro ⟨_, _, heq, -⟩
        cases heq
      · rintro ⟨hitem, -⟩
        exact absurd hitem TypeForm.base_notMem_items
  | classType stack definition =>
      constructor
      · rintro ⟨_, _, heq, hinherits, hstack⟩
        cases heq
        exact ⟨base_mem_classItems.mpr hinherits, hstack⟩
      · rintro ⟨hitem, hstack⟩
        exact ⟨stack, definition, rfl, base_mem_classItems.mp hitem, hstack⟩

theorem Call.losesBase_iff {names : List String}
    (hanswer : table.resolver.answer call = .ok schema) :
    call.LosesBase table names ↔ ∃ below, ReflTransGen (Call.Requests table) call below ∧
      ∃ base ∈ names, below.LeavesOut table base := by
  simp only [Call.LosesBase, path_consults_iff hanswer]

/-- If no base is left out because of the names around a call, the call has the same
answer without them. -/
theorem answer_of_answer_under (hdisjoint : ∀ id ∈ call.stack, id ∉ outer)
    (hanswer : table.resolver.answer (call.under outer) = .ok schema)
    (hkept : ∀ below, ReflTransGen (Call.Requests table) (call.under outer) below →
      ∀ base, below.LeavesOut table base → base ∉ outer) :
    table.resolver.answer call = .ok schema := by
  induction hneed : (call.under outer).need table using Nat.strong_induction_on
    generalizing call schema with
  | _ need ih =>
      have hitems : ∀ id, (.name id ∈ call.items table ∨ .base id ∈ call.items table) →
          id ∉ outer := by
        rintro id (hitem | hitem) hid
        · refine name_notMem_stack hanswer (by rwa [Call.items_under]) ?_
          rw [Call.stack_under]
          exact List.mem_append_left _ hid
        · refine hkept _ .refl id (Call.leavesOut_iff.mpr ⟨by rwa [Call.items_under], ?_⟩) hid
          rw [Call.stack_under]
          exact List.mem_append_left _ hid
      have hsubs : ∀ sub, call.Requests table sub →
          table.resolver.answer sub = (table.resolver.under outer).answer sub := by
        intro sub hrequests
        have hstack : ∀ id ∈ sub.stack, id ∉ outer := by
          rcases ok_mem_requests.mp hrequests with ⟨part, -, rfl⟩ | ⟨id, hitem, henter⟩
          · exact hdisjoint
          · rw [stack_of_enter henter]
            simpa [or_imp, forall_and] using ⟨hdisjoint, hitems id hitem⟩
        have hbelow := hrequests.under hstack
        obtain ⟨answer, hsub⟩ := hbelow.answer_ok hanswer
        have hneedSub := (Call.descends_of_mem_requests hbelow).need_lt
        rw [Resolver.answer_under, hsub]
        refine ih _ (hneed ▸ hneedSub) hstack hsub (fun below hpath => ?_) rfl
        exact hkept below (.head hbelow hpath)
      calc
        table.resolver.answer call
            = (table.resolver.step table).answer call := (table.answer_step_resolver call).symm
        _ = ((table.resolver.under outer).step table).answer call :=
            Resolver.answer_step_congr fun sub hreaches => hsubs sub hreaches.mem_requests
        _ = (table.resolver.step table).answer (call.under outer) :=
            (Resolver.answer_step_under _ hitems).symm
        _ = .ok schema := by rw [table.answer_step_resolver, hanswer]

/-! ### With a base that is left out -/

/-- What a name stands for uses the name again if it comes to a class that leaves out a
base among the names around it. -/
theorem not_answer_of_leavesOut {use : Expr} {name base : String} {definition : ClassDef}
    {below : Call} (hroot : root.stack = [])
    (hpath : ReflTransGen (Call.Requests table) root (.type stack use))
    (hform : TypeForm.ofExpr use = .named name) (hbuiltin : builtinSchema? name = none)
    (henter : table.enter stack name = .ok (.classType (stack ++ [name]) definition))
    (hbelow : ReflTransGen (Call.Requests table) (.classType (stack ++ [name]) definition) below)
    (hleaves : below.LeavesOut table base) (hbase : base ∈ stack) :
    table.resolver.answer (.classType [name] definition) ≠ .ok schema := by
  intro halone
  -- Alone, the class that leaves out the base is reached as well, and there it enters the base.
  change ReflTransGen (Call.Requests table) ((Call.classType [name] definition).under stack) below
    at hbelow
  obtain ⟨target, rfl, hprefix, hshift⟩ := Call.path_shift hbelow
  have hfirst := hshift [] (by simp)
  rw [Call.under_nil, Call.under_nil] at hfirst
  have hrequest := requests_of_named hform hbuiltin henter
  have hnodup : (stack ++ target.stack).Nodup := by
    have hsound : SoundStack table root.stack := hroot ▸ ⟨List.nodup_nil, List.nil_subset _⟩
    have hstack := soundStack_of_path ((hpath.tail hrequest).trans hbelow) hsound
    rw [Call.stack_under] at hstack
    exact hstack.nodup
  have hdisjoint : ∀ id ∈ stack, id ∉ target.stack := fun id hid hmem =>
    List.disjoint_of_nodup_append hnodup hid hmem
  have hitem : .base base ∈ target.items table := by
    have hitem := (Call.leavesOut_iff.mp hleaves).1
    rwa [Call.items_under] at hitem
  -- From the base, the way that led to the class leads to it again.
  obtain ⟨entry, inner, hentry, hagain⟩ := Call.path_again hroot hpath hbase hdisjoint
  have hbaseRequest : target.Requests table entry :=
    ok_mem_requests.mpr (.inr ⟨base, .inr hitem, hentry⟩)
  obtain ⟨answer, hanswer⟩ := answer_ok_of_path (hfirst.trans (.head hbaseRequest hagain)) halone
  have hname : name ∈ target.stack := hprefix.subset List.mem_cons_self
  rw [Call.withStack, answer_named hform hbuiltin,
    enter_of_mem (List.mem_append_left _ hname)] at hanswer
  cases hanswer

/-- A class in which a base among the names around it is left out is refused alone. -/
theorem recursive_of_leavesOut {whole : Schema} {use : Expr} {name base : String}
    {definition : ClassDef} {below : Call} (hroot : root.stack = [])
    (hresolved : table.resolver.answer root = .ok whole)
    (hpath : ReflTransGen (Call.Requests table) root (.type stack use))
    (hform : TypeForm.ofExpr use = .named name) (hbuiltin : builtinSchema? name = none)
    (henter : table.enter stack name = .ok (.classType (stack ++ [name]) definition))
    (hbelow : ReflTransGen (Call.Requests table) (.classType (stack ++ [name]) definition) below)
    (hleaves : below.LeavesOut table base) (hbase : base ∈ stack) :
    ∃ culprit, table.resolver.answer (.classType [name] definition) =
      .error (.fault (.recursive culprit)) := by
  have hentered := hpath.tail (requests_of_named hform hbuiltin henter)
  obtain ⟨inlined, hinlined⟩ := answer_ok_of_path hentered hresolved
  rcases resembles_withStack hroot hresolved hentered hinlined [name] with
    hrecursive | ⟨found, hfound, -⟩
  · exact hrecursive
  · exact absurd hfound
      (not_answer_of_leavesOut hroot hpath hform hbuiltin henter hbelow hleaves hbase)

/-! ### A class that is refused alone -/

theorem fieldsOf_node :
    fieldsOf nodeClass.body = [⟨"child", .literal (.str "Leaf" false), false, ""⟩] := by
  cbv

theorem fieldsOf_leaf : fieldsOf leafClass.body = [⟨"size", .name "int", false, ""⟩] := by
  cbv

theorem type_leafText (stack : List String) :
    treeTable.resolver.type stack (.literal (.str "Leaf" false)) =
      treeTable.resolver.type stack (.name "Leaf") := by
  rw [← treeTable.type_resolver stack (.literal (.str "Leaf" false)), TypeForm.resolveType_eq,
    TypeForm.ofExpr_text readExpression_leaf, TypeForm.resolve_same]

theorem classType_node (stack : List String) :
    treeTable.resolver.classType stack nodeClass =
      (fun leaf => .object [("child", .mk leaf none)] ["child"] .forbidden none) <$>
        treeTable.resolver.type stack (.name "Leaf") := by
  rw [← treeTable.classType_resolver]
  simp only [resolveClass, fieldsOf_node, List.foldlM_cons, addField, type_leafText]
  cases treeTable.resolver.type stack (.name "Leaf") with
  | ok leaf => rfl
  | error err => rfl

/-- Where its base is being resolved, the class has its own field only. -/
theorem type_leaf_of_node : treeTable.resolver.type ["Node"] (.name "Leaf") =
    .ok (.object [("size", .mk (.primitive .number none) none)] ["size"] .forbidden none) := by
  have hsize : treeTable.resolver.type ["Node", "Leaf"] (.name "int") =
      .ok (.primitive .number none) :=
    (treeTable.type_resolver ["Node", "Leaf"] (.name "int")).symm
  have hleaf : treeTable.resolver.type ["Node"] (.name "Leaf") =
      treeTable.resolver.classType ["Node", "Leaf"] leafClass :=
    answer_class rfl rfl rfl (by decide)
  rw [hleaf, ← treeTable.classType_resolver]
  simp only [resolveClass, fieldsOf_leaf, List.foldlM_cons, addField, hsize]
  rfl

/-- Alone, the class takes over the field of its base, which leads back to it. -/
theorem classType_leaf :
    treeTable.resolver.classType ["Leaf"] leafClass = .error (.fault (.recursive "Leaf")) := by
  have hleaf : treeTable.resolver.type ["Leaf", "Node"] (.name "Leaf") =
      treeTable.resolver.perform (treeTable.enter ["Leaf", "Node"] "Leaf") := answer_named rfl rfl
  have hnode : treeTable.resolver.classType ["Leaf", "Node"] nodeClass =
      .error (.fault (.recursive "Leaf")) := by
    rw [classType_node, hleaf, enter_of_mem List.mem_cons_self]
    rfl
  have hbase : addBase treeTable treeTable.resolver ["Leaf"] .empty (.name "Node") =
      .error (.fault (.recursive "Leaf")) := by
    change Members.inherit .empty <$> treeTable.resolver.classType ["Leaf", "Node"] nodeClass = _
    rw [hnode]
    rfl
  rw [← treeTable.classType_resolver]
  simp only [resolveClass, leafClass, ClassDef.bases, List.foldlM_cons, hbase]
  rfl

theorem resolve_node : treeTable.resolve (.name "Node") =
    .ok (.object [("child", .mk (.object [("size", .mk (.primitive .number none) none)] ["size"]
      .forbidden none) none)] ["child"] .forbidden none) := by
  have hnode : treeTable.resolver.answer (.type [] (.name "Node")) =
      treeTable.resolver.classType ["Node"] nodeClass :=
    answer_class rfl rfl rfl List.not_mem_nil
  rw [TypeTable.resolve_eq, hnode, classType_node, type_leaf_of_node]
  rfl

/-! ### One schema for a class -/

/-- Wherever a class is used in a type that has a schema, it has the schema that it has
alone, unless a class in it leaves out a base because of the types around the use; then,
and only then, the class alone is refused as a type that contains itself. -/
theorem inlined_eq_alone_iff {table : TypeTable} {expr use : Expr} {schema : Schema}
    {stack : List String} {name : String} {definition : ClassDef}
    (hresolve : table.resolve expr = .ok schema)
    (hpath : ReflTransGen (Call.Consults table table.resolver) (.type [] expr) (.type stack use))
    (hform : TypeForm.ofExpr use = .named name) (hbuiltin : builtinSchema? name = none)
    (hclass : table.classes.get? name = some definition) :
    ∃ inlined, table.resolver.type stack use = .ok inlined ∧
      (table.resolve (.name name) = .ok inlined ↔
        ¬ (Call.classType (stack ++ [name]) definition).LosesBase table stack) ∧
      ((∃ culprit, table.resolve (.name name) = .error (.fault (.recursive culprit))) ↔
        (Call.classType (stack ++ [name]) definition).LosesBase table stack) := by
  rw [TypeTable.resolve_eq] at hresolve
  rw [path_consults_iff hresolve] at hpath
  obtain ⟨inlined, hinlined⟩ := answer_ok_of_path hpath hresolve
  have hitem : .name name ∈ (Call.type stack use).items table :=
    TypeForm.name_mem_items.mpr ⟨hform, hbuiltin⟩
  have hnew : name ∉ stack := name_notMem_stack hinlined hitem
  have henter : table.enter stack name = .ok (.classType (stack ++ [name]) definition) :=
    enter_eq_ok_iff.mpr ⟨hnew, .inl ⟨definition, hclass, rfl⟩⟩
  have hused : table.resolver.answer (.classType (stack ++ [name]) definition) = .ok inlined :=
    (answer_class hform hbuiltin hclass hnew).symm.trans hinlined
  have halone : table.resolve (.name name) =
      table.resolver.answer (.classType [name] definition) := by
    rw [TypeTable.resolve_eq, answer_class rfl hbuiltin hclass List.not_mem_nil]
    rfl
  rw [halone]
  refine ⟨inlined, hinlined, ?_⟩
  by_cases hloses : (Call.classType (stack ++ [name]) definition).LosesBase table stack
  · obtain ⟨below, hbelow, base, hbase, hleaves⟩ := (Call.losesBase_iff hused).mp hloses
    obtain ⟨culprit, hrecursive⟩ := recursive_of_leavesOut rfl hresolve hpath hform hbuiltin henter
      hbelow hleaves hbase
    refine ⟨iff_of_false ?_ (not_not_intro hloses), iff_of_true ⟨culprit, hrecursive⟩ hloses⟩
    rw [hrecursive]
    exact fun h => nomatch h
  · have hsame : table.resolver.answer (.classType [name] definition) = .ok inlined := by
      refine answer_of_answer_under ?_ hused fun below hbelow base hleaves hbase =>
        hloses ((Call.losesBase_iff hused).mpr ⟨below, hbelow, base, hbase, hleaves⟩)
      intro id hid
      rw [List.mem_singleton.mp hid]
      exact hnew
    refine ⟨iff_of_true hsame hloses, iff_of_false ?_ hloses⟩
    rintro ⟨culprit, hrecursive⟩
    rw [hsame] at hrecursive
    cases hrecursive

/-- A leaf of a tree of nodes is inlined without its base, and refused alone. -/
theorem inlined_eq_alone_iff_leaf :
    ∃ inlined, treeTable.resolver.type ["Node"] (.name "Leaf") = .ok inlined ∧
      treeTable.resolve (.name "Leaf") ≠ .ok inlined ∧
      ∃ culprit, treeTable.resolve (.name "Leaf") = .error (.fault (.recursive culprit)) := by
  have hpath : ReflTransGen (Call.Consults treeTable treeTable.resolver) (.type [] (.name "Node"))
      (.type ["Node"] (.name "Leaf")) := by
    have hchain := treePath_consults
    simp only [treePath, List.isChain_cons_cons] at hchain
    obtain ⟨hfirst, hsecond, hthird, -⟩ := hchain
    exact ((ReflTransGen.single hfirst).tail hsecond).tail hthird
  obtain ⟨inlined, hinlined, hsame, hrefused⟩ :=
    inlined_eq_alone_iff resolve_node hpath rfl rfl rfl
  have hleaves : (Call.classType ["Node", "Leaf"] leafClass).LeavesOut treeTable "Node" :=
    Call.leavesOut_iff.mpr ⟨List.mem_cons_self, List.mem_cons_self⟩
  refine ⟨inlined, hinlined, fun h => hsame.mp h ?_, hrefused.mpr ?_⟩
  · exact ⟨_, .refl, "Node", List.mem_cons_self, hleaves⟩
  · exact ⟨_, .refl, "Node", List.mem_cons_self, hleaves⟩

/-- A class with a field of a class that extends it has a schema, in which the other
class stands without the field; alone the other class has none. -/
theorem refused_class_inlined :
    treeTable.resolve (.name "Leaf") = .error (.fault (.recursive "Leaf")) ∧
      treeTable.resolve (.name "Node") =
        .ok (.object [("child", .mk (.object [("size", .mk (.primitive .number none) none)] ["size"]
          .forbidden none) none)] ["child"] .forbidden none) := by
  have hleaf : treeTable.resolver.answer (.type [] (.name "Leaf")) =
      treeTable.resolver.classType ["Leaf"] leafClass :=
    answer_class rfl rfl rfl List.not_mem_nil
  refine ⟨?_, resolve_node⟩
  rw [TypeTable.resolve_eq, hleaf, classType_leaf]

end RouteScribe.Schema
