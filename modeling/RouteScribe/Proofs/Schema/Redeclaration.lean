import RouteScribe.Proofs.Schema.Shape
import RouteScribe.Proofs.Schema.Shift

/-!
# Fields that are declared again

A class has the fields of its bases and its own, one after the other.  Of the declarations
of one field the last gives the property its schema, while one of them that is required, at
any place, makes the property required.  A property therefore is required exactly if its
last declaration is, unless the last declaration takes back what an earlier one demands.
-/

namespace RouteScribe.Schema

open RouteScribe.Source

/-! ### Declarations -/

/-- A field where a class declares it. -/
structure Declaration where
  field : Field
  /-- Whether the fields of the class must be present unless they say otherwise. -/
  total : Bool
  /-- The types around the field. -/
  stack : List String

namespace Declaration

def isRequired (declaration : Declaration) : Bool :=
  Schema.isRequired declaration.total declaration.field

/-- A declaration gives a property its schema and its note. -/
def Gives (table : TypeTable) (declaration : Declaration) : Property → Prop
  | .mk schema note =>
      table.resolver.type declaration.stack declaration.field.hint = .ok schema ∧
        note = if declaration.field.note = "" then none else some declaration.field.note

end Declaration

def lastOf (declarations : List Declaration) (name : String) : Option Declaration :=
  (declarations.filter (·.field.name = name)).getLast?

theorem lastOf_append (front back : List Declaration) (name : String) :
    lastOf (front ++ back) name = (lastOf back name).or (lastOf front name) := by
  rw [lastOf, List.filter_append, List.getLast?_append]
  rfl

theorem lastOf_singleton_self (declaration : Declaration) :
    lastOf [declaration] declaration.field.name = some declaration := by
  simp [lastOf]

theorem lastOf_singleton_of_ne {declaration : Declaration} {name : String}
    (hname : name ≠ declaration.field.name) : lastOf [declaration] name = none := by
  simp [lastOf, hname.symm]

theorem of_lastOf {declarations : List Declaration} {name : String} {last : Declaration}
    (hlast : lastOf declarations name = some last) :
    last ∈ declarations ∧ last.field.name = name := by
  have hmem := List.mem_of_getLast? hlast
  rw [List.mem_filter, decide_eq_true_eq] at hmem
  exact hmem

/-- One of the declarations of a field is required. -/
def Demands (declarations : List Declaration) (name : String) : Prop :=
  ∃ declaration ∈ declarations, declaration.field.name = name ∧ declaration.isRequired

theorem demands_append {front back : List Declaration} {name : String} :
    Demands (front ++ back) name ↔ Demands front name ∨ Demands back name := by
  simp only [Demands, List.mem_append, or_and_right, exists_or]

theorem demands_singleton {declaration : Declaration} {name : String} :
    Demands [declaration] name ↔ declaration.field.name = name ∧ declaration.isRequired := by
  simp only [Demands, List.mem_singleton, exists_eq_left]

instance (definition : ClassDef) : Decidable (HasMembers definition) :=
  List.decidableBAll _ definition.bases

/-- The class whose members a base brings in: one of the program that is not being resolved
already. -/
def TypeTable.parent? (table : TypeTable) (stack : List String) (base : Expr) :
    Option ClassDef :=
  if (entriesOf? base).isSome || stack.contains base.genericName then none
  else table.classes.get? base.genericName

theorem TypeTable.parent?_eq_some_iff {table : TypeTable} {stack : List String} {base : Expr}
    {parent : ClassDef} :
    table.parent? stack base = some parent ↔ entriesOf? base = none ∧
      base.genericName ∉ stack ∧ table.classes.get? base.genericName = some parent := by
  rw [parent?, Option.ite_none_left_eq_some, Bool.or_eq_true, not_or, List.contains_iff_mem,
    and_assoc]
  simp

theorem TypeTable.left_lt_of_parent? {table : TypeTable} {stack : List String} {base : Expr}
    {parent : ClassDef} (hparent : table.parent? stack base = some parent) :
    table.left (stack ++ [base.genericName]) < table.left stack := by
  obtain ⟨-, hname, hclass⟩ := parent?_eq_some_iff.mp hparent
  have hclasses : offStack classDepth (stack ++ [base.genericName]) table.classes +
      classDepth parent ≤ offStack classDepth stack table.classes := offStack_push hname hclass
  have haliases := offStack_push_le (typeDepth · + 1) stack base.genericName table.aliases
  have hdepth : 1 ≤ classDepth parent := Nat.le_add_left 1 _
  simp only [TypeTable.left]
  omega

def ownDeclarations (stack : List String) (definition : ClassDef) : List Declaration :=
  (fieldsOf definition.body).map
    (⟨·, isTotal (definition.bases.map Expr.genericName) definition, stack⟩)

/-- The fields of a class in the order in which they are entered: those of its bases and
then its own. -/
def TypeTable.declarations (table : TypeTable) (stack : List String) (definition : ClassDef) :
    List Declaration :=
  if HasMembers definition then
    (definition.bases.flatMap fun base =>
      match _ : table.parent? stack base with
      | some parent => table.declarations (stack ++ [base.genericName]) parent
      | none => []) ++ ownDeclarations stack definition
  else []
termination_by table.left stack
decreasing_by
  rename_i hparent
  exact TypeTable.left_lt_of_parent? hparent

/-- The fields that a base brings in. -/
def TypeTable.broughtBy (table : TypeTable) (stack : List String) (base : Expr) :
    List Declaration :=
  match table.parent? stack base with
  | some parent => table.declarations (stack ++ [base.genericName]) parent
  | none => []

theorem TypeTable.declarations_eq (table : TypeTable) (stack : List String)
    {definition : ClassDef} (hmembers : HasMembers definition) :
    table.declarations stack definition =
      definition.bases.flatMap (table.broughtBy stack) ++ ownDeclarations stack definition := by
  rw [declarations, if_pos hmembers]
  congr 2
  funext base
  unfold broughtBy
  split <;> rename_i hparent <;> simp [hparent]

theorem TypeTable.declarations_eq_nil (table : TypeTable) (stack : List String)
    {definition : ClassDef} (hmembers : ¬ HasMembers definition) :
    table.declarations stack definition = [] := by
  rw [declarations, if_neg hmembers]

/-! ### Members that reflect declarations -/

/-- What a class has collected is what some declarations say. -/
structure Members.Reflect (table : TypeTable) (members : Members)
    (declarations : List Declaration) : Prop where
  names : members.properties.names.Nodup
  unrepeated : members.required.Nodup
  property : ∀ name, Option.Rel (Declaration.Gives table) (lastOf declarations name)
    (members.properties.get? name)
  required : ∀ name, name ∈ members.required ↔ Demands declarations name

/-- The schema of a class is what some declarations say; without an object there are none. -/
def Reflect (table : TypeTable) : Schema → List Declaration → Prop
  | .object properties required additional _, declarations =>
      (⟨properties, required, additional⟩ : Members).Reflect table declarations
  | _, declarations => declarations = []

section Reflect

variable {table : TypeTable} {stack : List String} {members after : Members}
variable {declarations more : List Declaration}

theorem Members.reflect_empty : Members.empty.Reflect table [] where
  names := List.nodup_nil
  unrepeated := List.nodup_nil
  property := fun _ => .none
  required := by simp [Members.empty, Demands]

theorem rel_or {α β : Type} {related : α → β → Prop} {x x' : Option α} {y y' : Option β}
    (hfirst : Option.Rel related x y) (hsecond : Option.Rel related x' y') :
    Option.Rel related (x.or x') (y.or y') := by
  cases hfirst with
  | none => exact hsecond
  | some h => exact .some h

/-- Adding a field reflects one more declaration. -/
theorem Members.Reflect.addField {total : Bool} {field : Field}
    (hmembers : members.Reflect table declarations)
    (hafter : addField table.resolver stack total members field = .ok after) :
    after.Reflect table (declarations ++ [⟨field, total, stack⟩]) := by
  obtain ⟨schema, hschema, hresult⟩ := bind_eq_ok hafter
  cases hresult
  constructor
  · exact Table.nodup_names_put _ _ hmembers.names
  · dsimp only
    split
    · exact nodup_addNames hmembers.unrepeated _
    · exact hmembers.unrepeated
  · intro name
    rw [lastOf_append]
    by_cases hname : name = field.name
    · subst hname
      have hlast := lastOf_singleton_self ⟨field, total, stack⟩
      dsimp only at hlast ⊢
      rw [hlast, Table.get?_put_self]
      exact .some ⟨hschema, rfl⟩
    · have hlast : lastOf [⟨field, total, stack⟩] name = none := lastOf_singleton_of_ne hname
      rw [hlast, Table.get?_put_of_ne hname]
      exact hmembers.property name
  · intro name
    rw [demands_append, demands_singleton, ← hmembers.required]
    dsimp only [Declaration.isRequired]
    split
    · rename_i hrequired
      rw [mem_addNames hmembers.unrepeated, List.mem_singleton, eq_comm (a := name)]
      simp [hrequired]
    · rename_i hrequired
      simp [hrequired]

/-- Inheriting members reflects the declarations of the base as well. -/
theorem Members.Reflect.inherit {schema : Schema} (hmembers : members.Reflect table declarations)
    (hschema : schema.Reflect table more) :
    (members.inherit schema).Reflect table (declarations ++ more) := by
  cases schema with
  | object properties required additional description =>
      have hinherited : (⟨properties, required, additional⟩ : Members).Reflect table more := hschema
      constructor
      · exact Table.nodup_names_merge properties hmembers.names
      · exact nodup_addNames hmembers.unrepeated required
      · intro name
        have hget : (members.properties.merge properties).get? name =
            (Table.get? properties name).or (members.properties.get? name) := by
          rw [Table.get?_merge, Table.lastValue_eq_get? hinherited.names]
        rw [lastOf_append]
        exact hget ▸ rel_or (hinherited.property name) (hmembers.property name)
      · intro name
        rw [demands_append, ← hmembers.required, ← hinherited.required]
        exact mem_addNames hmembers.unrepeated
  | _ =>
      obtain rfl : more = [] := hschema
      rw [List.append_nil]
      exact hmembers

/-- A base adds the declarations that it brings in, if the schema of its class is what they
say. -/
theorem Members.Reflect.addBase {base : Expr} (hmembers : members.Reflect table declarations)
    (hparents : ∀ parent schema, table.parent? stack base = some parent →
      table.resolver.classType (stack ++ [base.genericName]) parent = .ok schema →
      schema.Reflect table (table.broughtBy stack base))
    (hafter : addBase table table.resolver stack members base = .ok after) :
    after.Reflect table (declarations ++ table.broughtBy stack base) := by
  have hnothing : table.parent? stack base = none →
      members.Reflect table (declarations ++ table.broughtBy stack base) := by
    intro hparent
    rwa [TypeTable.broughtBy, hparent, List.append_nil]
  cases hentries : entriesOf? base with
  | some value =>
      rw [addBase_eq_typed _ _ _ _ hentries] at hafter
      obtain ⟨arg, -, hrest⟩ := bind_eq_ok hafter
      obtain ⟨schema, -, hresult⟩ := bind_eq_ok hrest
      cases hresult
      have hsame := hnothing (by simp [TypeTable.parent?, hentries])
      exact ⟨hsame.names, hsame.unrepeated, hsame.property, hsame.required⟩
  | none =>
      rw [addBase_eq_inheritFrom _ _ _ _ hentries, addBase.inheritFrom] at hafter
      cases hclass : table.classes.get? base.genericName with
      | none =>
          rw [hclass] at hafter
          cases hafter
          exact hnothing (by simp [TypeTable.parent?, hclass])
      | some parent =>
          simp only [hclass] at hafter
          split at hafter
          · rename_i hstack
            cases hafter
            exact hnothing (by simp [TypeTable.parent?, List.contains_iff_mem.mp hstack])
          · rename_i hstack
            obtain ⟨schema, hschema, hresult⟩ := bind_eq_ok hafter
            cases hresult
            rw [List.contains_iff_mem] at hstack
            exact hmembers.inherit (hparents parent schema
              (TypeTable.parent?_eq_some_iff.mpr ⟨hentries, hstack, hclass⟩) hschema)

/-- What holds of each step over some declarations holds of a run over all of them. -/
theorem Members.Reflect.foldlM {α : Type} {step : Members → α → Resolved Members}
    {declared : α → List Declaration} {xs : List α}
    (hstep : ∀ x ∈ xs, ∀ {members after : Members} {declarations : List Declaration},
      members.Reflect table declarations → step members x = .ok after →
        after.Reflect table (declarations ++ declared x))
    (hmembers : members.Reflect table declarations) (hafter : xs.foldlM step members = .ok after) :
    after.Reflect table (declarations ++ xs.flatMap declared) := by
  induction xs generalizing members declarations with
  | nil =>
      cases hafter
      rwa [List.flatMap_nil, List.append_nil]
  | cons x xs ih =>
      rw [List.foldlM_cons] at hafter
      obtain ⟨next, hnext, hrest⟩ := bind_eq_ok hafter
      rw [List.forall_mem_cons] at hstep
      rw [List.flatMap_cons, ← List.append_assoc]
      exact ih hstep.2 (hstep.1 hmembers hnext) hrest

end Reflect

/-! ### Classes -/

section Class

variable {table : TypeTable} {stack : List String} {definition : ClassDef} {schema : Schema}

/-- A class without members is no object. -/
theorem reflect_of_not_hasMembers (hmembers : ¬ HasMembers definition)
    (hclass : resolveClass table table.resolver stack definition = .ok schema) :
    schema.Reflect table [] := by
  rw [hasMembers_iff] at hmembers
  unfold resolveClass at hclass
  dsimp only at hclass
  split at hclass
  · cases hclass
    unfold enumSchema
    dsimp only
    split
    · rfl
    · split <;> rfl
  · split at hclass
    · obtain ⟨items, -, hresult⟩ := bind_eq_ok hclass
      cases hresult
      rfl
    · rename_i henum htuple
      exact absurd ⟨by simpa using henum, by simpa using htuple⟩ hmembers

/-- The bases of a class, the shape of its further entries and its fields, in turn. -/
theorem resolveClass_of_hasMembers (hmembers : HasMembers definition)
    (hclass : resolveClass table table.resolver stack definition = .ok schema) :
    ∃ inherited members additional,
      definition.bases.foldlM (addBase table table.resolver stack) .empty = .ok inherited ∧
      (fieldsOf definition.body).foldlM (addField table.resolver stack
        (isTotal (definition.bases.map Expr.genericName) definition))
          { inherited with additional } = .ok members ∧
      schema = .object members.properties members.required members.additional
        (docstring? definition.body) := by
  obtain ⟨henum, htuple⟩ := hasMembers_iff.mp hmembers
  simp only [resolveClass, henum, htuple, Bool.false_eq_true, if_false] at hclass
  obtain ⟨inherited, hinherited, hrest⟩ := bind_eq_ok hclass
  obtain ⟨additional, -, hrest⟩ := bind_eq_ok hrest
  obtain ⟨members, hfields, hresult⟩ := bind_eq_ok hrest
  cases hresult
  exact ⟨inherited, members, additional, hinherited, hfields, rfl⟩

/-- The schema of a class is what the declarations of its bases and its own say. -/
theorem reflect_declarations
    (hclass : table.resolver.classType stack definition = .ok schema) :
    schema.Reflect table (table.declarations stack definition) := by
  induction hleft : table.left stack using Nat.strong_induction_on
    generalizing stack definition schema with
  | _ left ih =>
      subst hleft
      rw [← table.classType_resolver] at hclass
      by_cases hmembers : HasMembers definition
      · obtain ⟨inherited, members, additional, hbases, hfields, rfl⟩ :=
          resolveClass_of_hasMembers hmembers hclass
        have hinherited : inherited.Reflect table
            ([] ++ definition.bases.flatMap (table.broughtBy stack)) := by
          refine Members.Reflect.foldlM ?_ Members.reflect_empty hbases
          intro base _ members after declarations hmembers hafter
          refine hmembers.addBase ?_ hafter
          intro parent schema hparent hschema
          rw [TypeTable.broughtBy, hparent]
          exact ih _ (TypeTable.left_lt_of_parent? hparent) hschema rfl
        have hstart : Members.Reflect table { inherited with additional }
            (definition.bases.flatMap (table.broughtBy stack)) :=
          ⟨hinherited.names, hinherited.unrepeated, hinherited.property, hinherited.required⟩
        rw [table.declarations_eq stack hmembers, ownDeclarations, List.map_eq_flatMap]
        refine Members.Reflect.foldlM ?_ hstart hfields
        intro field _ members after declarations hmembers hafter
        exact hmembers.addField hafter
      · rw [table.declarations_eq_nil stack hmembers]
        exact reflect_of_not_hasMembers hmembers hclass

end Class

/-- Each property of a class has the schema of its last declaration.  It is required if and
only if one of its declarations is, so this agrees with the last one exactly if the last one
does not take back what another demands. -/
theorem required_agrees_iff {table : TypeTable} {stack : List String} {definition : ClassDef}
    {properties : Table Property} {required : List String} {additional : Additional}
    {description : Option String}
    (hclass : table.resolver.classType stack definition =
      .ok (.object properties required additional description))
    {name : String} {property : Property} (hproperty : properties.get? name = some property) :
    ∃ last, lastOf (table.declarations stack definition) name = some last ∧
      last.Gives table property ∧
      (name ∈ required ↔ Demands (table.declarations stack definition) name) ∧
      ((name ∈ required ↔ last.isRequired) ↔
        (Demands (table.declarations stack definition) name → last.isRequired)) := by
  have hreflect : Members.Reflect table ⟨properties, required, additional⟩
      (table.declarations stack definition) := reflect_declarations hclass
  have hrel := hreflect.property name
  dsimp only at hrel
  rw [hproperty] at hrel
  cases hlast : lastOf (table.declarations stack definition) name with
  | none =>
      rw [hlast] at hrel
      cases hrel
  | some last =>
      rw [hlast] at hrel
      cases hrel with
      | some hgives =>
          have hrequired : name ∈ required ↔ Demands (table.declarations stack definition) name :=
            hreflect.required name
          obtain ⟨hmem, hname⟩ := of_lastOf hlast
          have hdemands : last.isRequired → Demands (table.declarations stack definition) name :=
            fun hlast => ⟨last, hmem, hname, hlast⟩
          refine ⟨last, rfl, hgives, hrequired, ?_⟩
          rw [hrequired]
          exact ⟨Iff.mp, fun hkept => ⟨hkept, hdemands⟩⟩

/-- A class with a field that must be present. -/
def shapeClass : ClassDef :=
  .mk "Shape" [] [] [] [.annotated ⟨2, 4⟩ (.name "size") (.name "int") none]

/-- A class that gives the field of its base a default. -/
def boxClass : ClassDef :=
  .mk "Box" [.name "Shape"] [] []
    [.annotated ⟨5, 4⟩ (.name "size") (.name "int") (some (.literal (.int ⟨0, rfl⟩)))]

def boxTable : TypeTable where
  classes := [("Shape", shapeClass), ("Box", boxClass)]
  aliases := []

theorem fieldsOf_shape : fieldsOf shapeClass.body = [⟨"size", .name "int", false, ""⟩] := by
  cbv

theorem fieldsOf_box : fieldsOf boxClass.body = [⟨"size", .name "int", true, ""⟩] := by
  cbv

def sizeSchema : Schema :=
  .object [("size", .mk (.primitive .number none) none)] ["size"] .forbidden none

theorem type_int (stack : List String) :
    boxTable.resolver.type stack (.name "int") = .ok (.primitive .number none) :=
  (boxTable.type_resolver stack (.name "int")).symm

theorem classType_shape :
    boxTable.resolver.classType ["Box", "Shape"] shapeClass = .ok sizeSchema := by
  rw [← boxTable.classType_resolver]
  simp only [resolveClass, fieldsOf_shape, List.foldlM_cons, addField, type_int]
  rfl

theorem classType_box : boxTable.resolver.classType ["Box"] boxClass = .ok sizeSchema := by
  have hbase : addBase boxTable boxTable.resolver ["Box"] .empty (.name "Shape") =
      .ok (Members.inherit .empty sizeSchema) := by
    change Members.inherit .empty <$> boxTable.resolver.classType ["Box", "Shape"] shapeClass = _
    rw [classType_shape]
    rfl
  have hbases : boxClass.bases = [.name "Shape"] := rfl
  rw [← boxTable.classType_resolver]
  simp only [resolveClass, fieldsOf_box, hbases, List.foldlM_cons, hbase, addField, type_int]
  rfl

/-- A box declares its size twice, in its base and then on its own. -/
theorem declarations_box : boxTable.declarations ["Box"] boxClass =
    [⟨⟨"size", .name "int", false, ""⟩, true, ["Box", "Shape"]⟩,
      ⟨⟨"size", .name "int", true, ""⟩, true, ["Box"]⟩] := by
  have hbox : HasMembers boxClass := by decide
  have hshape : HasMembers shapeClass := by decide
  have hparent : boxTable.parent? ["Box"] (.name "Shape") = some shapeClass := rfl
  have hbases : boxClass.bases = [.name "Shape"] := rfl
  have hnone : shapeClass.bases = [] := rfl
  simp only [boxTable.declarations_eq _ hbox, TypeTable.broughtBy, hbases, List.flatMap_cons,
    hparent, boxTable.declarations_eq _ hshape, ownDeclarations, fieldsOf_box, fieldsOf_shape,
    hnone]
  rfl

/-- The default of the last declaration does not make the field of the base optional. -/
theorem required_despite_default :
    boxTable.resolve (.name "Box") =
        .ok (.object [("size", .mk (.primitive .number none) none)] ["size"] .forbidden none) ∧
      ∃ last, lastOf (boxTable.declarations ["Box"] boxClass) "size" = some last ∧
        last.isRequired = false := by
  constructor
  · have hbox : boxTable.resolver.answer (.type [] (.name "Box")) =
        boxTable.resolver.classType ["Box"] boxClass :=
      answer_class rfl rfl rfl List.not_mem_nil
    rw [TypeTable.resolve_eq, hbox, classType_box]
    rfl
  · rw [declarations_box]
    exact ⟨_, rfl, rfl⟩

theorem required_agrees_iff_box :
    ∃ last, lastOf (boxTable.declarations ["Box"] boxClass) "size" = some last ∧
      last.Gives boxTable (.mk (.primitive .number none) none) ∧
      Demands (boxTable.declarations ["Box"] boxClass) "size" := by
  have hsize : Table.get? [("size", .mk (.primitive .number none) none)] "size" =
      some (Property.mk (.primitive .number none) none) := rfl
  obtain ⟨last, hlast, hgives, hdemands, -⟩ := required_agrees_iff classType_box hsize
  exact ⟨last, hlast, hgives, hdemands.mp List.mem_cons_self⟩

end RouteScribe.Schema
