import RouteScribe.Proofs.Schema.Places
import RouteScribe.Proofs.Schema.Redeclaration

/-!
# Annotations in quotes

The annotation of a field may be written as a text that holds it.  What the field is made
of is read from the text, so its schema is the same.  Whether the name is a field at all and
whether it must be present is decided by the annotation as it stands, and a text neither is
a class variable nor says that the field may be absent.  The class keeps its schema exactly
if the annotation outside of the text says nothing of this kind either.
-/

namespace RouteScribe.Schema

open RouteScribe.Json RouteScribe.Source RouteScribe.Text

/-! ### Tables that differ in one class -/

/-- Tables that know the same types, apart from what one class of both is. -/
structure TypeTable.SameBut (name : String) (left right : TypeTable) : Prop where
  classes : ∀ other, other ≠ name → left.classes.get? other = right.classes.get? other
  known : (left.classes.get? name).isSome
  stillKnown : (right.classes.get? name).isSome
  aliases : left.aliases.get? = right.aliases.get?

/-- Resolvers that give the same answers while a name is being resolved. -/
def Resolver.SameUnder (name : String) (left right : Resolver) : Prop :=
  ∀ call, name ∈ call.stack → left.answer call = right.answer call

section SameBut

variable {name : String} {left right : TypeTable} (hsame : left.SameBut name right)
variable {inner other : Resolver} (hinner : inner.SameUnder name other)
variable {stack : List String} (hstack : name ∈ stack)

include hstack

include hsame in
theorem TypeTable.SameBut.enter_eq (id : String) : left.enter stack id = right.enter stack id := by
  by_cases hid : id ∈ stack
  · rw [enter_of_mem hid, enter_of_mem hid]
  · have hne : id ≠ name := by
      rintro rfl
      exact hid hstack
    unfold TypeTable.enter
    rw [hsame.classes id hne, hsame.aliases]

include hinner

theorem Resolver.SameUnder.type_eq : inner.type stack = other.type stack := by
  funext expr
  exact hinner (.type stack expr) hstack

theorem Resolver.SameUnder.perform_enter (id : String) :
    inner.perform (right.enter stack id) = other.perform (right.enter stack id) := by
  cases henter : right.enter stack id with
  | error err => rfl
  | ok sub =>
      apply hinner sub
      rw [stack_of_enter henter]
      exact List.mem_append_left _ hstack

theorem Resolver.SameUnder.addField_eq : addField inner stack = addField other stack := by
  funext total members field
  unfold addField
  rw [hinner.type_eq hstack]

theorem Resolver.SameUnder.additionalOf_eq :
    additionalOf inner stack = additionalOf other stack := by
  funext definition inherited
  unfold additionalOf
  rw [hinner.type_eq hstack]

include hsame

theorem TypeTable.SameBut.resolveName_eq :
    resolveName left inner stack = resolveName right other stack := by
  funext id
  cases hbuiltin : builtinSchema? id with
  | some schema => simp only [resolveName, hbuiltin]
  | none =>
      rw [Schema.resolveName_eq _ _ _ _ hbuiltin, Schema.resolveName_eq _ _ _ _ hbuiltin,
        hsame.enter_eq hstack, hinner.perform_enter hstack]

theorem TypeTable.SameBut.resolveType_eq :
    resolveType left inner stack = resolveType right other stack := by
  have htype := hinner.type_eq hstack
  funext expr
  unfold resolveType resolveSubscript resolveTuple resolveUnion
  rw [hsame.resolveName_eq hinner hstack, htype]

/-- Below a class on the stack, bases are taken up without a look at this class. -/
theorem TypeTable.SameBut.addBase_eq :
    addBase left inner stack = addBase right other stack := by
  funext members base
  cases hentries : entriesOf? base with
  | some value =>
      rw [addBase_eq_typed _ _ _ _ hentries, addBase_eq_typed _ _ _ _ hentries,
        hinner.type_eq hstack]
  | none =>
      rw [addBase_eq_inheritFrom _ _ _ _ hentries, addBase_eq_inheritFrom _ _ _ _ hentries]
      unfold addBase.inheritFrom
      by_cases hname : base.genericName = name
      · -- The class itself is on the stack, so that either table leaves it out.
        obtain ⟨first, hfirst⟩ := Option.isSome_iff_exists.mp hsame.known
        obtain ⟨second, hsecond⟩ := Option.isSome_iff_exists.mp hsame.stillKnown
        have hcontains : stack.contains name = true := List.contains_iff_mem.mpr hstack
        simp only [hname, hfirst, hsecond, hcontains, if_true]
      · rw [hsame.classes _ hname]
        cases right.classes.get? base.genericName with
        | none => rfl
        | some definition =>
            have hparent := hinner (.classType (stack ++ [base.genericName]) definition)
              (List.mem_append_left _ hstack)
            simp only [Resolver.answer] at hparent
            simp only [hparent]

theorem TypeTable.SameBut.resolveClass_eq :
    resolveClass left inner stack = resolveClass right other stack := by
  funext definition
  simp only [resolveClass, hsame.addBase_eq hinner hstack, hinner.additionalOf_eq hstack,
    hinner.addField_eq hstack, hinner.type_eq hstack]

end SameBut

section Answers

variable {name : String} {left right : TypeTable}

/-- Below a class on the stack, tables that differ in this class resolve alike. -/
theorem TypeTable.SameBut.sameUnder_upTo (hsame : left.SameBut name right) (depth : Nat) :
    (Resolver.upTo left depth).SameUnder name (Resolver.upTo right depth) := by
  induction depth with
  | zero =>
      intro call _
      cases call <;> rfl
  | succ depth ih =>
      intro call hname
      cases call with
      | type stack expr => exact congrFun (hsame.resolveType_eq ih hname) expr
      | classType stack definition => exact congrFun (hsame.resolveClass_eq ih hname) definition

/-- What one class is does not matter while that class is being resolved. -/
theorem TypeTable.SameBut.answer_eq (hsame : left.SameBut name right) {call : Call}
    (hname : name ∈ call.stack) : left.resolver.answer call = right.resolver.answer call := by
  rw [← answer_upTo (le_max_left (call.need left) (call.need right)),
    ← answer_upTo (le_max_right (call.need left) (call.need right))]
  exact hsame.sameUnder_upTo _ call hname

end Answers

/-! ### The place of an annotation -/

/-- A class without the annotation of one name. -/
structure Site where
  name : String
  bases : List Expr
  keywords : List Keyword
  decorators : List Decorator
  /-- The statements before the annotated name and after it. -/
  before : List Stmt
  after : List Stmt
  start : NodeStart
  target : String
  value : Option Expr

namespace Site

variable (site : Site) (hint : Expr)

def body : List Stmt :=
  site.before ++ .annotated site.start (.name site.target) hint site.value :: site.after

def fill : ClassDef :=
  .mk site.name site.bases site.keywords site.decorators (site.body hint)

def field : Field where
  name := site.target
  hint := hint
  hasDefault := site.value.isSome
  note := trimString ((leadingText site.after).getD "")

/-- Whether the fields of the class must be present unless they say otherwise. -/
def isTotal : Bool :=
  Schema.isTotal (site.bases.map Expr.genericName)
    (.mk site.name site.bases site.keywords site.decorators [])

end Site

theorem leadingText_append {front back : List Stmt} (hback : leadingText back = none) :
    leadingText (front ++ back) = leadingText front := by
  cases front with
  | nil => exact hback
  | cons statement front => cases statement <;> rfl

/-- Statements that do not start with a text add their fields to those before. -/
theorem fieldsOf_append {front back : List Stmt} (hback : leadingText back = none) :
    fieldsOf (front ++ back) = fieldsOf front ++ fieldsOf back := by
  fun_induction fieldsOf front with
  | case1 => rfl
  | case2 start name hint value rest hfield ih =>
      simp only [List.cons_append, fieldsOf, hfield, if_true, leadingText_append hback, ih]
  | case3 start name hint value rest hfield ih =>
      simp only [List.cons_append, fieldsOf, hfield, ih]
      rfl
  | case4 statement rest hother ih =>
      rw [List.cons_append, fieldsOf, ih]
      exact hother

namespace Site

variable (site : Site) (hint other : Expr)

theorem fieldsOf_body : fieldsOf (site.body hint) =
    fieldsOf site.before ++
      ((if isField site.target hint then [site.field hint] else []) ++ fieldsOf site.after) := by
  rw [body, fieldsOf_append rfl, fieldsOf]
  split <;> rfl

theorem docstring?_body : docstring? (site.body hint) = docstring? (site.body other) := by
  unfold docstring? body
  rw [leadingText_append rfl, leadingText_append rfl]

theorem enumSchema_body (baseNames : List String) :
    enumSchema baseNames (site.body hint) = enumSchema baseNames (site.body other) := by
  have hvalues : enumValues (site.body hint) = enumValues (site.body other) := by
    simp only [enumValues, body, List.filterMap_append, List.filterMap_cons]
  unfold enumSchema
  rw [hvalues]

theorem allowsExtra_fill : allowsExtra (site.fill hint) = allowsExtra (site.fill other) := by
  simp only [allowsExtra, fill, ClassDef.keywords, ClassDef.body, body, List.any_append,
    List.any_cons]

theorem additionalOf_fill (inner : Resolver) (stack : List String) (inherited : Additional) :
    additionalOf inner stack (site.fill hint) inherited =
      additionalOf inner stack (site.fill other) inherited := by
  unfold additionalOf
  rw [site.allowsExtra_fill hint other]
  rfl

end Site

/-! ### Annotations as texts -/

theorem head?_quoted (text : String) :
    (quoted text).toList.head? = some '"' ∨ (quoted text).toList.head? = some '\'' := by
  have hquote : (quoted text).toList.head? = some (quoteFor text.toList) := by
    simp [quoted, quotedChars]
  rw [hquote, quoteFor]
  split
  · exact .inl rfl
  · exact .inr rfl

/-- What is written for a text starts with a quote or with its mark, so it is no name of a
class variable. -/
theorem genericName_text_ne (text : String) (isMarked : Bool) :
    (Expr.literal (.str text isMarked)).genericName ≠ "ClassVar" := by
  have hwritten : (Expr.literal (.str text isMarked)).genericName =
      if isMarked then "u" ++ quoted text else quoted text := rfl
  intro heq
  rw [hwritten] at heq
  have hhead := congrArg (·.toList.head?) heq
  split at hhead
  · simp at hhead
  · rcases head?_quoted text with hquote | hquote
    · simp [hquote] at hhead
    · simp [hquote] at hhead

/-- A name that can be a field: neither a private one nor the settings. -/
def IsFieldName (name : String) : Prop :=
  name.startsWith "_" = false ∧ name ≠ "model_config"

theorem isField_iff {name : String} {hint : Expr} :
    isField name hint = true ↔ IsFieldName name ∧ hint.genericName ≠ "ClassVar" := by
  simp [isField, IsFieldName, and_assoc]

/-- A text says nothing about whether a field must be present. -/
theorem isRequired_text (total : Bool) (field : Field) {text : String} {isMarked : Bool}
    (hhint : field.hint = .literal (.str text isMarked)) :
    isRequired total field = (total && !field.hasDefault) := by
  simp [isRequired, hhint, isOptional]

/-- An annotation stands in a text. -/
def Holds (text : String) (hint : Expr) : Prop :=
  ∃ inside, readExpression? text = some inside ∧ inside.unplaced = hint.unplaced

theorem sameResult_text (table : TypeTable) (stack : List String) {text : String} {hint : Expr}
    (hholds : Holds text hint) (isMarked : Bool) :
    SameResult (table.resolver.type stack (.literal (.str text isMarked)))
      (table.resolver.type stack hint) := by
  obtain ⟨inside, hread, hinside⟩ := hholds
  have hsame : table.resolver.type stack (.literal (.str text isMarked)) =
      table.resolver.type stack inside := by
    rw [← table.type_resolver stack (.literal (.str text isMarked)), resolveType, hread]
  rw [hsame]
  exact sameResult_of_unplaced table stack hinside

/-! ### The three kinds of classes -/

section Kinds

variable {table : TypeTable} {inner : Resolver} {stack : List String} {definition : ClassDef}

theorem resolveClass_of_enumeration (henum : IsEnumeration definition) :
    resolveClass table inner stack definition =
      .ok (enumSchema (definition.bases.map Expr.genericName) definition.body) :=
  if_pos henum

theorem resolveClass_of_tuple (henum : ¬ IsEnumeration definition)
    (hmembers : ¬ HasMembers definition) :
    resolveClass table inner stack definition = (do
      return .tuple (← (fieldsOf definition.body).mapM fun field =>
        inner.type stack field.hint)) := by
  have htuple : (definition.bases.map Expr.genericName).contains "NamedTuple" = true := by
    by_contra hother
    exact hmembers (hasMembers_iff.mpr ⟨Bool.eq_false_iff.mpr henum, Bool.eq_false_iff.mpr hother⟩)
  exact (if_neg henum).trans (if_pos htuple)

theorem resolveClass_of_members (hmembers : HasMembers definition) :
    resolveClass table inner stack definition = (do
      let inherited ← definition.bases.foldlM (addBase table inner stack) .empty
      let additional ← additionalOf inner stack definition inherited.additional
      let members ← (fieldsOf definition.body).foldlM (addField inner stack
        (isTotal (definition.bases.map Expr.genericName) definition)) { inherited with additional }
      return .object members.properties members.required members.additional
        (docstring? definition.body)) := by
  obtain ⟨henum, htuple⟩ := hasMembers_iff.mp hmembers
  simp only [resolveClass, henum, htuple, Bool.false_eq_true, if_false]

end Kinds

/-! ### The schema of a class with an annotation in quotes -/

namespace Site

/-- An annotation does not say more than a text would: the class is an enumeration, the name
is no field in any case, or the annotation is no class variable and leaves it to the default
whether the field must be present. -/
def IsIndifferent (site : Site) (hint : Expr) : Prop :=
  IsEnumeration (site.fill hint) ∨ ¬ IsFieldName site.target ∨
    hint.genericName ≠ "ClassVar" ∧
      (HasMembers (site.fill hint) →
        isRequired site.isTotal (site.field hint) = (site.isTotal && !site.value.isSome))

/-- The class and its bases declare the field nowhere else. -/
structure IsAlone (site : Site) (table : TypeTable) (stack : List String) : Prop where
  bases : ∀ declaration ∈ site.bases.flatMap (table.broughtBy stack),
    declaration.field.name ≠ site.target
  before : ∀ field ∈ fieldsOf site.before, field.name ≠ site.target
  after : ∀ field ∈ fieldsOf site.after, field.name ≠ site.target

variable {site : Site} {hint : Expr} {text : String} {isMarked : Bool} {table : TypeTable}
variable {stack : List String} {schema : Schema}

theorem isField_text (hname : IsFieldName site.target) :
    isField site.target (.literal (.str text isMarked)) = true :=
  isField_iff.mpr ⟨hname, genericName_text_ne text isMarked⟩

theorem isRequired_field_text :
    isRequired site.isTotal (site.field (.literal (.str text isMarked))) =
      (site.isTotal && !site.value.isSome) :=
  isRequired_text site.isTotal _ rfl

/-- The fields of the class with the text are those of the class with the annotation, one
by one. -/
theorem forall₂_fields {related : Field → Field → Prop} (hrefl : ∀ field, related field field)
    (hrelated : IsFieldName site.target → hint.genericName ≠ "ClassVar" ∧
      related (site.field (.literal (.str text isMarked))) (site.field hint)) :
    List.Forall₂ related (fieldsOf (site.body (.literal (.str text isMarked))))
      (fieldsOf (site.body hint)) := by
  have hsame : ∀ fields : List Field, List.Forall₂ related fields fields :=
    fun fields => List.forall₂_same.mpr fun field _ => hrefl field
  rw [fieldsOf_body, fieldsOf_body]
  refine List.rel_append (hsame _) (List.rel_append ?_ (hsame _))
  by_cases hname : IsFieldName site.target
  · obtain ⟨hkept, hfield⟩ := hrelated hname
    rw [if_pos (isField_text hname), if_pos (isField_iff.mpr ⟨hname, hkept⟩)]
    exact .cons hfield .nil
  · have hnone : ∀ hint, ¬ isField site.target hint = true :=
      fun hint hfield => hname (isField_iff.mp hfield).1
    rw [if_neg (hnone _), if_neg (hnone _)]
    exact .nil

theorem sameResult_addField (hholds : Holds text hint)
    (hrequired : isRequired site.isTotal (site.field hint) =
      (site.isTotal && !site.value.isSome)) (members : Members) :
    SameResult
      (addField table.resolver stack site.isTotal members
        (site.field (.literal (.str text isMarked))))
      (addField table.resolver stack site.isTotal members (site.field hint)) := by
  unfold addField
  rw [isRequired_field_text, hrequired]
  exact (sameResult_text table stack hholds isMarked).bind fun _ => .refl _

/-- An annotation that does not say more than a text can be put into one. -/
theorem sameResult_classType (hholds : Holds text hint) (hindifferent : site.IsIndifferent hint) :
    SameResult
      (table.resolver.classType stack (site.fill (.literal (.str text isMarked))))
      (table.resolver.classType stack (site.fill hint)) := by
  rw [← table.classType_resolver, ← table.classType_resolver]
  by_cases henum : IsEnumeration (site.fill hint)
  · have hquoted : IsEnumeration (site.fill (.literal (.str text isMarked))) := henum
    rw [resolveClass_of_enumeration henum, resolveClass_of_enumeration hquoted]
    exact .of_eq (congrArg Except.ok (site.enumSchema_body _ hint _))
  · have hkept : IsFieldName site.target → hint.genericName ≠ "ClassVar" ∧
        (HasMembers (site.fill hint) → isRequired site.isTotal (site.field hint) =
          (site.isTotal && !site.value.isSome)) := by
      intro hname
      rcases hindifferent with henum' | hnone | hkept
      · exact absurd henum' henum
      · exact absurd hname hnone
      · exact hkept
    have hquoted : ¬ IsEnumeration (site.fill (.literal (.str text isMarked))) := henum
    by_cases hmembers : HasMembers (site.fill hint)
    · have hmembers' : HasMembers (site.fill (.literal (.str text isMarked))) := hmembers
      rw [resolveClass_of_members hmembers, resolveClass_of_members hmembers']
      refine SameResult.bind (.refl _) fun inherited => ?_
      refine SameResult.bind (.of_eq (site.additionalOf_fill _ hint _ _ _)) fun additional => ?_
      refine SameResult.bind (.foldlM ?_ _) fun members => .of_eq ?_
      · refine forall₂_fields (fun _ _ => .refl _) fun hname => ?_
        obtain ⟨hclassVar, hrequired⟩ := hkept hname
        exact ⟨hclassVar, sameResult_addField hholds (hrequired hmembers)⟩
      · change pure (object _ _ _ (docstring? (site.body _))) = _
        rw [site.docstring?_body _ hint]
        rfl
    · have hmembers' : ¬ HasMembers (site.fill (.literal (.str text isMarked))) := hmembers
      rw [resolveClass_of_tuple henum hmembers, resolveClass_of_tuple hquoted hmembers']
      refine SameResult.bind (.mapM ?_) fun items => .refl _
      refine forall₂_fields (fun _ => .refl _) fun hname => ?_
      exact ⟨(hkept hname).1, sameResult_text table stack hholds isMarked⟩

/-! ### Annotations that say more -/

theorem declarations_fill (hmembers : HasMembers (site.fill hint)) :
    table.declarations stack (site.fill hint) =
      site.bases.flatMap (table.broughtBy stack) ++
        (fieldsOf (site.body hint)).map (⟨·, site.isTotal, stack⟩) :=
  table.declarations_eq stack hmembers

/-- The field is declared where its annotation stands, if at all. -/
theorem mem_declarations_iff (hmembers : HasMembers (site.fill hint))
    (halone : site.IsAlone table stack) {declaration : Declaration} :
    declaration ∈ table.declarations stack (site.fill hint) ∧
        declaration.field.name = site.target ↔
      isField site.target hint = true ∧ declaration = ⟨site.field hint, site.isTotal, stack⟩ := by
  rw [declarations_fill hmembers, fieldsOf_body]
  constructor
  · rintro ⟨hmem, hname⟩
    rcases List.mem_append.mp hmem with hbase | hown
    · exact absurd hname (halone.bases declaration hbase)
    · obtain ⟨field, hfield, rfl⟩ := List.mem_map.mp hown
      rcases List.mem_append.mp hfield with hbefore | hfield
      · exact absurd hname (halone.before field hbefore)
      · rcases List.mem_append.mp hfield with hhere | hafter
        · split at hhere
          · rename_i hisField
            rw [List.mem_singleton.mp hhere]
            exact ⟨hisField, rfl⟩
          · cases hhere
        · exact absurd hname (halone.after field hafter)
  · rintro ⟨hisField, rfl⟩
    refine ⟨List.mem_append_right _ (List.mem_map_of_mem ?_), rfl⟩
    rw [if_pos hisField]
    exact List.mem_append_right _ List.mem_cons_self

theorem isSome_of_rel {α β : Type} {related : α → β → Prop} {x : Option α} {y : Option β}
    (hrel : Option.Rel related x y) : y.isSome = x.isSome := by
  cases hrel <;> rfl

/-- A property is there if and only if the annotation makes the name a field. -/
theorem isSome_property_iff (hmembers : HasMembers (site.fill hint))
    (halone : site.IsAlone table stack) {members : Members}
    (hreflect : members.Reflect table (table.declarations stack (site.fill hint))) :
    (members.properties.get? site.target).isSome = true ↔ isField site.target hint = true := by
  rw [isSome_of_rel (hreflect.property site.target)]
  constructor
  · intro hsome
    obtain ⟨declaration, hdeclaration⟩ := Option.isSome_iff_exists.mp hsome
    exact ((mem_declarations_iff hmembers halone).mp (of_lastOf hdeclaration)).1
  · intro hisField
    obtain ⟨hmem, hname⟩ := (mem_declarations_iff hmembers halone).mpr ⟨hisField, rfl⟩
    rw [lastOf, List.getLast?_isSome]
    exact List.ne_nil_of_mem (List.mem_filter.mpr ⟨hmem, decide_eq_true hname⟩)

/-- The field of the site is required exactly if its annotation makes it so. -/
theorem mem_required_iff (hmembers : HasMembers (site.fill hint))
    (halone : site.IsAlone table stack) {members : Members}
    (hreflect : members.Reflect table (table.declarations stack (site.fill hint))) :
    site.target ∈ members.required ↔
      isField site.target hint = true ∧ isRequired site.isTotal (site.field hint) = true := by
  rw [hreflect.required]
  constructor
  · rintro ⟨declaration, hmem, hname, hrequired⟩
    obtain ⟨hisField, rfl⟩ := (mem_declarations_iff hmembers halone).mp ⟨hmem, hname⟩
    exact ⟨hisField, hrequired⟩
  · rintro ⟨hisField, hrequired⟩
    obtain ⟨hmem, hname⟩ := (mem_declarations_iff hmembers halone).mpr ⟨hisField, rfl⟩
    exact ⟨_, hmem, hname, hrequired⟩

/-- If quoting changes nothing, the annotation is no class variable and is required as a quoted
one is. -/
theorem kept_of_members (hname : IsFieldName site.target) (halone : site.IsAlone table stack)
    (hmembers : HasMembers (site.fill hint))
    (hclass : table.resolver.classType stack (site.fill hint) = .ok schema)
    (hquoted : table.resolver.classType stack (site.fill (.literal (.str text isMarked))) =
      .ok schema) :
    hint.genericName ≠ "ClassVar" ∧
      isRequired site.isTotal (site.field hint) = (site.isTotal && !site.value.isSome) := by
  have hmembers' : HasMembers (site.fill (.literal (.str text isMarked))) := hmembers
  obtain ⟨-, members, -, -, -, rfl⟩ := resolveClass_of_hasMembers hmembers
    ((table.classType_resolver stack _).trans hclass)
  have hreflect : members.Reflect table (table.declarations stack (site.fill hint)) :=
    reflect_declarations hclass
  have hreflect' : members.Reflect table
      (table.declarations stack (site.fill (.literal (.str text isMarked)))) :=
    reflect_declarations hquoted
  have htext : isField site.target (.literal (.str text isMarked)) = true := isField_text hname
  have hisField : isField site.target hint = true :=
    (isSome_property_iff hmembers halone hreflect).mp
      ((isSome_property_iff hmembers' halone hreflect').mpr htext)
  refine ⟨(isField_iff.mp hisField).2, Bool.eq_iff_iff.mpr ?_⟩
  calc isRequired site.isTotal (site.field hint) = true
      ↔ site.target ∈ members.required := by
        rw [mem_required_iff hmembers halone hreflect, and_iff_right hisField]
    _ ↔ (site.isTotal && !site.value.isSome) = true := by
        rw [mem_required_iff hmembers' halone hreflect', and_iff_right htext,
          isRequired_field_text]

/-- If quoting changes nothing, the annotation is no class variable. -/
theorem kept_of_tuple (hname : IsFieldName site.target) (henum : ¬ IsEnumeration (site.fill hint))
    (hmembers : ¬ HasMembers (site.fill hint))
    (hclass : table.resolver.classType stack (site.fill hint) = .ok schema)
    (hquoted : table.resolver.classType stack (site.fill (.literal (.str text isMarked))) =
      .ok schema) : hint.genericName ≠ "ClassVar" := by
  have henum' : ¬ IsEnumeration (site.fill (.literal (.str text isMarked))) := henum
  have hmembers' : ¬ HasMembers (site.fill (.literal (.str text isMarked))) := hmembers
  rw [← table.classType_resolver, resolveClass_of_tuple henum hmembers] at hclass
  rw [← table.classType_resolver, resolveClass_of_tuple henum' hmembers'] at hquoted
  obtain ⟨items, hitems, hresult⟩ := bind_eq_ok hclass
  obtain ⟨others, hothers, hother⟩ := bind_eq_ok hquoted
  cases hresult
  cases hother
  -- Both classes have as many fields as there are items.
  have hlength : (fieldsOf (site.body hint)).length =
      (fieldsOf (site.body (.literal (.str text isMarked)))).length :=
    (mapM_eq_ok_iff.mp hitems).length_eq.trans (mapM_eq_ok_iff.mp hothers).length_eq.symm
  rw [fieldsOf_body, fieldsOf_body, if_pos (isField_text hname)] at hlength
  split at hlength
  · rename_i hisField
    exact (isField_iff.mp hisField).2
  · simp at hlength

/-- An annotation of a field that is declared once, in a class with a schema, does not say
more than a text if the class with the text has the same schema. -/
theorem isIndifferent_of_classType (halone : site.IsAlone table stack)
    (hclass : table.resolver.classType stack (site.fill hint) = .ok schema)
    (hquoted : table.resolver.classType stack (site.fill (.literal (.str text isMarked))) =
      .ok schema) : site.IsIndifferent hint := by
  by_cases henum : IsEnumeration (site.fill hint)
  · exact .inl henum
  · by_cases hname : IsFieldName site.target
    · refine .inr (.inr ?_)
      by_cases hmembers : HasMembers (site.fill hint)
      · obtain ⟨hclassVar, hrequired⟩ := kept_of_members hname halone hmembers hclass hquoted
        exact ⟨hclassVar, fun _ => hrequired⟩
      · exact ⟨kept_of_tuple hname henum hmembers hclass hquoted, (absurd · hmembers)⟩
    · exact .inr (.inl hname)

end Site

/-! ### Tables with an annotation in quotes -/

/-- A table with a class in the place of the one that has its name. -/
def TypeTable.withClass (table : TypeTable) (definition : ClassDef) : TypeTable :=
  { table with classes := table.classes.put definition.name definition }

theorem TypeTable.sameBut_withClass {table : TypeTable} {definition : ClassDef}
    (hknown : (table.classes.get? definition.name).isSome) :
    (table.withClass definition).SameBut definition.name table where
  classes := fun _ hother => Table.get?_put_of_ne hother _ _
  known := by simp [withClass, Table.get?_put_self]
  stillKnown := hknown
  aliases := rfl

/-- The schema of a class that takes the place of another one, by the table with the other
one. -/
theorem resolve_withClass {table : TypeTable} {definition : ClassDef}
    (hbuiltin : builtinSchema? definition.name = none)
    (hknown : (table.classes.get? definition.name).isSome) :
    (table.withClass definition).resolve (.name definition.name) =
      table.resolver.classType [definition.name] definition := by
  calc
    (table.withClass definition).resolve (.name definition.name)
        = (table.withClass definition).resolver.answer (.type [] (.name definition.name)) :=
          TypeTable.resolve_eq _ _
    _ = (table.withClass definition).resolver.answer (.classType [definition.name] definition) :=
          answer_class rfl hbuiltin (Table.get?_put_self _ _ _) List.not_mem_nil
    _ = table.resolver.answer (.classType [definition.name] definition) :=
          (TypeTable.sameBut_withClass hknown).answer_eq List.mem_cons_self

theorem resolve_builtin (table : TypeTable) {name : String} {schema : Schema}
    (hbuiltin : builtinSchema? name = some schema) : table.resolve (.name name) = .ok schema := by
  rw [TypeTable.resolve_eq]
  change table.resolver.type [] (.name name) = _
  rw [← table.type_resolver, resolveType, resolveName, hbuiltin]
  rfl

/-- A class in which an annotation is put into a text keeps its schema, or the message of
what is wrong with it, if the annotation does not say more than a text.  Where the class has
a schema and the field is declared only once, this is the only way to keep it. -/
theorem quoted_iff_indifferent {table : TypeTable} {site : Site} {hint : Expr} {text : String}
    (hclass : table.classes.get? site.name = some (site.fill hint)) (hholds : Holds text hint)
    (isMarked : Bool) :
    (site.IsIndifferent hint →
      SameResult
        ((table.withClass (site.fill (.literal (.str text isMarked)))).resolve (.name site.name))
        (table.resolve (.name site.name))) ∧
    ∀ schema, builtinSchema? site.name = none → table.resolve (.name site.name) = .ok schema →
      site.IsAlone table [site.name] →
      ((table.withClass (site.fill (.literal (.str text isMarked)))).resolve (.name site.name) =
        .ok schema ↔ site.IsIndifferent hint) := by
  have hknown : (table.classes.get? (site.fill (.literal (.str text isMarked))).name).isSome := by
    change (table.classes.get? site.name).isSome
    rw [hclass]
    rfl
  have hplain : builtinSchema? site.name = none → table.resolve (.name site.name) =
      table.resolver.classType [site.name] (site.fill hint) := by
    intro hbuiltin
    exact (table.resolve_eq _).trans (answer_class rfl hbuiltin hclass List.not_mem_nil)
  have hquoted : builtinSchema? site.name = none →
      (table.withClass (site.fill (.literal (.str text isMarked)))).resolve (.name site.name) =
        table.resolver.classType [site.name] (site.fill (.literal (.str text isMarked))) :=
    fun hbuiltin => resolve_withClass hbuiltin hknown
  have hkeeps : site.IsIndifferent hint → SameResult
      ((table.withClass (site.fill (.literal (.str text isMarked)))).resolve (.name site.name))
      (table.resolve (.name site.name)) := by
    intro hindifferent
    cases hbuiltin : builtinSchema? site.name with
    | some schema =>
        rw [resolve_builtin _ hbuiltin, resolve_builtin _ hbuiltin]
        exact .refl _
    | none =>
        rw [hplain hbuiltin, hquoted hbuiltin]
        exact Site.sameResult_classType hholds hindifferent
  refine ⟨hkeeps, fun schema hbuiltin hschema halone => ⟨fun hsame => ?_, fun hindifferent => ?_⟩⟩
  · rw [hplain hbuiltin] at hschema
    rw [hquoted hbuiltin] at hsame
    exact Site.isIndifferent_of_classType halone hschema hsame
  · exact (hkeeps hindifferent).eq_ok_iff.mpr hschema

/-! ### A crate -/

/-- A class with one field, whose annotation is left open. -/
def crateSite : Site where
  name := "Crate"
  bases := []
  keywords := []
  decorators := []
  before := []
  after := []
  start := ⟨2, 4⟩
  target := "size"
  value := none

def crateTable (hint : Expr) : TypeTable where
  classes := [("Crate", crateSite.fill hint)]
  aliases := []

def crateSchema (required : List String) : Schema :=
  .object [("size", .mk (.primitive .number none) none)] required .forbidden none

/-- An annotation with a call, which stands elsewhere in a text. -/
def sizedHint : Expr :=
  .subscript (.name "Annotated") (.tuple [.name "int", .call ⟨2, 25⟩ (.name "Field") [] []])

def optionalHint : Expr :=
  .subscript (.name "Optional") (.name "int")

theorem isFieldName_size : IsFieldName crateSite.target := by
  refine ⟨?_, by decide⟩
  cbv

theorem fieldsOf_crate {hint : Expr} (hclassVar : hint.genericName ≠ "ClassVar") :
    fieldsOf (crateSite.body hint) = [⟨"size", hint, false, ""⟩] := by
  rw [Site.fieldsOf_body, if_pos (isField_iff.mpr ⟨isFieldName_size, hclassVar⟩)]
  rfl

/-- The schema of the class for an annotation that comes to a number. -/
theorem resolve_crate {hint : Expr} (hclassVar : hint.genericName ≠ "ClassVar")
    (hnumber : (crateTable hint).resolver.type ["Crate"] hint = .ok (.primitive .number none)) :
    (crateTable hint).resolve (.name "Crate") =
      .ok (crateSchema (if isRequired true ⟨"size", hint, false, ""⟩ then ["size"] else [])) := by
  have hclass : (crateTable hint).resolver.answer (.type [] (.name "Crate")) =
      (crateTable hint).resolver.classType ["Crate"] (crateSite.fill hint) :=
    answer_class rfl rfl rfl List.not_mem_nil
  have hfields : fieldsOf (crateSite.fill hint).body = [⟨"size", hint, false, ""⟩] :=
    fieldsOf_crate hclassVar
  have hmembers : HasMembers (crateSite.fill hint) := fun _ hbase => nomatch hbase
  rw [TypeTable.resolve_eq, hclass, ← TypeTable.classType_resolver,
    resolveClass_of_members hmembers, hfields]
  simp only [List.foldlM_cons, addField, hnumber]
  rfl

theorem holds_sized : Holds "Annotated[int, Field()]" sizedHint := by
  refine ⟨.subscript (.name "Annotated")
    (.tuple [.name "int", .call ⟨1, 15⟩ (.name "Field") [] []]), ?_, rfl⟩
  cbv

theorem holds_optional : Holds "Optional[int]" optionalHint := by
  refine ⟨optionalHint, ?_, rfl⟩
  cbv

theorem type_optional (table : TypeTable) :
    table.resolver.type ["Crate"] optionalHint = .ok (.primitive .number none) := by
  have hnumber := table.type_resolver ["Crate"] (.name "int")
  rw [← table.type_resolver]
  exact hnumber.symm

theorem resolve_optional :
    (crateTable optionalHint).resolve (.name "Crate") = .ok (crateSchema []) :=
  resolve_crate (by decide) (type_optional _)

theorem isAlone_crate (table : TypeTable) (stack : List String) :
    crateSite.IsAlone table stack where
  bases := fun _ hbase => nomatch hbase
  before := fun _ hfield => nomatch hfield
  after := fun _ hfield => nomatch hfield

/-- A crate whose size may be quoted, and one where `Optional` makes a difference. -/
theorem quoted_iff_indifferent_crate :
    Holds "Annotated[int, Field()]" sizedHint ∧ crateSite.IsIndifferent sizedHint ∧
      SameResult
        (((crateTable sizedHint).withClass
          (crateSite.fill (.literal (.str "Annotated[int, Field()]" false)))).resolve
            (.name "Crate"))
        ((crateTable sizedHint).resolve (.name "Crate")) ∧
      Holds "Optional[int]" optionalHint ∧
      (((crateTable optionalHint).withClass
        (crateSite.fill (.literal (.str "Optional[int]" false)))).resolve (.name "Crate") =
          .ok (crateSchema []) ↔ crateSite.IsIndifferent optionalHint) := by
  have hsized : crateSite.IsIndifferent sizedHint := .inr (.inr ⟨by decide, fun _ => rfl⟩)
  refine ⟨holds_sized, hsized, ?_, holds_optional, ?_⟩
  · exact (quoted_iff_indifferent rfl holds_sized false).1 hsized
  · exact (quoted_iff_indifferent rfl holds_optional false).2 (crateSchema []) rfl resolve_optional
      (isAlone_crate _ _)

/-- A field that may be absent is required as soon as its annotation stands in a text. -/
theorem required_in_quotes :
    Holds "Optional[int]" optionalHint ∧
      (crateTable optionalHint).resolve (.name "Crate") = .ok (crateSchema []) ∧
      ((crateTable optionalHint).withClass
        (crateSite.fill (.literal (.str "Optional[int]" false)))).resolve (.name "Crate") =
          .ok (crateSchema ["size"]) ∧
      crateSchema [] ≠ crateSchema ["size"] := by
  refine ⟨holds_optional, resolve_optional, ?_, ?_⟩
  · have hsame := sameResult_text (crateTable (.literal (.str "Optional[int]" false))) ["Crate"]
      holds_optional false
    exact resolve_crate (genericName_text_ne _ _) (hsame.eq_ok_iff.mpr (type_optional _))
  · simp [crateSchema]

end RouteScribe.Schema
