import RouteScribe.Proofs.Route.TwoPhase
import RouteScribe.Proofs.Source.Renaming

/-!
# Walks under a renaming

A walk looks at names only to tell whether two of them are the same and whether one of
them is the type of a routing object.  A renaming that keeps different names different
and leaves these types alone leads the walk through the renamed program along the
renamed states of the walk through the program itself.
-/

namespace RouteScribe.Route

open RouteScribe.Source

/-! ### Renamed states -/

def Binding.rename (rename : String → String) (binding : Binding) : Binding :=
  { binding with name := rename binding.name }

def renameNames (rename : String → String) (names : Table (Option Binding)) :
    Table (Option Binding) :=
  names.map fun (name, binding) => (rename name, binding.map (Binding.rename rename))

def Scope.rename (rename : String → String) (scope : Scope) : Scope :=
  { scope with names := renameNames rename scope.names }

def Sighting.rename (rename : String → String) (sighting : Sighting) : Sighting :=
  { sighting with binding := sighting.binding.rename rename }

def Surroundings.rename (rename : String → String) (state : Surroundings (List Sighting)) :
    Surroundings (List Sighting) where
  inner := state.inner.rename rename
  outer := state.outer.map (Scope.rename rename)
  fresh := state.fresh
  seen := state.seen.map (Sighting.rename rename)

/-- A renaming that a scan cannot notice: different names stay different, and the
types of routing objects keep their names. -/
structure Respelling (types : List String) where
  rename : String → String
  injective : Function.Injective rename
  fixes : ∀ type ∈ types, rename type = type

namespace Respelling

variable {types : List String} (spelling : Respelling types)

/-- A name is a type of routing objects exactly if the renamed one is. -/
theorem contains_rename (name : String) :
    types.contains (spelling.rename name) = types.contains name := by
  apply Bool.eq_iff_iff.mpr
  simp only [List.contains_iff_mem]
  constructor
  · intro hrenamed
    have hfixed : spelling.rename (spelling.rename name) = spelling.rename name :=
      spelling.fixes _ hrenamed
    rwa [spelling.injective hfixed] at hrenamed
  · intro hname
    rwa [spelling.fixes name hname]

theorem contains_typeName (expr : Expr) :
    types.contains (typeName (expr.rename spelling.rename)) =
      types.contains (typeName expr) := by
  have hplain : ∀ expr : Expr,
      types.contains (typeName.plainName (expr.rename spelling.rename)) =
        types.contains (typeName.plainName expr) := by
    intro expr
    cases expr with
    | name id => simpa only [Expr.rename, typeName.plainName] using spelling.contains_rename id
    | literal value => rw [Expr.rename]
    | _ => simp only [Expr.rename, typeName.plainName]
  cases expr with
  | subscript value index => simpa only [Expr.rename, typeName] using hplain value
  | name id => exact hplain (.name id)
  | literal value => rw [Expr.rename]
  | _ => simp only [Expr.rename, typeName, typeName.plainName]

theorem any_typeName (hint : Option Expr) :
    (renameOption spelling.rename hint).any (types.contains <| typeName ·) =
      hint.any (types.contains <| typeName ·) := by
  cases hint with
  | none => rfl
  | some hint => exact spelling.contains_typeName hint

theorem get?_renameNames (names : Table (Option Binding)) (name : String) :
    (renameNames spelling.rename names).get? (spelling.rename name) =
      (names.get? name).map (Option.map (Binding.rename spelling.rename)) := by
  induction names with
  | nil => rfl
  | cons entry names ih =>
      obtain ⟨other, binding⟩ := entry
      simp only [Table.get?, renameNames, List.map_cons, List.lookup_cons] at ih ⊢
      by_cases hname : name = other
      · simp [hname]
      · have hrenamed : ¬spelling.rename name = spelling.rename other :=
          fun heq => hname (spelling.injective heq)
        simp only [beq_eq_false_iff_ne.mpr hname, beq_eq_false_iff_ne.mpr hrenamed]
        exact ih

theorem renameNames_put (names : Table (Option Binding)) (name : String)
    (binding : Option Binding) :
    renameNames spelling.rename (names.put name binding) =
      (renameNames spelling.rename names).put (spelling.rename name)
        (binding.map (Binding.rename spelling.rename)) := by
  induction names with
  | nil => rfl
  | cons entry names ih =>
      obtain ⟨other, old⟩ := entry
      simp only [renameNames, Table.put, List.map_cons] at ih ⊢
      by_cases hname : other = name
      · simp [hname]
      · have hrenamed : ¬spelling.rename other = spelling.rename name :=
          fun heq => hname (spelling.injective heq)
        simp only [hname, hrenamed, if_false, List.map_cons, ih]

/-! ### The steps of a walk -/

section Steps

variable (state : Surroundings (List Sighting))

/-- A renamed name is looked up in renamed surroundings to the renamed binding. -/
theorem lookup_rename (name : String) :
    (state.rename spelling.rename).lookup (spelling.rename name) =
      (state.lookup name).map (Binding.rename spelling.rename) := by
  have hget : ∀ scope : Scope, (scope.rename spelling.rename).names.get? (spelling.rename name) =
      (scope.names.get? name).map (Option.map (Binding.rename spelling.rename)) :=
    fun scope => spelling.get?_renameNames scope.names name
  have hvisible : (state.outer.map (Scope.rename spelling.rename)).filter (!·.isClass) =
      (state.outer.filter (!·.isClass)).map (Scope.rename spelling.rename) := by
    rw [List.filter_map]
    rfl
  simp only [Surroundings.lookup, Surroundings.rename, hget, hvisible, List.findSome?_map]
  cases state.inner.names.get? name with
  | some found => rfl
  | none =>
      simp only [Option.map_none]
      induction state.outer.filter (!·.isClass) with
      | nil => rfl
      | cons scope scopes ih =>
          simp only [List.findSome?_cons, Function.comp_apply, hget]
          cases scope.names.get? name with
          | some found => rfl
          | none => exact ih

theorem bind_rename (name : String) (binding : Option Binding) :
    (state.rename spelling.rename).bind (spelling.rename name)
        (binding.map (Binding.rename spelling.rename)) =
      (state.bind name binding).rename spelling.rename := by
  simp only [Surroundings.bind, Surroundings.rename, Scope.rename, spelling.renameNames_put]

theorem unbind_rename (names : List String) :
    (state.rename spelling.rename).unbind (names.map spelling.rename) =
      (state.unbind names).rename spelling.rename := by
  induction names generalizing state with
  | nil => rfl
  | cons name names ih =>
      have hbind := spelling.bind_rename state name none
      simp only [Surroundings.unbind, List.map_cons, List.foldl_cons] at ih ⊢
      rw [Option.map_none] at hbind
      rw [hbind, ih]

theorem create_rename (name : String) (declaration : Option NodeStart) :
    (state.rename spelling.rename).create (spelling.rename name) declaration =
      ((state.create name declaration).1.rename spelling.rename,
        (state.create name declaration).2.rename spelling.rename) :=
  rfl

theorem enter_rename (scope : Scope) :
    (state.rename spelling.rename).enter (scope.rename spelling.rename) =
      (state.enter scope).rename spelling.rename :=
  rfl

theorem leave_rename :
    (state.rename spelling.rename).leave = state.leave.rename spelling.rename := by
  obtain ⟨inner, outer, fresh, seen⟩ := state
  cases outer <;> rfl

theorem shared_rename (value : Option Expr) :
    (state.rename spelling.rename).shared (renameOption spelling.rename value) =
      (state.shared value).map (Binding.rename spelling.rename) := by
  cases value with
  | none => rfl
  | some value =>
      cases value with
      | name id => exact spelling.lookup_rename state id
      | _ => simp only [renameOption, Expr.rename, Surroundings.shared, Option.map_none]

theorem isObjectType_rename (value hint : Option Expr) :
    isObjectType types (renameOption spelling.rename value)
        (renameOption spelling.rename hint) = isObjectType types value hint := by
  unfold isObjectType
  rw [spelling.any_typeName]
  cases value with
  | none => rfl
  | some value =>
      cases value with
      | call start func args keywords =>
          simp only [renameOption, Expr.rename, spelling.contains_typeName func]
      | _ => simp only [renameOption, Expr.rename]

/-- An assignment binds the renamed object. -/
theorem assigned_rename (name : String) (value hint : Option Expr)
    (declaration : Option NodeStart) :
    (state.rename spelling.rename).assigned types (spelling.rename name)
        (renameOption spelling.rename value) (renameOption spelling.rename hint) declaration =
      ((state.assigned types name value hint declaration).1.map
          (Binding.rename spelling.rename),
        (state.assigned types name value hint declaration).2.rename spelling.rename) := by
  unfold Surroundings.assigned
  rw [spelling.shared_rename, spelling.isObjectType_rename]
  cases state.shared value with
  | some binding => rfl
  | none =>
      by_cases htype : isObjectType types value hint
      · simp only [Option.map_none, htype, if_true, spelling.create_rename, Option.map_some]
      · simp only [Option.map_none, htype]
        rfl

/-- A call is noted on the renamed object. -/
theorem sight_rename (start : NodeStart) (func : Expr) (args : List Expr) :
    (state.rename spelling.rename).sight (.listing types) start (func.rename spelling.rename)
        (renameAll spelling.rename args) =
      (state.sight (.listing types) start func args).rename spelling.rename := by
  have hpath : (renameAll spelling.rename args).head?.bind pathText? =
      args.head?.bind pathText? := by
    cases args with
    | nil => rfl
    | cons first others => cases first <;> simp only [renameAll, Expr.rename] <;> rfl
  unfold Surroundings.sight
  rw [hpath]
  match func with
  | .attribute value method =>
      cases value with
      | name receiver =>
          simp only [Expr.rename, spelling.lookup_rename]
          cases state.lookup receiver with
          | none => rfl
          | some binding =>
              by_cases hmethod : routeMethods.contains method
              · simp only [Option.map_some, hmethod, if_true, Surroundings.note,
                  Observer.listing, Surroundings.rename, List.map_append, List.map_cons,
                  List.map_nil, Sighting.rename]
              · simp only [Option.map_some, hmethod]
                rfl
      | _ => simp only [Expr.rename]
  | .literal _ | .name _ | .subscript _ _ | .call _ _ _ _ | .named _ _ | .lambda _ _
  | .boolean _ _ | .binary _ _ _ | .unary _ _ | .conditional _ _ _ | .compare _ _ | .tuple _
  | .list _ | .set _ | .dict _ | .comprehension _ _ _ | .dictComprehension _ _ _ | .starred _
  | .await _ | .yields _ | .yieldsFrom _ | .slice _ _ _ | .formatted _ =>
      simp only [Expr.rename]

/-- Parameters may be renamed before or after they are declared. -/
theorem paramScope_rename (declaration : NodeStart) (params : List Param) (scope : Scope) :
    paramScope types declaration (params.map (Param.rename spelling.rename))
        (scope.rename spelling.rename) (state.rename spelling.rename) =
      ((paramScope types declaration params scope state).1.rename spelling.rename,
        (paramScope types declaration params scope state).2.rename spelling.rename) := by
  induction params generalizing scope state with
  | nil => rfl
  | cons param params ih =>
      obtain ⟨name, hint, default⟩ := param
      simp only [List.map_cons, paramScope, Param.rename, Param.hint, Param.name,
        spelling.any_typeName, spelling.create_rename]
      by_cases hobject : hint.any (types.contains <| typeName ·)
      · simp only [hobject, if_true]
        rw [← ih]
        simp only [Scope.rename, spelling.renameNames_put, Option.map_some]
      · simp only [hobject, Bool.false_eq_true, if_false]
        rw [← ih]
        simp only [Scope.rename, spelling.renameNames_put, Option.map_none]

end Steps

theorem boundParams_rename (params : Params) :
    boundParams (params.rename spelling.rename) =
      (boundParams params).map (Param.rename spelling.rename) := by
  obtain ⟨positionalOnly, positional, rest, keywordOnly, restKeywords⟩ := params
  cases rest <;> cases restKeywords <;>
    simp [boundParams, Params.rename, Params.positionalOnly, Params.positional, Params.rest,
      Params.keywordOnly, Params.restKeywords, renameParamList_eq_map, renameParam?]

theorem lambdaScope_rename (params : Params) :
    lambdaScope (params.rename spelling.rename) = (lambdaScope params).rename spelling.rename := by
  have hput : ∀ (names : List String) (table : Table (Option Binding)),
      (names.map spelling.rename).foldl (fun table name => table.put name none)
          (renameNames spelling.rename table) =
        renameNames spelling.rename
          (names.foldl (fun table name => table.put name none) table) := by
    intro names
    induction names with
    | nil => exact fun _ => rfl
    | cons name names ih =>
        intro table
        simp only [List.map_cons, List.foldl_cons, ← ih, spelling.renameNames_put,
          Option.map_none]
  have hname : Param.name ∘ Param.rename spelling.rename = spelling.rename ∘ Param.name := by
    funext param
    cases param
    rfl
  obtain ⟨positionalOnly, positional, rest, keywordOnly, restKeywords⟩ := params
  simp only [lambdaScope, Params.rename, Params.positionalOnly, Params.positional,
    Params.keywordOnly, renameParamList_eq_map, ← List.map_append, List.map_map, hname,
    Scope.rename]
  rw [← hput, List.map_map]
  rfl

/-! ### The walk -/

-- The walk through a renamed node, from a renamed state, is renamed as a whole.  In
-- each case the walks through the parts follow one another in the same order.
mutual

/-- A renamed expression is walked to what its walk finds, renamed. -/
theorem walkExpr_rename (expr : Expr) (state : Surroundings (List Sighting)) :
    walkExpr (.listing types) (expr.rename spelling.rename) (state.rename spelling.rename) =
      (walkExpr (.listing types) expr state).rename spelling.rename := by
  match expr with
  | .literal _ | .name _ => simp only [Expr.rename, walkExpr]
  | .attribute value _ | .unary _ value | .starred value | .await value | .yieldsFrom value =>
      simp only [Expr.rename, walkExpr]
      exact walkExpr_rename value state
  | .subscript value index =>
      simp only [Expr.rename, walkExpr, walkExpr_rename value, walkExpr_rename index]
  | .call start func args keywords =>
      simp only [Expr.rename, walkExpr, spelling.sight_rename, walkExpr_rename func,
        walkAll_rename args, walkKeywords_rename keywords]
  | .named target value =>
      have hassigned := spelling.assigned_rename (walkExpr (.listing types) value state) target
        (some value) none none
      simp only [renameOption] at hassigned
      simp only [Expr.rename, walkExpr, walkExpr_rename value]
      simp only [Observer.listing] at hassigned ⊢
      rw [hassigned]
      exact spelling.bind_rename _ target _
  | .lambda params body =>
      simp only [Expr.rename, walkExpr, walkParams_rename params, spelling.lambdaScope_rename,
        spelling.enter_rename, walkExpr_rename body, spelling.leave_rename]
  | .boolean _ elements | .tuple elements | .list elements | .set elements =>
      simp only [Expr.rename, walkExpr]
      exact walkAll_rename elements state
  | .binary left _ right =>
      simp only [Expr.rename, walkExpr, walkExpr_rename left, walkExpr_rename right]
  | .conditional test body orElse =>
      simp only [Expr.rename, walkExpr, walkExpr_rename test, walkExpr_rename body,
        walkExpr_rename orElse]
  | .compare left links =>
      simp only [Expr.rename, walkExpr, walkExpr_rename left, walkLinks_rename links]
  | .dict entries =>
      simp only [Expr.rename, walkExpr, walkDictKeys_rename entries,
        walkDictValues_rename entries]
  | .comprehension _ element clauses =>
      simp only [Expr.rename, walkExpr, walkExpr_rename element, walkClauses_rename clauses]
  | .dictComprehension key value clauses =>
      simp only [Expr.rename, walkExpr, walkExpr_rename key, walkExpr_rename value,
        walkClauses_rename clauses]
  | .yields value =>
      simp only [Expr.rename, walkExpr]
      exact walkOption_rename value state
  | .slice lower upper step =>
      simp only [Expr.rename, walkExpr, walkOption_rename lower, walkOption_rename upper,
        walkOption_rename step]
  | .formatted parts =>
      simp only [Expr.rename, walkExpr]
      exact walkParts_rename parts state

theorem walkAll_rename (exprs : List Expr) (state : Surroundings (List Sighting)) :
    walkAll (.listing types) (renameAll spelling.rename exprs) (state.rename spelling.rename) =
      (walkAll (.listing types) exprs state).rename spelling.rename := by
  match exprs with
  | [] => rfl
  | expr :: exprs => simp only [renameAll, walkAll, walkExpr_rename expr, walkAll_rename exprs]

theorem walkOption_rename (expr : Option Expr) (state : Surroundings (List Sighting)) :
    walkOption (.listing types) (renameOption spelling.rename expr)
        (state.rename spelling.rename) =
      (walkOption (.listing types) expr state).rename spelling.rename := by
  match expr with
  | none => rfl
  | some expr =>
      simp only [renameOption, walkOption]
      exact walkExpr_rename expr state

theorem walkKeywords_rename (keywords : List Keyword) (state : Surroundings (List Sighting)) :
    walkKeywords (.listing types) (renameKeywords spelling.rename keywords)
        (state.rename spelling.rename) =
      (walkKeywords (.listing types) keywords state).rename spelling.rename := by
  match keywords with
  | [] => rfl
  | .mk _ value :: keywords =>
      simp only [renameKeywords, walkKeywords, walkExpr_rename value,
        walkKeywords_rename keywords]

theorem walkLinks_rename (links : List CompareLink) (state : Surroundings (List Sighting)) :
    walkLinks (.listing types) (renameLinks spelling.rename links)
        (state.rename spelling.rename) =
      (walkLinks (.listing types) links state).rename spelling.rename := by
  match links with
  | [] => rfl
  | .mk _ right :: links =>
      simp only [renameLinks, walkLinks, walkExpr_rename right, walkLinks_rename links]

theorem walkDictKeys_rename (entries : List DictEntry) (state : Surroundings (List Sighting)) :
    walkDictKeys (.listing types) (renameEntries spelling.rename entries)
        (state.rename spelling.rename) =
      (walkDictKeys (.listing types) entries state).rename spelling.rename := by
  match entries with
  | [] => rfl
  | .pair key _ :: entries =>
      simp only [renameEntries, walkDictKeys, walkExpr_rename key, walkDictKeys_rename entries]
  | .unpack _ :: entries =>
      simp only [renameEntries, walkDictKeys]
      exact walkDictKeys_rename entries state

theorem walkDictValues_rename (entries : List DictEntry)
    (state : Surroundings (List Sighting)) :
    walkDictValues (.listing types) (renameEntries spelling.rename entries)
        (state.rename spelling.rename) =
      (walkDictValues (.listing types) entries state).rename spelling.rename := by
  match entries with
  | [] => rfl
  | .pair _ value :: entries | .unpack value :: entries =>
      simp only [renameEntries, walkDictValues, walkExpr_rename value,
        walkDictValues_rename entries]

theorem walkClauses_rename (clauses : List Clause) (state : Surroundings (List Sighting)) :
    walkClauses (.listing types) (renameClauses spelling.rename clauses)
        (state.rename spelling.rename) =
      (walkClauses (.listing types) clauses state).rename spelling.rename := by
  match clauses with
  | [] => rfl
  | .mk _ target source conditions :: clauses =>
      simp only [renameClauses, walkClauses, walkExpr_rename target, walkExpr_rename source,
        walkAll_rename conditions, walkClauses_rename clauses]

theorem walkParts_rename (parts : List TextPart) (state : Surroundings (List Sighting)) :
    walkParts (.listing types) (renameParts spelling.rename parts)
        (state.rename spelling.rename) =
      (walkParts (.listing types) parts state).rename spelling.rename := by
  match parts with
  | [] => rfl
  | .text _ :: parts =>
      simp only [renameParts, walkParts]
      exact walkParts_rename parts state
  | .field value _ format :: parts =>
      simp only [renameParts, walkParts, walkExpr_rename value, walkFormat_rename format,
        walkParts_rename parts]

theorem walkFormat_rename (format : Option (List TextPart))
    (state : Surroundings (List Sighting)) :
    walkFormat (.listing types) (renameFormat spelling.rename format)
        (state.rename spelling.rename) =
      (walkFormat (.listing types) format state).rename spelling.rename := by
  match format with
  | none => rfl
  | some parts =>
      simp only [renameFormat, walkFormat]
      exact walkParts_rename parts state

theorem walkHint_rename (param : Param) (state : Surroundings (List Sighting)) :
    walkHint (.listing types) (param.rename spelling.rename) (state.rename spelling.rename) =
      (walkHint (.listing types) param state).rename spelling.rename := by
  match param with
  | .mk _ hint _ =>
      simp only [Param.rename, walkHint]
      exact walkOption_rename hint state

theorem walkHint?_rename (param : Option Param) (state : Surroundings (List Sighting)) :
    walkHint? (.listing types) (renameParam? spelling.rename param)
        (state.rename spelling.rename) =
      (walkHint? (.listing types) param state).rename spelling.rename := by
  match param with
  | none => rfl
  | some param =>
      simp only [renameParam?, walkHint?]
      exact walkHint_rename param state

theorem walkHints_rename (params : List Param) (state : Surroundings (List Sighting)) :
    walkHints (.listing types) (renameParamList spelling.rename params)
        (state.rename spelling.rename) =
      (walkHints (.listing types) params state).rename spelling.rename := by
  match params with
  | [] => rfl
  | param :: params =>
      simp only [renameParamList, walkHints, walkHint_rename param, walkHints_rename params]

theorem walkDefault_rename (param : Param) (state : Surroundings (List Sighting)) :
    walkDefault (.listing types) (param.rename spelling.rename)
        (state.rename spelling.rename) =
      (walkDefault (.listing types) param state).rename spelling.rename := by
  match param with
  | .mk _ _ default =>
      simp only [Param.rename, walkDefault]
      exact walkOption_rename default state

theorem walkDefaults_rename (params : List Param) (state : Surroundings (List Sighting)) :
    walkDefaults (.listing types) (renameParamList spelling.rename params)
        (state.rename spelling.rename) =
      (walkDefaults (.listing types) params state).rename spelling.rename := by
  match params with
  | [] => rfl
  | param :: params =>
      simp only [renameParamList, walkDefaults, walkDefault_rename param,
        walkDefaults_rename params]

theorem walkParams_rename (params : Params) (state : Surroundings (List Sighting)) :
    walkParams (.listing types) (params.rename spelling.rename)
        (state.rename spelling.rename) =
      (walkParams (.listing types) params state).rename spelling.rename := by
  match params with
  | .mk positionalOnly positional rest keywordOnly restKeywords =>
      simp only [Params.rename, walkParams, walkHints_rename positionalOnly,
        walkHints_rename positional, walkHint?_rename rest, walkHints_rename keywordOnly,
        walkDefaults_rename keywordOnly, walkHint?_rename restKeywords,
        walkDefaults_rename positionalOnly, walkDefaults_rename positional]

end

mutual

/-- A renamed pattern is walked to what its walk finds, renamed. -/
theorem walkPattern_rename (pattern : Pattern) (state : Surroundings (List Sighting)) :
    walkPattern (.listing types) (pattern.rename spelling.rename)
        (state.rename spelling.rename) =
      (walkPattern (.listing types) pattern state).rename spelling.rename := by
  match pattern with
  | .value expr =>
      simp only [Pattern.rename, walkPattern]
      exact spelling.walkExpr_rename expr state
  | .sequence patterns | .choice patterns =>
      simp only [Pattern.rename, walkPattern]
      exact walkPatterns_rename patterns state
  | .star _ => simp only [Pattern.rename, walkPattern]
  | .mapping keys patterns _ =>
      simp only [Pattern.rename, walkPattern, spelling.walkAll_rename keys,
        walkPatterns_rename patterns]
  | .instanceOf type patterns _ named =>
      simp only [Pattern.rename, walkPattern, spelling.walkExpr_rename type,
        walkPatterns_rename patterns, walkPatterns_rename named]
  | .capture pattern _ =>
      simp only [Pattern.rename, walkPattern]
      exact walkPattern?_rename pattern state

theorem walkPatterns_rename (patterns : List Pattern) (state : Surroundings (List Sighting)) :
    walkPatterns (.listing types) (renamePatterns spelling.rename patterns)
        (state.rename spelling.rename) =
      (walkPatterns (.listing types) patterns state).rename spelling.rename := by
  match patterns with
  | [] => rfl
  | pattern :: patterns =>
      simp only [renamePatterns, walkPatterns, walkPattern_rename pattern,
        walkPatterns_rename patterns]

theorem walkPattern?_rename (pattern : Option Pattern)
    (state : Surroundings (List Sighting)) :
    walkPattern? (.listing types) (renamePattern? spelling.rename pattern)
        (state.rename spelling.rename) =
      (walkPattern? (.listing types) pattern state).rename spelling.rename := by
  match pattern with
  | none => rfl
  | some pattern =>
      simp only [renamePattern?, walkPattern?]
      exact walkPattern_rename pattern state

end

theorem walkDecorators_rename (decorators : List Decorator)
    (state : Surroundings (List Sighting)) :
    walkDecorators (.listing types) (decorators.map (Decorator.rename spelling.rename))
        (state.rename spelling.rename) =
      (walkDecorators (.listing types) decorators state).rename spelling.rename := by
  have hexprs : (decorators.map (Decorator.rename spelling.rename)).map Decorator.expr =
      renameAll spelling.rename (decorators.map Decorator.expr) := by
    rw [renameAll_eq_map, List.map_map, List.map_map]
    rfl
  unfold walkDecorators
  rw [hexprs, spelling.walkAll_rename]

theorem walkContexts_rename (items : List (Expr × Option Expr))
    (state : Surroundings (List Sighting)) :
    walkContexts (.listing types) (renameContexts spelling.rename items)
        (state.rename spelling.rename) =
      (walkContexts (.listing types) items state).rename spelling.rename := by
  induction items generalizing state with
  | nil => rfl
  | cons item items ih =>
      obtain ⟨context, target⟩ := item
      simp only [renameContexts, List.map_cons, walkContexts, spelling.walkExpr_rename,
        spelling.walkOption_rename] at ih ⊢
      exact ih _

/-- Renamed targets are bound to the renamed binding. -/
theorem walkTargets_rename (binding : Option Binding) (targets : List Expr)
    (state : Surroundings (List Sighting)) :
    walkTargets (.listing types) (binding.map (Binding.rename spelling.rename))
        (renameAll spelling.rename targets) (state.rename spelling.rename) =
      (walkTargets (.listing types) binding targets state).rename spelling.rename := by
  induction targets generalizing state with
  | nil => rfl
  | cons target targets ih =>
      have hcompound := spelling.unbind_rename (walkExpr (.listing types) target state)
        target.names
      rw [← Expr.names_rename, ← spelling.walkExpr_rename] at hcompound
      cases target with
      | name id =>
          simp only [renameAll, Expr.rename, walkTargets, spelling.bind_rename, ih]
      | _ =>
          simp only [renameAll, Expr.rename, walkTargets, ← ih] at hcompound ⊢
          rw [hcompound]

theorem head?_nameOf?_rename (targets : List Expr) :
    ((renameAll spelling.rename targets).filterMap nameOf?).head? =
      ((targets.filterMap nameOf?).head?).map spelling.rename := by
  induction targets with
  | nil => rfl
  | cons target targets ih =>
      cases target with
      | name id => rfl
      | _ => simpa only [renameAll, Expr.rename, nameOf?, List.filterMap_cons] using ih

theorem walkAssign_rename (start : NodeStart) (targets : List Expr) (value : Expr)
    (state : Surroundings (List Sighting)) :
    walkAssign (.listing types) start (renameAll spelling.rename targets)
        (value.rename spelling.rename) (state.rename spelling.rename) =
      (walkAssign (.listing types) start targets value state).rename spelling.rename := by
  unfold walkAssign
  rw [spelling.walkExpr_rename, spelling.head?_nameOf?_rename]
  cases (targets.filterMap nameOf?).head? with
  | none => exact spelling.walkTargets_rename none targets _
  | some name =>
      have hassigned := spelling.assigned_rename (walkExpr (.listing types) value state) name
        (some value) none (some start)
      simp only [renameOption] at hassigned
      simp only [Option.map_some, Observer.listing] at hassigned ⊢
      rw [hassigned]
      exact spelling.walkTargets_rename _ targets _

theorem walkAnnotated_rename (start : NodeStart) (target hint : Expr) (value : Option Expr)
    (state : Surroundings (List Sighting)) :
    walkAnnotated (.listing types) start (target.rename spelling.rename)
        (hint.rename spelling.rename) (renameOption spelling.rename value)
        (state.rename spelling.rename) =
      (walkAnnotated (.listing types) start target hint value state).rename
        spelling.rename := by
  have hcompound := spelling.walkExpr_rename target (walkOption (.listing types) value state)
  unfold walkAnnotated
  rw [spelling.walkOption_rename]
  cases target with
  | name id =>
      have hassigned := spelling.assigned_rename (walkOption (.listing types) value state) id
        value (some hint) (some start)
      simp only [Expr.rename, renameOption, Observer.listing] at hassigned ⊢
      rw [hassigned]
      exact spelling.bind_rename _ id _
  | _ => simpa only [Expr.rename] using hcompound

/-- A function may be renamed before or after it is entered. -/
theorem enterFunction_rename (start : NodeStart) (params : Params)
    (decorators : List Decorator) (result : Option Expr)
    (state : Surroundings (List Sighting)) :
    enterFunction (.listing types) start (params.rename spelling.rename)
        (decorators.map (Decorator.rename spelling.rename))
        (renameOption spelling.rename result) (state.rename spelling.rename) =
      (enterFunction (.listing types) start params decorators result state).rename
        spelling.rename := by
  have hdeclaration : functionDeclaration start
      (decorators.map (Decorator.rename spelling.rename)) =
        functionDeclaration start decorators := by
    cases decorators <;> rfl
  have hempty : Scope.empty false = (Scope.empty false).rename spelling.rename := rfl
  unfold enterFunction
  simp only [spelling.walkDecorators_rename, spelling.walkParams_rename,
    spelling.walkOption_rename, hdeclaration, spelling.boundParams_rename]
  rw [hempty]
  simp only [Observer.listing, spelling.paramScope_rename, spelling.enter_rename]
  rw [← hempty]

mutual

/-- A renamed statement is walked to what its walk finds, renamed. -/
theorem walkStmt_rename (statement : Stmt) (state : Surroundings (List Sighting)) :
    walkStmt (.listing types) (statement.rename spelling.rename)
        (state.rename spelling.rename) =
      (walkStmt (.listing types) statement state).rename spelling.rename := by
  match statement with
  | .expression value =>
      simp only [Stmt.rename, walkStmt]
      exact spelling.walkExpr_rename value state
  | .assign start targets value =>
      simp only [Stmt.rename, walkStmt]
      exact spelling.walkAssign_rename start targets value state
  | .annotated start target hint value =>
      simp only [Stmt.rename, walkStmt]
      exact spelling.walkAnnotated_rename start target hint value state
  | .augmented target _ value =>
      simp only [Stmt.rename, walkStmt, spelling.walkExpr_rename]
  | .typeAlias _ bounds value =>
      simp only [Stmt.rename, walkStmt, spelling.walkAll_rename, spelling.walkExpr_rename]
  | .delete targets =>
      simp only [Stmt.rename, walkStmt]
      exact spelling.walkAll_rename targets state
  | .returns value =>
      simp only [Stmt.rename, walkStmt]
      exact spelling.walkOption_rename value state
  | .raises exception cause =>
      simp only [Stmt.rename, walkStmt, spelling.walkOption_rename]
  | .asserts test message =>
      simp only [Stmt.rename, walkStmt, spelling.walkExpr_rename, spelling.walkOption_rename]
  | .imports _ | .importsFrom _ _ | .declares _ | .idle => simp only [Stmt.rename, walkStmt]
  | .branch test body orElse | .whileLoop test body orElse =>
      simp only [Stmt.rename, walkStmt, spelling.walkExpr_rename, walkStmts_rename body,
        walkStmts_rename orElse]
  | .forLoop target source body orElse =>
      simp only [Stmt.rename, walkStmt, spelling.walkExpr_rename, Expr.names_rename,
        spelling.unbind_rename, walkStmts_rename body, walkStmts_rename orElse]
  | .withBlock items body =>
      simp only [Stmt.rename, walkStmt, spelling.walkContexts_rename, walkStmts_rename body]
  | .tryBlock body handlers orElse final =>
      simp only [Stmt.rename, walkStmt, walkStmts_rename body, walkHandlers_rename handlers,
        walkStmts_rename orElse, walkStmts_rename final]
  | .matchBlock subject cases =>
      simp only [Stmt.rename, walkStmt, spelling.walkExpr_rename, walkCases_rename cases]
  | .function start name params decorators result body =>
      simp only [Stmt.rename, walkStmt, spelling.enterFunction_rename, walkStmts_rename body,
        spelling.leave_rename]
      exact spelling.bind_rename _ name none
  | .classDef (.mk name bases keywords decorators body) =>
      have hempty : Scope.empty true = (Scope.empty true).rename spelling.rename := rfl
      have hbody := walkStmts_rename body ((walkKeywords (.listing types) keywords
        (walkAll (.listing types) bases
          (walkDecorators (.listing types) decorators state))).enter (.empty true))
      rw [← spelling.enter_rename, ← hempty] at hbody
      simp only [Stmt.rename, walkStmt, spelling.walkDecorators_rename,
        spelling.walkAll_rename, spelling.walkKeywords_rename, hbody, spelling.leave_rename]
      exact spelling.bind_rename _ name none

theorem walkStmts_rename (statements : List Stmt) (state : Surroundings (List Sighting)) :
    walkStmts (.listing types) (renameStmts spelling.rename statements)
        (state.rename spelling.rename) =
      (walkStmts (.listing types) statements state).rename spelling.rename := by
  match statements with
  | [] => rfl
  | statement :: statements =>
      simp only [renameStmts, walkStmts, walkStmt_rename statement,
        walkStmts_rename statements]

theorem walkHandlers_rename (handlers : List Handler) (state : Surroundings (List Sighting)) :
    walkHandlers (.listing types) (renameHandlers spelling.rename handlers)
        (state.rename spelling.rename) =
      (walkHandlers (.listing types) handlers state).rename spelling.rename := by
  match handlers with
  | [] => rfl
  | .mk type _ body :: handlers =>
      simp only [renameHandlers, walkHandlers, spelling.walkOption_rename,
        walkStmts_rename body, walkHandlers_rename handlers]

theorem walkCases_rename (cases : List Case) (state : Surroundings (List Sighting)) :
    walkCases (.listing types) (renameCases spelling.rename cases)
        (state.rename spelling.rename) =
      (walkCases (.listing types) cases state).rename spelling.rename := by
  match cases with
  | [] => rfl
  | .mk pattern guard body :: cases =>
      simp only [renameCases, walkCases, spelling.walkPattern_rename,
        spelling.walkOption_rename, walkStmts_rename body, walkCases_rename cases]

end

/-- The registrations of a renamed program are those of the program, on renamed
objects. -/
theorem sightingsIn_rename (module : Module) :
    sightingsIn types (module.rename spelling.rename) =
      (sightingsIn types module).map (Sighting.rename spelling.rename) := by
  have hwalk := spelling.walkStmts_rename module (.initial [])
  exact congrArg Surroundings.seen hwalk

end Respelling

end RouteScribe.Route
