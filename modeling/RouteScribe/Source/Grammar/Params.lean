import RouteScribe.Source.Grammar.Basic

/-!
# Parameters

A parameter list is read item by item and then sorted into kinds.  A slash makes
the parameters before it positional-only, a star ends the positional ones, and
two stars end the list.
-/

namespace RouteScribe.Source

inductive ParamItem where
  | plain (param : Param)
  | slash
  | bareStar
  | star (param : Param)
  | doubleStar (param : Param)

/-- Sorts the items after the last positional parameter: keyword parameters, and
at the end the parameter for further keywords.  `needsKeyword` says that a bare
star still waits for a keyword parameter. -/
def keywordItems : (needsKeyword : Bool) → List ParamItem → Option (List Param × Option Param)
  | needsKeyword, [] => if needsKeyword then none else some ([], none)
  | _, .plain param :: items =>
      (keywordItems false items).map fun (params, rest) => (param :: params, rest)
  | false, [.doubleStar param] => some ([], some param)
  | _, _ => none

/-- Sorts the items of a parameter list.  `positionalOnly` and `positional` hold
what came before, with the last one first. -/
def sortItems (positionalOnly positional : List Param) : List ParamItem → Option Params
  | [] => some (.mk positionalOnly.reverse positional.reverse none [] none)
  | .plain param :: items =>
      let before := (positional ++ positionalOnly).head?
      if (before.bind Param.default).isSome && param.default.isNone then none
      else sortItems positionalOnly (param :: positional) items
  | .slash :: items =>
      if positional.isEmpty || !positionalOnly.isEmpty then none else sortItems positional [] items
  | .bareStar :: items => do
      let (keywords, rest) ← keywordItems true items
      return .mk positionalOnly.reverse positional.reverse none keywords rest
  | .star param :: items => do
      let (keywords, rest) ← keywordItems false items
      return .mk positionalOnly.reverse positional.reverse (some param) keywords rest
  | [.doubleStar param] =>
      some (.mk positionalOnly.reverse positional.reverse none [] (some param))
  | .doubleStar _ :: _ => none

namespace Rule

/-- An annotation after its colon. -/
def hint (rules : Rules) (isAnnotated : Bool) : Rule (Option Expr) :=
  if isAnnotated then maybe (do symbol ":"; rules.expression) else pure none

/-- The annotation of a starred parameter, which may itself be starred. -/
def starHint (rules : Rules) (isAnnotated : Bool) : Rule (Option Expr) :=
  if isAnnotated then
    maybe do
      symbol ":"
      if ← takeSymbol "*" then return .starred (← rules.bitwiseOr) else rules.expression
  else pure none

def paramItem (rules : Rules) (isAnnotated : Bool) : Rule ParamItem := do
  if ← takeSymbol "/" then return .slash
  if ← takeSymbol "**" then
    let id ← name
    return .doubleStar (.mk id (← hint rules isAnnotated) none)
  if ← takeSymbol "*" then
    match ← maybe name with
    | some id => return .star (.mk id (← starHint rules isAnnotated) none)
    | none => return .bareStar
  let id ← name
  let type ← hint rules isAnnotated
  let default ← maybe (do symbol "="; rules.expression)
  return .plain (.mk id type default)

/-- A parameter list, which may be empty.  A bare star cannot end it. -/
def params (rules : Rules) (isAnnotated : Bool) : Rule Params := do
  let (items, _) ← commaList (paramItem rules isAnnotated) <|> pure ([], false)
  match sortItems [] [] items with
  | some params => return params
  | none => failure

end Rule

end RouteScribe.Source
