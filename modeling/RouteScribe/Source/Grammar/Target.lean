import RouteScribe.Source.Grammar.Basic

/-!
# Targets of assignments

Names, attributes and subscripts can be assigned to, and so can tuples and lists
of targets.  A target is read as an expression and checked afterwards.
-/

namespace RouteScribe.Source

/-- Whether an expression names one place to assign to. -/
def Expr.isSingleTarget : Expr → Bool
  | .name _ | .attribute _ _ | .subscript _ _ => true
  | _ => false

def Expr.isStarred : Expr → Bool
  | .starred _ => true
  | _ => false

mutual

/-- Whether an expression can be assigned to, where parts may be starred. -/
def Expr.isTarget : Expr → Bool
  | .name _ | .attribute _ _ | .subscript _ _ => true
  | .tuple elements | .list elements => areTargets elements
  | .starred value => value.isTarget && !value.isStarred
  | _ => false

def areTargets : List Expr → Bool
  | [] => true
  | element :: elements => element.isTarget && areTargets elements

end

mutual

def Expr.isDeletable : Expr → Bool
  | .name _ | .attribute _ _ | .subscript _ _ => true
  | .tuple elements | .list elements => areDeletable elements
  | _ => false

def areDeletable : List Expr → Bool
  | [] => true
  | element :: elements => element.isDeletable && areDeletable elements

end

namespace Rule

def starTarget (rules : Rules) : Rule Expr := do
  let isStarred ← takeSymbol "*"
  let target ← rules.primary
  check (target.isTarget && !(isStarred && target.isStarred))
  return if isStarred then .starred target else target

def starTargets (rules : Rules) : Rule Expr := do
  let (targets, trailing) ← commaList (starTarget rules)
  match targets, trailing with
  | [target], false => return target
  | _, _ => return .tuple targets

end Rule

end RouteScribe.Source
