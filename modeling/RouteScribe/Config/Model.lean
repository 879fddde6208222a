import RouteScribe.Json.Value

/-!
# Fields of a model

A config is declared as a model, whose fields are checked by the library of models.  This
is what that library does by its documentation, and nothing of the config itself: the value
of a field stands under its alias or else under its name, a default is taken as it is,
a check of the model that refuses a value gives its own report, and what is wrong with the
fields is listed in their order, each fault with the way to its value.
-/

namespace RouteScribe.Config.Model

open RouteScribe.Json

inductive Fault where
  | missing
  /-- A check of the model refuses the value. -/
  | refused (report : String)
  | notAnArray
  | notAString
  | notAnObject (model : String)
  deriving DecidableEq, Repr

/-- A step on the way to a value. -/
inductive Step where
  | key (name : String)
  | index (position : Nat)
  deriving DecidableEq, Repr

/-- A fault with the way to its value. -/
structure Problem where
  location : List Step
  fault : Fault
  deriving DecidableEq, Repr

/-- What stands in front of the report of a check of the model. -/
def refusedMark : String := "Value error, "

def Fault.message : Fault → String
  | .missing => "Field required"
  | .refused report => refusedMark ++ report
  | .notAnArray => "Input should be a valid tuple"
  | .notAString => "Input should be a valid string"
  | .notAnObject model => "Input should be a valid dictionary or instance of " ++ model

/-- What checking the value under a key comes to. -/
abbrev Check (α : Type) := (key : String) → Value → Except (List Problem) α

/-- The value of a field with the key that it stands under. -/
def fieldOf (entries : Table Value) (aliasName name : String) : Option (String × Value) :=
  match entries.get? aliasName with
  | some value => some (aliasName, value)
  | none => (entries.get? name).map (name, ·)

/-- A field that has to be there. -/
def required {α : Type} (name : String) (check : Check α) :
    (field : Option (String × Value)) → Except (List Problem) α
  | some (key, value) => check key value
  | none => .error [⟨[.key name], .missing⟩]

/-- A field that has a default. -/
def withDefault {α : Type} (standard : α) (check : Check α) :
    (field : Option (String × Value)) → Except (List Problem) α
  | some (key, value) => check key value
  | none => .ok standard

/-- The problems of the items of an array that are no strings, from an index on. -/
def stringProblems (location : List Step) : (index : Nat) → List Value → List Problem
  | _, [] => []
  | index, .str _ :: items => stringProblems location (index + 1) items
  | index, _ :: items =>
      ⟨location ++ [.index index], .notAString⟩ :: stringProblems location (index + 1) items

def stringArray : Check (List String)
  | key, .arr items =>
      match stringProblems [.key key] 0 items with
      | [] => .ok (items.filterMap Value.asString?)
      | problems => .error problems
  | key, _ => .error [⟨[.key key], .notAnArray⟩]

def problemsOf {α : Type} : Except (List Problem) α → List Problem
  | .ok _ => []
  | .error problems => problems

end RouteScribe.Config.Model
