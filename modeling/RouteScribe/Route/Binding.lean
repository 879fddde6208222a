import RouteScribe.Source.Syntax
import RouteScribe.Table

/-!
# Routing objects and the names bound to them

A name is bound to a routing object in a lexical scope.  Two names can share one
object; assigning a new object to a name makes a new binding even under the same
name.  A scope may also say that a name is bound to something else, which hides
the meaning it has further out.
-/

namespace RouteScribe.Route

open RouteScribe.Source

/-- A routing object.  Objects are told apart by their number. -/
structure Binding where
  id : Nat
  /-- The name under which the object was made. -/
  name : String
  /-- Where the comment of the object is looked for. -/
  declaration : Option NodeStart
  deriving DecidableEq, Repr

/-- The names that a scope binds, to a routing object or to something else. -/
structure Scope where
  names : Table (Option Binding)
  isClass : Bool
  deriving Repr

def Scope.empty (isClass : Bool) : Scope :=
  ⟨[], isClass⟩

/-- A call that looks like the registration of a route on a routing object.  The
path is missing if it is not written as a text. -/
structure Sighting where
  binding : Binding
  method : String
  path : Option String
  start : NodeStart
  deriving DecidableEq, Repr

/-- What a program is walked through with: the types of routing objects, and what
becomes of a call that is met. -/
structure Observer (σ : Type) where
  types : List String
  observe : Sighting → σ → σ

/-- What is known at some point of a program: the scopes around it, the number of
the next routing object, and what has become of the calls met so far. -/
structure Surroundings (σ : Type) where
  inner : Scope
  /-- The scopes further out, the nearest one first. -/
  outer : List Scope
  fresh : Nat
  seen : σ

namespace Surroundings

variable {σ : Type}

def initial (seen : σ) : Surroundings σ :=
  { inner := .empty false, outer := [], fresh := 0, seen }

/-- The routing object of a name.  The names of a class are seen in its own scope
only. -/
def lookup (state : Surroundings σ) (name : String) : Option Binding :=
  match state.inner.names.get? name with
  | some found => found
  | none => ((state.outer.filter (!·.isClass)).findSome? (·.names.get? name)).join

def bind (state : Surroundings σ) (name : String) (binding : Option Binding) : Surroundings σ :=
  { state with inner := { state.inner with names := state.inner.names.put name binding } }

/-- Binds names to something that is no routing object. -/
def unbind (state : Surroundings σ) (names : List String) : Surroundings σ :=
  names.foldl (fun state name => state.bind name none) state

/-- Makes a new routing object. -/
def create (state : Surroundings σ) (name : String) (declaration : Option NodeStart) :
    Binding × Surroundings σ :=
  (⟨state.fresh, name, declaration⟩, { state with fresh := state.fresh + 1 })

def enter (state : Surroundings σ) (scope : Scope) : Surroundings σ :=
  { state with inner := scope, outer := state.inner :: state.outer }

def leave (state : Surroundings σ) : Surroundings σ :=
  match state.outer with
  | [] => state
  | scope :: scopes => { state with inner := scope, outer := scopes }

def note (observer : Observer σ) (state : Surroundings σ) (sighting : Sighting) :
    Surroundings σ :=
  { state with seen := observer.observe sighting state.seen }

end Surroundings

end RouteScribe.Route
