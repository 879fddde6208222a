import RouteScribe.Schema.ClassBody
import RouteScribe.Source.Classes
import RouteScribe.Source.File
import RouteScribe.Text.Uppercase

/-!
# Type tables

The classes of a program at any depth, and the type aliases on the top level of
its files.  The first definition of a name counts.
-/

namespace RouteScribe.Schema

open RouteScribe.Source RouteScribe.Text

structure TypeTable where
  classes : Table ClassDef
  aliases : Table Expr

/-- The target of an assignment that makes its name an alias: a new type, a
parameterized type, a union, or another name if the alias is capitalized. -/
def aliasTarget? (name : String) : Expr → Option Expr
  | .call _ func [_, target] _ => if func.simpleName = "NewType" then some target else none
  | .subscript value index => some (.subscript value index)
  | .binary left .bitOr right => some (.binary left .bitOr right)
  | .name id => if isCapitalized then some (.name id) else none
  | .attribute value member => if isCapitalized then some (.attribute value member) else none
  | _ => none
where
  isCapitalized : Bool := name.toList.head?.any isUppercase

/-- The alias that a statement defines. -/
def aliasOf? : Stmt → Option (String × Expr)
  | .typeAlias name _ value => some (name, value)
  | .annotated _ (.name name) hint (some value) =>
      if occursIn "TypeAlias".toList hint.text.toList then some (name, value) else none
  | .assign _ [.name name] value => (aliasTarget? name value).map (name, ·)
  | _ => none

namespace TypeTable

def empty : TypeTable := ⟨[], []⟩

def addClass (table : TypeTable) (definition : ClassDef) : TypeTable :=
  { table with classes := table.classes.putNew definition.name definition }

def addAlias (table : TypeTable) (entry : String × Expr) : TypeTable :=
  { table with aliases := table.aliases.putNew entry.1 entry.2 }

def addFile (table : TypeTable) (file : SourceFile) : TypeTable :=
  let table := (Module.classes file.module).foldl addClass table
  (file.module.filterMap aliasOf?).foldl addAlias table

def ofFiles (files : List SourceFile) : TypeTable :=
  files.foldl addFile empty

end TypeTable

end RouteScribe.Schema
