import RouteScribe.Proofs.Schema.Termination

/-!
# Types through their lookups

The rules for types read a table by looking up names, so tables with the same lookups
give every type the same schema or the same error.  Depth is the one thing that is
measured on whole tables, and it does not matter as long as it suffices.

The table of a program is filled file by file, and the first definition of a name counts.
Where no name is defined twice, files in any order fill tables with the same lookups.
-/

namespace RouteScribe.Schema

open RouteScribe.Json RouteScribe.Source RouteScribe.Text

/-! ### Tables with the same lookups -/

/-- Tables that know the same classes and the same aliases by name. -/
structure TypeTable.SameLookups (left right : TypeTable) : Prop where
  classes : left.classes.get? = right.classes.get?
  aliases : left.aliases.get? = right.aliases.get?

namespace TypeTable.SameLookups

variable {left right : TypeTable} (hsame : left.SameLookups right)

include hsame

section Rules

variable (inner : Resolver)

theorem resolveName_eq : resolveName left inner = resolveName right inner := by
  funext stack name
  simp only [resolveName, hsame.classes, hsame.aliases]

theorem resolveType_eq : resolveType left inner = resolveType right inner := by
  funext stack expr
  unfold resolveType resolveSubscript
  rw [hsame.resolveName_eq]

theorem addBase_eq : addBase left inner = addBase right inner := by
  funext stack members base
  unfold addBase addBase.inheritFrom
  rw [hsame.classes]

theorem resolveClass_eq : resolveClass left inner = resolveClass right inner := by
  funext stack definition
  simp only [resolveClass, hsame.addBase_eq]

end Rules

theorem upTo_eq (depth : Nat) : Resolver.upTo left depth = Resolver.upTo right depth := by
  induction depth with
  | zero => rfl
  | succ depth ih =>
      simp only [Resolver.upTo, ih, hsame.resolveType_eq, hsame.resolveClass_eq]

/-- An expression has the same schema, or the same error, at a depth that suffices for
both tables. -/
theorem resolve_eq (expr : Expr) : left.resolve expr = right.resolve expr := by
  let call : Call := .type [] expr
  let depth := max (call.need left) (call.need right)
  calc left.resolve expr
      = (Resolver.upTo left depth).answer call := by
        rw [TypeTable.resolve_eq, answer_upTo (le_max_left _ _)]
    _ = (Resolver.upTo right depth).answer call := by rw [hsame.upTo_eq]
    _ = right.resolve expr := by
        rw [TypeTable.resolve_eq, answer_upTo (le_max_right _ _)]

theorem schemaOf_eq : left.schemaOf = right.schemaOf := by
  funext text
  unfold TypeTable.schemaOf
  split
  · exact hsame.resolve_eq _
  · rfl

end TypeTable.SameLookups

/-! ### The table of a program -/

/-- The classes of a file, nested ones included, by name. -/
def classEntries (file : SourceFile) : List (String × ClassDef) :=
  (Module.classes file.module).map fun definition => (definition.name, definition)

/-- The type aliases of a file by name. -/
def aliasEntries (file : SourceFile) : List (String × Expr) :=
  file.module.filterMap aliasOf?

/-- The names of the classes of a file, nested ones included. -/
def classNames (file : SourceFile) : List String :=
  (classesIn 0 file.module).map fun placed => placed.definition.name

def aliasNames (file : SourceFile) : List String :=
  (aliasEntries file).map Prod.fst

/-- No class is defined twice in a program, and no alias. -/
structure DefinedOnce (files : List SourceFile) : Prop where
  classes : (files.flatMap classNames).Nodup
  aliases : (files.flatMap aliasNames).Nodup

theorem DefinedOnce.of_perm {files others : List SourceFile} (honce : DefinedOnce files)
    (hperm : files.Perm others) : DefinedOnce others where
  classes := (hperm.flatMap_right classNames).nodup_iff.mp honce.classes
  aliases := (hperm.flatMap_right aliasNames).nodup_iff.mp honce.aliases

/-- Listing classes level by level keeps all of them. -/
theorem perm_classNames (file : SourceFile) :
    ((classEntries file).map Prod.fst).Perm (classNames file) := by
  have hnames : (classEntries file).map Prod.fst =
      ((classesIn 0 file.module).mergeSort fun left right => left.depth ≤ right.depth).map
        fun placed => placed.definition.name := by
    simp only [classEntries, Module.classes, List.map_map, Function.comp_def]
  rw [hnames]
  exact (List.mergeSort_perm _ _).map _

theorem DefinedOnce.nodup_classEntries {files : List SourceFile} (honce : DefinedOnce files) :
    (Table.names (files.flatMap classEntries)).Nodup := by
  have hperm : (files.flatMap fun file => (classEntries file).map Prod.fst).Perm
      (files.flatMap classNames) :=
    List.Perm.flatMap_left files fun file _ => perm_classNames file
  rw [Table.names, List.map_flatMap]
  exact hperm.nodup_iff.mpr honce.classes

theorem DefinedOnce.nodup_aliasEntries {files : List SourceFile} (honce : DefinedOnce files) :
    (Table.names (files.flatMap aliasEntries)).Nodup := by
  rw [Table.names, List.map_flatMap]
  exact honce.aliases

namespace TypeTable

theorem foldl_addClass (definitions : List ClassDef) (table : TypeTable) :
    definitions.foldl addClass table =
      { table with
        classes := (definitions.map fun definition => (definition.name, definition)).foldl
          (fun table entry => table.putNew entry.1 entry.2) table.classes } := by
  induction definitions generalizing table with
  | nil => rfl
  | cons definition definitions ih => exact ih _

theorem foldl_addAlias (entries : List (String × Expr)) (table : TypeTable) :
    entries.foldl addAlias table =
      { table with
        aliases := entries.foldl (fun table entry => table.putNew entry.1 entry.2)
          table.aliases } := by
  induction entries generalizing table with
  | nil => rfl
  | cons entry entries ih => exact ih _

theorem addFile_eq (table : TypeTable) (file : SourceFile) :
    table.addFile file =
      { classes := (classEntries file).foldl (fun table entry => table.putNew entry.1 entry.2)
          table.classes
        aliases := (aliasEntries file).foldl (fun table entry => table.putNew entry.1 entry.2)
          table.aliases } := by
  unfold addFile
  rw [foldl_addClass, foldl_addAlias]
  rfl

/-- The table of a program is filled file by file, its classes and its aliases apart. -/
theorem foldl_addFile (files : List SourceFile) (table : TypeTable) :
    files.foldl addFile table =
      { classes := (files.flatMap classEntries).foldl
          (fun table entry => table.putNew entry.1 entry.2) table.classes
        aliases := (files.flatMap aliasEntries).foldl
          (fun table entry => table.putNew entry.1 entry.2) table.aliases } := by
  induction files generalizing table with
  | nil => rfl
  | cons file files ih =>
      rw [List.foldl_cons, ih, addFile_eq, List.flatMap_cons, List.flatMap_cons,
        List.foldl_append, List.foldl_append]

/-- The first class with a name counts. -/
theorem get?_classes_ofFiles (files : List SourceFile) (name : String) :
    (ofFiles files).classes.get? name = Table.get? (files.flatMap classEntries) name := by
  rw [ofFiles, foldl_addFile, Table.get?_foldl_putNew]
  rfl

theorem get?_aliases_ofFiles (files : List SourceFile) (name : String) :
    (ofFiles files).aliases.get? name = Table.get? (files.flatMap aliasEntries) name := by
  rw [ofFiles, foldl_addFile, Table.get?_foldl_putNew]
  rfl

/-- Where no name is defined twice, the order of files does not matter for types. -/
theorem sameLookups_of_perm {files others : List SourceFile} (hperm : files.Perm others)
    (honce : DefinedOnce files) : (ofFiles files).SameLookups (ofFiles others) where
  classes := by
    funext name
    rw [get?_classes_ofFiles, get?_classes_ofFiles,
      Table.get?_of_perm (hperm.flatMap_right classEntries) honce.nodup_classEntries]
  aliases := by
    funext name
    rw [get?_aliases_ofFiles, get?_aliases_ofFiles,
      Table.get?_of_perm (hperm.flatMap_right aliasEntries) honce.nodup_aliasEntries]

end TypeTable

end RouteScribe.Schema
