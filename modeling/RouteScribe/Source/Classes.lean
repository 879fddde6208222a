import RouteScribe.Source.Syntax

/-!
# The classes of a program

Classes are listed level by level: those that stand less deep come first, and
those of one level in the order of the text.
-/

namespace RouteScribe.Source

/-- A class with the depth at which it stands. -/
structure PlacedClass where
  depth : Nat
  definition : ClassDef

mutual

/-- The classes in a statement, which itself stands at some depth. -/
def Stmt.classes (depth : Nat) : Stmt → List PlacedClass
  | .expression _ | .assign _ _ _ | .annotated _ _ _ _ | .augmented _ _ _ | .typeAlias _ _ _
  | .delete _ | .returns _ | .raises _ _ | .asserts _ _ | .imports _ | .importsFrom _ _
  | .declares _ | .idle => []
  | .branch _ body orElse | .whileLoop _ body orElse | .forLoop _ _ body orElse =>
      classesIn (depth + 1) body ++ classesIn (depth + 1) orElse
  | .withBlock _ body | .function _ _ _ _ _ body => classesIn (depth + 1) body
  | .tryBlock body handlers orElse final =>
      classesIn (depth + 1) body ++ classesInHandlers (depth + 1) handlers ++
        classesIn (depth + 1) orElse ++ classesIn (depth + 1) final
  | .matchBlock _ cases => classesInCases (depth + 1) cases
  | .classDef (.mk name bases keywords decorators body) =>
      ⟨depth, .mk name bases keywords decorators body⟩ :: classesIn (depth + 1) body

def classesIn (depth : Nat) : List Stmt → List PlacedClass
  | [] => []
  | statement :: statements => statement.classes depth ++ classesIn depth statements

def classesInHandlers (depth : Nat) : List Handler → List PlacedClass
  | [] => []
  | .mk _ _ body :: handlers => classesIn (depth + 1) body ++ classesInHandlers depth handlers

def classesInCases (depth : Nat) : List Case → List PlacedClass
  | [] => []
  | .mk _ _ body :: cases => classesIn (depth + 1) body ++ classesInCases depth cases

end

/-- The classes of a program, level by level. -/
def Module.classes (module : Module) : List ClassDef :=
  let placed := classesIn 0 module
  (placed.mergeSort fun left right => left.depth ≤ right.depth).map PlacedClass.definition

end RouteScribe.Source
