import RouteScribe.Source.Literal

/-!
# Syntax trees

Expressions and statements of the analysed language.  Only the nodes at which a
comment can be looked up carry the place where they start: calls, assignments,
decorators and definitions.
-/

namespace RouteScribe.Source

/-- Where a node starts: a line counted from one, and an offset in the line
counted in bytes. -/
structure NodeStart where
  line : Nat
  byte : Nat
  deriving DecidableEq, Repr, Inhabited

inductive BinaryOp where
  | add | sub | mult | matMult | div | mod | lShift | rShift | bitOr | bitXor | bitAnd | floorDiv
  | pow
  deriving DecidableEq, Repr

def BinaryOp.symbol : BinaryOp → String
  | .add => "+"
  | .sub => "-"
  | .mult => "*"
  | .matMult => "@"
  | .div => "/"
  | .mod => "%"
  | .lShift => "<<"
  | .rShift => ">>"
  | .bitOr => "|"
  | .bitXor => "^"
  | .bitAnd => "&"
  | .floorDiv => "//"
  | .pow => "**"

inductive UnaryOp where
  | invert | not | plus | minus
  deriving DecidableEq, Repr

def UnaryOp.symbol : UnaryOp → String
  | .invert => "~"
  | .not => "not"
  | .plus => "+"
  | .minus => "-"

inductive BoolOp where
  | and | or
  deriving DecidableEq, Repr

def BoolOp.symbol : BoolOp → String
  | .and => "and"
  | .or => "or"

inductive CompareOp where
  | eq | notEq | lt | le | gt | ge | is | isNot | isIn | notIn
  deriving DecidableEq, Repr

def CompareOp.symbol : CompareOp → String
  | .eq => "=="
  | .notEq => "!="
  | .lt => "<"
  | .le => "<="
  | .gt => ">"
  | .ge => ">="
  | .is => "is"
  | .isNot => "is not"
  | .isIn => "in"
  | .notIn => "not in"

inductive Collection where
  | list | set | generator
  deriving DecidableEq, Repr

mutual

inductive Expr where
  | literal (value : Literal)
  | name (id : String)
  | attribute (value : Expr) (member : String)
  | subscript (value index : Expr)
  | call (start : NodeStart) (func : Expr) (args : List Expr) (keywords : List Keyword)
  | named (target : String) (value : Expr)
  | lambda (params : Params) (body : Expr)
  | boolean (op : BoolOp) (values : List Expr)
  | binary (left : Expr) (op : BinaryOp) (right : Expr)
  | unary (op : UnaryOp) (operand : Expr)
  | conditional (test body orElse : Expr)
  | compare (left : Expr) (links : List CompareLink)
  | tuple (elements : List Expr)
  | list (elements : List Expr)
  | set (elements : List Expr)
  | dict (entries : List DictEntry)
  | comprehension (kind : Collection) (element : Expr) (clauses : List Clause)
  | dictComprehension (key value : Expr) (clauses : List Clause)
  | starred (value : Expr)
  | await (value : Expr)
  | yields (value : Option Expr)
  | yieldsFrom (value : Expr)
  | slice (lower upper step : Option Expr)
  | formatted (parts : List TextPart)

/-- A keyword argument; without a name it unpacks a mapping. -/
inductive Keyword where
  | mk (name : Option String) (value : Expr)

/-- A comparison operator with its right operand. -/
inductive CompareLink where
  | mk (op : CompareOp) (right : Expr)

inductive DictEntry where
  | pair (key value : Expr)
  | unpack (value : Expr)

inductive Clause where
  | mk (isAsync : Bool) (target source : Expr) (conditions : List Expr)

/-- A part of a formatted text: text, or a field with an optional conversion and
an optional format. -/
inductive TextPart where
  | text (content : String)
  | field (value : Expr) (conversion : Option Char) (format : Option (List TextPart))

inductive Param where
  | mk (name : String) (hint default : Option Expr)

/-- The parameters of a function by kind. -/
inductive Params where
  | mk (positionalOnly positional : List Param) (rest : Option Param) (keywordOnly : List Param)
      (restKeywords : Option Param)

end

instance : Inhabited Expr := ⟨.literal .none⟩

def Keyword.name : Keyword → Option String
  | .mk name _ => name

def Keyword.value : Keyword → Expr
  | .mk _ value => value

def Param.name : Param → String
  | .mk name _ _ => name

def Param.hint : Param → Option Expr
  | .mk _ hint _ => hint

def Param.default : Param → Option Expr
  | .mk _ _ default => default

namespace Params

def positionalOnly : Params → List Param
  | .mk positionalOnly _ _ _ _ => positionalOnly

def positional : Params → List Param
  | .mk _ positional _ _ _ => positional

def rest : Params → Option Param
  | .mk _ _ rest _ _ => rest

def keywordOnly : Params → List Param
  | .mk _ _ _ keywordOnly _ => keywordOnly

def restKeywords : Params → Option Param
  | .mk _ _ _ _ restKeywords => restKeywords

end Params

/-- A decorator with the place where its expression starts. -/
structure Decorator where
  start : NodeStart
  expr : Expr

structure ImportName where
  path : String
  boundAs : Option String
  deriving DecidableEq, Repr

inductive Pattern where
  | value (expr : Expr)
  | sequence (patterns : List Pattern)
  | star (name : Option String)
  | mapping (keys : List Expr) (patterns : List Pattern) (rest : Option String)
  | instanceOf (type : Expr) (patterns : List Pattern) (names : List String)
      (named : List Pattern)
  | capture (pattern : Option Pattern) (name : Option String)
  | choice (patterns : List Pattern)

mutual

/-- A statement.  The bounds of the type parameters of a type alias are kept; those of a
function or a class are not, because nothing looks at them. -/
inductive Stmt where
  | expression (value : Expr)
  | assign (start : NodeStart) (targets : List Expr) (value : Expr)
  | annotated (start : NodeStart) (target hint : Expr) (value : Option Expr)
  | augmented (target : Expr) (op : BinaryOp) (value : Expr)
  | typeAlias (name : String) (bounds : List Expr) (value : Expr)
  | delete (targets : List Expr)
  | returns (value : Option Expr)
  | raises (exception cause : Option Expr)
  | asserts (test : Expr) (message : Option Expr)
  | imports (names : List ImportName)
  | importsFrom (module : String) (names : List ImportName)
  | declares (names : List String)
  | idle
  | branch (test : Expr) (body orElse : List Stmt)
  | whileLoop (test : Expr) (body orElse : List Stmt)
  | forLoop (target source : Expr) (body orElse : List Stmt)
  | withBlock (items : List (Expr × Option Expr)) (body : List Stmt)
  | tryBlock (body : List Stmt) (handlers : List Handler) (orElse final : List Stmt)
  | matchBlock (subject : Expr) (cases : List Case)
  | function (start : NodeStart) (name : String) (params : Params) (decorators : List Decorator)
      (result : Option Expr) (body : List Stmt)
  | classDef (definition : ClassDef)

inductive Handler where
  | mk (type : Option Expr) (name : Option String) (body : List Stmt)

inductive Case where
  | mk (pattern : Pattern) (guard : Option Expr) (body : List Stmt)

inductive ClassDef where
  | mk (name : String) (bases : List Expr) (keywords : List Keyword) (decorators : List Decorator)
      (body : List Stmt)

end

namespace ClassDef

def name : ClassDef → String
  | .mk name _ _ _ _ => name

def bases : ClassDef → List Expr
  | .mk _ bases _ _ _ => bases

def keywords : ClassDef → List Keyword
  | .mk _ _ keywords _ _ => keywords

def decorators : ClassDef → List Decorator
  | .mk _ _ _ decorators _ => decorators

def body : ClassDef → List Stmt
  | .mk _ _ _ _ body => body

end ClassDef

/-- The statements of a source file. -/
abbrev Module := List Stmt

end RouteScribe.Source
