/-!
Scripts: expressions, patterns and statements, each with the span of text that it covers. Forms that
only describe types carry no structure, and forms that cannot be split are kept by name, so that a
script may use them wherever they do no harm.
-/

namespace ScriptSplit

/-- A line, counted from one, and a column, counted from zero. -/
structure Position where
  line : Int
  column : Int
  deriving DecidableEq, Repr

structure Span where
  start : Int
  stop : Int
  line : Int
  column : Int
  deriving DecidableEq, Repr

def Span.position (s : Span) : Position := ⟨s.line, s.column⟩

structure Ident where
  span : Span
  name : String
  deriving DecidableEq, Repr

structure ImportName where
  span : Span
  name : Ident
  typeOnly : Bool
  deriving DecidableEq, Repr

mutual

/-- A private name stands only as a key, a member name or left of `in`, the `import` keyword only
as a callee, and a spread only among elements and arguments. -/
inductive Expr where
  | ident (name : Ident)
  | privateName (name : Ident)
  | this (span : Span)
  | super (span : Span)
  | importKeyword (span : Span)
  | metaProperty (span : Span) (owner property : String)
  | literal (span : Span) (kind raw : String)
  | template (span : Span) (parts : List Expr)
  | tagged (span : Span) (tag quasi : Expr)
  | spread (span : Span) (inner : Expr)
  | array (span : Span) (elements : List Expr)
  | object (span : Span) (members : List Member)
  | function (span : Span) (name : Option Ident) (params : List Pattern) (body : Block)
      (isAsync isGenerator : Bool)
  | arrow (span : Span) (params : List Pattern) (body : Body) (isAsync : Bool)
  | classExpr (span : Span) (name : Option Ident)
  | call (span : Span) (callee : Expr) (arguments : List Expr) (optional : Bool)
  | new (span : Span) (callee : Expr) (arguments : List Expr)
  | member (span : Span) (object property : Expr) (computed optional : Bool)
  | unary (span : Span) (operator : String) (argument : Expr)
  | update (span : Span) (operator : String) (argument : Expr)
  | binary (span : Span) (operator : String) (left right : Expr)
  | assign (span : Span) (operator : String) (left : Pattern) (right : Expr)
  | conditional (span : Span) (test consequent alternate : Expr)
  | sequence (span : Span) (parts : List Expr)
  | paren (span : Span) (inner : Expr)
  | await (span : Span) (argument : Expr)
  | yield (span : Span) (argument : Option Expr) (delegate : Bool)
  | typed (span : Span) (kind : String) (inner : Expr)
  | jsx (span : Span) (kind : String)
  | unsupported (span : Span) (kind : String)

inductive Member where
  | property (span : Span) (key value : Expr) (computed shorthand : Bool)
  | method (span : Span) (key : Expr) (params : List Pattern) (body : Block) (computed : Bool)
      (kind : String)
  | spread (span : Span) (inner : Expr)
  | unsupported (span : Span) (kind : String)

inductive Body where
  | block (block : Block)
  | expr (value : Expr)

inductive Block where
  | mk (span : Span) (statements : List Stmt)

inductive Pattern where
  | expr (target : Expr)
  | default (span : Span) (target : Pattern) (value : Expr)
  | array (span : Span) (elements : List (Option Pattern))
  | object (span : Span) (entries : List Entry)
  | rest (span : Span) (target : Pattern)

inductive Entry where
  | property (span : Span) (key : Expr) (value : Pattern) (computed shorthand : Bool)
  | rest (span : Span) (target : Pattern)

inductive Stmt where
  | block (block : Block)
  | empty (span : Span)
  | debugger (span : Span)
  | breakTo (span : Span) (label : Option String)
  | continueTo (span : Span) (label : Option String)
  | expr (span : Span) (value : Expr)
  | ifElse (span : Span) (test : Expr) (consequent : Stmt) (alternate : Option Stmt)
  | labeled (span : Span) (label : String) (body : Stmt)
  | ret (span : Span) (argument : Option Expr)
  | throw (span : Span) (argument : Expr)
  | switch (span : Span) (discriminant : Expr) (cases : List Case)
  | tryCatch (span : Span) (block : Block) (handler : Option Handler) (finalizer : Option Block)
  | whileLoop (span : Span) (test : Expr) (body : Stmt)
  | doWhile (span : Span) (body : Stmt) (test : Expr)
  | withObject (span : Span) (object : Expr) (body : Stmt)
  | forLoop (span : Span) (init : Option Head) (test update : Option Expr) (body : Stmt)
  | forIn (span : Span) (left : Head) (right : Expr) (body : Stmt)
  | forOf (span : Span) (left : Head) (right : Expr) (body : Stmt) (isAwait : Bool)
  | declare (what : Variables)
  | function (span : Span) (name : Option Ident) (params : List Pattern) (body : Block)
      (isAsync isGenerator : Bool)
  | classDecl (span : Span) (name : Option Ident)
  | imports (span : Span) (source : Option String) (names : List ImportName) (typeOnly : Bool)
  | importAlias (span : Span) (name : Ident)
  | exports (span : Span) (declaration : Option Stmt)
  | enum (span : Span) (name : Ident) (members : List EnumMember)
  | typeDecl (span : Span) (kind : String)
  | unsupported (span : Span) (kind : String)

inductive Case where
  | mk (span : Span) (test : Option Expr) (body : List Stmt)

inductive Handler where
  | mk (span : Span) (param : Option Pattern) (body : Block)

inductive EnumMember where
  | mk (span : Span) (name : String) (init : Option Expr)

inductive Declarator where
  | mk (span : Span) (target : Pattern) (init : Option Expr)

/-- A declaration of variables; its kind is the keyword that opens it. -/
inductive Variables where
  | mk (span : Span) (kind : String) (declarators : List Declarator)

/-- What a loop header declares or assigns; an expression is a target that assigns nothing. -/
inductive Head where
  | declare (declaration : Variables)
  | target (pattern : Pattern)

end

structure Program where
  span : Span
  body : List Stmt

end ScriptSplit
