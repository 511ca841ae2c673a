import ScriptSplit.Script.Form
import ScriptSplit.Text.Offset
import ScriptSplit.Tree.Basic

/-!
How a concrete node reads in each of the positions where it may stand. A node is read from the
readings of its children, so one pass over a tree, from the leaves up, reads all of it.
-/

namespace ScriptSplit

inductive Malformed where
  | noField (kind field : String)
  | noChild (kind : String)
  deriving DecidableEq, Repr

abbrev Lift := Except Malformed

structure Source where
  text : Text
  offsets : Text.Offsets

namespace Source

def ofText (t : Text) : Source := ⟨t, t.offsets⟩

def span (s : Source) (l : Label) : Span :=
  let start := s.offsets.char l.startByte
  ⟨start, s.offsets.char l.stopByte, l.row + 1,
    start - s.offsets.char ((l.startByte : Int) - l.byteColumn)⟩

def word (s : Source) (l : Label) : Text :=
  s.text.slice (s.span l).start (s.span l).stop

def ident (s : Source) (l : Label) : Ident :=
  ⟨s.span l, String.ofList (s.word l)⟩

end Source

/-- A node in every position: `inner` readings are those of its first named child. -/
structure Reading where
  statement : Lift Stmt
  expression : Lift Expr
  pattern : Lift Pattern
  block : Lift Block
  inner : Lift Expr
  innerPattern : Lift Pattern
  innerStatement : Lift Stmt
  innerIdent : Lift Ident
  condition : Lift Expr
  element : Lift Expr
  elements : Lift (List Expr)
  key : Lift (Expr × Bool)
  parameter : Lift (Option Pattern)
  parameters : Lift (List Pattern)
  member : Lift Member
  entry : Lift Entry
  declarator : Lift Declarator
  declaration : Lift Variables
  head : Lift (Option Head)
  case : Lift Case
  cases : Lift (List Case)
  handler : Lift Handler
  bodyBlock : Lift Block
  enumMember : Lift EnumMember
  enumMembers : Lift (List EnumMember)
  imported : Lift (List ImportName)

structure Part where
  label : Label
  reads : Reading

structure Node where
  source : Source
  label : Label
  parts : List Part

def Label.isComment (l : Label) : Bool :=
  l.kind == "comment" || l.kind == "html_comment" || l.kind == "hash_bang_line"

def Label.isTypeDeclaration (l : Label) : Bool :=
  ["type_alias_declaration", "interface_declaration", "module", "internal_module",
    "function_signature"].contains l.kind

def Label.isTypeWrapper (l : Label) : Bool :=
  ["as_expression", "satisfies_expression", "non_null_expression", "type_assertion",
    "instantiation_expression"].contains l.kind

def Label.isTypeOnly (l : Label) : Bool :=
  ["type_arguments", "type_annotation", "type_parameters", "comment"].contains l.kind

def Label.isLiteral (l : Label) : Bool :=
  ["string", "number", "regex", "true", "false", "null"].contains l.kind

def Label.isVariables (l : Label) : Bool :=
  l.kind == "lexical_declaration" || l.kind == "variable_declaration"

namespace Node

def kind (n : Node) : String := n.label.kind

def span (n : Node) : Span := n.source.span n.label

def word (n : Node) : String := String.ofList (n.source.word n.label)

def ident (n : Node) : Ident := n.source.ident n.label

def spanOf (n : Node) (p : Part) : Span := n.source.span p.label

def wordOf (n : Node) (p : Part) : String := String.ofList (n.source.word p.label)

def identOf (n : Node) (p : Part) : Ident := n.source.ident p.label

def named (n : Node) : List Part :=
  n.parts.filter fun p => p.label.named && !p.label.isComment

def field? (n : Node) (f : String) : Option Part :=
  n.parts.find? fun p => p.label.field == f

def field (n : Node) (f : String) : Lift Part :=
  match n.field? f with
  | some p => .ok p
  | none => .error (.noField n.kind f)

def fields (n : Node) (f : String) : List Part :=
  n.named.filter fun p => p.label.field == f

def orNoChild {α : Type} (n : Node) : Option α → Lift α
  | some a => .ok a
  | none => .error (.noChild n.kind)

def first (n : Node) : Lift Part := n.orNoChild n.named.head?

def firstValue (n : Node) : Lift Part := n.orNoChild (n.named.find? fun p => !p.label.isTypeOnly)

def hasToken (n : Node) (token : String) : Bool :=
  n.parts.any fun p => !p.label.named && p.label.kind == token

def hasTypeToken (n : Node) : Bool := n.hasToken "type" || n.hasToken "typeof"

def hasOptionalChain (n : Node) : Bool := n.parts.any fun p => p.label.kind == "optional_chain"

def optional {α : Type} (n : Node) (f : String) (read : Reading → Lift α) : Lift (Option α) :=
  match n.field? f with
  | none => .ok none
  | some p => some <$> read p.reads

def required {α : Type} (n : Node) (f : String) (read : Reading → Lift α) : Lift α := do
  let p ← n.field f
  read p.reads

def listed {α : Type} (n : Node) (f : String) (read : Reading → Lift (List α)) : Lift (List α) :=
  match n.field? f with
  | none => .ok []
  | some p => read p.reads

def each {α : Type} (n : Node) (read : Reading → Lift α) : Lift (List α) :=
  n.named.mapM fun p => read p.reads

end Node

end ScriptSplit
