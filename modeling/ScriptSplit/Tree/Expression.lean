import ScriptSplit.Text.Blank
import ScriptSplit.Tree.Reading

namespace ScriptSplit.Node

def optionalIdent (n : Node) (f : String) : Option Ident := (n.field? f).map n.identOf

/-- A function without a body has an empty one at its end. -/
def functionBody (n : Node) : Lift Block :=
  match n.field? "body" with
  | none => .ok (.mk ⟨n.span.stop, n.span.stop, n.span.line, n.span.column⟩ [])
  | some p => p.reads.block

def operatorOr (n : Node) (default : String) : String :=
  match n.field? "operator" with
  | none => default
  | some p => p.label.kind

def metaProperty (n : Node) : Expr :=
  let word := n.source.word n.label
  let owner := word.takeWhile (· != '.')
  let property := (word.dropWhile (· != '.')).drop 1
  .metaProperty n.span (String.ofList (Text.trim owner)) (String.ofList (Text.trim property))

def template (n : Node) : Lift Expr := do
  let parts ← (n.named.filter fun p => p.label.kind == "template_substitution").mapM
    fun p => p.reads.inner
  return .template n.span parts

def functionExpr (n : Node) : Lift Expr := do
  let params ← n.listed "parameters" Reading.parameters
  let body ← n.functionBody
  return .function n.span (n.optionalIdent "name") params body (n.hasToken "async") (n.hasToken "*")

def arrowBody (n : Node) : Lift Body := do
  let p ← n.field "body"
  if p.label.kind = "statement_block" then return .block (← p.reads.block)
  else return .expr (← p.reads.expression)

def arrow (n : Node) : Lift Expr := do
  let params ← match n.field? "parameter" with
    | some p => pure [Pattern.expr (.ident (n.identOf p))]
    | none => n.listed "parameters" Reading.parameters
  let body ← n.arrowBody
  return .arrow n.span params body (n.hasToken "async")

def callee (n : Node) : Lift Expr := do
  let p ← n.field "function"
  if p.label.kind = "import" then return .importKeyword (n.spanOf p) else p.reads.expression

/-- A call whose argument is a template is a tagged template. -/
def call (n : Node) : Lift Expr := do
  let callee ← n.callee
  match n.field? "arguments" with
  | none => return .call n.span callee [] n.hasOptionalChain
  | some p =>
      if p.label.kind = "template_string" then return .tagged n.span callee (← p.reads.expression)
      else return .call n.span callee (← p.reads.elements) n.hasOptionalChain

def newExpr (n : Node) : Lift Expr := do
  let callee ← n.required "constructor" Reading.expression
  let arguments ← n.listed "arguments" Reading.elements
  return .new n.span callee arguments

def memberName (n : Node) (p : Part) : Expr :=
  if p.label.kind = "private_property_identifier" then .privateName (n.identOf p)
  else .ident (n.identOf p)

def memberExpr (n : Node) : Lift Expr := do
  let property ← n.field "property"
  let object ← n.required "object" Reading.expression
  return .member n.span object (n.memberName property) false n.hasOptionalChain

def subscript (n : Node) : Lift Expr := do
  let object ← n.required "object" Reading.expression
  let index ← n.required "index" Reading.expression
  return .member n.span object index true n.hasOptionalChain

def unary (n : Node) : Lift Expr := do
  return .unary n.span (n.operatorOr "") (← n.required "argument" Reading.expression)

def update (n : Node) : Lift Expr := do
  return .update n.span (n.operatorOr "") (← n.required "argument" Reading.expression)

def binary (n : Node) : Lift Expr := do
  let p ← n.field "left"
  let left ←
    if p.label.kind = "private_property_identifier" then pure (.privateName (n.identOf p))
    else p.reads.expression
  let right ← n.required "right" Reading.expression
  return .binary n.span (n.operatorOr "") left right

def assignment (n : Node) : Lift Expr := do
  let left ← n.required "left" Reading.pattern
  let right ← n.required "right" Reading.expression
  return .assign n.span (n.operatorOr "=") left right

def conditional (n : Node) : Lift Expr := do
  let test ← n.required "condition" Reading.expression
  let consequent ← n.required "consequence" Reading.expression
  let alternate ← n.required "alternative" Reading.expression
  return .conditional n.span test consequent alternate

/-- The operands of a sequence; a sequence nested in another is part of it. -/
def operands : Expr → List Expr
  | .sequence _ parts => parts
  | e => [e]

def sequence (n : Node) : Lift Expr := do
  let parts ← n.named.mapM fun p => do
    let e ← p.reads.expression
    return if p.label.kind = "sequence_expression" then operands e else [e]
  return .sequence n.span parts.flatten

def paren (n : Node) : Lift Expr := do
  let p ← n.firstValue
  return .paren n.span (← p.reads.expression)

def wrapped (n : Node) : Lift Expr := do
  let p ← n.firstValue
  return .typed n.span n.kind (← p.reads.expression)

def await (n : Node) : Lift Expr := do
  let p ← n.first
  return .await n.span (← p.reads.expression)

def yield (n : Node) : Lift Expr :=
  match n.named with
  | [] => .ok (.yield n.span none (n.hasToken "*"))
  | p :: _ => do return .yield n.span (some (← p.reads.expression)) (n.hasToken "*")

def expressionForm (n : Node) : Lift Expr :=
  match n.kind with
  | "identifier" => .ok (.ident n.ident)
  | "undefined" => .ok (.ident n.ident)
  | "shorthand_property_identifier" => .ok (.ident n.ident)
  | "shorthand_property_identifier_pattern" => .ok (.ident n.ident)
  | "this" => .ok (.this n.span)
  | "super" => .ok (.super n.span)
  | "meta_property" => .ok n.metaProperty
  | "template_string" => n.template
  | "array" => do return .array n.span (← n.each Reading.element)
  | "object" => do return .object n.span (← n.each Reading.member)
  | "function_expression" => n.functionExpr
  | "function" => n.functionExpr
  | "generator_function" => n.functionExpr
  | "arrow_function" => n.arrow
  | "class" => .ok (.classExpr n.span (n.optionalIdent "name"))
  | "call_expression" => n.call
  | "new_expression" => n.newExpr
  | "member_expression" => n.memberExpr
  | "subscript_expression" => n.subscript
  | "unary_expression" => n.unary
  | "update_expression" => n.update
  | "binary_expression" => n.binary
  | "assignment_expression" => n.assignment
  | "augmented_assignment_expression" => n.assignment
  | "ternary_expression" => n.conditional
  | "sequence_expression" => n.sequence
  | "parenthesized_expression" => n.paren
  | "await_expression" => n.await
  | "yield_expression" => n.yield
  | _ => .ok (.unsupported n.span n.kind)

def expression (n : Node) : Lift Expr :=
  if n.label.isLiteral then .ok (.literal n.span n.kind n.word)
  else if n.label.isTypeWrapper then n.wrapped
  else if n.kind.startsWith "jsx_" then .ok (.jsx n.span n.kind)
  else n.expressionForm

def inner (n : Node) : Lift Expr := do
  let p ← n.first
  p.reads.expression

def element (n : Node) : Lift Expr :=
  if n.kind = "spread_element" then do return .spread n.span (← n.inner) else n.expression

/-- The header of a statement keeps its parentheses to itself. -/
def condition (n : Node) : Lift Expr :=
  if n.kind = "parenthesized_expression" then n.inner else n.expression

def key (n : Node) : Lift (Expr × Bool) :=
  match n.kind with
  | "computed_property_name" => do return (← n.inner, true)
  | "private_property_identifier" => .ok (.privateName n.ident, false)
  | "string" => .ok (.literal n.span n.kind n.word, false)
  | "number" => .ok (.literal n.span n.kind n.word, false)
  | _ => .ok (.ident n.ident, false)

def methodKind (n : Node) : String :=
  if n.hasToken "get" then "get" else if n.hasToken "set" then "set" else "method"

def method (n : Node) : Lift Member := do
  let (key, computed) ← n.required "name" Reading.key
  let params ← n.listed "parameters" Reading.parameters
  let body ← n.functionBody
  return .method n.span key params body computed n.methodKind

def member (n : Node) : Lift Member :=
  match n.kind with
  | "pair" => do
      let (key, computed) ← n.required "key" Reading.key
      let value ← n.required "value" Reading.expression
      return .property n.span key value computed false
  | "shorthand_property_identifier" =>
      .ok (.property n.span (.ident n.ident) (.ident n.ident) false true)
  | "spread_element" => do return .spread n.span (← n.inner)
  | "method_definition" => n.method
  | _ => .ok (.unsupported n.span n.kind)

end ScriptSplit.Node
