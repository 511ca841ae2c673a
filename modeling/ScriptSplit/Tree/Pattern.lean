import ScriptSplit.Tree.Expression

namespace ScriptSplit.Node

def innerPattern (n : Node) : Lift Pattern := do
  let p ← n.first
  p.reads.pattern

def pattern (n : Node) : Lift Pattern :=
  match n.kind with
  | "object_pattern" => do return .object n.span (← n.each Reading.entry)
  | "array_pattern" => do return .array n.span ((← n.each Reading.pattern).map some)
  | "assignment_pattern" => do
      let target ← n.required "left" Reading.pattern
      let value ← n.required "right" Reading.expression
      return .default n.span target value
  | "rest_pattern" => do return .rest n.span (← n.innerPattern)
  | _ => do return .expr (← n.expression)

/-- The key of a shorthand entry with a default is its target, if that is an identifier. -/
def targetKey (n : Node) (left : Part) : Pattern → Expr
  | .expr (.ident name) => .ident name
  | _ => .unsupported (n.spanOf left) left.label.kind

def entry (n : Node) : Lift Entry :=
  match n.kind with
  | "pair_pattern" => do
      let (key, computed) ← n.required "key" Reading.key
      let value ← n.required "value" Reading.pattern
      return .property n.span key value computed false
  | "shorthand_property_identifier_pattern" =>
      .ok (.property n.span (.ident n.ident) (.expr (.ident n.ident)) false true)
  | "object_assignment_pattern" => do
      let left ← n.field "left"
      let target ← left.reads.pattern
      let value ← n.required "right" Reading.expression
      return .property n.span (n.targetKey left target) (.default n.span target value) false true
  | "rest_pattern" => do return .rest n.span (← n.innerPattern)
  | _ =>
      .ok (.property n.span (.unsupported n.span n.kind) (.expr (.unsupported n.span n.kind))
        false false)

/-- A parameter; one for `this` and a decorator declare nothing. -/
def parameter (n : Node) : Lift (Option Pattern) :=
  if n.kind = "required_parameter" ∨ n.kind = "optional_parameter" then
    match n.field? "pattern" with
    | none => .ok none
    | some p =>
        if p.label.kind = "this" then .ok none
        else do
          let target ← p.reads.pattern
          match ← n.optional "value" Reading.expression with
          | none => return some target
          | some value => return some (.default n.span target value)
  else if n.kind = "decorator" then .ok none
  else some <$> n.pattern

def parameters (n : Node) : Lift (List Pattern) := do
  return (← n.each Reading.parameter).filterMap id

end ScriptSplit.Node
