import ScriptSplit.Proofs.Comment.Basic

namespace ScriptSplit.Node.Plain

variable {n : Node} (hn : n.Plain)

include hn

theorem optionalIdent (f : String) (hf : f.isEmpty = false) :
    n.bare.optionalIdent f = n.optionalIdent f := by
  unfold Node.optionalIdent
  rw [hn.field? f hf, Option.map_map]
  rfl

theorem functionBody : n.bare.functionBody = n.functionBody := by
  unfold Node.functionBody
  rw [hn.field? "body" rfl]
  cases n.field? "body" <;> rfl

theorem operatorOr (default : String) : n.bare.operatorOr default = n.operatorOr default := by
  unfold Node.operatorOr
  rw [hn.field? "operator" rfl]
  cases n.field? "operator" <;> rfl

omit hn in
theorem template : n.bare.template = n.template := by
  unfold Node.template
  rw [bare_named, List.filter_map, mapM_bare (fun p => p.reads.inner) fun _ => rfl]
  rfl

theorem functionExpr : n.bare.functionExpr = n.functionExpr := by
  unfold Node.functionExpr
  rw [hn.listed "parameters" Reading.parameters rfl fun _ => rfl, hn.functionBody, hn.optionalIdent "name" rfl,
    bare_hasToken rfl, bare_hasToken rfl]
  rfl

theorem arrowBody : n.bare.arrowBody = n.arrowBody := by
  unfold Node.arrowBody
  rw [hn.field "body" rfl]
  cases n.field "body" <;> rfl

theorem arrow : n.bare.arrow = n.arrow := by
  unfold Node.arrow
  rw [hn.field? "parameter" rfl, hn.listed "parameters" Reading.parameters rfl fun _ => rfl, hn.arrowBody,
    bare_hasToken rfl]
  cases n.field? "parameter" <;> rfl

theorem callee : n.bare.callee = n.callee := by
  unfold Node.callee
  rw [hn.field "function" rfl]
  cases n.field "function" <;> rfl

theorem call : n.bare.call = n.call := by
  unfold Node.call
  rw [hn.callee, hn.field? "arguments" rfl, bare_hasOptionalChain]
  cases n.field? "arguments" <;> rfl

theorem newExpr : n.bare.newExpr = n.newExpr := by
  unfold Node.newExpr
  rw [hn.required "constructor" Reading.expression rfl fun _ => rfl, hn.listed "arguments" Reading.elements rfl fun _ => rfl]
  rfl

theorem memberExpr : n.bare.memberExpr = n.memberExpr := by
  unfold Node.memberExpr
  rw [hn.field "property" rfl, hn.required "object" Reading.expression rfl fun _ => rfl, bare_hasOptionalChain]
  cases n.field "property" <;> rfl

theorem subscript : n.bare.subscript = n.subscript := by
  unfold Node.subscript
  rw [hn.required "object" Reading.expression rfl fun _ => rfl, hn.required "index" Reading.expression rfl fun _ => rfl,
    bare_hasOptionalChain]
  rfl

theorem unary : n.bare.unary = n.unary := by
  unfold Node.unary
  rw [hn.required "argument" Reading.expression rfl fun _ => rfl, hn.operatorOr]
  rfl

theorem update : n.bare.update = n.update := by
  unfold Node.update
  rw [hn.required "argument" Reading.expression rfl fun _ => rfl, hn.operatorOr]
  rfl

theorem binary : n.bare.binary = n.binary := by
  unfold Node.binary
  rw [hn.field "left" rfl, hn.required "right" Reading.expression rfl fun _ => rfl, hn.operatorOr]
  cases n.field "left" <;> rfl

theorem assignment : n.bare.assignment = n.assignment := by
  unfold Node.assignment
  rw [hn.required "left" Reading.pattern rfl fun _ => rfl, hn.required "right" Reading.expression rfl fun _ => rfl, hn.operatorOr]
  rfl

theorem conditional : n.bare.conditional = n.conditional := by
  unfold Node.conditional
  rw [hn.required "condition" Reading.expression rfl fun _ => rfl, hn.required "consequence" Reading.expression rfl fun _ => rfl,
    hn.required "alternative" Reading.expression rfl fun _ => rfl]
  rfl

omit hn in
theorem sequence : n.bare.sequence = n.sequence := by
  unfold Node.sequence
  rw [bare_named,
    mapM_bare (fun p => do
      let e ← p.reads.expression
      return if p.label.kind = "sequence_expression" then operands e else [e]) fun _ => rfl]
  rfl

omit hn in
theorem paren : n.bare.paren = n.paren := by
  unfold Node.paren
  rw [bare_firstValue]
  cases n.firstValue <;> rfl

omit hn in
theorem wrapped : n.bare.wrapped = n.wrapped := by
  unfold Node.wrapped
  rw [bare_firstValue]
  cases n.firstValue <;> rfl

omit hn in
theorem await : n.bare.await = n.await := by
  unfold Node.await
  rw [bare_first]
  cases n.first <;> rfl

omit hn in
theorem yield : n.bare.yield = n.yield := by
  unfold Node.yield
  rw [bare_named, bare_hasToken rfl]
  cases n.named <;> rfl

theorem expressionForm : n.bare.expressionForm = n.expressionForm := by
  unfold Node.expressionForm
  rw [template, bare_each Reading.element fun _ => rfl, bare_each Reading.member fun _ => rfl, hn.functionExpr, hn.arrow,
    hn.optionalIdent "name" rfl, hn.call, hn.newExpr, hn.memberExpr, hn.subscript, hn.unary, hn.update,
    hn.binary, hn.assignment, hn.conditional, sequence, paren, await, yield]
  rfl

theorem expression : n.bare.expression = n.expression := by
  unfold Node.expression
  rw [wrapped, hn.expressionForm]
  rfl

omit hn in
theorem inner : n.bare.inner = n.inner := by
  unfold Node.inner
  rw [bare_first]
  cases n.first <;> rfl

theorem element : n.bare.element = n.element := by
  unfold Node.element
  rw [inner, hn.expression]
  rfl

theorem condition : n.bare.condition = n.condition := by
  unfold Node.condition
  rw [inner, hn.expression]
  rfl

omit hn in
theorem key : n.bare.key = n.key := by
  unfold Node.key
  rw [inner]
  rfl

omit hn in
theorem methodKind : n.bare.methodKind = n.methodKind := by
  unfold Node.methodKind
  rw [bare_hasToken rfl, bare_hasToken rfl]

theorem method : n.bare.method = n.method := by
  unfold Node.method
  rw [hn.required "name" Reading.key rfl fun _ => rfl, hn.listed "parameters" Reading.parameters rfl fun _ => rfl, hn.functionBody,
    methodKind]
  rfl

theorem member : n.bare.member = n.member := by
  unfold Node.member
  rw [hn.required "key" Reading.key rfl fun _ => rfl, hn.required "value" Reading.expression rfl fun _ => rfl, inner, hn.method]
  rfl

omit hn in
theorem innerPattern : n.bare.innerPattern = n.innerPattern := by
  unfold Node.innerPattern
  rw [bare_first]
  cases n.first <;> rfl

theorem pattern : n.bare.pattern = n.pattern := by
  unfold Node.pattern
  rw [bare_each Reading.entry fun _ => rfl, bare_each Reading.pattern fun _ => rfl, hn.required "left" Reading.pattern rfl fun _ => rfl,
    hn.required "right" Reading.expression rfl fun _ => rfl, innerPattern, hn.expression]
  rfl

theorem entry : n.bare.entry = n.entry := by
  unfold Node.entry
  rw [hn.required "key" Reading.key rfl fun _ => rfl, hn.required "value" Reading.pattern rfl fun _ => rfl, hn.field "left" rfl,
    hn.required "right" Reading.expression rfl fun _ => rfl, innerPattern]
  cases n.field "left" <;> rfl

theorem parameter : n.bare.parameter = n.parameter := by
  unfold Node.parameter
  rw [hn.field? "pattern" rfl, hn.optional "value" Reading.expression rfl fun _ => rfl, hn.pattern]
  cases n.field? "pattern" <;> rfl

omit hn in
theorem parameters : n.bare.parameters = n.parameters := by
  unfold Node.parameters
  rw [bare_each Reading.parameter fun _ => rfl]

end ScriptSplit.Node.Plain
