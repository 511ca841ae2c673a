import ScriptSplit.Tree.Pattern

namespace ScriptSplit.Node

def block (n : Node) : Lift Block := do
  return .mk n.span (← n.each Reading.statement)

def declarator (n : Node) : Lift Declarator := do
  let target ← n.required "name" Reading.pattern
  let init ← n.optional "value" Reading.expression
  return .mk n.span target init

def variablesKind (n : Node) : Lift String :=
  if n.kind = "variable_declaration" then .ok "var"
  else
    match n.field? "kind" with
    | some p => .ok p.label.kind
    | none => do
        let p ← n.orNoChild n.parts.head?
        return p.label.kind

def declaration (n : Node) : Lift Variables := do
  let kind ← n.variablesKind
  let declarators ← (n.named.filter fun p => p.label.kind == "variable_declarator").mapM
    fun p => p.reads.declarator
  return .mk n.span kind declarators

/-- A declared variable exists at run time; whatever else is declared is a type. -/
def ambient (n : Node) : Lift Stmt :=
  match n.named with
  | p :: _ =>
      if p.label.isVariables then do return .declare (← p.reads.declaration)
      else .ok (.typeDecl n.span n.kind)
  | [] => .ok (.typeDecl n.span n.kind)

def expressionStatement (n : Node) : Lift Stmt := do
  let p ← n.first
  if p.label.isTypeDeclaration then return .typeDecl n.span p.label.kind
  else return .expr n.span (← p.reads.expression)

def label? (n : Node) : Option String := (n.field? "label").map n.wordOf

def ifElse (n : Node) : Lift Stmt := do
  let alternate ← n.optional "alternative" Reading.innerStatement
  let test ← n.required "condition" Reading.condition
  let consequent ← n.required "consequence" Reading.statement
  return .ifElse n.span test consequent alternate

def labeled (n : Node) : Lift Stmt := do
  let p ← match n.field? "body" with
    | some p => pure p
    | none => n.orNoChild n.named.getLast?
  return .labeled n.span (n.label?.getD "") (← p.reads.statement)

def ret (n : Node) : Lift Stmt :=
  match n.named with
  | [] => .ok (.ret n.span none)
  | p :: _ => do return .ret n.span (some (← p.reads.expression))

def throwing (n : Node) : Lift Stmt := do
  let p ← n.first
  return .throw n.span (← p.reads.expression)

/-- A clause of a switch; the tested value is no part of the body. -/
def case (n : Node) : Lift Case :=
  if n.kind = "switch_case" then do
    let body := (n.parts.eraseP fun p => p.label.field == "value").filter
      fun p => p.label.named && !p.label.isComment
    let statements ← body.mapM fun p => p.reads.statement
    let test ← n.optional "value" Reading.expression
    return .mk n.span test statements
  else do return .mk n.span none (← n.each Reading.statement)

def switch (n : Node) : Lift Stmt := do
  let cases ← n.listed "body" Reading.cases
  let discriminant ← n.required "value" Reading.condition
  return .switch n.span discriminant cases

def handler (n : Node) : Lift Handler := do
  let param ← n.optional "parameter" Reading.pattern
  let body ← n.required "body" Reading.block
  return .mk n.span param body

def tryCatch (n : Node) : Lift Stmt := do
  let handler ← n.optional "handler" Reading.handler
  let finalizer ← n.optional "finalizer" Reading.bodyBlock
  let block ← n.required "body" Reading.block
  return .tryCatch n.span block handler finalizer

def whileLoop (n : Node) : Lift Stmt := do
  let test ← n.required "condition" Reading.condition
  let body ← n.required "body" Reading.statement
  return .whileLoop n.span test body

def doWhile (n : Node) : Lift Stmt := do
  let body ← n.required "body" Reading.statement
  let test ← n.required "condition" Reading.condition
  return .doWhile n.span body test

def withObject (n : Node) : Lift Stmt := do
  let object ← n.required "object" Reading.condition
  let body ← n.required "body" Reading.statement
  return .withObject n.span object body

def head (n : Node) : Lift (Option Head) :=
  match n.kind with
  | "empty_statement" => .ok none
  | "expression_statement" => do return some (.target (.expr (← n.inner)))
  | "lexical_declaration" => do return some (.declare (← n.declaration))
  | "variable_declaration" => do return some (.declare (← n.declaration))
  | _ => do return some (.target (.expr (← n.expression)))

def clause (n : Node) (f : String) : Lift (Option Head) :=
  match n.fields f with
  | [] => .ok none
  | p :: _ => p.reads.head

/-- A condition is an expression; a declaration in its place is no condition. -/
def test? : Option Head → Option Expr
  | some (.target (.expr e)) => some e
  | _ => none

def forLoop (n : Node) : Lift Stmt := do
  let init ← n.clause "initializer"
  let test ← n.clause "condition"
  let update ← n.optional "increment" Reading.expression
  let body ← n.required "body" Reading.statement
  return .forLoop n.span init (test? test) update body

/-- The header of an enumerating loop: with a keyword it declares its left side. -/
def enumerated (n : Node) : Lift Head := do
  let left ← n.field "left"
  match n.field? "kind" with
  | none => return .target (← left.reads.pattern)
  | some kind =>
      let target ← left.reads.pattern
      let init ← n.optional "value" Reading.expression
      let whole : Span := ⟨(n.spanOf kind).start, (n.spanOf left).stop, (n.spanOf kind).line,
        (n.spanOf kind).column⟩
      return .declare (.mk whole kind.label.kind [.mk (n.spanOf left) target init])

def isOf (n : Node) : Bool :=
  match n.field? "operator" with
  | some p => p.label.kind == "of"
  | none => n.hasToken "of"

def forEach (n : Node) : Lift Stmt := do
  let left ← n.enumerated
  let right ← n.required "right" Reading.expression
  let body ← n.required "body" Reading.statement
  if n.isOf then return .forOf n.span left right body (n.hasToken "await")
  else return .forIn n.span left right body

def functionDecl (n : Node) : Lift Stmt := do
  let params ← n.listed "parameters" Reading.parameters
  let body ← n.functionBody
  return .function n.span (n.optionalIdent "name") params body (n.hasToken "async") (n.hasToken "*")

def innerIdent (n : Node) : Lift Ident := do
  let p ← n.first
  return n.identOf p

def imported (n : Node) : Lift (List ImportName) :=
  match n.kind with
  | "identifier" => .ok [⟨n.span, n.ident, false⟩]
  | "namespace_import" => do return [⟨n.span, ← n.innerIdent, false⟩]
  | "import_specifier" =>
      match n.field? "alias" with
      | some p => .ok [⟨n.span, n.identOf p, n.hasTypeToken⟩]
      | none => do return [⟨n.span, n.identOf (← n.field "name"), n.hasTypeToken⟩]
  | "named_imports" => do
      let names ← (n.named.filter fun p => p.label.kind == "import_specifier").mapM
        fun p => p.reads.imported
      return names.flatten
  | "import_clause" => do
      let names ← (n.named.filter fun p =>
        ["identifier", "namespace_import", "named_imports"].contains p.label.kind).mapM
          fun p => p.reads.imported
      return names.flatten
  | _ => .ok []

/-- Reads the clauses of an import up to one that requires a module under a name of its own. -/
def importClauses : List Part → Lift (List ImportName ⊕ Ident)
  | [] => .ok (.inl [])
  | p :: ps =>
      if p.label.kind = "import_require_clause" then .inr <$> p.reads.innerIdent
      else do
        let names ← if p.label.kind = "import_clause" then p.reads.imported else pure []
        match ← importClauses ps with
        | .inl more => return .inl (names ++ more)
        | .inr name => return .inr name

def importStatement (n : Node) : Lift Stmt := do
  let source := (n.field? "source").map fun p =>
    String.ofList ((n.source.word p.label).slice 1 (-1))
  match ← importClauses n.named with
  | .inl names => return .imports n.span source names n.hasTypeToken
  | .inr name => return .importAlias n.span name

def enumMember (n : Node) : Lift EnumMember :=
  if n.kind = "enum_assignment" then do
    let name ← n.field "name"
    let init ← n.optional "value" Reading.expression
    return .mk n.span (n.wordOf name) init
  else .ok (.mk n.span n.word none)

def enumDecl (n : Node) : Lift Stmt := do
  let members ← n.listed "body" Reading.enumMembers
  let name ← n.field "name"
  return .enum n.span (n.identOf name) members

def statementForm (n : Node) : Lift Stmt :=
  match n.kind with
  | "expression_statement" => n.expressionStatement
  | "lexical_declaration" => do return .declare (← n.declaration)
  | "variable_declaration" => do return .declare (← n.declaration)
  | "statement_block" => do return .block (← n.block)
  | "empty_statement" => .ok (.empty n.span)
  | "debugger_statement" => .ok (.debugger n.span)
  | "break_statement" => .ok (.breakTo n.span n.label?)
  | "continue_statement" => .ok (.continueTo n.span n.label?)
  | "if_statement" => n.ifElse
  | "labeled_statement" => n.labeled
  | "return_statement" => n.ret
  | "throw_statement" => n.throwing
  | "switch_statement" => n.switch
  | "try_statement" => n.tryCatch
  | "while_statement" => n.whileLoop
  | "do_statement" => n.doWhile
  | "with_statement" => n.withObject
  | "for_statement" => n.forLoop
  | "for_in_statement" => n.forEach
  | "function_declaration" => n.functionDecl
  | "generator_function_declaration" => n.functionDecl
  | "class_declaration" => .ok (.classDecl n.span (n.optionalIdent "name"))
  | "abstract_class_declaration" => .ok (.classDecl n.span (n.optionalIdent "name"))
  | "import_statement" => n.importStatement
  | "import_alias" => do return .importAlias n.span (← n.innerIdent)
  | "export_statement" => do
      return .exports n.span (← n.optional "declaration" Reading.statement)
  | "enum_declaration" => n.enumDecl
  | _ => .ok (.unsupported n.span n.kind)

def statement (n : Node) : Lift Stmt :=
  if n.label.isTypeDeclaration then .ok (.typeDecl n.span n.kind)
  else if n.kind = "ambient_declaration" then n.ambient
  else n.statementForm

end ScriptSplit.Node
