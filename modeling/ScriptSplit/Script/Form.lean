import ScriptSplit.Script.Basic

namespace ScriptSplit

def Block.span : Block → Span
  | .mk span _ => span

def Block.statements : Block → List Stmt
  | .mk _ statements => statements

def Variables.span : Variables → Span
  | .mk span _ _ => span

def Expr.span : Expr → Span
  | .ident name => name.span
  | .privateName name => name.span
  | .this span => span
  | .super span => span
  | .importKeyword span => span
  | .metaProperty span .. => span
  | .literal span .. => span
  | .template span .. => span
  | .tagged span .. => span
  | .spread span .. => span
  | .array span .. => span
  | .object span .. => span
  | .function span .. => span
  | .arrow span .. => span
  | .classExpr span .. => span
  | .call span .. => span
  | .new span .. => span
  | .member span .. => span
  | .unary span .. => span
  | .update span .. => span
  | .binary span .. => span
  | .assign span .. => span
  | .conditional span .. => span
  | .sequence span .. => span
  | .paren span .. => span
  | .await span .. => span
  | .yield span .. => span
  | .typed span .. => span
  | .jsx span .. => span
  | .unsupported span .. => span

def Expr.form : Expr → String
  | .ident _ => "Identifier"
  | .privateName _ => "PrivateName"
  | .this _ => "ThisExpression"
  | .super _ => "Super"
  | .importKeyword _ => "ImportCallee"
  | .metaProperty .. => "MetaProperty"
  | .literal .. => "Literal"
  | .template .. => "TemplateLiteral"
  | .tagged .. => "TaggedTemplateExpression"
  | .spread .. => "SpreadElement"
  | .array .. => "ArrayExpression"
  | .object .. => "ObjectExpression"
  | .function .. => "FunctionExpression"
  | .arrow .. => "ArrowFunctionExpression"
  | .classExpr .. => "ClassExpression"
  | .call .. => "CallExpression"
  | .new .. => "NewExpression"
  | .member .. => "MemberExpression"
  | .unary .. => "UnaryExpression"
  | .update .. => "UpdateExpression"
  | .binary .. => "BinaryExpression"
  | .assign .. => "AssignmentExpression"
  | .conditional .. => "ConditionalExpression"
  | .sequence .. => "SequenceExpression"
  | .paren .. => "ParenthesizedExpression"
  | .await .. => "AwaitExpression"
  | .yield .. => "YieldExpression"
  | .typed .. => "TypeWrapper"
  | .jsx .. => "JSXElement"
  | .unsupported .. => "Unsupported"

def Pattern.span : Pattern → Span
  | .expr target => target.span
  | .default span .. => span
  | .array span .. => span
  | .object span .. => span
  | .rest span .. => span

def Pattern.form : Pattern → String
  | .expr target => target.form
  | .default .. => "AssignmentPattern"
  | .array .. => "ArrayPattern"
  | .object .. => "ObjectPattern"
  | .rest .. => "RestElement"

def Stmt.span : Stmt → Span
  | .block b => b.span
  | .empty span => span
  | .debugger span => span
  | .breakTo span .. => span
  | .continueTo span .. => span
  | .expr span .. => span
  | .ifElse span .. => span
  | .labeled span .. => span
  | .ret span .. => span
  | .throw span .. => span
  | .switch span .. => span
  | .tryCatch span .. => span
  | .whileLoop span .. => span
  | .doWhile span .. => span
  | .withObject span .. => span
  | .forLoop span .. => span
  | .forIn span .. => span
  | .forOf span .. => span
  | .declare d => d.span
  | .function span .. => span
  | .classDecl span .. => span
  | .imports span .. => span
  | .importAlias span .. => span
  | .exports span .. => span
  | .enum span .. => span
  | .typeDecl span .. => span
  | .unsupported span .. => span

def Stmt.form : Stmt → String
  | .block _ => "BlockStatement"
  | .empty _ => "EmptyStatement"
  | .debugger _ => "DebuggerStatement"
  | .breakTo .. => "BreakStatement"
  | .continueTo .. => "ContinueStatement"
  | .expr .. => "ExpressionStatement"
  | .ifElse .. => "IfStatement"
  | .labeled .. => "LabeledStatement"
  | .ret .. => "ReturnStatement"
  | .throw .. => "ThrowStatement"
  | .switch .. => "SwitchStatement"
  | .tryCatch .. => "TryStatement"
  | .whileLoop .. => "WhileStatement"
  | .doWhile .. => "DoWhileStatement"
  | .withObject .. => "WithStatement"
  | .forLoop .. => "ForStatement"
  | .forIn .. => "ForInStatement"
  | .forOf .. => "ForOfStatement"
  | .declare _ => "VariableDeclaration"
  | .function .. => "FunctionDeclaration"
  | .classDecl .. => "ClassDeclaration"
  | .imports .. => "ImportDeclaration"
  | .importAlias .. => "ImportEquals"
  | .exports .. => "ExportDeclaration"
  | .enum .. => "EnumDeclaration"
  | .typeDecl .. => "TypeDeclaration"
  | .unsupported .. => "Unsupported"

end ScriptSplit
