import ScriptSplit.Draft
import ScriptSplit.Script.Form
import ScriptSplit.Tree.Reading

namespace ScriptSplit

inductive Construct where
  | classDecl
  | importStmt
  | exportStmt
  | classExpr
  | memberTarget
  | jsx (kind : String)
  | other (kind : String)
  deriving DecidableEq, Repr

def Construct.kind : Construct → String
  | .classDecl => "class_declaration"
  | .importStmt => "import_statement"
  | .exportStmt => "export_statement"
  | .classExpr => "class"
  | .memberTarget => "member_expression"
  | .jsx kind => kind
  | .other kind => kind

def Construct.subject : Construct → String
  | .classDecl => "Class declarations are"
  | .importStmt => "Import statements are"
  | .exportStmt => "Export statements are"
  | .classExpr => "Class expressions are"
  | .memberTarget => "Member expressions as declaration targets are"
  | .jsx _ => "JSX is"
  | .other kind => s!"'{kind}' is"

inductive Refusal where
  | unexpected (kind : String) (pos : Position)
  | missing (kind : String) (pos : Position)
  | noEntry (entry : String)
  | noArgument (entry : String) (pos : Position)
  | spreadArgument (pos : Position)
  | bindingShape (form : String) (pos : Position)
  | restTarget (pos : Position)
  | propertyKey (pos : Position)
  | patternForm (form : String) (pos : Position)
  | patternValue (form : String) (pos : Position)
  | construct (what : Construct) (pos : Position)
  deriving DecidableEq, Repr

inductive Refusal.Category where
  | parse
  | entryNotFound
  | entryArgument
  | bindingShape
  | pattern
  | construct
  deriving DecidableEq, Repr

namespace Refusal

def category : Refusal → Category
  | .unexpected .. => .parse
  | .missing .. => .parse
  | .noEntry _ => .entryNotFound
  | .noArgument .. => .entryArgument
  | .spreadArgument _ => .entryArgument
  | .bindingShape .. => .bindingShape
  | .restTarget _ => .pattern
  | .propertyKey _ => .pattern
  | .patternForm .. => .pattern
  | .patternValue .. => .pattern
  | .construct .. => .construct

def kind : Refusal → String
  | .unexpected kind _ => kind
  | .missing kind _ => kind
  | .noEntry _ => "program"
  | .noArgument .. => "call_expression"
  | .spreadArgument _ => "spread_element"
  | .bindingShape form _ => form
  | .restTarget _ => "RestElement"
  | .propertyKey _ => "Property"
  | .patternForm form _ => form
  | .patternValue form _ => form
  | .construct what _ => what.kind

def position? : Refusal → Option Position
  | .unexpected _ p => some p
  | .missing _ p => some p
  | .noEntry _ => none
  | .noArgument _ p => some p
  | .spreadArgument p => some p
  | .bindingShape _ p => some p
  | .restTarget p => some p
  | .propertyKey p => some p
  | .patternForm _ p => some p
  | .patternValue _ p => some p
  | .construct _ p => some p

def summary : Refusal → String
  | .unexpected .. => "Parse error: unexpected syntax"
  | .missing kind _ => s!"Parse error: missing '{kind}'"
  | .noEntry entry => s!"No {entry}() call found"
  | .noArgument entry _ => s!"{entry}() entry call has no argument"
  | .spreadArgument _ => "Entry call argument cannot be a spread"
  | .bindingShape form _ => s!"Unsupported binding type: {form}"
  | .restTarget _ => "Rest element must be an identifier"
  | .propertyKey _ => "Object property must be an identifier"
  | .patternForm form _ => s!"Unexpected {form} in declaration pattern"
  | .patternValue form _ => s!"Unexpected {form} as object pattern value"
  | .construct what _ => s!"{what.subject} not supported inside the entry argument"

def message (r : Refusal) : String :=
  match r.position? with
  | some p => s!"{r.summary} (line {p.line}, column {p.column})"
  | none => r.summary

end Refusal

/-- What ends a split early: a refusal of the script, a tree that is no tree of the grammar, or
edits that clash because the tree's spans do. -/
inductive Stop where
  | refused (refusal : Refusal)
  | malformed (what : Malformed)
  | conflict (what : Conflict)
  deriving DecidableEq, Repr

end ScriptSplit
