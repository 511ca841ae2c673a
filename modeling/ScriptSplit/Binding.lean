import ScriptSplit.Refusal

namespace ScriptSplit

structure Binding where
  name : String
  writable : Bool
  deriving DecidableEq, Repr

structure Extraction where
  bindings : List Binding
  refusal : Option Refusal
  deriving DecidableEq, Repr

namespace Extraction

def none : Extraction := ⟨[], .none⟩

def append (x y : Extraction) : Extraction :=
  match x.refusal with
  | some r => ⟨x.bindings, some r⟩
  | .none => ⟨x.bindings ++ y.bindings, y.refusal⟩

def concat (xs : List Extraction) : Extraction := xs.foldr append none

end Extraction

def restName (s : Span) : Pattern → Except Refusal String
  | .expr (.ident i) => .ok i.name
  | _ => .error (.restTarget s.position)

mutual

/-- The names that an object pattern binds; elements of arrays bind none here. -/
def Entry.names : Entry → Except Refusal (List String)
  | .rest s p => do return [← restName s p]
  | .property s key _ _ true =>
      match key with
      | .ident i => .ok [i.name]
      | _ => .error (.propertyKey s.position)
  | .property _ _ value _ false => value.names

def Entry.allNames : List Entry → Except Refusal (List String)
  | [] => .ok []
  | e :: es => do
      let xs ← e.names
      let ys ← Entry.allNames es
      return xs ++ ys

def Pattern.names : Pattern → Except Refusal (List String)
  | .expr (.ident i) => .ok [i.name]
  | .expr e => .error (.bindingShape e.form e.span.position)
  | .default _ p _ => p.names
  | .object _ es => Entry.allNames es
  | .array .. => .ok []
  | .rest s _ => .error (.bindingShape "RestElement" s.position)

end

/-- The key of an entry, which names its binding under the legacy rules. -/
def Entry.keyName : Entry → Except Refusal String
  | .rest s p => restName s p
  | .property _ (.ident i) _ false _ => .ok i.name
  | .property s .. => .error (.propertyKey s.position)

/-- The names that the target of a declaration binds; a member is named by its text. -/
def Pattern.declaredNames (legacy : Bool) (code : Text) : Pattern → Except Refusal (List String)
  | .expr (.ident i) => .ok [i.name]
  | .expr (.member s ..) => .ok [String.ofList (code.slice s.start s.stop)]
  | .array .. => .ok []
  | .object _ es => if legacy then es.mapM Entry.keyName else Entry.allNames es
  | p => .error (.bindingShape p.form p.span.position)

def Declarator.bindings (legacy writable : Bool) (code : Text) : Declarator → Extraction
  | .mk _ target _ =>
      match target.declaredNames legacy code with
      | .ok names => ⟨names.map fun x => ⟨x, writable⟩, none⟩
      | .error r => ⟨[], some r⟩

/-- The bindings of a top-level statement: its variables, and the values it imports apart from the
entry. -/
def Stmt.bindings (entry : String) (legacy : Bool) (code : Text) : Stmt → Extraction
  | .declare (.mk _ kind ds) =>
      .concat (ds.map fun d => d.bindings legacy (kind != "const") code)
  | .imports _ _ names false =>
      ⟨(names.filter fun i => !i.typeOnly && i.name.name != entry).map
        fun i => ⟨i.name.name, false⟩, none⟩
  | _ => .none

def extract (entry : String) (legacy : Bool) (code : Text) (statements : List Stmt) : Extraction :=
  .concat (statements.map fun s => s.bindings entry legacy code)

end ScriptSplit
