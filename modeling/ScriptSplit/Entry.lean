import ScriptSplit.Refusal

/-!
The entry point: the first top-level statement that is a call on the entry name.
-/

namespace ScriptSplit

/-- Whether a callee comes down to the entry name through calls, members and parentheses. -/
def Expr.rootedAt (entry : String) : Expr → Bool
  | .ident i => i.name == entry
  | .call _ c _ _ => c.rootedAt entry
  | .member _ o _ _ _ => o.rootedAt entry
  | .paren _ e => e.rootedAt entry
  | _ => false

structure EntryCall where
  statement : Span
  call : Span
  arguments : List Expr

def Stmt.entryCall? (entry : String) : Stmt → Option EntryCall
  | .expr s (.call c callee arguments _) =>
      if callee.rootedAt entry then some ⟨s, c, arguments⟩ else none
  | _ => none

def findEntry (entry : String) : List Stmt → Option (Nat × EntryCall)
  | [] => none
  | s :: ss =>
      match s.entryCall? entry with
      | some c => some (0, c)
      | none => (findEntry entry ss).map fun p => (p.1 + 1, p.2)

def EntryCall.argument (entry : String) (c : EntryCall) : Except Refusal Expr :=
  match c.arguments with
  | [] => .error (.noArgument entry c.call.position)
  | .spread s _ :: _ => .error (.spreadArgument s.position)
  | e :: _ => .ok e

/-- A script taken apart at its entry: the other statements, a draft of the text without the entry
statement, and one of the text of the call alone. -/
structure EntryPoint where
  index : Nat
  call : Span
  argument : Expr
  others : List Stmt
  localsDraft : Draft
  mainDraft : Draft

def cutAround (code : Text) (s : Span) : Except Conflict Draft := do
  let d ← (Draft.ofText code).remove 0 s.start
  d.remove s.stop code.length

def Program.locate (entry : String) (code : Text) (p : Program) : Except Stop EntryPoint :=
  match findEntry entry p.body with
  | none => .error (.refused (.noEntry entry))
  | some (index, c) => do
      let argument ← (c.argument entry).mapError .refused
      let localsDraft ←
        ((Draft.ofText code).remove c.statement.start c.statement.stop).mapError .conflict
      let mainDraft ← (cutAround code c.call).mapError .conflict
      return ⟨index, c.call, argument, p.body.eraseIdx index, localsDraft, mainDraft⟩

end ScriptSplit
