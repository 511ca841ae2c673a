import ScriptSplit.Binding
import ScriptSplit.Emit
import ScriptSplit.Entry
import ScriptSplit.Resolve
import ScriptSplit.Tree.Lift

namespace ScriptSplit

inductive Dialect where
  | typescript
  | tsx
  deriving DecidableEq, Repr

namespace Dialect

def name : Dialect → String
  | typescript => "typescript"
  | tsx => "tsx"

def ofName? : String → Option Dialect
  | "typescript" => some typescript
  | "tsx" => some tsx
  | _ => none

def unknownMessage (d : String) : String :=
  s!"Unknown dialect '{d}'. Supported: ('typescript', 'tsx')"

end Dialect

structure Options where
  localsName : String
  entryName : String
  dialect : Dialect
  legacy : Bool
  deriving DecidableEq, Repr

def Options.rules (o : Options) : Rules := ⟨o.localsName, o.legacy⟩

structure Modules where
  localsText : Text
  mainText : Text
  bindings : List Binding
  deriving DecidableEq, Repr

def readScript (code : Text) (t : Tree) : Except Stop Program :=
  let source := Source.ofText code
  if t.label.faulty then
    let bad := t.firstError.getD t.label
    let pos := (source.span bad).position
    .error (.refused (if bad.missing then .missing bad.kind pos else .unexpected bad.kind pos))
  else (t.program source).mapError .malformed

/-- A step of a split, which adds to the trace whether it succeeds or not. -/
abbrev Traced := ExceptT Stop (StateM Trace)

namespace Traced

def startPhase (name detail : String) : Traced Unit := modify fun t => t.startPhase name detail

def endPhase : Traced Unit := modify Trace.endPhase

def log (what : List Happening) : Traced Unit := modify fun t => what.foldl Trace.log t

/-- A phase that fails is left open. -/
def phase {α : Type} (name detail : String) (step : Traced α) : Traced α := do
  startPhase name detail
  let a ← step
  endPhase
  return a

end Traced

def Binding.happening (b : Binding) : Happening := .bindingFound b.name b.writable

def Mutation.happening (locals : String) (m : Mutation) : Happening :=
  .mutation m.form.label m.name.name (m.after locals) m.name.span.start

def extractTraced (o : Options) (code : Text) (statements : List Stmt) : Traced (List Binding) := do
  let x := extract o.entryName o.legacy code statements
  Traced.log (x.bindings.map Binding.happening)
  match x.refusal with
  | some r => throw (.refused r)
  | none => return x.bindings

def rerouteTraced (o : Options) (e : EntryPoint) (names : List String) : Traced Draft := do
  let w := e.argument.walk o.legacy names
  Traced.log (w.found.map (Mutation.happening o.localsName))
  let (d, _) ← e.argument.reroute o.rules names e.mainDraft
  return d

def synthesize (o : Options) (e : EntryPoint) (main : Draft) (bindings : List Binding) :
    Except Stop Modules := do
  let span := e.argument.span
  let main ← (main.wrapMain o.localsName e.call.start e.call.stop span.start span.stop).mapError
    .conflict
  return ⟨(e.localsDraft.exportLocals bindings).render, main.render, bindings⟩

def splitTraced (o : Options) (code : Text) (t : Tree) : Traced Modules :=
  Traced.phase "Hot-Swap Split" o.dialect.name do
    let program ← Traced.phase "Parsing" "Source -> Script Nodes" (readScript code t)
    let e ← Traced.phase "Locating" s!"Searching for {o.entryName}()"
      (program.locate o.entryName code)
    let bindings ← Traced.phase "Extraction" "Top-level bindings" (extractTraced o code e.others)
    let main ← Traced.phase "Rewriting" "Entry argument"
      (rerouteTraced o e (bindings.map Binding.name))
    Traced.phase "Synthesis" "Locals export and main header" (synthesize o e main bindings)

structure Outcome where
  result : Except Stop Modules
  trace : Trace

def trySplit (o : Options) (code : Text) (t : Tree) : Outcome :=
  let (result, trace) := (splitTraced o code t).run.run Trace.empty
  ⟨result, trace⟩

def split (o : Options) (code : Text) (t : Tree) : Except Stop Modules :=
  (trySplit o code t).result

/-- A finished run: the modules, or the one refusal and no text at all. -/
structure Report where
  result : Except Refusal Modules
  trace : Trace

def Report.succeeded (r : Report) : Bool :=
  match r.result with
  | .ok _ => true
  | .error _ => false

def Report.errors (r : Report) : List String :=
  match r.result with
  | .ok _ => []
  | .error e => [e.message]

def Report.modules (r : Report) : Modules :=
  match r.result with
  | .ok m => m
  | .error _ => ⟨[], [], []⟩

/-- Reports a refusal as a result; whatever else stops a split is no result. -/
def run (o : Options) (code : Text) (t : Tree) : Except Stop Report :=
  let x := trySplit o code t
  match x.result with
  | .ok m => .ok ⟨.ok m, x.trace⟩
  | .error (.refused r) => .ok ⟨.error r, x.trace⟩
  | .error s => .error s

end ScriptSplit
