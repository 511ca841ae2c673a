import ScriptSplit.Outline
import ScriptSplit.Scope
import ScriptSplit.Trace

namespace ScriptSplit

structure Mutation where
  form : Form
  name : Ident
  deriving DecidableEq, Repr

def Mutation.after (locals : String) (m : Mutation) : String :=
  match m.form with
  | .reference => s!"({locals}.{m.name.name})"
  | .shorthand => s!"{m.name.name}:({locals}.{m.name.name})"

/-- The occurrences found up to the end of a walk, and the scope there, or the refusal that ended
it. -/
structure Walk where
  found : List Mutation
  outcome : Except Refusal Scope

namespace Walk

def stay (s : Scope) : Walk := ⟨[], .ok s⟩

def note (s : Scope) (m : Mutation) : Walk :=
  ⟨if s.has m.name.name then [m] else [], .ok s⟩

def andThen (w : Walk) (next : Scope → Walk) : Walk :=
  match w.outcome with
  | .error r => ⟨w.found, .error r⟩
  | .ok s => ⟨w.found ++ (next s).found, (next s).outcome⟩

/-- A walk of a part with its own scope, which ends where it began. -/
def within (s : Scope) (w : Walk) : Walk :=
  ⟨w.found, w.outcome.map fun _ => s⟩

end Walk

mutual

def Item.walk (s : Scope) : Item → Walk
  | .reference i => .note s ⟨.reference, i⟩
  | .shorthand i => .note s ⟨.shorthand, i⟩
  | .shadow x => .stay (s.shadow x)
  | .scoped items => .within s (Item.walks s items)
  | .refuse r => ⟨[], .error r⟩

def Item.walks (s : Scope) : List Item → Walk
  | [] => .stay s
  | i :: is => (i.walk s).andThen fun s' => Item.walks s' is

end

namespace Draft

def reroute (locals : String) (d : Draft) : List Mutation → Except Conflict Draft
  | [] => .ok d
  | m :: ms => do
      let d ← d.replace m.name.span.start m.name.span.stop (m.after locals).toList
      d.reroute locals ms

end Draft

structure Rules where
  locals : String
  legacy : Bool
  deriving DecidableEq, Repr

def Expr.walk (legacy : Bool) (names : List String) (e : Expr) : Walk :=
  Item.walks (Scope.ofNames names) (e.outline legacy)

/-- Reroutes every free occurrence of a name in an expression. The occurrences before a refusal are
rerouted too, so that a clash among them comes first. -/
def Expr.reroute (rules : Rules) (names : List String) (e : Expr) (d : Draft) :
    Except Stop (Draft × List Mutation) :=
  let w := e.walk rules.legacy names
  match d.reroute rules.locals w.found with
  | .error c => .error (.conflict c)
  | .ok d =>
      match w.outcome with
      | .error r => .error (.refused r)
      | .ok _ => .ok (d, w.found)

end ScriptSplit
