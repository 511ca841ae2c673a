/-!
The trace of a run: phases that open and close, and what was found or changed while they were open.
Every event but the outermost names the event it belongs to.
-/

namespace ScriptSplit

/-- The two shapes in which a name is rerouted: as a reference, or as a shorthand property that has
to keep its key. -/
inductive Form where
  | reference
  | shorthand
  deriving DecidableEq, Repr

def Form.label : Form → String
  | .reference => "Identifier"
  | .shorthand => "Shorthand"

inductive Happening where
  | phaseStart (name detail : String)
  | phaseEnd
  | bindingFound (name : String) (writable : Bool)
  | mutation (form before after : String) (offset : Int)
  deriving DecidableEq, Repr

def Happening.describe : Happening → String
  | .phaseStart name _ => name
  | .phaseEnd => "End Phase"
  | .bindingFound name true => s!"Binding {name} (mutable)"
  | .bindingFound name false => s!"Binding {name} (readonly)"
  | .mutation form .. => s!"Rewrote {form}"

structure Event where
  what : Happening
  parent : Option Nat
  deriving DecidableEq, Repr

/-- Events in the order they happened, and the phases still open, the innermost first, each given
by the number of the event that opened it. -/
structure Trace where
  events : List Event
  pending : List Nat
  deriving DecidableEq, Repr

namespace Trace

def empty : Trace := ⟨[], []⟩

def log (t : Trace) (what : Happening) : Trace :=
  { t with events := t.events ++ [⟨what, t.pending.head?⟩] }

def startPhase (t : Trace) (name detail : String) : Trace :=
  ⟨(t.log (.phaseStart name detail)).events, t.events.length :: t.pending⟩

/-- Closes the innermost phase; with none open there is nothing to close. -/
def endPhase (t : Trace) : Trace :=
  match t.pending with
  | [] => t
  | _ :: rest => ⟨(t.log .phaseEnd).events, rest⟩

end Trace

end ScriptSplit
