import ScriptSplit.Text.Json
import ScriptSplit.Trace

namespace ScriptSplit

def Happening.type : Happening → String
  | .phaseStart .. => "phase_start"
  | .phaseEnd => "phase_end"
  | .bindingFound .. => "binding_found"
  | .mutation .. => "source_mutation"

/-- What is told of a happening, name by name; the values are JSON already. -/
def Happening.details : Happening → List (String × String)
  | .phaseStart _ detail => [("detail", jsonString detail)]
  | .phaseEnd => []
  | .bindingFound name writable =>
      [("name", jsonString name), ("mutable", if writable then "true" else "false")]
  | .mutation _ before after offset =>
      [("before", jsonString before), ("after", jsonString after), ("offset", toString offset)]

namespace Trace

def jsonIndent (depth : Nat) : String := String.ofList (List.replicate (2 * depth) ' ')

def jsonObject (depth : Nat) : List (String × String) → String
  | [] => "\x7b\x7d"
  | fields =>
      let lines := fields.map fun f => s!"{jsonIndent (depth + 1)}{jsonString f.1}: {f.2}"
      "\x7b\n" ++ ",\n".intercalate lines ++ "\n" ++ jsonIndent depth ++ "\x7d"

def jsonEvent (number : Nat) (e : Event) : String :=
  jsonObject 1 [
    ("id", toString number),
    ("type", jsonString e.what.type),
    ("description", jsonString e.what.describe),
    ("parent_id", match e.parent with
      | some parent => toString parent
      | none => "null"),
    ("metadata", jsonObject 2 e.what.details)]

def json (t : Trace) : String :=
  match t.events with
  | [] => "[]"
  | events =>
      let items := events.mapIdx fun i e => jsonIndent 1 ++ jsonEvent i e
      "[\n" ++ ",\n".intercalate items ++ "\n]"

end Trace

end ScriptSplit
