import ScriptSplit.Binding
import ScriptSplit.Draft

namespace ScriptSplit

def Binding.accessor (b : Binding) : String :=
  if b.writable then
    s!"get {b.name}() \x7b return {b.name} \x7d,set {b.name}(v) \x7b {b.name} = v \x7d,"
  else s!"{b.name},"

def localsExport (bindings : List Binding) : String :=
  "export default Object.seal(\x7b" ++ String.join (bindings.map Binding.accessor) ++ "\x7d);"

def mainHeader (locals : String) : String := s!"export default ({locals}) => "

namespace Draft

def exportLocals (d : Draft) (bindings : List Binding) : Draft :=
  d.append ("\n" ++ localsExport bindings ++ "\n").toList

/-- The main module is the argument of the call, under a header. -/
def wrapMain (d : Draft) (locals : String) (callStart callStop argStart argStop : Int) :
    Except Conflict Draft := do
  let d ← d.replace callStart argStart (mainHeader locals).toList
  d.remove argStop callStop

end Draft

end ScriptSplit
