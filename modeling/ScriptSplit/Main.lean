import ScriptSplit.Command.Run
import ScriptSplit.Tree.Notation

/-!
The command line program. The tree of the script comes in writing on standard input.
-/

namespace ScriptSplit.Command

def faultOf : IO.Error → Option FileFault
  | .noFileOrDirectory .. => some .noEntry
  | .alreadyExists .. => some .exists
  | .inappropriateType _ code _ => some (if code = 20 then .notDirectory else .isDirectory)
  | .resourceExhausted .. => some .noSpace
  | .invalidArgument _ code _ => if code = 36 then some .nameTooLong else none
  | _ => none

def guarded {α : Type} (p : Option Path) (act : IO α) : IO (Except FileError α) := do
  try
    return .ok (← act)
  catch e =>
    match faultOf e with
    | some fault => return .error ⟨fault, p⟩
    | none => throw e

def fileThere (p : Path) : IO Bool := do
  discard (IO.FS.readBinFile p.text)
  return true

instance : FileAccess IO where
  workingDirectory := do return Path.ofString (← IO.currentDir).toString
  isFile p := do
    match ← guarded p (fileThere p) with
    | .error e => return if e.fault = .nameTooLong then .error e else .ok false
    | .ok there => return .ok there
  readBytes p := guarded p do return (← IO.FS.readBinFile p.text).toList
  makeDirectories p := guarded p (IO.FS.createDirAll p.text)
  openNew p := guarded p (discard (IO.FS.Handle.mk p.text .write))
  write p bytes := guarded none (IO.FS.writeBinFile p.text ⟨bytes.toArray⟩)
  remove p := do
    try
      IO.FS.removeFile p.text
    catch _ => return ()

def usage : String := s!"usage: {program} [-h] [--version] \x7bcompile,bindings\x7d ..."

partial def readAll (input : IO.FS.Stream) (sofar : String) : IO String := do
  let line ← input.getLine
  if line.isEmpty then return sofar else readAll input (sofar ++ line)

/-- Prints lines; those of faulty markup never come so far. -/
def printLines (lines : Except Markup.Fault (List Text)) : IO Unit :=
  match lines with
  | .ok lines => IO.print ("\n".intercalate (lines.map String.ofList))
  | .error _ => return ()

def printTable (t : BindingTable) : IO Unit := do
  printLines (Console.printed t.title.toList)
  for (name, access) in BindingTable.head :: t.rows do
    printLines (Console.printed (name ++ "  " ++ access).toList)

def printEnding (e : Ending) : IO Unit := do
  for line in e.log do
    printLines (Console.logged line)
  for t in e.table do
    printTable t

def faultMessage : Markup.Fault → String
  | .notOpen closing => s!"[{String.ofList closing}] closes no open tag"
  | .notLiteral parameters => s!"{String.ofList parameters} is no literal value"
  | .notNumber e => e.message

def Abort.message : Abort → String
  | .noInput => "--input has no value"
  | .unreadable (.notTable name) => s!"{name} is not a table"
  | .unreadable (.notPath field) => s!"{field.name} is not a path"
  | .unreadable (.notUtf8 e) => e.message
  | .unreadable (.overlong e) => e.message
  | .unreadable (.hidden e) => e.message
  | .unreadable .nullByte => "embedded null byte"
  | .hidden e => e.message
  | .nullByte => "embedded null byte"
  | .marked fault => faultMessage fault
  | .stopped (.refused r) => r.message
  | .stopped (.conflict c) => c.message
  | .stopped (.malformed (.noField kind field)) => s!"{kind} has no {field}"
  | .stopped (.malformed (.noChild kind)) => s!"{kind} has no child"

def performWith (t : Tree) (verb : Verb) (options : Taken) : IO UInt32 := do
  match ← perform (fun _ _ => t) verb options with
  | .ok e =>
      printEnding e
      return e.code.toUInt32
  | .error why =>
      IO.eprintln why.message
      return 1

end ScriptSplit.Command

open ScriptSplit ScriptSplit.Command in
def main (args : List String) : IO UInt32 := do
  match Request.ofWords args with
  | .version =>
      IO.println versionLine
      return 0
  | .help _ =>
      IO.println usage
      return 0
  | .misused e =>
      IO.eprintln usage
      IO.eprintln e.line
      return 2
  | .perform verb options =>
      match Tree.ofNotation? (← readAll (← IO.getStdin) "").toList with
      | some t => performWith t verb options
      | none =>
          IO.eprintln "No tree on standard input"
          return 1
