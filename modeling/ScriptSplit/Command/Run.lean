import ScriptSplit.Command.Arguments
import ScriptSplit.Console
import ScriptSplit.Settings.Project
import ScriptSplit.Trace.Json

/-!
The commands: to compile a script into its two modules, and to list its bindings. They reach files
through `FileAccess`, and what they have to say is part of how they end.
-/

namespace ScriptSplit.Command

structure BindingTable where
  title : String
  rows : List (String × String)
  deriving DecidableEq, Repr

def BindingTable.head : String × String := ("Name", "Access")

structure Ending where
  code : Nat
  log : List LogLine
  table : Option BindingTable
  deriving DecidableEq, Repr

def Ending.failed (log : List LogLine) : Ending := ⟨1, log, none⟩

inductive Abort where
  | noInput
  | unreadable (what : Unreadable)
  | stopped (why : Stop)
  | hidden (error : FileError)
  | nullByte
  | marked (fault : Markup.Fault)

inductive Failure where
  | failed (line : LogLine)
  | aborted (why : Abort)

def checkMarkup (s : String) : Except Abort Unit :=
  match Markup.shown s.toList with
  | .ok _ => .ok ()
  | .error fault => .error (.marked fault)

def pathMark (p : Path) : String := s!"[path]{p.text}[/path]"

/-- The value of an option, which is an empty list if it has been given none. -/
def valueOf (options : Taken) (s : Switch) : Option Value :=
  (options.option? s).map fun
    | some value => .text value
    | none => .list []

def givenBy (options : Taken) : Given where
  localsName := valueOf options localsName
  entryName := none
  dialect := if options.has tsx then some (.text "tsx") else none
  legacyScoping := if options.has legacyScoping then some (.bool true) else none
  inputPath := valueOf options input
  localsOut := valueOf options localsOut
  mainOut := valueOf options mainOut

def flawCount (flaws : List (Field × Flaw)) : String :=
  if flaws.length = 1 then "1 validation error" else s!"{flaws.length} validation errors"

def invalidSettings (flaws : List (Field × Flaw)) : LogLine :=
  .ofText .error s!"Invalid configuration: {flawCount flaws} for CompilerConfig"

def cannotRead (p : Path) (why : String) : LogLine :=
  .ofText .error s!"Cannot read {pathMark p}: {escapeMarkup why}"

section

variable {m : Type → Type} [Monad m] [FileAccess m]

def abort {α : Type} (why : Abort) : ExceptT Failure m α := throw (.aborted why)

/-- The project is looked for where the input is. -/
def loadSettings (options : Taken) : ExceptT Failure m Settings := do
  if options.option? input = some none then abort .noInput
  let search := (options.value? input).map fun p => (Path.ofString p).parent
  match ← liftM (Settings.load search (givenBy options) : m _) with
  | .ok s => return s
  | .error (.flawed flaws) => throw (.failed (invalidSettings flaws))
  | .error (.unreadable u) => abort (.unreadable u)

def decodeSource (p : Path) : Except FileError Text.Bytes → ExceptT Failure m Text
  | .error e => throw (.failed (cannotRead p e.message))
  | .ok bytes =>
      match Text.decode bytes with
      | .error e => throw (.failed (cannotRead p e.message))
      | .ok t => return Text.plainLines t

/-- No file has a name with the null character. -/
def readSource (p : Path) : ExceptT Failure m Text := do
  match ← (if p.hasNull then pure (.ok false) else liftM (FileAccess.isFile p : m _)) with
  | .error e => abort (.hidden e)
  | .ok false => throw (.failed (.ofText .error s!"Input not found: {pathMark p}"))
  | .ok true => decodeSource p (← liftM (FileAccess.readBytes p : m _))

def prepare (parse : Dialect → Text → Tree) (options : Taken) :
    ExceptT Failure m (Settings × Report) := do
  let s ← loadSettings options
  let code ← readSource s.inputPath
  match run s.toOptions code (parse s.dialect code) with
  | .ok r => return (s, r)
  | .error stop => abort (.stopped stop)

structure WriteError where
  error : FileError
  opened : Bool
  deriving DecidableEq, Repr

def writeFile (p : Path) (t : Text) : ExceptT Failure m (Except WriteError Unit) := do
  if p.parent.hasNull then abort .nullByte
  match ← liftM (FileAccess.makeDirectories p.parent : m _) with
  | .error e => return .error ⟨e, false⟩
  | .ok () =>
      if p.hasNull then abort .nullByte
      match ← liftM (FileAccess.openNew p : m _) with
      | .error e => return .error ⟨e, false⟩
      | .ok () =>
          match ← liftM (FileAccess.write p (Text.encode t) : m _) with
          | .error e => return .error ⟨e, true⟩
          | .ok () => return .ok ()

def removeAll : List Path → m Unit
  | [] => return ()
  | p :: ps => do
      FileAccess.remove p
      removeAll ps

/-- Writes files in order. At the first that cannot be written, all that have been opened are
removed. -/
def writeFiles (opened : List Path) : List (Path × Text) → ExceptT Failure m (Except FileError Unit)
  | [] => return .ok ()
  | (p, t) :: files => do
      match ← writeFile p t with
      | .ok () => writeFiles (opened ++ [p]) files
      | .error e =>
          liftM (removeAll (if e.opened then opened ++ [p] else opened) : m _)
          return .error e.error

def say (line : LogLine) : ExceptT Failure m LogLine :=
  match checkMarkup line.message with
  | .ok () => return line
  | .error why => abort why

def saveTrace (p : Path) (t : Trace) : ExceptT Failure m LogLine := do
  match ← writeFile p t.json.toList with
  | .ok () => say (.ofText .info s!"Trace saved to {pathMark p}")
  | .error e => say (.ofText .error s!"Failed to write trace: {escapeMarkup e.error.message}")

def saveTraceTo (target : Option Path) (t : Trace) : ExceptT Failure m (List LogLine) := do
  match target with
  | none => return []
  | some p => return [← saveTrace p t]

def compiled (s : Settings) (m : Modules) : LogLine :=
  .ofText .success (s!"Compiled: {pathMark s.inputPath} -> {pathMark s.localsOut}, " ++
    s!"{pathMark s.mainOut} ({m.bindings.length} bindings)")

/-- Writes the modules of a report, and says how it went; a refusal writes nothing. -/
def saveModules (s : Settings) (r : Report) : ExceptT Failure m (Nat × LogLine) := do
  match r.result with
  | .error refusal =>
      return (1, ← say (.ofText .error
        s!"Failed to compile {pathMark s.inputPath}: {escapeMarkup refusal.message}"))
  | .ok modules =>
      match ← writeFiles [] [(s.localsOut, modules.localsText), (s.mainOut, modules.mainText)] with
      | .error e =>
          return (1, ← say (.ofText .error s!"Failed to write output: {escapeMarkup e.message}"))
      | .ok () => return (0, ← say (compiled s modules))

def compile (parse : Dialect → Text → Tree) (options : Taken) : ExceptT Failure m Ending := do
  let (s, r) ← prepare parse options
  let traced ← saveTraceTo ((options.value? jsonTrace).map Path.ofString) r.trace
  let (code, line) ← saveModules s r
  return ⟨code, traced ++ [line], none⟩

def access (writable : Bool) : String := if writable then "read/write" else "read-only"

def bindingTable (p : Path) (bindings : List Binding) : BindingTable where
  title := s!"Bindings of {p.text}"
  rows := bindings.map fun b => (escapeMarkup b.name, access b.writable)

def listBindings (parse : Dialect → Text → Tree) (options : Taken) : ExceptT Failure m Ending := do
  let (s, r) ← prepare parse options
  match r.result with
  | .error refusal => return .failed [← say (.ofText .error (escapeMarkup refusal.message))]
  | .ok modules =>
      let table := bindingTable s.inputPath modules.bindings
      match checkMarkup table.title with
      | .ok () => return ⟨0, [], some table⟩
      | .error why => abort why

def Failure.ending : Failure → Except Abort Ending
  | .failed line => (checkMarkup line.message).map fun () => .failed [line]
  | .aborted why => .error why

def perform (parse : Dialect → Text → Tree) (verb : Verb) (options : Taken) :
    m (Except Abort Ending) := do
  let act := match verb with
    | .compile => compile parse options
    | .bindings => listBindings parse options
  match ← act.run with
  | .ok ending => return .ok ending
  | .error failure => return failure.ending

end

end ScriptSplit.Command
