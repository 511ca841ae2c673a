import ScriptSplit.Files
import ScriptSplit.Settings.Basic
import ScriptSplit.Toml.Document

namespace ScriptSplit

def projectFile : String := "pyproject.toml"

/-- What a project file has under the name of this program, which should be a table, and the
directory of the file. Without a project there is no directory that matters. -/
structure Project where
  settings : Value
  directory : Option Path

def Project.empty : Project := ⟨.table [], none⟩

inductive Unreadable where
  | notTable (name : String)
  | notPath (field : Field)
  | notUtf8 (error : Text.Utf8Error)
  | overlong (error : Text.NumeralError)
  | nullByte
  | hidden (error : FileError)
  deriving DecidableEq, Repr

/-- An entry of a table, which is an empty table if it is not there. -/
def entryOf (fields : List (String × Value)) (name : String) : Value :=
  (Value.lookup fields name).getD (.table [])

/-- The project that a file describes; a file that is no TOML describes none. -/
def Project.ofText (directory : Path) (t : Text) : Except Unreadable Project :=
  match Toml.read t with
  | .error .misread => .ok .empty
  | .error (.overlong e) => .error (.overlong e)
  | .ok fields =>
      match entryOf fields "tool" with
      | .table tools => .ok ⟨entryOf tools "ts_hotswap", some directory⟩
      | _ => .error (.notTable "tool")

def Project.ofBytes (directory : Path) (bytes : Text.Bytes) : Except Unreadable Project := do
  let t ← (Text.decode bytes).mapError .notUtf8
  Project.ofText directory t

def findProject {m : Type → Type} [Monad m] [FileAccess m] :
    List Path → m (Except Unreadable Project)
  | [] => return .ok .empty
  | dir :: dirs => do
      let file := dir.child projectFile
      match ← FileAccess.isFile file with
      | .error e => return .error (.hidden e)
      | .ok false => findProject dirs
      | .ok true =>
          match ← FileAccess.readBytes file with
          | .ok bytes => return Project.ofBytes dir bytes
          | .error _ => return .ok .empty

def loadProject {m : Type → Type} [Monad m] [FileAccess m] (search : Option Path) :
    m (Except Unreadable Project) := do
  let cwd : Path ← FileAccess.workingDirectory
  let start := search.getD cwd
  if start.hasNull then return .error .nullByte
  else findProject (cwd.resolve start).upward

def Project.value (p : Project) (f : Field) : Except Unreadable (Option Value) :=
  match p.settings with
  | .table fields => .ok (Value.lookup fields f.name)
  | _ => .error (.notTable "ts_hotswap")

/-- An empty name given counts as none. -/
def layerName (given : Option Value) (p : Project) (f : Field) : Except Unreadable (Option Value) :=
  match given with
  | some v => if v.isGiven then .ok (some v) else p.value f
  | none => p.value f

def layerFlag (given : Option Value) (p : Project) (f : Field) : Except Unreadable (Option Value) :=
  match given with
  | some .null => p.value f
  | some v => .ok (some v)
  | none => p.value f

def pathText (f : Field) : Value → Except Unreadable Path
  | .text s => .ok (.ofString s)
  | _ => .error (.notPath f)

def isText (s : String) : Value → Bool
  | .text t => s == t
  | _ => false

/-- The value that a project has for a path. A text or a list instead of a table has none, unless it
holds the name of the field. -/
def Project.pathValue (p : Project) (f : Field) : Except Unreadable (Option Value) :=
  match p.settings with
  | .table fields => .ok (Value.lookup fields f.name)
  | .text s => if Text.hasWord f.name.toList s.toList then .error (.notPath f) else .ok none
  | .list items => if items.any (isText f.name) then .error (.notPath f) else .ok none
  | _ => .error (.notPath f)

/-- A relative path of a project is seen from the directory of its file. -/
def Project.path (p : Project) (f : Field) : Except Unreadable (Option Value) := do
  match ← p.pathValue f with
  | none => return none
  | some v =>
      let path ← pathText f v
      return some (.text (match p.directory with
        | some dir => (dir.join path).text
        | none => path.text))

def layerPath (given : Option Value) (p : Project) (f : Field) :
    Except Unreadable (Option Value) :=
  match given with
  | none => p.path f
  | some .null => p.path f
  | some v => do return some (.text (← pathText f v).text)

/-- The flag is looked at first. -/
def Given.layered (g : Given) (p : Project) : Except Unreadable Given := do
  let legacyScoping ← layerFlag g.legacyScoping p .legacyScoping
  return {
    localsName := ← layerName g.localsName p .localsName
    entryName := ← layerName g.entryName p .entryName
    dialect := ← layerName g.dialect p .dialect
    legacyScoping
    inputPath := ← layerPath g.inputPath p .inputPath
    localsOut := ← layerPath g.localsOut p .localsOut
    mainOut := ← layerPath g.mainOut p .mainOut }

inductive SettingsError where
  | unreadable (what : Unreadable)
  | flawed (flaws : List (Field × Flaw))

def Settings.load {m : Type → Type} [Monad m] [FileAccess m] (search : Option Path) (g : Given) :
    m (Except SettingsError Settings) := do
  match ← loadProject search with
  | .error u => return .error (.unreadable u)
  | .ok p =>
      match g.layered p with
      | .error u => return .error (.unreadable u)
      | .ok g => return (Settings.ofGiven g).mapError .flawed

end ScriptSplit
