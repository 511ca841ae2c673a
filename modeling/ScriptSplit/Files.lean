import ScriptSplit.Path
import ScriptSplit.Text.Quoted
import ScriptSplit.Text.Utf8

/-!
Files and directories. Commands reach them through `FileAccess`; a `FileSystem` is a value that gives
the same access, so that what a command does to files can be computed.
-/

namespace ScriptSplit

open Text (Bytes)

inductive FileFault where
  | noEntry
  | exists
  | notDirectory
  | isDirectory
  | noSpace
  | nameTooLong
  deriving DecidableEq, Repr

def FileFault.number : FileFault → Nat
  | .noEntry => 2
  | .exists => 17
  | .notDirectory => 20
  | .isDirectory => 21
  | .noSpace => 28
  | .nameTooLong => 36

def FileFault.text : FileFault → String
  | .noEntry => "No such file or directory"
  | .exists => "File exists"
  | .notDirectory => "Not a directory"
  | .isDirectory => "Is a directory"
  | .noSpace => "No space left on device"
  | .nameTooLong => "File name too long"

/-- A fault, and the path it was met at. A file that is open already has no path. -/
structure FileError where
  fault : FileFault
  path : Option Path
  deriving DecidableEq, Repr

def FileError.message (e : FileError) : String :=
  s!"[Errno {e.fault.number}] {e.fault.text}" ++
    match e.path with
    | some p => ": " ++ quoted p.text
    | none => ""

/-- What commands ask of files. Whether there is a file may be impossible to say. A file is opened for
writing, which creates or empties it, before it is written. -/
class FileAccess (m : Type → Type) where
  workingDirectory : m Path
  isFile : Path → m (Except FileError Bool)
  readBytes : Path → m (Except FileError Bytes)
  makeDirectories : Path → m (Except FileError Unit)
  openNew : Path → m (Except FileError Unit)
  write : Path → Bytes → m (Except FileError Unit)
  remove : Path → m Unit

inductive Object where
  | file (bytes : Bytes)
  | directory
  deriving DecidableEq, Repr

/-- Objects by the names that lead to them from the root, which is a directory itself, and the
places where nothing can be written for want of space. -/
structure FileSystem where
  objects : List (List String × Object)
  working : List String
  full : List (List String)
  deriving DecidableEq, Repr

namespace FileSystem

def object? (fs : FileSystem) (place : List String) : Option Object :=
  if place = [] then some .directory else (fs.objects.find? fun o => o.1 == place).map Prod.snd

def nameLimit : Nat := 255

def pathLimit : Nat := 4095

def checkLength (limit : Nat) (s : String) : Except FileFault Unit :=
  if s.utf8ByteSize > limit then .error .nameTooLong else .ok ()

/-- The directory that names lead to from a directory; two dots lead to the one above. -/
def follow (fs : FileSystem) (place : List String) : List String → Except FileFault (List String)
  | [] => .ok place
  | name :: names => do
      checkLength nameLimit name
      if name = ".." then fs.follow place.dropLast names
      else
        match fs.object? (place ++ [name]) with
        | some .directory => fs.follow (place ++ [name]) names
        | some (.file _) => .error .notDirectory
        | none => .error .noEntry

def base (fs : FileSystem) (p : Path) : List String := if p.isAbsolute then [] else fs.working

/-- The place of a path, whether there is anything or not; the directory around it is there. -/
def place (fs : FileSystem) (p : Path) : Except FileFault (List String) := do
  checkLength pathLimit p.text
  match p.parts.getLast? with
  | none => return fs.base p
  | some last =>
      let dir ← fs.follow (fs.base p) p.parts.dropLast
      checkLength nameLimit last
      return if last = ".." then dir.dropLast else dir ++ [last]

def find (fs : FileSystem) (p : Path) : Except FileFault Object := do
  match fs.object? (← fs.place p) with
  | some o => return o
  | none => throw .noEntry

/-- What is not there is no file, but where a name is too long nobody can tell. -/
def isFile (fs : FileSystem) (p : Path) : Except FileError Bool :=
  match fs.find p with
  | .ok (.file _) => .ok true
  | .error .nameTooLong => .error ⟨.nameTooLong, some p⟩
  | _ => .ok false

def isDirectory (fs : FileSystem) (p : Path) : Bool :=
  match fs.find p with
  | .ok .directory => true
  | _ => false

def readBytes (fs : FileSystem) (p : Path) : Except FileError Bytes :=
  match fs.find p with
  | .ok (.file bytes) => .ok bytes
  | .ok .directory => .error ⟨.isDirectory, some p⟩
  | .error fault => .error ⟨fault, some p⟩

def put (fs : FileSystem) (place : List String) (o : Object) : FileSystem :=
  { fs with objects := fs.objects.filter (fun x => x.1 != place) ++ [(place, o)] }

def erase (fs : FileSystem) (place : List String) : FileSystem :=
  { fs with objects := fs.objects.filter fun x => x.1 != place }

def makeDirectory (fs : FileSystem) (p : Path) : Except FileFault FileSystem := do
  let place ← fs.place p
  match fs.object? place with
  | some _ => throw .exists
  | none => return fs.put place .directory

def ensureDirectory (fs : FileSystem) (p : Path) : FileSystem × Except FileError Unit :=
  match fs.makeDirectory p with
  | .ok fs => (fs, .ok ())
  | .error .noEntry => (fs, .error ⟨.noEntry, some p⟩)
  | .error fault => (fs, if fs.isDirectory p then .ok () else .error ⟨fault, some p⟩)

/-- Makes a directory and those above it; `names` are its names, the last one first. -/
def ensureDirectories (fs : FileSystem) (root : Path.Root) :
    List String → FileSystem × Except FileError Unit
  | [] => fs.ensureDirectory ⟨root, []⟩
  | name :: names =>
      let p : Path := ⟨root, (name :: names).reverse⟩
      match fs.makeDirectory p with
      | .error .noEntry =>
          match fs.ensureDirectories root names with
          | (fs, .error e) => (fs, .error e)
          | (fs, .ok ()) => fs.ensureDirectory p
      | _ => fs.ensureDirectory p

def makeDirectories (fs : FileSystem) (p : Path) : FileSystem × Except FileError Unit :=
  fs.ensureDirectories p.root p.parts.reverse

def openNew (fs : FileSystem) (p : Path) : FileSystem × Except FileError Unit :=
  match fs.place p with
  | .error fault => (fs, .error ⟨fault, some p⟩)
  | .ok place =>
      match fs.object? place with
      | some .directory => (fs, .error ⟨.isDirectory, some p⟩)
      | _ => (fs.put place (.file []), .ok ())

def write (fs : FileSystem) (p : Path) (bytes : Bytes) : FileSystem × Except FileError Unit :=
  match fs.place p with
  | .error fault => (fs, .error ⟨fault, some p⟩)
  | .ok place =>
      if fs.full.contains place then (fs, .error ⟨.noSpace, none⟩)
      else (fs.put place (.file bytes), .ok ())

def remove (fs : FileSystem) (p : Path) : FileSystem :=
  match fs.place p with
  | .error _ => fs
  | .ok place => fs.erase place

end FileSystem

instance : FileAccess (StateM FileSystem) where
  workingDirectory := do return ⟨.single, (← get).working⟩
  isFile p := do return (← get).isFile p
  readBytes p := do return (← get).readBytes p
  makeDirectories p := modifyGet fun fs => ((fs.makeDirectories p).2, (fs.makeDirectories p).1)
  openNew p := modifyGet fun fs => ((fs.openNew p).2, (fs.openNew p).1)
  write p bytes := modifyGet fun fs => ((fs.write p bytes).2, (fs.write p bytes).1)
  remove p := modify fun fs => fs.remove p

end ScriptSplit
