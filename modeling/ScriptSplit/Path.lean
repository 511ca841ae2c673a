/-!
Paths: how many slashes they begin with, and the names between the slashes. Empty names and single
dots do not count; two dots are kept.
-/

namespace ScriptSplit

/-- A relative path has no root; exactly two slashes are a root of their own. -/
inductive Path.Root where
  | relative
  | single
  | double
  deriving DecidableEq, Repr

structure Path where
  root : Path.Root
  parts : List String
  deriving DecidableEq, Repr

namespace Path

def Root.text : Root → String
  | relative => ""
  | single => "/"
  | double => "//"

def rootOf : List Char → Root
  | '/' :: '/' :: '/' :: _ => .single
  | '/' :: '/' :: _ => .double
  | '/' :: _ => .single
  | _ => .relative

def names : List Char → List (List Char)
  | [] => [[]]
  | c :: cs =>
      if c = '/' then [] :: names cs
      else
        match names cs with
        | [] => [[c]]
        | n :: ns => (c :: n) :: ns

def ofString (s : String) : Path :=
  ⟨rootOf s.toList, ((names s.toList).filter fun n => n != [] && n != ['.']).map String.ofList⟩

def text (p : Path) : String :=
  if p.root = .relative ∧ p.parts = [] then "."
  else p.root.text ++ "/".intercalate p.parts

def hasNull (p : Path) : Bool := p.parts.any fun name => name.toList.contains '\x00'

def isAbsolute (p : Path) : Bool := p.root != .relative

/-- The path without its last name; a path without names is its own parent. -/
def parent (p : Path) : Path := ⟨p.root, p.parts.dropLast⟩

def join (dir p : Path) : Path :=
  if p.isAbsolute then p else ⟨dir.root, dir.parts ++ p.parts⟩

def child (dir : Path) (name : String) : Path := ⟨dir.root, dir.parts ++ [name]⟩

/-- Climbs a step for each pair of dots, and no higher than the root. -/
def climb (up : List String) : List String → List String
  | [] => up.reverse
  | ".." :: ps => climb up.tail ps
  | p :: ps => climb (p :: up) ps

def resolve (cwd p : Path) : Path := ⟨.single, climb [] (cwd.join p).parts⟩

def initials (ps : List String) : List (List String) :=
  (List.range (ps.length + 1)).reverse.map fun k => ps.take k

def upward (p : Path) : List Path := (initials p.parts).map fun ps => ⟨p.root, ps⟩

end Path

end ScriptSplit
