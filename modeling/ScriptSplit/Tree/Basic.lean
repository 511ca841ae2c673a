/-!
Concrete syntax trees, as a grammar gives them: every node has a kind, its place in the text in bytes,
and the field under which its parent knows it.
-/

namespace ScriptSplit

/-- What a node says of itself. A node is faulty when it is flagged as holding a syntax error, and
missing when the grammar had to make it up; an empty field is none. -/
structure Label where
  kind : String
  named : Bool
  missing : Bool
  faulty : Bool
  field : String
  startByte : Nat
  stopByte : Nat
  row : Nat
  byteColumn : Nat
  deriving DecidableEq, Repr

inductive Tree where
  | node (label : Label) (children : List Tree)

namespace Tree

def label : Tree → Label
  | node l _ => l

def children : Tree → List Tree
  | node _ cs => cs

end Tree

def Label.isError (l : Label) : Bool := l.kind == "ERROR" || l.missing

mutual

/-- The first erroneous node, looking only below nodes that are flagged. -/
def Tree.firstError : Tree → Option Label
  | .node l cs => if l.isError then some l else Tree.firstErrorAmong cs

def Tree.firstErrorAmong : List Tree → Option Label
  | [] => none
  | t :: ts =>
      if t.label.faulty || t.label.missing then t.firstError.or (Tree.firstErrorAmong ts)
      else Tree.firstErrorAmong ts

end

end ScriptSplit
