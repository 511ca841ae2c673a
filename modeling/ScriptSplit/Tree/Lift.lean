import ScriptSplit.Tree.Statement

namespace ScriptSplit

def Node.read (n : Node) : Reading where
  statement := n.statement
  expression := n.expression
  pattern := n.pattern
  block := n.block
  inner := n.inner
  innerPattern := n.innerPattern
  innerStatement := do
    let p ← n.first
    p.reads.statement
  innerIdent := n.innerIdent
  condition := n.condition
  element := n.element
  elements := n.each Reading.element
  key := n.key
  parameter := n.parameter
  parameters := n.parameters
  member := n.member
  entry := n.entry
  declarator := n.declarator
  declaration := n.declaration
  head := n.head
  case := n.case
  cases := n.each Reading.case
  handler := n.handler
  bodyBlock := n.required "body" Reading.block
  enumMember := n.enumMember
  enumMembers := n.each Reading.enumMember
  imported := n.imported

mutual

def Tree.part (s : Source) : Tree → Part
  | .node l cs => ⟨l, (Node.mk s l (Tree.parts s cs)).read⟩

def Tree.parts (s : Source) : List Tree → List Part
  | [] => []
  | t :: ts => t.part s :: Tree.parts s ts

end

def Tree.readNode (s : Source) (t : Tree) : Node := ⟨s, t.label, Tree.parts s t.children⟩

theorem Tree.parts_eq_map (s : Source) (ts : List Tree) : Tree.parts s ts = ts.map (Tree.part s) := by
  induction ts with
  | nil => rfl
  | cons t ts ih => simp [Tree.parts, ih]

def Tree.program (s : Source) (t : Tree) : Lift Program := do
  let n := t.readNode s
  return ⟨n.span, ← n.each Reading.statement⟩

end ScriptSplit
