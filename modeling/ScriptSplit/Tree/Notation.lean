import ScriptSplit.Tree.Basic

/-!
Trees in writing. A node is a list in square brackets: its kind, its flags, the field it is known by,
its first byte and the byte after its last, its row and its column, and then its children. Words stand
in double quotes, and commas and blanks only separate.
-/

namespace ScriptSplit.Tree.Notation

inductive Item where
  | word (s : String)
  | number (n : Nat)
  | tree (t : Tree)

/-- What the next character belongs to. A word is kept as its units of sixteen bits or its whole
characters, the last one first. -/
inductive Mode where
  | between
  | number (n : Nat)
  | word (units : List Nat)
  | escape (units : List Nat)
  | unit (missing n : Nat) (units : List Nat)

/-- The lists that are open, the innermost first, each with its items so far, the last one first. -/
structure Reader where
  mode : Mode
  frames : List (List Item)
  result : Option Tree

def Reader.start : Reader := ⟨.between, [], none⟩

/-- Two halves of a pair are one character. -/
def joinPairs : List Nat → List Char
  | [] => []
  | [n] => [Char.ofNat n]
  | high :: low :: rest =>
      if 0xD800 ≤ high ∧ high < 0xDC00 ∧ 0xDC00 ≤ low ∧ low < 0xE000 then
        Char.ofNat (0x10000 + (high - 0xD800) * 0x400 + (low - 0xDC00)) :: joinPairs rest
      else Char.ofNat high :: joinPairs (low :: rest)

def children : List Item → Option (List Tree)
  | [] => some []
  | .tree t :: items => (children items).map (t :: ·)
  | _ :: _ => none

def node : List Item → Option Tree
  | .word kind :: .number flags :: .word field :: .number startByte :: .number stopByte ::
      .number row :: .number byteColumn :: items => do
      let label : Label := {
        kind, field, startByte, stopByte, row, byteColumn
        named := flags % 2 == 1
        missing := flags / 2 % 2 == 1
        faulty := flags / 4 % 2 == 1 }
      return .node label (← children items)
  | _ => none

namespace Reader

def add (r : Reader) (i : Item) : Option Reader :=
  match r.frames, i with
  | items :: frames, i => some { r with mode := .between, frames := (i :: items) :: frames }
  | [], .tree t => some { r with mode := .between, result := some t }
  | [], _ => none

def close (r : Reader) : Option Reader :=
  match r.frames with
  | [] => none
  | items :: frames =>
      (node items.reverse).bind fun t => add { r with frames := frames } (.tree t)

def digit? (c : Char) : Option Nat := if c.isDigit then some (c.toNat - '0'.toNat) else none

def hexDigit? (c : Char) : Option Nat :=
  if c.isDigit then some (c.toNat - '0'.toNat)
  else if 'a' ≤ c ∧ c ≤ 'f' then some (c.toNat - 'a'.toNat + 10)
  else if 'A' ≤ c ∧ c ≤ 'F' then some (c.toNat - 'A'.toNat + 10)
  else none

def between (r : Reader) (c : Char) : Option Reader :=
  if c = ',' ∨ c.isWhitespace then some { r with mode := .between }
  else if r.result.isSome then none
  else if c = '[' then some { r with mode := .between, frames := [] :: r.frames }
  else if c = ']' then r.close
  else if c = '"' then some { r with mode := .word [] }
  else (digit? c).map fun n => { r with mode := .number n }

def escaped : Char → Char
  | 'b' => '\x08'
  | 'f' => '\x0c'
  | 'n' => '\n'
  | 'r' => '\r'
  | 't' => '\t'
  | c => c

def step (r : Reader) (c : Char) : Option Reader :=
  match r.mode with
  | .between => r.between c
  | .number n =>
      match digit? c with
      | some d => some { r with mode := .number (10 * n + d) }
      | none => do (← r.add (.number n)).between c
  | .word units =>
      if c = '"' then r.add (.word (String.ofList (joinPairs units.reverse)))
      else if c = '\\' then some { r with mode := .escape units }
      else some { r with mode := .word (c.toNat :: units) }
  | .escape units =>
      if c = 'u' then some { r with mode := .unit 4 0 units }
      else some { r with mode := .word ((escaped c).toNat :: units) }
  | .unit missing n units => do
      let n := 16 * n + (← hexDigit? c)
      if missing ≤ 1 then return { r with mode := .word (n :: units) }
      else return { r with mode := .unit (missing - 1) n units }

end Reader

end ScriptSplit.Tree.Notation

namespace ScriptSplit.Tree

def ofNotation? (t : List Char) : Option Tree := do
  (← t.foldlM Notation.Reader.step Notation.Reader.start).result

end ScriptSplit.Tree
