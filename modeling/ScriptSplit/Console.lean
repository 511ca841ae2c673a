import ScriptSplit.Console.Wrap
import ScriptSplit.Markup

namespace ScriptSplit

inductive Level where
  | info
  | success
  | error
  deriving DecidableEq, Repr

def Level.name : Level → String
  | .info => "INFO"
  | .success => "SUCCESS"
  | .error => "ERROR"

def Level.sign : Level → String
  | .info => "ℹ️  "
  | .success => "✅ "
  | .error => "❌ "

structure LogLine where
  level : Level
  message : String
  deriving DecidableEq, Repr

def LogLine.ofText (level : Level) (text : String) : LogLine := ⟨level, level.sign ++ text⟩

namespace Console

def width : Nat := 120

def levelWidth : Nat := 8

def padTo (n : Nat) (t : Text) : Text := t ++ List.replicate (n - t.length) ' '

/-- A console takes no bells, backspaces, vertical tabs, form feeds or carriage returns. -/
def isTaken (c : Char) : Bool := c.toNat ∉ [0x07, 0x08, 0x0B, 0x0C, 0x0D]

def plain (t : Text) : Except Markup.Fault Text := do return (← Markup.shown t).filter isTaken

def seen (ls : List Text) : List Text := ls.map Text.trimRight ++ [[]]

def printed (t : Text) : Except Markup.Fault (List Text) := do
  return seen (wrap width (← plain t))

/-- Only the first line of a message has its level before it. -/
def underLevel (level : Text) : List Text → List Text
  | [] => []
  | l :: ls =>
      (padTo levelWidth level ++ ' ' :: l) :: ls.map fun l => padTo (levelWidth + 1) [] ++ l

def logged (l : LogLine) : Except Markup.Fault (List Text) := do
  let message := wrap (width - levelWidth - 1) (← plain l.message.toList)
  return seen (underLevel l.level.name.toList message)

end Console

end ScriptSplit
