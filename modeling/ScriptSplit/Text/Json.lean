import ScriptSplit.Text.Quoted

/-!
Texts as JSON strings, in ASCII: a character beyond the basic plane is written as two units of
sixteen bits.
-/

namespace ScriptSplit.Text

def jsonUnit (n : Nat) : Text := '\\' :: 'u' :: hex 4 n

def jsonChar (c : Char) : Text :=
  if c = '"' ∨ c = '\\' then ['\\', c]
  else if c = '\n' then ['\\', 'n']
  else if c = '\r' then ['\\', 'r']
  else if c = '\t' then ['\\', 't']
  else if c = '\x08' then ['\\', 'b']
  else if c = '\x0c' then ['\\', 'f']
  else if 0x20 ≤ c.toNat ∧ c.toNat < 0x7F then [c]
  else if c.toNat < 0x10000 then jsonUnit c.toNat
  else
    let n := c.toNat - 0x10000
    jsonUnit (0xD800 + n / 0x400) ++ jsonUnit (0xDC00 + n % 0x400)

def json (t : Text) : Text := '"' :: t.flatMap jsonChar ++ ['"']

end ScriptSplit.Text

namespace ScriptSplit

def jsonString (s : String) : String := String.ofList (Text.json s.toList)

end ScriptSplit
