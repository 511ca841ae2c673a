namespace ScriptSplit

/-- A number written as a fraction is only known by its whole value, if it has one; points in time
are not told apart. -/
inductive Value where
  | null
  | bool (b : Bool)
  | int (i : Int)
  | fraction (whole : Option Int)
  | text (s : String)
  | moment
  | list (items : List Value)
  | table (fields : List (String × Value))
  deriving Inhabited

namespace Value

def isGiven : Value → Bool
  | .null => false
  | .bool b => b
  | .int i => i != 0
  | .fraction (some i) => i != 0
  | .fraction none => true
  | .text s => s != ""
  | .moment => true
  | .list items => !items.isEmpty
  | .table fields => !fields.isEmpty

def lookup (fields : List (String × Value)) (key : String) : Option Value :=
  (fields.find? fun f => f.1 == key).map Prod.snd

end Value

end ScriptSplit
