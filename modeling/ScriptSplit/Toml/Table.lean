import ScriptSplit.Settings.Value

namespace ScriptSplit.Toml

abbrev Fields := List (String × Value)

def put (fs : Fields) (k : String) (v : Value) : Fields :=
  match fs with
  | [] => [(k, v)]
  | f :: fs => if f.1 = k then (k, v) :: fs else f :: put fs k v

/-- Changes the table at the end of a path, making the tables on the way. With `throughLists` the
last table of a list stands for the list. -/
def alter (throughLists : Bool) (change : Fields → Option Fields) :
    List String → Fields → Option Fields
  | [], fs => change fs
  | k :: ks, fs =>
      match Value.lookup fs k with
      | none => do return put fs k (.table (← alter throughLists change ks []))
      | some (.table sub) => do return put fs k (.table (← alter throughLists change ks sub))
      | some (.list items) =>
          match throughLists, items.getLast? with
          | true, some (.table sub) => do
              let sub ← alter throughLists change ks sub
              return put fs k (.list (items.dropLast ++ [.table sub]))
          | _, _ => none
      | some _ => none

def addNew (k : String) (v : Value) (fs : Fields) : Option Fields :=
  if (Value.lookup fs k).isSome then none else some (put fs k v)

def addToList (k : String) (fs : Fields) : Option Fields :=
  match Value.lookup fs k with
  | none => some (put fs k (.list [.table []]))
  | some (.list items) => some (put fs k (.list (items ++ [.table []])))
  | some _ => none

/-- A frozen place takes nothing more, and neither does what lies below it; a declared one may not
be declared again. -/
inductive Mark where
  | declared (path : List String)
  | frozen (path : List String)
  deriving DecidableEq, Repr

def isDeclared (marks : List Mark) (path : List String) : Bool :=
  marks.contains (.declared path)

def isFrozen (marks : List Mark) (path : List String) : Bool :=
  marks.any fun
    | .frozen p => p.isPrefixOf path
    | .declared _ => false

def unmark (marks : List Mark) (path : List String) : List Mark :=
  marks.filter fun
    | .declared p => !path.isPrefixOf p
    | .frozen p => !path.isPrefixOf p

def isCompound : Value → Bool
  | .list _ => true
  | .table _ => true
  | _ => false

end ScriptSplit.Toml
