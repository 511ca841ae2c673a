import ScriptSplit.Toml.Scan
import ScriptSplit.Toml.Table

namespace ScriptSplit.Toml

abbrev Part (α : Type) := Text → Except Fault (α × Text)

def must {α : Type} : Option α → Except Fault α
  | some a => .ok a
  | none => .error .misread

def scalar (t : Text) : Except Fault (Value × Text) :=
  match moment t with
  | some rest => (must rest).map fun rest => (.moment, rest)
  | none =>
      match number t with
      | some (v, rest) => v.map fun v => (v, rest)
      | none => must (unbounded t)

mutual

/-- A value; `fuel` bounds how deep and how far it goes. -/
def value : Nat → Part Value
  | 0, _ => .error .misread
  | fuel + 1, t =>
      match t with
      | '"' :: _ => (must (stringValue t)).map fun (s, rest) => (.text (String.ofList s), rest)
      | '\'' :: _ => (must (stringValue t)).map fun (s, rest) => (.text (String.ofList s), rest)
      | 't' :: 'r' :: 'u' :: 'e' :: rest => .ok (.bool true, rest)
      | 'f' :: 'a' :: 'l' :: 's' :: 'e' :: rest => .ok (.bool false, rest)
      | '[' :: rest => do
          let rest ← must (skipLines (rest.length + 1) rest)
          match rest with
          | ']' :: rest => return (.list [], rest)
          | rest =>
              let (items, rest) ← listItems fuel rest
              return (.list items, rest)
      | '\x7b' :: rest =>
          match skipBlanks rest with
          | '\x7d' :: rest => .ok (.table [], rest)
          | rest => do
              let (fs, rest) ← inlineFields fuel [] [] rest
              return (.table fs, rest)
      | t => scalar t

def listItems : Nat → Part (List Value)
  | 0, _ => .error .misread
  | fuel + 1, t => do
      let (v, rest) ← value fuel t
      match ← must (skipLines (rest.length + 1) rest) with
      | ']' :: rest => return ([v], rest)
      | ',' :: rest =>
          match ← must (skipLines (rest.length + 1) rest) with
          | ']' :: rest => return ([v], rest)
          | rest => do
              let (vs, rest) ← listItems fuel rest
              return (v :: vs, rest)
      | _ => .error .misread

def inlineFields : Nat → Fields → List Mark → Part Fields
  | 0, _, _, _ => .error .misread
  | fuel + 1, fs, marks, t => do
      let ((path, v), rest) ← pair fuel t
      if isFrozen marks path then .error .misread
      let fs ← must (alter false (addNew (path.getLastD "") v) path.dropLast fs)
      match skipBlanks rest with
      | '\x7d' :: rest => return (fs, rest)
      | ',' :: rest =>
          let marks := if isCompound v then marks ++ [.frozen path] else marks
          inlineFields fuel fs marks (skipBlanks rest)
      | _ => .error .misread

def pair : Nat → Part (List String × Value)
  | 0, _ => .error .misread
  | fuel + 1, t => do
      let (path, rest) ← must (key (t.length + 1) t)
      let rest ← must (expect '=' rest)
      let (v, rest) ← value fuel (skipBlanks rest)
      return ((path, v), rest)

end

/-- A document so far: what it holds, its marks, the places that become declared with the next
header, and the header in force. -/
structure Document where
  fields : Fields
  marks : List Mark
  pending : List (List String)
  header : List String

namespace Document

def empty : Document := ⟨[], [], [], []⟩

def settle (d : Document) : Document :=
  { d with marks := d.marks ++ d.pending.map Mark.declared, pending := [] }

/-- A header opens a table that is neither declared nor frozen. -/
def openTable (d : Document) (path : List String) : Option Document := do
  let d := d.settle
  if isDeclared d.marks path || isFrozen d.marks path then none
  let fields ← alter true some path d.fields
  return { d with fields, marks := d.marks ++ [.declared path], header := path }

/-- A double header opens a new table at the end of a list. -/
def openListed (d : Document) (path : List String) : Option Document := do
  let d := d.settle
  if isFrozen d.marks path then none
  let fields ← alter true (addToList (path.getLastD "")) path.dropLast d.fields
  return { d with fields, marks := unmark d.marks path ++ [.declared path], header := path }

def throughTables (d : Document) (path : List String) : List (List String) :=
  ((List.range path.length).drop 1).map fun k => d.header ++ path.take k

def assign (d : Document) (path : List String) (v : Value) : Option Document := do
  let through := d.throughTables path
  if through.any (isDeclared d.marks) then none
  let place := d.header ++ path.dropLast
  if isFrozen d.marks place then none
  let fields ← alter true (addNew (path.getLastD "") v) place d.fields
  let marks := if isCompound v then d.marks ++ [.frozen (d.header ++ path)] else d.marks
  return { d with fields, marks, pending := d.pending ++ through }

def statement (d : Document) (t : Text) : Except Fault (Document × Text) :=
  match t with
  | '[' :: '[' :: rest => do
      let (path, rest) ← must (key (rest.length + 1) (skipBlanks rest))
      let d ← must (d.openListed path)
      let rest ← must (expect ']' rest)
      return (d, ← must (expect ']' rest))
  | '[' :: rest => do
      let (path, rest) ← must (key (rest.length + 1) (skipBlanks rest))
      let d ← must (d.openTable path)
      return (d, ← must (expect ']' rest))
  | '#' :: _ => .ok (d, t)
  | _ => do
      let ((path, v), rest) ← pair (t.length + 1) t
      return (← must (d.assign path v), rest)

def readFrom : Nat → Document → Text → Except Fault Document
  | 0, _, _ => .error .misread
  | fuel + 1, d, t =>
      match skipBlanks t with
      | [] => .ok d
      | '\n' :: rest => readFrom fuel d rest
      | t => do
          let (d, rest) ← d.statement t
          match ← must (skipComment (skipBlanks rest)) with
          | [] => return d
          | '\n' :: rest => readFrom fuel d rest
          | _ => .error .misread

end Document

/-- Carriage returns count only with the end of line after them. -/
def joinLineEnds : Text → Text
  | '\r' :: '\n' :: t => '\n' :: joinLineEnds t
  | c :: t => c :: joinLineEnds t
  | [] => []

def read (t : Text) : Except Fault Fields := do
  let t := joinLineEnds t
  let d ← Document.readFrom (t.length + 1) .empty t
  return d.fields

end ScriptSplit.Toml
