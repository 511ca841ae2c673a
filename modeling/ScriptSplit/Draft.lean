import ScriptSplit.Text.Basic

/-!
A draft is a text together with edits of it that do not overlap, each placed by offsets of the
source text, and a tail that comes after everything else.
-/

namespace ScriptSplit

structure Edit where
  start : Nat
  stop : Nat
  text : Text
  deriving DecidableEq, Repr

namespace Edit

def isInsertion (e : Edit) : Bool := e.start == e.stop

/-- Two insertions clash at one place, an insertion clashes with a range it falls strictly inside,
and two ranges clash when they share a character. -/
def clashes (e f : Edit) : Bool :=
  match e.isInsertion, f.isInsertion with
  | true, true => e.start == f.start
  | true, false => f.start < e.start && e.start < f.stop
  | false, true => e.start < f.start && f.start < e.stop
  | false, false => e.start < f.stop && f.start < e.stop

theorem clashes_comm (e f : Edit) : e.clashes f = f.clashes e := by
  unfold clashes
  cases e.isInsertion <;> cases f.isInsertion <;> simp [Bool.beq_comm, Bool.and_comm]

/-- The order in which edits are applied: by place, an insertion before a range that starts there. -/
def le (e f : Edit) : Bool :=
  e.start < f.start || (e.start == f.start && (e.isInsertion || !f.isInsertion))

end Edit

inductive Conflict where
  | outside (start stop : Int) (length : Nat)
  | overlap (start stop : Int) (other : Edit)
  deriving DecidableEq, Repr

def Conflict.message : Conflict → String
  | .outside s e n => s!"Edit range [{s}, {e}) outside source of length {n}"
  | .overlap s e other => s!"Edit [{s}, {e}) overlaps [{other.start}, {other.stop})"

structure Draft where
  source : Text
  edits : List Edit
  tail : Text
  deriving DecidableEq, Repr

namespace Draft

def ofText (t : Text) : Draft := ⟨t, [], []⟩

/-- Schedules an edit, or names the first scheduled edit that it clashes with. -/
def replace (d : Draft) (start stop : Int) (text : Text) : Except Conflict Draft :=
  if 0 ≤ start ∧ start ≤ stop ∧ stop ≤ d.source.length then
    let edit : Edit := ⟨start.toNat, stop.toNat, text⟩
    match d.edits.find? edit.clashes with
    | some other => .error (.overlap start stop other)
    | none => .ok { d with edits := d.edits ++ [edit] }
  else .error (.outside start stop d.source.length)

/-- Schedules a deletion; nothing is deleted by an empty range, wherever it lies. -/
def remove (d : Draft) (start stop : Int) : Except Conflict Draft :=
  if start = stop then .ok d else d.replace start stop []

def append (d : Draft) (text : Text) : Draft := { d with tail := d.tail ++ text }

/-- The source from `cursor` on, with edits that are in order of place. -/
def weave (source : Text) (cursor : Nat) : List Edit → Text
  | [] => source.drop cursor
  | e :: es => source.between cursor e.start ++ e.text ++ weave source e.stop es

def render (d : Draft) : Text :=
  weave d.source 0 (d.edits.mergeSort Edit.le) ++ d.tail

@[simp] theorem render_ofText (t : Text) : (ofText t).render = t := by
  simp [render, ofText, weave]

@[simp] theorem render_append (d : Draft) (t : Text) : (d.append t).render = d.render ++ t := by
  simp [render, append]

end Draft

end ScriptSplit
