import ScriptSplit.Text.Basic

namespace ScriptSplit.Text

def byteSize : Text → Nat
  | [] => 0
  | c :: t => c.utf8Size + byteSize t

theorem byteSize_append (s t : Text) : byteSize (s ++ t) = byteSize s + byteSize t := by
  induction s with
  | nil => simp [byteSize]
  | cons c s ih => simp [byteSize, ih, Nat.add_assoc]

theorem length_le_byteSize (t : Text) : t.length ≤ byteSize t := by
  induction t with
  | nil => simp [byteSize]
  | cons c t ih =>
      have := c.utf8Size_pos
      simp only [List.length_cons, byteSize]
      omega

/-- Where each character starts, and where the text ends, counted in bytes from `pos`. -/
def byteStarts (pos : Nat) : Text → List Nat
  | [] => [pos]
  | c :: t => pos :: byteStarts (pos + c.utf8Size) t

/-- Where byte `b` belongs among the entries from `lo` to `hi`: before the first of them that is not
less than `b`. The range is halved until it is empty. -/
def bisect (starts : Array Nat) (b : Int) (lo hi : Nat) (hhi : hi ≤ starts.size) : Nat :=
  if h : lo < hi then
    if (starts[(lo + hi) / 2] : Int) < b then bisect starts b ((lo + hi) / 2 + 1) hi hhi
    else bisect starts b lo ((lo + hi) / 2) (by omega)
  else lo
termination_by hi - lo

/-- How bytes are counted in a text: `none` when each character is one byte. -/
structure Offsets where
  starts : Option (Array Nat)

def offsets (t : Text) : Offsets :=
  ⟨if byteSize t = t.length then none else some (byteStarts 0 t).toArray⟩

/-- The number of characters and ends that lie before byte `b`, so that a byte inside a character
belongs to the next one; in a text of one-byte characters, `b` itself. -/
def Offsets.char (o : Offsets) (b : Int) : Int :=
  match o.starts with
  | none => b
  | some starts => bisect starts b 0 starts.size (Nat.le_refl _)

end ScriptSplit.Text
