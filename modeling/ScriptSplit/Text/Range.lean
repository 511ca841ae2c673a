import ScriptSplit.Text.Basic

namespace ScriptSplit.Text

abbrev Ranges := List (Nat × Nat)

/-- Whether a code point lies in one of some ranges, which are in order. -/
def Ranges.holds (n : Nat) : Ranges → Bool
  | [] => false
  | (a, b) :: rest => if n < a then false else n ≤ b || Ranges.holds n rest

end ScriptSplit.Text
