import ScriptSplit.Text.CaseRanges

/-!
Small letters for capitals. Two capitals take more than a table: the dotted I becomes two characters,
and sigma has a small letter of its own at the end of a word.
-/

namespace ScriptSplit.Text

def smallLetter (c : Char) : Char :=
  match smallLetters.find? fun (a, b, step, _) =>
      a ≤ c.toNat && c.toNat ≤ b && (c.toNat - a) % step == 0 with
  | some (a, _, _, small) => Char.ofNat (small + (c.toNat - a))
  | none => c

def meetsCased (t : Text) : Bool :=
  match t.dropWhile fun c => caseIgnorable.holds c.toNat with
  | [] => false
  | c :: _ => cased.holds c.toNat

/-- The small letters of one character, between what stands before it, read backwards, and what
stands after it. -/
def smallIn (before : Text) (c : Char) (after : Text) : Text :=
  if c.toNat = 0x3A3 then [Char.ofNat (if meetsCased before && !meetsCased after then 0x3C2 else 0x3C3)]
  else if c.toNat = 0x130 then ['i', Char.ofNat 0x307]
  else [smallLetter c]

def lowerAfter (before : Text) : Text → Text
  | [] => []
  | c :: cs => smallIn before c cs ++ lowerAfter (c :: before) cs

def lower (t : Text) : Text := lowerAfter [] t

end ScriptSplit.Text
