import ScriptSplit.Text.Basic

/-!
White space: the characters that Unicode counts as space, line or paragraph separators, and the
control characters that separate in plain text.
-/

namespace ScriptSplit

namespace Text

def blankRanges : List (Nat × Nat) :=
  [(0x09, 0x0D), (0x1C, 0x20), (0x85, 0x85), (0xA0, 0xA0), (0x1680, 0x1680), (0x2000, 0x200A),
    (0x2028, 0x2029), (0x202F, 0x202F), (0x205F, 0x205F), (0x3000, 0x3000)]

def isBlank (c : Char) : Bool :=
  blankRanges.any fun r => r.1 ≤ c.toNat && c.toNat ≤ r.2

def trimLeft (t : Text) : Text := t.dropWhile isBlank

def trimRight (t : Text) : Text := (t.reverse.dropWhile isBlank).reverse

def trim (t : Text) : Text := t.trimLeft.trimRight

/-- The words of a text after the letters of `word`, which are read backwards. -/
def wordsAfter (word : Text) : Text → List Text
  | [] => if word = [] then [] else [word.reverse]
  | c :: t =>
      if isBlank c then (if word = [] then [] else [word.reverse]) ++ wordsAfter [] t
      else wordsAfter (c :: word) t

def words (t : Text) : List Text := wordsAfter [] t

end Text

end ScriptSplit
