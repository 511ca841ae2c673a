/-!
Texts are lists of code points, so that every offset, length and column counts code points.
-/

namespace ScriptSplit

abbrev Text := List Char

namespace Text

/-- The offset an index means in a text of length `n`: a negative one counts from the end, and
every one is clamped to the text. -/
def offset (n : Nat) (i : Int) : Nat :=
  if i < 0 then (i + n).toNat else min i.toNat n

theorem offset_of_le {n k : Nat} (h : k ≤ n) : offset n k = k := by
  unfold offset
  rw [if_neg (by omega)]
  omega

def between (t : Text) (a b : Nat) : Text :=
  (t.drop a).take (b - a)

theorem between_of_le {t : Text} {a b : Nat} (h : b ≤ a) : between t a b = [] := by
  simp [between, Nat.sub_eq_zero_of_le h]

def slice (t : Text) (i j : Int) : Text :=
  between t (offset t.length i) (offset t.length j)

theorem slice_of_le {t : Text} {a b : Nat} (ha : a ≤ t.length) (hb : b ≤ t.length) :
    slice t a b = between t a b := by
  rw [slice, offset_of_le ha, offset_of_le hb]

def hasWord (word : Text) : Text → Bool
  | [] => word.isEmpty
  | c :: t => word.isPrefixOf (c :: t) || hasWord word t

def appendFirst (cs : Text) : List Text → List Text
  | [] => [cs]
  | t :: ts => (cs ++ t) :: ts

def separate (separator : Char) : Text → List Text
  | [] => [[]]
  | c :: t =>
      if c = separator then [] :: separate separator t else appendFirst [c] (separate separator t)

end Text

end ScriptSplit
