import ScriptSplit.Console.Width
import ScriptSplit.Text.Blank

/-!
Lines of bounded width. A line breaks before a word that would not fit; a word that fits no line is
cut.
-/

namespace ScriptSplit.Console

/-- The words of a text with the blanks after them; blanks before the first belong to it. `begun`
says whether its letters have begun, and `ended` whether the last character was a blank. -/
def wordsFrom (begun ended : Bool) : Text → List Text
  | [] => [[]]
  | c :: t =>
      if Text.isBlank c then Text.appendFirst [c] (wordsFrom begun true t)
      else if begun && ended then [] :: Text.appendFirst [c] (wordsFrom true false t)
      else Text.appendFirst [c] (wordsFrom true false t)

def words (t : Text) : List Text := wordsFrom false false t

/-- Clusters in pieces of at most `width` cells, when `used` cells of the first are taken. -/
def fill (width used : Nat) : List Cluster → List Text
  | [] => [[]]
  | k :: ks =>
      if used + k.size > width then [] :: Text.appendFirst k.text (fill width k.size ks)
      else Text.appendFirst k.text (fill width (used + k.size) ks)

def cut (width : Nat) (word : Text) : List Text := fill width 0 (clusters word)

/-- Lays words out after the line so far, of which `used` cells are taken. -/
def layOut (width used : Nat) (line : Text) : List Text → List Text
  | [] => [line]
  | w :: ws =>
      let size := cellCount (Text.trimRight w)
      if used + size ≤ width then layOut width (used + cellCount w) (line ++ w) ws
      else
        let pieces := if size > width then cut width w else [w]
        let last := pieces.getLast?.getD []
        (if line = [] then [] else [line]) ++ pieces.dropLast ++
          layOut width (cellCount last) last ws

/-- A part that a tab ends: blanks, one at least, fill it up to a multiple of eight cells. -/
def toTabStop (part : Text) : Text :=
  let part := part ++ [' ']
  part ++ List.replicate ((8 - cellCount part % 8) % 8) ' '

def expandTabs (t : Text) : Text :=
  let parts := Text.separate '\t' t
  parts.dropLast.flatMap toTabStop ++ parts.getLast?.getD []

def wrapLine (width : Nat) (t : Text) : List Text := layOut width 0 [] (words (expandTabs t))

/-- The lines of a text, none wider than `width` but for blanks at its end. -/
def wrap (width : Nat) (t : Text) : List Text := (Text.separate '\n' t).flatMap (wrapLine width)

end ScriptSplit.Console
