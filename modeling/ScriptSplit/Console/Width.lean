import ScriptSplit.Text.WidthRanges

/-!
The cells that a text takes. Some characters are seen as one: a mark stands on the character before
it, a joiner makes one picture of its neighbours, and a selector turns a sign into a picture.
-/

namespace ScriptSplit.Console

def joiner : Char := '\u200d'

def selector : Char := '\ufe0f'

def cells (c : Char) : Nat :=
  if Text.zeroWidth.holds c.toNat then 0
  else if Text.doubleWidth.holds c.toNat then 2
  else 1

def widening : Option Char → Nat
  | some c => if Text.pictureSigns.holds c.toNat then 1 else 0
  | none => 0

/-- The cells of a text; `last` is the last character before it that took any, unless a selector
has followed it. What a joiner joins takes no cells of its own. -/
def cellsAfter (last : Option Char) : Text → Nat
  | [] => 0
  | c :: t =>
      if c = joiner then
        match t with
        | [] => 0
        | _ :: t => cellsAfter last t
      else if c = selector then widening last + cellsAfter none t
      else if cells c = 0 then cellsAfter last t
      else cells c + cellsAfter (some c) t

def cellCount (t : Text) : Nat := cellsAfter none t

structure Cluster where
  text : Text
  size : Nat
  deriving DecidableEq, Repr

/-- Adds characters to the last cluster; `done` has it first. -/
def extendLast (more : Text) (size : Nat) : List Cluster → List Cluster
  | [] => [⟨more, size⟩]
  | k :: done => ⟨k.text ++ more, k.size + size⟩ :: done

/-- The clusters of a text, the last one first, when those in `done` have been found. -/
def clustersFrom (done : List Cluster) (last : Option Char) : Text → List Cluster
  | [] => done
  | c :: t =>
      if c = joiner then
        match done, t with
        | _ :: _, d :: t => clustersFrom (extendLast [c, d] 0 done) last t
        | _, t => clustersFrom (extendLast [c] 0 done) last t
      else if c = selector then
        clustersFrom (extendLast [c] (widening last) done) none t
      else if cells c = 0 then clustersFrom (extendLast [c] 0 done) last t
      else clustersFrom (⟨[c], cells c⟩ :: done) (some c) t

def clusters (t : Text) : List Cluster := (clustersFrom [] none t).reverse

end ScriptSplit.Console
