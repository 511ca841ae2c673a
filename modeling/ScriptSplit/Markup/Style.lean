import ScriptSplit.Markup.Color

/-!
Styles as tags name them. Two names are of one style when their normal forms agree; a name that
describes no style stands for itself.
-/

namespace ScriptSplit.Markup

inductive Attribute where
  | bold
  | dim
  | italic
  | underline
  | blink
  | blink2
  | reverse
  | conceal
  | strike
  | underline2
  | frame
  | encircle
  | overline
  deriving DecidableEq, Repr

namespace Attribute

/-- In the order in which a normal form has them. -/
def all : List Attribute :=
  [bold, dim, italic, underline, blink, blink2, reverse, conceal, strike, underline2, frame,
    encircle, overline]

def names : Attribute → List String
  | bold => ["bold", "b"]
  | dim => ["dim", "d"]
  | italic => ["italic", "i"]
  | underline => ["underline", "u"]
  | blink => ["blink"]
  | blink2 => ["blink2"]
  | reverse => ["reverse", "r"]
  | conceal => ["conceal", "c"]
  | strike => ["strike", "s"]
  | underline2 => ["underline2", "uu"]
  | frame => ["frame"]
  | encircle => ["encircle"]
  | overline => ["overline", "o"]

def ofName? (word : Text) : Option Attribute :=
  all.find? fun a => a.names.contains (String.ofList word)

end Attribute

structure Style where
  attributes : List (Attribute × Bool)
  color : Option Text
  background : Option Text
  link : Option Text
  deriving DecidableEq, Repr

namespace Style

def plain : Style := ⟨[], none, none, none⟩

def set (s : Style) (a : Attribute) (on : Bool) : Style :=
  { s with attributes := (a, on) :: s.attributes }

/-- Of an attribute set more than once the last setting counts. -/
def setting? (s : Style) (a : Attribute) : Option Bool :=
  (s.attributes.find? fun x => x.1 == a).map Prod.snd

def attributeWords (s : Style) (a : Attribute) : List Text :=
  let name := a.names.head?.toList.map String.toList
  match s.setting? a with
  | none => []
  | some true => name
  | some false => "not".toList :: name

def wordsOf (s : Style) : List Text :=
  Attribute.all.flatMap s.attributeWords ++ s.color.toList ++
    (s.background.toList.flatMap fun c => ["on".toList, c]) ++
    s.link.toList.flatMap fun l => ["link".toList, l]

def read (s : Style) : List Text → Except Text.NumeralError (Option Style)
  | [] => .ok (some s)
  | given :: rest =>
      let word := Text.lower given
      if word = "on".toList then
        match rest with
        | [] => .ok none
        | c :: rest => do
            if ← isColor (Text.lower c) then read { s with background := some (Text.lower c) } rest
            else return none
      else if word = "not".toList then
        match rest with
        | [] => .ok none
        | a :: rest =>
            match Attribute.ofName? a with
            | some a => read (s.set a false) rest
            | none => .ok none
      else if word = "link".toList then
        match rest with
        | [] => .ok none
        | l :: rest => read { s with link := some l } rest
      else
        match Attribute.ofName? word with
        | some a => read (s.set a true) rest
        | none => do
            if ← isColor word then read { s with color := some word } rest else return none

def normal (name : Text) : Except Text.NumeralError Text := do
  if Text.trim name = "none".toList then return "none".toList
  match ← plain.read (Text.words name) with
  | none => return Text.lower (Text.trim name)
  | some s =>
      match s.wordsOf with
      | [] => return "none".toList
      | ws => return [' '].intercalate ws

end Style

end ScriptSplit.Markup
