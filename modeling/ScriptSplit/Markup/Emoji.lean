import ScriptSplit.Markup.EmojiNames
import ScriptSplit.Text.Blank
import ScriptSplit.Text.LowerCase

/-!
Pictures by name: a name between colons stands for its picture. A name may end in the wish to see
the picture as text or as an emoji.
-/

namespace ScriptSplit.Markup

/-- Every second word of a table names the word after it. -/
def namedPictures : List Text → List (Text × Text)
  | name :: picture :: rest => (name, picture) :: namedPictures rest
  | _ => []

def emojis : List (Text × Text) :=
  [emojiNamesToD, emojiNamesToK, emojiNamesToP, emojiNamesFromQ].flatMap fun table =>
    namedPictures (Text.words table.toList)

def emoji? (name : Text) : Option Text :=
  (emojis.find? fun e => e.1 == Text.lower name).map Prod.snd

def withoutEnd? (ending name : Text) : Option Text :=
  if ending.isSuffixOf name then some (name.take (name.length - ending.length)) else none

def emojiSelector : Char := '\ufe0f'

def textSelector : Char := '\ufe0e'

def picture? (code : Text) : Option Text :=
  match withoutEnd? "-emoji".toList code, withoutEnd? "-text".toList code with
  | some name, _ => (emoji? name).map (· ++ [emojiSelector])
  | none, some name => (emoji? name).map (· ++ [textSelector])
  | none, none => emoji? code

/-- The code that follows a colon, up to the next colon; it has no blanks. -/
def code? (t : Text) : Option Text :=
  let code := t.takeWhile fun c => c != ':' && !Text.isBlank c
  match t.drop code.length with
  | ':' :: _ => some code
  | _ => none

/-- Puts pictures in the place of their codes, after `skip` characters of a code that has been dealt
with. A code that names nothing stays, and no other code begins within it. -/
def drawFrom (skip : Nat) : Text → Text
  | [] => []
  | c :: t =>
      match skip with
      | skip + 1 => drawFrom skip t
      | 0 =>
          match if c = ':' then code? t else none with
          | some code =>
              (picture? code).getD (':' :: code ++ [':']) ++ drawFrom (code.length + 1) t
          | none => c :: drawFrom 0 t

def draw (t : Text) : Text := drawFrom 0 t

end ScriptSplit.Markup
