import ScriptSplit.Markup.Emoji
import ScriptSplit.Markup.Literal
import ScriptSplit.Markup.Style
import ScriptSplit.Markup.Tag

/-!
What marked-up text shows. Tags open and close; a closing tag has to find the tag that it closes, and
names between colons turn into pictures.
-/

namespace ScriptSplit.Markup

inductive Fault where
  | notOpen (closing : Text)
  | notLiteral (parameters : Text)
  | notNumber (error : Text.NumeralError)
  deriving DecidableEq, Repr

/-- An open tag: the normal form of its name, and what follows the equals sign, if there is one. -/
structure Opened where
  name : Text
  parameters : Option Text
  deriving DecidableEq, Repr

def partition (body : Text) : Text × Option Text :=
  match body.dropWhile (· != '=') with
  | _ :: parameters => (body.takeWhile (· != '='), some parameters)
  | [] => (body, none)

def normalName (name : Text) : Except Fault Text := (Style.normal name).mapError .notNumber

/-- The arguments of an action: those in brackets after its name, or all there is. -/
def arguments (parameters : Text) : Text :=
  let name := parameters.takeWhile fun c => Text.isWordPart c || c == '.'
  match parameters.drop name.length with
  | [] => "()".toList
  | '(' :: inside =>
      if inside.getLast? = some ')' ∧ '\n' ∉ inside then '(' :: inside else parameters
  | _ => parameters

def Opened.check (o : Opened) : Except Fault Unit :=
  match o.name.head?, o.parameters with
  | some '@', some (c :: cs) =>
      let parameters := arguments (Text.trim (c :: cs))
      if Literal.isLiteral parameters then .ok () else .error (.notLiteral parameters)
  | _, _ => .ok ()

def takeOpen (name : Text) : List Opened → Option (Opened × List Opened)
  | [] => none
  | o :: os =>
      if o.name = name then some (o, os)
      else (takeOpen name os).map fun (found, os) => (found, o :: os)

/-- A closing tag without a name closes the latest one. -/
def close (body name : Text) (opened : List Opened) : Except Fault (List Opened) := do
  let found ← match Text.trim name with
    | [] => pure (opened.head?.map fun o => (o, opened.tail))
    | name => (normalName name).map (takeOpen · opened)
  match found with
  | none => throw (.notOpen body)
  | some (o, opened) =>
      o.check
      return opened

/-- The open tags after another tag, the latest one first. -/
def meet (body : Text) (opened : List Opened) : Except Fault (List Opened) :=
  match partition body with
  | ('/' :: name, _) => close body name opened
  | (name, parameters) => do return ⟨← normalName name, parameters⟩ :: opened

/-- A bracket that opens no tag may be escaped too. -/
def unescapeBrackets : Text → Text
  | '\\' :: '[' :: t => '[' :: unescapeBrackets t
  | c :: t => c :: unescapeBrackets t
  | [] => []

def shownPlain (t : Text) : Text := draw (unescapeBrackets t)

/-- What pieces show, after the plain text `run`, which is read backwards. Half of the backslashes
before a tag remain; one over makes the tag plain text. -/
def shownAfter (opened : List Opened) (run : Text) : List Piece → Except Fault Text
  | [] => .ok (shownPlain run.reverse)
  | .plain c :: ps => shownAfter opened (c :: run) ps
  | .tag n body :: ps => do
      let before := shownPlain run.reverse ++ List.replicate (n / 2) '\\'
      if n % 2 = 1 then
        return before ++ shownPlain ('[' :: body ++ [']']) ++ (← shownAfter opened [] ps)
      else return before ++ (← shownAfter (← meet body opened) [] ps)

def shown (t : Text) : Except Fault Text := shownAfter [] [] (pieces t)

end ScriptSplit.Markup
