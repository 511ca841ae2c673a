import ScriptSplit.Text.Basic

/-!
Tags: a tag in square brackets styles what follows, and a backslash before a tag makes it plain text.
-/

namespace ScriptSplit.Markup

def opensTag (c : Char) : Bool :=
  ('a' ≤ c && c ≤ 'z') || c == '#' || c == '/' || c == '@'

def tagBody : Text → Option (Text × Text)
  | c :: t =>
      if opensTag c then
        match t.dropWhile fun d => d != ']' && d != '[' with
        | ']' :: rest => some (c :: t.takeWhile fun d => d != ']' && d != '[', rest)
        | _ => none
      else none
  | [] => none

inductive Piece where
  | plain (c : Char)
  | tag (backslashes : Nat) (body : Text)
  deriving DecidableEq, Repr

/-- Takes a text apart, with `held` backslashes already read and `skip` characters to pass over. -/
def piecesFrom (held skip : Nat) : Text → List Piece
  | [] => List.replicate held (.plain '\\')
  | c :: t =>
      match skip with
      | skip + 1 => piecesFrom held skip t
      | 0 =>
          if c = '\\' then piecesFrom (held + 1) 0 t
          else if c = '[' then
            match tagBody t with
            | some (body, _) => .tag held body :: piecesFrom 0 (body.length + 1) t
            | none => List.replicate held (.plain '\\') ++ .plain c :: piecesFrom 0 0 t
          else List.replicate held (.plain '\\') ++ .plain c :: piecesFrom 0 0 t

def pieces (t : Text) : List Piece := piecesFrom 0 0 t

def Piece.escaped : Piece → Text
  | .plain c => [c]
  | .tag n body => List.replicate (2 * n + 1) '\\' ++ '[' :: body ++ [']']

/-- A backslash at the very end would be taken for the escape of what comes after. -/
def guardEnd (t : Text) : Text :=
  match t.reverse with
  | ['\\'] => t ++ ['\\']
  | '\\' :: c :: _ => if c = '\\' then t else t ++ ['\\']
  | _ => t

def escape (t : Text) : Text := guardEnd ((pieces t).flatMap Piece.escaped)

end ScriptSplit.Markup

namespace ScriptSplit

def escapeMarkup (s : String) : String := String.ofList (Markup.escape s.toList)

end ScriptSplit
