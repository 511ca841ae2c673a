import ScriptSplit.Text.Utf8
import ScriptSplit.Text.Word

/-!
Literal values in the parameters of tags: numbers, texts, constants, tuples, sets and tables. Only
whether a text writes a value matters, so a value is known by its shape alone.
-/

namespace ScriptSplit.Markup.Literal

inductive Token where
  | number (imaginary : Bool)
  | text (bytes : Bool)
  | word (name : Text)
  | sign (c : Char)
  | lineEnd
  deriving DecidableEq, Repr

def isHex (c : Char) : Bool :=
  c.isDigit || ('a' ≤ c && c ≤ 'f') || ('A' ≤ c && c ≤ 'F')

def ended (token : Token) : Text → Option (Token × Text)
  | [] => some (token, [])
  | c :: t => if Text.isIdentifierPart c then none else some (token, c :: t)

def radixNumber (isDigit : Char → Bool) (t : Text) : Option (Token × Text) := do
  let (_, rest) ← Text.digits? isDigit (match t with
    | '_' :: t => t
    | t => t)
  ended (.number false) rest

def places : Text → Bool × Text × Text
  | '.' :: t =>
      let (ds, rest) := (Text.digits? Char.isDigit t).getD ([], t)
      (true, ds, rest)
  | t => (false, [], t)

def afterExponent? : Text → Option Text
  | c :: t =>
      if c = 'e' ∨ c = 'E' then
        (Text.digits? Char.isDigit (match t with
          | '+' :: t => t
          | '-' :: t => t
          | t => t)).map Prod.snd
      else none
  | [] => none

/-- Whether digits write a whole number: zeros stand before no others, and there are not too many. -/
def isWhole (ds : Text) : Bool :=
  ds.length ≤ Text.digitLimit && (ds.head? != some '0' || ds.all (· == '0'))

def decimalNumber (t : Text) : Option (Token × Text) := do
  let (whole, t) := (Text.digits? Char.isDigit t).getD ([], t)
  let (point, part, t) := places t
  if whole = [] ∧ part = [] then none
  let exponent := afterExponent? t
  match exponent.getD t with
  | 'j' :: t => ended (.number true) t
  | 'J' :: t => ended (.number true) t
  | t =>
      if !point && exponent.isNone && !isWhole whole then none
      else ended (.number false) t

def number : Text → Option (Token × Text)
  | '0' :: c :: t =>
      if c = 'x' ∨ c = 'X' then radixNumber isHex t
      else if c = 'o' ∨ c = 'O' then radixNumber (fun d => '0' ≤ d && d ≤ '7') t
      else if c = 'b' ∨ c = 'B' then radixNumber (fun d => d == '0' || d == '1') t
      else decimalNumber ('0' :: c :: t)
  | t => decimalNumber t

structure Writing where
  raw : Bool
  bytes : Bool
  deriving DecidableEq, Repr

def Writing.ofLetters? (letters : Text) : Option Writing :=
  match String.ofList (letters.map Char.toLower) with
  | "" => some ⟨false, false⟩
  | "u" => some ⟨false, false⟩
  | "r" => some ⟨true, false⟩
  | "b" => some ⟨false, true⟩
  | "br" => some ⟨true, true⟩
  | "rb" => some ⟨true, true⟩
  | _ => none

def hexCode (width : Nat) (t : Text) : Option (Nat × Text) :=
  let ds := t.take width
  if ds.length = width ∧ ds.all isHex then
    let digit (c : Char) : Nat := if c.isDigit then c.toNat - 48 else c.toLower.toNat - 87
    some (ds.foldl (fun n c => n * 16 + digit c) 0, t.drop width)
  else none

def afterName (t : Text) : Option Text :=
  let name := t.takeWhile fun c => c.isAlphanum || c == ' ' || c == '-'
  match t.drop name.length with
  | '\x7d' :: rest => if name = [] then none else some rest
  | _ => none

def afterEscape (w : Writing) : Text → Option Text
  | [] => none
  | c :: t =>
      if w.bytes && c.toNat ≥ 128 then none
      else if w.raw then some t
      else if c = 'x' then (hexCode 2 t).map Prod.snd
      else if w.bytes then some t
      else if c = 'u' then (hexCode 4 t).map Prod.snd
      else if c = 'U' then (hexCode 8 t).bind fun (n, t) => if n < 0x110000 then some t else none
      else if c = 'N' then
        match t with
        | '\x7b' :: t => afterName t
        | _ => none
      else some t

def afterQuoted (w : Writing) (quotes : Text) : Nat → Text → Option Text
  | 0, _ => none
  | _ + 1, [] => none
  | fuel + 1, c :: t =>
      if quotes.isPrefixOf (c :: t) then some (t.drop (quotes.length - 1))
      else if c = '\\' then (afterEscape w t).bind (afterQuoted w quotes fuel)
      else if c = '\n' ∧ quotes.length = 1 then none
      else if w.bytes && c.toNat ≥ 128 then none
      else afterQuoted w quotes fuel t

def quotedText (w : Writing) (quote : Char) (t : Text) : Option (Token × Text) :=
  let triple := List.replicate 3 quote
  let quotes := if triple.isPrefixOf t then triple else [quote]
  (afterQuoted w quotes (t.length + 1) (t.drop quotes.length)).map fun rest =>
    (.text w.bytes, rest)

def isQuote (c : Char) : Bool := c == '"' || c == '\''

def startsNumber : Text → Bool
  | '.' :: c :: _ => c.isDigit
  | c :: _ => c.isDigit
  | [] => false

def wordOrText (t : Text) : Option (Token × Text) :=
  let name := t.takeWhile Text.isIdentifierPart
  match t.drop name.length with
  | q :: rest =>
      if isQuote q then (Writing.ofLetters? name).bind fun w => quotedText w q (q :: rest)
      else some (.word name, q :: rest)
  | [] => some (.word name, [])

def tokens : Nat → Text → Option (List Token)
  | 0, _ => none
  | fuel + 1, t =>
      let next (step : Option (Token × Text)) : Option (List Token) := do
        let (token, rest) ← step
        return token :: (← tokens fuel rest)
      match t with
      | [] => some []
      | '\n' :: rest => next (some (.lineEnd, rest))
      | '\\' :: '\n' :: rest => tokens fuel rest
      | '#' :: rest => tokens fuel (rest.dropWhile (· != '\n'))
      | '.' :: '.' :: '.' :: rest => next (some (.word "...".toList, rest))
      | c :: rest =>
          if c = ' ' ∨ c = '\t' ∨ c = '\x0c' then tokens fuel rest
          else if startsNumber t then next (number t)
          else if isQuote c || Text.isIdentifierStart c then next (wordOrText t)
          else next (some (.sign c, rest))

/-- Within brackets the end of a line does not count. -/
def joinLines (depth : Nat) : List Token → List Token
  | [] => []
  | .lineEnd :: ts => if depth = 0 then .lineEnd :: joinLines depth ts else joinLines depth ts
  | .sign c :: ts =>
      let depth :=
        if c = '(' ∨ c = '\x7b' then depth + 1
        else if c = ')' ∨ c = '\x7d' then depth - 1
        else depth
      .sign c :: joinLines depth ts
  | token :: ts => token :: joinLines depth ts

/-- The shape of a value: a number is real or imaginary and may have a sign before it; of the rest
it counts whether a set may have it as a member. -/
inductive Shape where
  | real (signed : Bool)
  | imaginary (signed : Bool)
  | member
  | container
  deriving DecidableEq, Repr

def Shape.tuple (parts : List Shape) : Shape :=
  if parts.contains .container then .container else .member

def Shape.signed? : Shape → Option Shape
  | .real false => some (.real true)
  | .imaginary false => some (.imaginary true)
  | _ => none

def Shape.sum? : Shape → Shape → Option Shape
  | .real _, .imaginary false => some .member
  | _, _ => none

def isAdditive (c : Char) : Bool := c == '+' || c == '-'

def isConstant (name : Text) : Bool :=
  ["None", "True", "False", "..."].contains (String.ofList name)

def endsList : List Token → Bool
  | .sign c :: _ => c == ')' || c == '\x7d'
  | .lineEnd :: _ => true
  | [] => true
  | _ => false

abbrev Parser (α : Type) := List Token → Option (α × List Token)

mutual

def operand : Nat → Parser Shape
  | 0, _ => none
  | fuel + 1, ts =>
      match ts with
      | .number true :: ts => some (.imaginary false, ts)
      | .number false :: ts => some (.real false, ts)
      | .text bytes :: ts =>
          let rest := ts.dropWhile (· == .text bytes)
          if rest.head? = some (.text !bytes) then none else some (.member, rest)
      | .word name :: .sign '(' :: .sign ')' :: ts =>
          if name = "set".toList then some (.container, ts) else none
      | .word name :: ts => if isConstant name then some (.member, ts) else none
      | .sign '(' :: .sign ')' :: ts => some (.member, ts)
      | .sign '(' :: ts =>
          match values fuel ts with
          | some ((parts, comma), .sign ')' :: ts) =>
              match comma, parts with
              | false, [s] => some (s, ts)
              | _, _ => some (.tuple parts, ts)
          | _ => none
      | .sign '\x7b' :: .sign '\x7d' :: ts => some (.container, ts)
      | .sign '\x7b' :: ts => do
          let (first, ts) ← value fuel ts
          if first = .container then none
          match ts with
          | .sign ':' :: ts => do
              let (_, ts) ← value fuel ts
              moreEntries fuel ts
          | ts => moreMembers fuel ts
      | _ => none

def signedOperand : Nat → Parser Shape
  | 0, _ => none
  | fuel + 1, ts =>
      match ts with
      | .sign c :: rest =>
          if isAdditive c then do
            let (s, rest) ← operand fuel rest
            return (← s.signed?, rest)
          else operand fuel ts
      | ts => operand fuel ts

def value : Nat → Parser Shape
  | 0, _ => none
  | fuel + 1, ts => do
      let (left, ts) ← signedOperand fuel ts
      match ts with
      | .sign c :: rest =>
          if isAdditive c then do
            let (right, rest) ← operand fuel rest
            return (← left.sum? right, rest)
          else return (left, ts)
      | ts => return (left, ts)

def values : Nat → Parser (List Shape × Bool)
  | 0, _ => none
  | fuel + 1, ts => do
      let (s, ts) ← value fuel ts
      match ts with
      | .sign ',' :: ts =>
          if endsList ts then return (([s], true), ts)
          else do
            let ((ss, _), ts) ← values fuel ts
            return ((s :: ss, true), ts)
      | ts => return (([s], false), ts)

def moreMembers : Nat → Parser Shape
  | 0, _ => none
  | fuel + 1, ts =>
      match ts with
      | .sign '\x7d' :: ts => some (.container, ts)
      | .sign ',' :: .sign '\x7d' :: ts => some (.container, ts)
      | .sign ',' :: ts => do
          let (s, ts) ← value fuel ts
          if s = .container then none else moreMembers fuel ts
      | _ => none

def moreEntries : Nat → Parser Shape
  | 0, _ => none
  | fuel + 1, ts =>
      match ts with
      | .sign '\x7d' :: ts => some (.container, ts)
      | .sign ',' :: .sign '\x7d' :: ts => some (.container, ts)
      | .sign ',' :: ts => do
          let (key, ts) ← value fuel ts
          if key = .container then none
          match ts with
          | .sign ':' :: ts => do
              let (_, ts) ← value fuel ts
              moreEntries fuel ts
          | _ => none
      | _ => none

end

def isLiteral (t : Text) : Bool :=
  match tokens (t.length + 1) (Text.plainLines t) with
  | none => false
  | some ts =>
      let ts := (joinLines 0 ts).dropWhile (· == .lineEnd)
      match values (4 * ts.length + 4) ts with
      | some (_, rest) => rest.all (· == .lineEnd)
      | none => false

end ScriptSplit.Markup.Literal
