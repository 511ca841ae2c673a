import ScriptSplit.Settings.Number
import ScriptSplit.Settings.Value
import ScriptSplit.Text.Digit

/-!
The words of TOML: blanks and comments, strings, keys, numbers and points in time. Every reader takes
a text and gives what it read with the rest of the text, or nothing if the text does not begin so.
-/

namespace ScriptSplit.Toml

abbrev Reader (α : Type) := Text → Option (α × Text)

def isIllegal (c : Char) : Bool := (c.toNat < 0x20 || c.toNat == 0x7F) && c != '\t'

def isBlank (c : Char) : Bool := c == ' ' || c == '\t'

def skipBlanks (t : Text) : Text := t.dropWhile isBlank

def skipComment : Text → Option Text
  | '#' :: t =>
      if (t.takeWhile (· != '\n')).any isIllegal then none else some (t.dropWhile (· != '\n'))
  | t => some t

def skipLines : Nat → Text → Option Text
  | 0, _ => none
  | fuel + 1, t =>
      match t.dropWhile fun c => isBlank c || c == '\n' with
      | '#' :: rest => do skipLines fuel (← skipComment ('#' :: rest))
      | rest => some rest

def hexDigit? (c : Char) : Option Nat :=
  if '0' ≤ c ∧ c ≤ '9' then some (c.toNat - '0'.toNat)
  else if 'a' ≤ c ∧ c ≤ 'f' then some (c.toNat - 'a'.toNat + 10)
  else if 'A' ≤ c ∧ c ≤ 'F' then some (c.toNat - 'A'.toNat + 10)
  else none

def hexNumber? (digits : Text) : Option Nat :=
  digits.foldlM (fun n c => do return n * 16 + (← hexDigit? c)) 0

def hexChar (width : Nat) : Reader Char := fun t => do
  let digits := t.take width
  if digits.length < width then none
  let n ← hexNumber? digits
  if n < 0xD800 ∨ (0xDFFF < n ∧ n < 0x110000) then return (Char.ofNat n, t.drop width) else none

def escape : Reader Char
  | 'b' :: t => some ('\x08', t)
  | 't' :: t => some ('\t', t)
  | 'n' :: t => some ('\n', t)
  | 'f' :: t => some ('\x0c', t)
  | 'r' :: t => some ('\r', t)
  | '"' :: t => some ('"', t)
  | '\\' :: t => some ('\\', t)
  | 'u' :: t => hexChar 4 t
  | 'U' :: t => hexChar 8 t
  | _ => none

def basicLine : Nat → Reader Text
  | 0, _ => none
  | fuel + 1, t =>
      match t with
      | [] => none
      | '"' :: rest => some ([], rest)
      | '\\' :: rest => do
          let (c, rest) ← escape rest
          let (cs, rest) ← basicLine fuel rest
          return (c :: cs, rest)
      | c :: rest => do
          if isIllegal c then none
          let (cs, rest) ← basicLine fuel rest
          return (c :: cs, rest)

/-- After a backslash that ends a line, blanks and ends of lines up to the next character. -/
def continueLine (t : Text) : Option Text :=
  match skipBlanks t with
  | [] => some []
  | '\n' :: rest => some (rest.dropWhile fun c => isBlank c || c == '\n')
  | _ => none

def basicLines : Nat → Reader Text
  | 0, _ => none
  | fuel + 1, t =>
      match t with
      | [] => none
      | '"' :: '"' :: '"' :: rest => some ([], rest)
      | '\\' :: c :: rest =>
          if isBlank c || c == '\n' then do basicLines fuel (← continueLine (c :: rest))
          else do
            let (c, rest) ← escape (c :: rest)
            let (cs, rest) ← basicLines fuel rest
            return (c :: cs, rest)
      | c :: rest => do
          if isIllegal c && c != '\n' || c == '\\' then none
          let (cs, rest) ← basicLines fuel rest
          return (c :: cs, rest)

def literalLine : Reader Text := fun t =>
  let inside := t.takeWhile (· != '\'')
  match t.dropWhile (· != '\'') with
  | '\'' :: rest => if inside.any isIllegal then none else some (inside, rest)
  | _ => none

def literalLines : Reader Text
  | [] => none
  | '\'' :: '\'' :: '\'' :: rest => some ([], rest)
  | c :: rest => do
      if isIllegal c && c != '\n' then none
      let (cs, rest) ← literalLines rest
      return (c :: cs, rest)

/-- Up to two more quotes after the closing three belong to the string. -/
def withQuotes (quote : Char) : Text × Text → Text × Text
  | (s, a :: b :: rest) =>
      if a = quote then
        if b = quote then (s ++ [a, b], rest) else (s ++ [a], b :: rest)
      else (s, a :: b :: rest)
  | (s, [a]) => if a = quote then (s ++ [a], []) else (s, [a])
  | (s, []) => (s, [])

/-- The end of a line right after three opening quotes does not count. -/
def dropLineEnd : Text → Text
  | '\n' :: t => t
  | t => t

def stringValue : Reader Text
  | '"' :: '"' :: '"' :: t => (basicLines (t.length + 1) (dropLineEnd t)).map (withQuotes '"')
  | '"' :: t => basicLine (t.length + 1) t
  | '\'' :: '\'' :: '\'' :: t => (literalLines (dropLineEnd t)).map (withQuotes '\'')
  | '\'' :: t => literalLine t
  | _ => none

def isBareKey (c : Char) : Bool := c.isAlphanum || c == '-' || c == '_'

def keyPart : Reader String
  | '"' :: t => (basicLine (t.length + 1) t).map fun (s, rest) => (String.ofList s, rest)
  | '\'' :: t => (literalLine t).map fun (s, rest) => (String.ofList s, rest)
  | t =>
      match t.takeWhile isBareKey with
      | [] => none
      | name => some (String.ofList name, t.dropWhile isBareKey)

def key : Nat → Reader (List String)
  | 0, _ => none
  | fuel + 1, t => do
      let (part, rest) ← keyPart t
      match skipBlanks rest with
      | '.' :: rest => do
          let (parts, rest) ← key fuel (skipBlanks rest)
          return (part :: parts, rest)
      | rest => return ([part], rest)

def numeral (base : Nat) (ds : Text) : Nat :=
  ds.foldl (fun n c => n * base + (hexDigit? c).getD 0) 0

def radix (base : Nat) (isDigit : Char → Bool) : Reader Value := fun t => do
  let (ds, rest) ← Text.digits? isDigit t
  return (.int (numeral base ds), rest)

def sign : Text → Bool × Text
  | '-' :: t => (true, t)
  | '+' :: t => (false, t)
  | t => (false, t)

/-- No zero in front of other digits. -/
def wholeDigits : Reader Text
  | '0' :: t => some (['0'], t)
  | t => Text.digits? Char.isDigit t

def fractionDigits : Text → Text × Text
  | '.' :: t => (Text.digits? Char.isDigit t).getD ([], '.' :: t)
  | t => ([], t)

def exponentPart : Text → Option Int × Text
  | c :: t =>
      if c = 'e' ∨ c = 'E' then
        let (negative, ds) := sign t
        match Text.digits? Char.isDigit ds with
        | some (ds, rest) =>
            let n : Int := numeral 10 ds
            (some (if negative then -n else n), rest)
        | none => (none, c :: t)
      else (none, c :: t)
  | [] => (none, [])

inductive Fault where
  | misread
  | overlong (error : Text.NumeralError)
  deriving DecidableEq, Repr

def wholeNumber (negative : Bool) (ds : Text) : Except Fault Value := do
  let n ← (Text.numeral ds).mapError .overlong
  return .int (if negative then -n else n)

/-- A decimal number. One with too many digits is a fault of its own: no other reading is tried. -/
def decimal : Reader (Except Fault Value) := fun t => do
  let (negative, t) := sign t
  let (whole, t) ← wholeDigits t
  let (places, t) := fractionDigits t
  let (exponent, t) := exponentPart t
  if places.isEmpty && exponent.isNone then return (wholeNumber negative whole, t)
  else
    let digits := numeral 10 (whole ++ places)
    let d : Decimal := ⟨negative, digits, exponent.getD 0 - places.length⟩
    return (.ok (.fraction d.whole?), t)

def isHexDigit (c : Char) : Bool := (hexDigit? c).isSome

def number (t : Text) : Option (Except Fault Value × Text) :=
  let radixed : Option (Value × Text) := match t with
    | '0' :: 'x' :: t => radix 16 isHexDigit t
    | '0' :: 'b' :: t => radix 2 (fun c => c == '0' || c == '1') t
    | '0' :: 'o' :: t => radix 8 (fun c => '0' ≤ c && c ≤ '7') t
    | _ => none
  match radixed with
  | some (v, rest) => some (.ok v, rest)
  | none => decimal t

def unbounded : Reader Value := fun t =>
  match (sign t).2 with
  | 'i' :: 'n' :: 'f' :: rest => some (.fraction none, rest)
  | 'n' :: 'a' :: 'n' :: rest => some (.fraction none, rest)
  | _ => none

def fixedDigits (width : Nat) : Reader Nat := fun t =>
  let ds := t.take width
  if ds.length = width ∧ ds.all Char.isDigit then some (numeral 10 ds, t.drop width) else none

def expect (c : Char) : Text → Option Text
  | d :: t => if d = c then some t else none
  | [] => none

def twoDigits (lo hi : Nat) : Reader Nat := fun t => do
  let (n, rest) ← fixedDigits 2 t
  if lo ≤ n ∧ n ≤ hi then return (n, rest) else none

def skipFraction : Text → Text
  | '.' :: c :: t => if c.isDigit then t.dropWhile Char.isDigit else '.' :: c :: t
  | t => t

def timeOfDay (t : Text) : Option Text := do
  let (_, t) ← twoDigits 0 23 t
  let (_, t) ← twoDigits 0 59 (← expect ':' t)
  let (_, t) ← twoDigits 0 59 (← expect ':' t)
  return skipFraction t

def zoneOffset (t : Text) : Option Text := do
  let (_, t) ← twoDigits 0 23 t
  let (_, t) ← twoDigits 0 59 (← expect ':' t)
  return t

def skipZone : Text → Text
  | 'Z' :: t => t
  | 'z' :: t => t
  | '+' :: t => (zoneOffset t).getD ('+' :: t)
  | '-' :: t => (zoneOffset t).getD ('-' :: t)
  | t => t

def skipTime : Text → Text
  | c :: t =>
      if c = 'T' ∨ c = 't' ∨ c = ' ' then ((timeOfDay t).map skipZone).getD (c :: t) else c :: t
  | [] => []

def daysIn (year month : Nat) : Nat :=
  if month = 2 then
    if year % 4 = 0 ∧ (year % 100 ≠ 0 ∨ year % 400 = 0) then 29 else 28
  else if [4, 6, 9, 11].contains month then 30 else 31

def dateParts : Reader (Nat × Nat × Nat) := fun t => do
  let (year, t) ← fixedDigits 4 t
  let (month, t) ← twoDigits 1 12 (← expect '-' t)
  let (day, t) ← twoDigits 1 31 (← expect '-' t)
  return ((year, month, day), t)

/-- A date, with or without a time; a day that its month does not have spoils everything. -/
def moment (t : Text) : Option (Option Text) :=
  match dateParts t with
  | some ((year, month, day), rest) =>
      some (if 1 ≤ year ∧ day ≤ daysIn year month then some (skipTime rest) else none)
  | none => (timeOfDay t).map some

end ScriptSplit.Toml
