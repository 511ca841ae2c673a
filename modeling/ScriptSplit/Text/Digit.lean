import ScriptSplit.Text.DigitRanges

/-!
Decimal digits of all scripts, and the numbers that they write. A number may be written with so many
digits and no more.
-/

namespace ScriptSplit.Text

def digitValue? (c : Char) : Option Nat :=
  (decimalDigits.find? fun r => r.1 ≤ c.toNat && c.toNat ≤ r.2).map fun r => (c.toNat - r.1) % 10

def isDigit (c : Char) : Bool := decimalDigits.holds c.toNat

def digitLimit : Nat := 4300

inductive NumeralError where
  | noDigits
  | tooLong (digits : Nat)
  deriving DecidableEq, Repr

def NumeralError.message : NumeralError → String
  | .noDigits => "invalid literal for int() with base 10: ''"
  | .tooLong n =>
      s!"Exceeds the limit ({digitLimit} digits) for integer string conversion: value has {n} " ++
        "digits; use sys.set_int_max_str_digits() to increase the limit"

def numeral (ds : Text) : Except NumeralError Nat :=
  if ds.isEmpty then .error .noDigits
  else if ds.length > digitLimit then .error (.tooLong ds.length)
  else .ok (ds.foldl (fun n c => n * 10 + (digitValue? c).getD 0) 0)

/-- The digits that a text goes on with, with single low lines between them, and what follows. -/
def moreDigits (isDigit : Char → Bool) : Text → Text × Text
  | [] => ([], [])
  | [c] => if isDigit c then ([c], []) else ([], [c])
  | c :: d :: t =>
      if isDigit c then
        let (ds, rest) := moreDigits isDigit (d :: t)
        (c :: ds, rest)
      else if c = '_' ∧ isDigit d then
        let (ds, rest) := moreDigits isDigit t
        (d :: ds, rest)
      else ([], c :: d :: t)

def digits? (isDigit : Char → Bool) : Text → Option (Text × Text)
  | c :: t =>
      if isDigit c then
        let (ds, rest) := moreDigits isDigit t
        some (c :: ds, rest)
      else none
  | [] => none

end ScriptSplit.Text
