namespace ScriptSplit

/-- The number `± digits * 10 ^ exponent`. -/
structure Decimal where
  negative : Bool
  digits : Nat
  exponent : Int
  deriving DecidableEq, Repr

/-- A quotient to the nearest whole number; a half goes to the even one. -/
def roundQuotient (num den : Nat) : Nat :=
  let q := num / den
  let twice := 2 * (num % den)
  if twice < den then q
  else if den < twice then q + 1
  else q + q % 2

/-- The number `significand * 2 ^ exponent`. -/
structure Double where
  significand : Nat
  exponent : Int
  deriving DecidableEq, Repr

namespace Double

/-- The exponent of two that leaves a significand of 53 bits for a quotient, and never less than
the least. -/
def exponentFor (num den : Nat) : Int :=
  let k : Int := (num.log2 : Int) - den.log2
  let atLeast : Bool :=
    if 0 ≤ k then den * Nat.pow 2 k.toNat ≤ num else den ≤ num * Nat.pow 2 (-k).toNat
  max (-1074) ((if atLeast then k else k - 1) - 52)

def ofQuotient (num den : Nat) : Double :=
  let e := exponentFor num den
  let m :=
    if 0 ≤ e then roundQuotient num (den * Nat.pow 2 e.toNat)
    else roundQuotient (num * Nat.pow 2 (-e).toNat) den
  ⟨m, e⟩

def whole? (d : Double) : Option Nat :=
  if 0 ≤ d.exponent then
    let n := d.significand * Nat.pow 2 d.exponent.toNat
    if n < Nat.pow 2 1024 then some n else none
  else
    let unit := Nat.pow 2 (-d.exponent).toNat
    if d.significand % unit = 0 then some (d.significand / unit) else none

end Double

namespace Decimal

/-- The value of the nearest double, if it is finite and whole. What is far too great is not finite,
and what is far too little is zero. -/
def whole? (d : Decimal) : Option Int :=
  let size : Option Nat :=
    if d.digits = 0 ∨ d.exponent + (d.digits.log2 / 3 + 1 : Nat) < -400 then some 0
    else if 400 < d.exponent then none
    else if 0 ≤ d.exponent then (Double.ofQuotient (d.digits * Nat.pow 10 d.exponent.toNat) 1).whole?
    else (Double.ofQuotient d.digits (Nat.pow 10 (-d.exponent).toNat)).whole?
  size.map fun n => if d.negative then -n else n

end Decimal

end ScriptSplit
