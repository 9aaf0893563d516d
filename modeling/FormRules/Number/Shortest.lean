import FormRules.Number.Binary64
import FormRules.Text.Digit

/-!
The text of a floating-point number.

A number is written with the fewest decimal digits that read back as the same number, and of
those digits the ones nearest to it. The point is placed among the digits for magnitudes from
10⁻⁴ up to 10¹⁶; others are written with an exponent of at least two digits.
-/

namespace FormRules.Number

open FormRules.Text

/-- The magnitude `significand * 10 ^ exponent`. -/
structure Decimal where
  significand : Nat
  exponent : Int
  deriving DecidableEq, Repr

namespace Decimal

def units
    (decimal : Decimal) :
    Nat :=
  if 0 ≤ decimal.exponent then
    roundedUnits (decimal.significand * Nat.pow 10 decimal.exponent.toNat) 1
  else roundedUnits decimal.significand (Nat.pow 10 (-decimal.exponent).toNat)

/-- The decimal with the zeros at the end of its significand moved to the exponent. The first
argument bounds their number. -/
def stripZeros :
    Nat → Decimal → Decimal
  | 0, decimal => decimal
  | bound + 1, decimal =>
      if decimal.significand ≠ 0 ∧ decimal.significand % 10 = 0 then
        stripZeros bound ⟨decimal.significand / 10, decimal.exponent + 1⟩
      else decimal

end Decimal

def tenPowerFits
    (units : Nat) (exponent : Int) :
    Bool :=
  if 0 ≤ exponent then Nat.pow 10 exponent.toNat * unitsPerOne ≤ units
  else unitsPerOne ≤ units * Nat.pow 10 (-exponent).toNat

/-- The exponent of the highest power of ten that is at most a positive magnitude. -/
def leadingExponent
    (units : Nat) :
    Int :=
  let estimate := ((Nat.log2 units : Int) - 1074) * 30103 / 100000
  if tenPowerFits units (estimate + 1) then estimate + 1
  else if tenPowerFits units estimate then estimate
  else estimate - 1

/-- The decimal with the given exponent nearest to a magnitude among the two around it that read
back as the magnitude. -/
def nearestReadingBack?
    (units : Nat) (exponent : Int) :
    Option Decimal :=
  let numerator := if 0 ≤ exponent then units else units * Nat.pow 10 (-exponent).toNat
  let denominator :=
    if 0 ≤ exponent then unitsPerOne * Nat.pow 10 exponent.toNat else unitsPerOne
  let below : Decimal := ⟨numerator / denominator, exponent⟩
  let above : Decimal := ⟨numerator / denominator + 1, exponent⟩
  let nearer := if roundHalfEven numerator denominator = below.significand then below else above
  let farther := if roundHalfEven numerator denominator = below.significand then above else below
  if nearer.units = units then some nearer
  else if farther.units = units then some farther
  else none

/-- The shortest decimal that reads back as a positive magnitude, without zeros at its end. -/
def shortestDecimal
    (units : Nat) :
    Decimal :=
  let leading := leadingExponent units
  let found :=
    (List.range 17).findSome? fun extra : Nat => nearestReadingBack? units (leading - extra)
  (found.getD ⟨units, -1074⟩).stripZeros 17

/-- An exponent, with its sign and at least two digits. -/
def exponentText
    (exponent : Int) :
    List Char :=
  'e' :: (if exponent < 0 then '-' else '+') :: paddedNumeral 2 exponent.natAbs

/-- A positive decimal, the point placed among the digits or an exponent added. -/
def decimalText
    (decimal : Decimal) :
    List Char :=
  let digits := decimalNumeral decimal.significand
  let point := digits.length + decimal.exponent
  if -4 < point ∧ point ≤ 0 then
    '0' :: '.' :: List.replicate (-point).toNat '0' ++ digits
  else if 0 < point ∧ point ≤ 16 then
    if digits.length ≤ point then
      digits ++ List.replicate decimal.exponent.toNat '0' ++ ['.', '0']
    else digits.take point.toNat ++ '.' :: digits.drop point.toNat
  else
    let fraction := digits.drop 1
    digits.take 1 ++ (if fraction.isEmpty then [] else '.' :: fraction) ++
      exponentText (point - 1)

namespace Binary64

def text :
    Binary64 → List Char
  | nan => ['n', 'a', 'n']
  | infinite negative => (if negative then ['-'] else []) ++ ['i', 'n', 'f']
  | finite negative units =>
      (if negative then ['-'] else []) ++
        (if units = 0 then ['0', '.', '0'] else decimalText (shortestDecimal units))

end Binary64

end FormRules.Number
