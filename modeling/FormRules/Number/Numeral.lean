import FormRules.Text.Blank
import FormRules.Text.Digit

/-!
Numerals in texts.

A numeral is an optional sign, then digits with an optional point and further digits, or a point
and digits, then an optional exponent. Digits may be of any script, and blanks may surround the
numeral.
-/

namespace FormRules.Number

open FormRules.Text

/-- The greatest number of digits that are read or written as an integer. -/
def integerDigitLimit :
    Nat :=
  4300

/-- The parts of a numeral. A point without digits after it leaves an empty fraction. -/
structure Numeral where
  negative : Bool
  whole : List Nat
  fraction : Option (List Nat)
  exponent : Option (Bool × List Nat)
  deriving DecidableEq, Repr

def readDigits :
    List Char → List Nat × List Char
  | [] => ([], [])
  | character :: rest =>
      match digitValue? character with
      | some value => (value :: (readDigits rest).1, (readDigits rest).2)
      | none => ([], character :: rest)

/-- The sign at the front of a text, true for a minus, and the rest. -/
def readSign :
    List Char → Bool × List Char
  | '-' :: rest => (true, rest)
  | '+' :: rest => (false, rest)
  | text => (false, text)

def readMantissa?
    (text : List Char) :
    Option ((List Nat × Option (List Nat)) × List Char) :=
  match readDigits text with
  | ([], '.' :: afterPoint) =>
      match readDigits afterPoint with
      | ([], _) => none
      | (fraction, rest) => some (([], some fraction), rest)
  | ([], _) => none
  | (whole, '.' :: afterPoint) =>
      some ((whole, some (readDigits afterPoint).1), (readDigits afterPoint).2)
  | (whole, rest) => some ((whole, none), rest)

/-- The exponent after its letter: an optional sign and at least one digit. -/
def readExponentDigits?
    (text : List Char) :
    Option (Option (Bool × List Nat) × List Char) :=
  match readDigits (readSign text).2 with
  | ([], _) => none
  | (digits, rest) => some (some ((readSign text).1, digits), rest)

def readExponent?
    (text : List Char) :
    Option (Option (Bool × List Nat) × List Char) :=
  match text with
  | 'e' :: rest => readExponentDigits? rest
  | 'E' :: rest => readExponentDigits? rest
  | _ => some (none, text)

namespace Numeral

/-- The numeral that a text consists of, blanks around it aside. -/
def read?
    (text : List Char) :
    Option Numeral :=
  let (negative, afterSign) := readSign (trimStart text)
  match readMantissa? afterSign with
  | none => none
  | some ((whole, fraction), afterMantissa) =>
      match readExponent? afterMantissa with
      | none => none
      | some (exponent, rest) =>
          if allBlank rest then some ⟨negative, whole, fraction, exponent⟩ else none

def valueOfDigits
    (digits : List Nat) :
    Nat :=
  digits.foldl (fun value digit => 10 * value + digit) 0

/-- The numeral has neither a point nor an exponent. -/
def isWhole
    (numeral : Numeral) :
    Bool :=
  numeral.fraction.isNone && numeral.exponent.isNone

def integer
    (numeral : Numeral) :
    Int :=
  if numeral.negative then -(valueOfDigits numeral.whole : Int)
  else valueOfDigits numeral.whole

/-- All digits of the numeral before its exponent, as one number. -/
def significand
    (numeral : Numeral) :
    Nat :=
  valueOfDigits (numeral.whole ++ numeral.fraction.getD [])

/-- The power of ten by which the significand is to be multiplied. -/
def scale
    (numeral : Numeral) :
    Int :=
  let written : Int :=
    match numeral.exponent with
    | none => 0
    | some (true, digits) => -(valueOfDigits digits : Int)
    | some (false, digits) => valueOfDigits digits
  written - (numeral.fraction.getD []).length

end Numeral

end FormRules.Number
