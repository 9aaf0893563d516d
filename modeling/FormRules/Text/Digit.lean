/-!
Decimal digits of every script.

Each script that writes numbers in base ten has its ten digits in a row, so a digit is known by
the position of its row's zero.
-/

namespace FormRules.Text

/-- The code points of the digit zero, one for each row of ten digits. -/
def digitZeros :
    List Nat :=
  [
    48, 1632, 1776, 1984, 2406, 2534, 2662, 2790, 2918, 3046, 3174, 3302, 3430, 3558, 3664,
    3792, 3872, 4160, 4240, 6112, 6160, 6470, 6608, 6784, 6800, 6992, 7088, 7232, 7248, 42528,
    43216, 43264, 43472, 43504, 43600, 44016, 65296, 66720, 68912, 69734, 69872, 69942, 70096,
    70384, 70736, 70864, 71248, 71360, 71472, 71904, 72016, 72784, 73040, 73120, 92768, 92864,
    93008, 120782, 120792, 120802, 120812, 120822, 123200, 123632, 125264, 130032
  ]

/-- The value of a decimal digit of any script. -/
def digitValue?
    (character : Char) :
    Option Nat :=
  let code := character.toNat
  (digitZeros.find? fun rowZero => rowZero ≤ code && code < rowZero + 10).map (code - ·)

/-- A decimal digit of some script. -/
def isDigit
    (character : Char) :
    Bool :=
  (digitValue? character).isSome

def decimalNumeral
    (value : Nat) :
    List Char :=
  Nat.toDigits 10 value

def paddedNumeral
    (width value : Nat) :
    List Char :=
  let digits := decimalNumeral value
  List.replicate (width - digits.length) '0' ++ digits

end FormRules.Text
