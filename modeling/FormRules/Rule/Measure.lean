import FormRules.Number.Numeral
import FormRules.Number.Quantity
import FormRules.Number.Shortest
import FormRules.Rule.Predicate
import FormRules.Value.Literal

/-!
What rules measure and compare: numbers, sizes and texts of values.

Numbers and numerals are numeric; truth values are not. A numeral of digits only is read exactly
up to 4300 digits, any other as a floating-point number. What is not numeric is measured by its
size.
-/

namespace FormRules

open FormRules.Number
open FormRules.Text

namespace Number.Numeral

def real
    (numeral : Numeral) :
    Binary64 :=
  .ofDecimal numeral.negative numeral.significand numeral.scale

def quantity
    (numeral : Numeral) :
    Quantity :=
  if numeral.isWhole && numeral.whole.length ≤ integerDigitLimit then .integer numeral.integer
  else .real numeral.real

end Number.Numeral

namespace Value

def isNumeric :
    Value → Bool
  | integer _ => true
  | real _ => true
  | text value => (Numeral.read? value.toList).isSome
  | _ => false

/-- The quantity of a text, if it is a numeral. Information separators around a numeral are a
fault, for they are blank and yet not skipped by the reader of numbers. -/
def quantityOfText
    (text : String) :
    Except Fault (Option Quantity) :=
  match Numeral.read? text.toList with
  | none => .ok none
  | some numeral =>
      if text.toList.any isInformationSeparator then .error (.unreadableNumber text)
      else .ok (some numeral.quantity)

def toQuantity :
    Value → Except Fault (Option Quantity)
  | integer value => .ok (some (.integer value))
  | real value => .ok (some (.real value))
  | text value => quantityOfText value
  | _ => .ok none

/-- The quantity of a numeric value, the size of a text, a list, a tuple or a mapping, and nothing
for others. -/
def measure
    (value : Value) :
    Except Fault (Option Quantity) :=
  if value.isNumeric then value.toQuantity
  else .ok (value.size?.map fun size => .integer size)

/-- Equality that is not strict about kinds: null is equal to whatever does not count as present,
and numeric values are equal as numbers. -/
def looselyEquals
    (left right : Value) :
    Except Fault Bool :=
  if left.isNull || right.isNull then .ok (!left.isTrue && !right.isTrue)
  else if left.isNumeric && right.isNumeric then
    match left.toQuantity, right.toQuantity with
    | .error fault, _ => .error fault
    | _, .error fault => .error fault
    | .ok (some leftQuantity), .ok (some rightQuantity) =>
        .ok (leftQuantity.equals rightQuantity)
    | _, _ => .ok false
  else .ok (left.equals right)

/-- The outcome of comparing a value with itself in that way. Whatever is not numeric is equal to
itself, even if it holds something that is not. -/
def looselyEqualsItself
    (value : Value) :
    Except Fault Bool :=
  if value.isNumeric then value.looselyEquals value else .ok true

/-- The text that a pattern is matched against: a text, or a number in decimal notation. Values
that do not count as present and truth values have none. -/
def matchedText
    (value : Value) :
    Except Fault (Option (List Char)) :=
  if value.isTrue then
    match value with
    | text value => .ok (some value.toList)
    | integer value =>
        if isTooLong value then .error .integerTooLong
        else .ok (some (integerText value))
    | real value => .ok (some value.text)
    | _ => .ok none
  else .ok none

end Value

end FormRules
