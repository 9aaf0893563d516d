import FormRules.Number.Numeral
import FormRules.Number.Shortest
import FormRules.Text.Quoted
import FormRules.Time.IsoText
import FormRules.Value.Basic

/-!
Values as literals.

`Value.literal` shows a value so that its kind can be told: texts are quoted, a tuple of one
element has a comma after it, and a moment is shown by its parts. `Value.isShowable` says whether
all integers in a value are short enough to be written at all.
-/

namespace FormRules

open FormRules.Number
open FormRules.Text
open FormRules.Time

def commaSeparated :
    List (List Char) → List Char
  | [] => []
  | [single] => single
  | first :: second :: rest => first ++ ',' :: ' ' :: commaSeparated (second :: rest)

def integerText
    (value : Int) :
    List Char :=
  if value < 0 then '-' :: decimalNumeral value.natAbs else decimalNumeral value.natAbs

/-- Parts of a moment or a duration, the trailing zeros left out down to the given number. -/
def withoutTrailingZeros
    (kept : Nat) (parts : List Nat) :
    List Nat :=
  let written := (parts.reverse.dropWhile (· == 0)).reverse
  parts.take (max kept written.length)

def offsetLiteral
    (offset : Int) :
    List Char :=
  let days := offset / 86400000000
  let within := (offset % 86400000000).toNat
  let named :=
    [("days=", days), ("seconds=", (within / 1000000 : Nat)),
      ("microseconds=", (within % 1000000 : Nat))].filter fun part => part.2 != 0
  if offset = 0 then "datetime.timezone.utc".toList
  else
    "datetime.timezone(datetime.timedelta(".toList ++
      commaSeparated (named.map fun part => part.1.toList ++ integerText part.2) ++ "))".toList

/-- A moment as a literal: year, month, day, hour, minute, and what else is not zero. -/
def momentLiteral
    (moment : Moment) :
    List Char :=
  let date := Date.ofNumber moment.day
  let seconds := moment.microsecond / 1000000
  let parts := withoutTrailingZeros 5
    [date.year, date.month, date.day, seconds / 3600, seconds / 60 % 60, seconds % 60,
      moment.microsecond % 1000000]
  "datetime.datetime(".toList ++ commaSeparated (parts.map decimalNumeral) ++
    (match moment.offset with
      | none => []
      | some offset => ", tzinfo=".toList ++ offsetLiteral offset) ++ [')']

namespace Value

mutual

def literal :
    Value → List Char
  | null => "None".toList
  | boolean value => (if value then "True" else "False").toList
  | integer value => integerText value
  | real value => value.text
  | text value => quoted value.toList
  | bytes value => quotedBytes value
  | list items => '[' :: commaSeparated (literals items) ++ [']']
  | tuple items =>
      '(' :: commaSeparated (literals items) ++ (if items.length = 1 then [',', ')'] else [')'])
  | mapping entries => '\x7b' :: commaSeparated (entryLiterals entries) ++ ['\x7d']
  | set members =>
      if members.isEmpty then "frozenset()".toList
      else "frozenset(\x7b".toList ++ commaSeparated (literals members) ++ "\x7d)".toList
  | moment value => momentLiteral value
  | object _ shown => shown.toList

def literals :
    List Value → List (List Char)
  | [] => []
  | value :: values => literal value :: literals values

def entryLiterals :
    List (Value × Value) → List (List Char)
  | [] => []
  | (key, value) :: entries =>
      (literal key ++ ':' :: ' ' :: literal value) :: entryLiterals entries

end

/-- An integer has too many digits to be written. -/
def isTooLong
    (value : Int) :
    Bool :=
  Nat.pow 10 integerDigitLimit ≤ value.natAbs

mutual

/-- The value can be shown: no integer in it has too many digits. -/
def isShowable :
    Value → Bool
  | integer value => !isTooLong value
  | list items => allShowable items
  | tuple items => allShowable items
  | set members => allShowable members
  | mapping entries => allEntriesShowable entries
  | _ => true

def allShowable :
    List Value → Bool
  | [] => true
  | value :: values => isShowable value && allShowable values

def allEntriesShowable :
    List (Value × Value) → Bool
  | [] => true
  | (key, value) :: entries => isShowable key && isShowable value && allEntriesShowable entries

end

/-- The value as plain text: a text as it is, any other value as its literal. -/
def plainText :
    Value → String
  | text value => value
  | value => String.ofList value.literal

end Value

end FormRules
