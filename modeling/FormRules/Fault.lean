import FormRules.Text.Quoted

/-!
Faults: the ways in which the evaluation of a rule breaks off.

A fault is neither a passed nor a failed rule. It leaves the run at once and reaches the caller
with a message of its own.
-/

namespace FormRules

open FormRules.Text

/-- What a fault is about: a wrong argument, a missing attribute or key, a wrong value, a number
beyond its bounds, a match that contradicts itself, or anything else that a custom rule raises. -/
inductive FaultKind where
  | argument
  | attribute
  | key
  | value
  | overflow
  | system
  | runtime
  deriving DecidableEq, Repr

/-- The cause of a fault. -/
inductive Fault where
  /-- A custom rule, or the construction of one, raised the text. -/
  | raised (kind : FaultKind) (text : String)
  /-- A dotted path begins with a point, so its module is relative to nothing. -/
  | relativePath (modulePart : String)
  /-- An integer has too many digits to be written as text. -/
  | integerTooLong
  /-- A numeral has too many digits to be read as an integer. -/
  | numeralTooLong (digits : Nat)
  /-- A numeral is surrounded by characters that no number reader skips. -/
  | unreadableNumber (text : String)
  /-- The instant of a time without offset on the first day of the calendar. -/
  | yearOutOfRange
  /-- A day before the first or after the last day of the calendar. -/
  | dateOutOfRange
  /-- A repetition count of a pattern is too large. -/
  | repetitionTooLarge
  /-- A pattern asks for ASCII and for Unicode characters at once. -/
  | clashingAlphabets
  /-- A group of a match ends before it begins. -/
  | crossedGroup
  /-- A function is given an argument by a name that it does not know. -/
  | unknownArgument (function name : String)
  /-- A function is given one argument twice. -/
  | repeatedArgument (function name : String)
  /-- A function is given more arguments by position than it takes; the bounds count the ones it
  needs at least and takes at most. -/
  | tooManyArguments (function : String) (least greatest given named : Nat)
  /-- A function is not given an argument that it needs. -/
  | missingArgument (function name : String)
  /-- A value of some kind has no attribute of the given name. -/
  | missingAttribute (kindName name : String)
  /-- A value of some kind has no elements to go through. -/
  | notIterable (kindName : String)
  /-- Values of two kinds have no order. -/
  | unordered (leftKind rightKind : String)
  /-- A mapping has no entry under the given key. -/
  | missingKey (key : String)
  deriving DecidableEq, Repr

namespace Fault

def kind :
    Fault → FaultKind
  | raised kind _ => kind
  | relativePath _ => .argument
  | integerTooLong => .value
  | numeralTooLong _ => .value
  | unreadableNumber _ => .value
  | yearOutOfRange => .value
  | dateOutOfRange => .overflow
  | repetitionTooLarge => .overflow
  | clashingAlphabets => .value
  | crossedGroup => .system
  | unknownArgument _ _ => .argument
  | repeatedArgument _ _ => .argument
  | tooManyArguments _ _ _ _ _ => .argument
  | missingArgument _ _ => .argument
  | missingAttribute _ _ => .attribute
  | notIterable _ => .argument
  | unordered _ _ => .argument
  | missingKey _ => .key

/-- The number of arguments that a function takes by position. -/
def boundsText
    (least greatest : Nat) :
    String :=
  if least = greatest then toString greatest
  else "from " ++ toString least ++ " to " ++ toString greatest

/-- What was given to a function by position, and how much more that it takes by name only. -/
def givenText
    (given named : Nat) :
    String :=
  if named = 0 then toString given
  else
    toString given ++ " positional arguments (and " ++ toString named ++
      " keyword-only argument" ++ (if named = 1 then ")" else "s)")

def message :
    Fault → String
  | raised _ text => text
  | relativePath modulePart =>
      "the 'package' argument is required to perform a relative import for " ++
        String.ofList (quoted modulePart.toList)
  | integerTooLong =>
      "Exceeds the limit (4300 digits) for integer string conversion; " ++
        "use sys.set_int_max_str_digits() to increase the limit"
  | numeralTooLong digits =>
      "Exceeds the limit (4300 digits) for integer string conversion: value has " ++
        toString digits ++ " digits; use sys.set_int_max_str_digits() to increase the limit"
  | unreadableNumber text =>
      "could not convert string to float: " ++ String.ofList (quoted text.toList)
  | yearOutOfRange => "year 0 is out of range"
  | dateOutOfRange => "date value out of range"
  | repetitionTooLarge => "the repetition number is too large"
  | clashingAlphabets => "ASCII and UNICODE flags are incompatible"
  | crossedGroup =>
      "The span of capturing group is wrong, please report a bug for the re module."
  | unknownArgument function name =>
      function ++ "() got an unexpected keyword argument '" ++ name ++ "'"
  | repeatedArgument function name =>
      function ++ "() got multiple values for argument '" ++ name ++ "'"
  | tooManyArguments function least greatest given named =>
      function ++ "() takes " ++ boundsText least greatest ++ " positional arguments but " ++
        givenText given named ++ " were given"
  | missingArgument function name =>
      function ++ "() missing 1 required positional argument: '" ++ name ++ "'"
  | missingAttribute kindName name =>
      "'" ++ kindName ++ "' object has no attribute '" ++ name ++ "'"
  | notIterable kindName => "'" ++ kindName ++ "' object is not iterable"
  | unordered leftKind rightKind =>
      "'<' not supported between instances of '" ++ leftKind ++ "' and '" ++ rightKind ++ "'"
  | missingKey key => String.ofList (quoted key.toList)

end Fault

end FormRules
