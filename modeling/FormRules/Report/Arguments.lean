import FormRules.Fault
import FormRules.Report.Basic
import FormRules.Value.Literal

/-!
Reports that are made from arguments.

A caller may report an error of its own. The arguments are given by position or by name; arguments
that are unknown, missing, too many or given twice are faults. A report takes a message and, by
name only, a detail; the report of a failed validation takes the messages by field and a message.
-/

namespace FormRules

/-- The arguments of a call: those by position, then those by name. -/
structure Arguments where
  byPosition : List Value
  byName : List (String × Value)

/-- What a function takes: one argument that it needs, others that it does not need, and others
that are given by name only. The function works on something that is given before all others. -/
structure Parameters where
  function : String
  needed : String
  optional : List String
  nameOnly : List String

namespace Parameters

def subject :
    String :=
  "self"

/-- The parameters whose arguments may be given by position. -/
def positional
    (parameters : Parameters) :
    List String :=
  subject :: parameters.needed :: parameters.optional

/-- What is wrong with an argument that is given by name, `given` others being given by
position. -/
def faultOf?
    (parameters : Parameters) (given : Nat) (name : String) :
    Option Fault :=
  if (parameters.positional.take (given + 1)).contains name then
    some (.repeatedArgument parameters.function name)
  else if parameters.positional.contains name || parameters.nameOnly.contains name then none
  else some (.unknownArgument parameters.function name)

def argument?
    (parameters : Parameters) (arguments : Arguments) (name : String) :
    Option Value :=
  (((parameters.positional.drop 1).zip arguments.byPosition).lookup name).or
    (arguments.byName.lookup name)

/-- Checks that the function can be called with the arguments. Those by name are looked at first,
then the number of those by position. -/
def check
    (parameters : Parameters) (arguments : Arguments) :
    Except Fault Unit :=
  let given := arguments.byPosition.length
  let greatest := parameters.positional.length
  match arguments.byName.findSome? fun entry => parameters.faultOf? given entry.1 with
  | some fault => .error fault
  | none =>
      if greatest < given + 1 then
        .error (.tooManyArguments parameters.function 2 greatest (given + 1)
          (arguments.byName.countP fun entry => parameters.nameOnly.contains entry.1))
      else if (parameters.argument? arguments parameters.needed).isNone then
        .error (.missingArgument parameters.function parameters.needed)
      else .ok ()

end Parameters

namespace Value

/-- The elements of a value that can be gone through: the characters of a text, the numbers of
bytes, and the keys of a mapping. -/
def elements :
    Value → Except Fault (List Value)
  | text value => .ok (value.toList.map fun character => .text (String.singleton character))
  | bytes value => .ok (value.map fun byte => .integer byte.toNat)
  | list items => .ok items
  | tuple items => .ok items
  | mapping entries => .ok (entries.map Prod.fst)
  | set members => .ok members
  | value => .error (.notIterable value.fullKindName)

/-- The first value comes before the second. Numbers are ordered, as are texts and bytes; other
values are not. -/
def precedes?
    (left right : Value) :
    Option Bool :=
  match left.quantity?, right.quantity? with
  | some leftQuantity, some rightQuantity =>
      some (leftQuantity.le rightQuantity && !leftQuantity.equals rightQuantity)
  | _, _ =>
      match left, right with
      | text leftText, text rightText => some (decide (leftText < rightText))
      | bytes leftBytes, bytes rightBytes => some (decide (leftBytes < rightBytes))
      | _, _ => none

/-- The fault of two neighbours without an order. -/
def disorder? :
    List Value → Option Fault
  | first :: second :: rest =>
      if (precedes? second first).isNone then
        some (.unordered second.fullKindName first.fullKindName)
      else disorder? (second :: rest)
  | _ => none

def sorted
    (values : List Value) :
    Except Fault (List Value) :=
  match disorder? values with
  | some fault => .error fault
  | none => .ok (values.mergeSort fun left right => precedes? right left != some true)

/-- The text of a value, if no integer in it is too long. -/
def shownText
    (value : Value) :
    Except Fault String :=
  if value.isShowable then .ok value.plainText else .error .integerTooLong

def messagesByField :
    Value → Except Fault (List (Value × List Value))
  | mapping entries => entries.mapM fun entry => do return (entry.1, ← elements entry.2)
  | value => .error (.missingAttribute value.fullKindName "items")

end Value

namespace ErrorReport

def parameters :
    Parameters :=
  ⟨"FieldcheckError.__init__", "message", [], ["detail"]⟩

def failureParameters :
    Parameters :=
  ⟨"ValidationFailed.__init__", "errors", ["message"], []⟩

def failureOfArguments
    (arguments : Arguments) :
    Except Fault ErrorReport := do
  failureParameters.check arguments
  let errors := (failureParameters.argument? arguments "errors").getD .null
  let message := (failureParameters.argument? arguments "message").getD (.text failureMessage)
  let fields ← Value.sorted (← errors.elements)
  let _ ← message.shownText
  return .ofFailure fields (← errors.messagesByField) message

/-- The report of the given kind from its arguments. A detail that does not count as present is
none. -/
def ofArguments
    (kind : ErrorKind) (arguments : Arguments) :
    Except Fault ErrorReport := do
  if kind = .validationFailed then failureOfArguments arguments
  else
    parameters.check arguments
    let message := (parameters.argument? arguments "message").getD .null
    let detail := (parameters.argument? arguments "detail").getD .null
    let _ ← message.shownText
    return ⟨kind, message, if detail.isTrue then detail else .mapping [], none⟩

end ErrorReport

end FormRules
