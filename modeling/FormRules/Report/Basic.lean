import FormRules.Value.Basic

/-!
Reports of errors: a kind, a message, and details for a program to read.

Kinds have a name, a code and a lineage of more general kinds. Only the report of a failed
validation has messages by field.
-/

namespace FormRules

/-- The kinds of errors that the library reports. -/
inductive ErrorKind where
  | general
  | invalidExpression
  | invalidRuleType
  | invalidHandlerType
  | mustImplementRule
  | unknownRule
  | validationFailed
  deriving DecidableEq, Repr

namespace ErrorKind

def all :
    List ErrorKind :=
  [general, invalidExpression, invalidRuleType, invalidHandlerType, mustImplementRule,
    unknownRule, validationFailed]

def name :
    ErrorKind → String
  | general => "FieldcheckError"
  | invalidExpression => "InvalidExpression"
  | invalidRuleType => "InvalidRuleType"
  | invalidHandlerType => "InvalidHandlerType"
  | mustImplementRule => "MustImplementRuleInterface"
  | unknownRule => "UnknownRule"
  | validationFailed => "ValidationFailed"

def code :
    ErrorKind → String
  | general => "FIELDCHECK_ERROR"
  | invalidExpression => "INVALID_EXPRESSION"
  | invalidRuleType => "INVALID_RULE_TYPE"
  | invalidHandlerType => "INVALID_HANDLER_TYPE"
  | mustImplementRule => "MUST_IMPLEMENT_RULE_INTERFACE"
  | unknownRule => "UNKNOWN_RULE"
  | validationFailed => "VALIDATION_FAILED"

/-- The kind's name and the names of the more general kinds it belongs to, from the nearest on. A
wrong token or handler is also a wrong value, a rule that cannot be used also a runtime error. -/
def lineage :
    ErrorKind → List String
  | general => [general.name, "Exception"]
  | validationFailed => [validationFailed.name, general.name, "Exception"]
  | mustImplementRule => [mustImplementRule.name, general.name, "RuntimeError", "Exception"]
  | unknownRule => [unknownRule.name, general.name, "RuntimeError", "Exception"]
  | kind => [kind.name, general.name, "ValueError", "Exception"]

def ofName?
    (name : String) :
    Option ErrorKind :=
  all.find? fun kind => kind.name == name

end ErrorKind

/-- An error as it is reported. The detail is a mapping unless a caller gave something else. -/
structure ErrorReport where
  kind : ErrorKind
  message : Value
  detail : Value
  errors : Option (List (Value × List Value))

namespace ErrorReport

def plain
    (kind : ErrorKind) (message : String) (detail : List (String × Value)) :
    ErrorReport :=
  ⟨kind, .text message, .mapping (detail.map fun entry => (.text entry.1, entry.2)), none⟩

/-- The message of a failed validation, unless another is given. -/
def failureMessage :
    String :=
  "Validation not passed"

/-- The report of a failed validation, given its fields in their order. The fields are its
detail. -/
def ofFailure
    (fields : List Value) (errors : List (Value × List Value)) (message : Value) :
    ErrorReport :=
  ⟨.validationFailed, message, .mapping [(.text "fields", .list fields)], some errors⟩

end ErrorReport

end FormRules
