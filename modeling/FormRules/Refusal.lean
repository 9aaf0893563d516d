import FormRules.Fault
import FormRules.Report.Basic

/-!
Refusals: why a call has no answer.

Rules that cannot be read, registered or resolved are refused at once, as are settings and results
with unusable parts. A failed validation is refused with the messages of its fields. Each refusal
of the library has a report: its kind, a message, and details for a program to read.
-/

namespace FormRules

/-- Messages by field, in the order in which the fields were checked. -/
abbrev ErrorBag :=
  List (String × List String)

/-- A step of the way to a part of some data. -/
inductive LocationStep where
  | name (name : String)
  | index (index : Int)
  deriving DecidableEq, Repr

/-- What is wrong with a part of some data. -/
inductive IssueKind where
  | booleanType
  | booleanParsing
  | textType
  | textEncoding
  | textTooShort
  | listType
  | mappingType
  | missing
  | extraForbidden
  deriving DecidableEq, Repr

namespace IssueKind

def code :
    IssueKind → String
  | booleanType => "bool_type"
  | booleanParsing => "bool_parsing"
  | textType => "string_type"
  | textEncoding => "string_unicode"
  | textTooShort => "string_too_short"
  | listType => "list_type"
  | mappingType => "dict_type"
  | missing => "missing"
  | extraForbidden => "extra_forbidden"

def message :
    IssueKind → String
  | booleanType => "Input should be a valid boolean"
  | booleanParsing => "Input should be a valid boolean, unable to interpret input"
  | textType => "Input should be a valid string"
  | textEncoding =>
      "Input should be a valid string, unable to parse raw data as a unicode string"
  | textTooShort => "String should have at least 1 character"
  | listType => "Input should be a valid list"
  | mappingType => "Input should be a valid dictionary"
  | missing => "Field required"
  | extraForbidden => "Extra inputs are not permitted"

end IssueKind

/-- Something wrong at a place of some data. -/
structure Issue where
  kind : IssueKind
  location : List LocationStep
  deriving DecidableEq, Repr

/-- Why a call has no answer. -/
inductive Refusal where
  /-- A text is no rule expression. -/
  | invalidExpression (expression : String)
  /-- A token is neither an expression nor a rule. -/
  | unusableToken (kindName : String)
  /-- What is to be attached to a field is neither a token nor a list of tokens. -/
  | unusableRules (field kindName : String)
  /-- A path that is to be registered names no class. -/
  | unknownHandlerPath (rule path : String)
  /-- What is to be registered is neither a rule nor a path. -/
  | unusableHandler (rule kindName : String)
  /-- A class is not a rule class. -/
  | notARuleClass (rule className : String)
  /-- Nothing is known under the name of a rule. -/
  | unknownRule (rule : String)
  /-- A field failed. -/
  | failed (errors : ErrorBag)
  /-- Settings or a result with unusable parts. -/
  | unusableData (issues : List Issue)
  /-- The evaluation of a rule broke off. -/
  | fault (fault : Fault)
  deriving DecidableEq, Repr

/-- Names in the order of their code points. -/
def sortedNames
    (names : List String) :
    List String :=
  names.mergeSort fun left right => decide (left ≤ right)

namespace Refusal

/-- The report of a refusal. A fault and unusable data have reports of their own. -/
def report? :
    Refusal → Option ErrorReport
  | invalidExpression expression =>
      some (.plain .invalidExpression "Invalid rule expression specified"
        [("expression", .text expression)])
  | unusableToken kindName =>
      some (.plain .invalidRuleType "Invalid rule type specified" [("type", .text kindName)])
  | unusableRules field kindName =>
      some (.plain .invalidRuleType "Invalid rule type specified"
        [("field", .text field), ("type", .text kindName)])
  | unknownHandlerPath rule path =>
      some (.plain .invalidHandlerType "Invalid handler type specified"
        [("rule", .text rule), ("handler", .text path)])
  | unusableHandler rule kindName =>
      some (.plain .invalidHandlerType "Invalid handler type specified"
        [("rule", .text rule), ("type", .text kindName)])
  | notARuleClass rule className =>
      some (.plain .mustImplementRule "Must implement the Rule interface"
        [("rule", .text rule), ("type", .text className)])
  | unknownRule rule =>
      some (.plain .unknownRule "Unknown rule type" [("rule", .text rule)])
  | failed errors =>
      some (.ofFailure ((sortedNames (errors.map Prod.fst)).map .text)
        (errors.map fun entry => (.text entry.1, entry.2.map .text))
        (.text ErrorReport.failureMessage))
  | unusableData _ => none
  | fault _ => none

end Refusal

end FormRules
