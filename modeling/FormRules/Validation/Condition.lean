import FormRules.Journal.Note
import FormRules.Rule.Registry

/-!
Conditions: the chain of rules of one field, and the messages of its latest check.

The rules of a chain are evaluated in their order, each built anew. The message of a failed rule
is the one given with the rule, else the last one the rule itself reported, else a default made of
a prefix and the rule's name. Recording replaces the messages, and so does a check that does not
break off; evaluating does not.
-/

namespace FormRules

/-- The outcome of one rule. A passed rule has no message. -/
structure Outcome where
  rule : String
  passed : Bool
  message : Value

/-- What the reports of one rule amount to: whether there was one, and the last message that
counts as present. -/
structure FailureCapture where
  failed : Bool
  message : Value

namespace FailureCapture

def initial :
    FailureCapture :=
  ⟨false, .null⟩

def report
    (capture : FailureCapture) (message : Value) :
    FailureCapture :=
  ⟨true, if message.isTrue then message else capture.message⟩

def ofReports
    (reports : Reports) :
    FailureCapture :=
  reports.foldl report initial

end FailureCapture

/-- The chain of rules of one field, and the messages of its latest check by field name. -/
structure Condition where
  prefixText : String
  rules : List Descriptor
  errors : List (String × List Value)

def defaultPrefix :
    String :=
  "validation"

/-- How far an evaluation came: the outcomes of the rules evaluated, and why it broke off, if it
did. -/
structure Evaluation where
  outcomes : List Outcome
  refusal : Option Refusal

namespace Evaluation

def toExcept
    (evaluation : Evaluation) :
    Except Refusal (List Outcome) :=
  match evaluation.refusal with
  | none => .ok evaluation.outcomes
  | some refusal => .error refusal

def notes
    (evaluation : Evaluation) (key : String) :
    List Note :=
  (evaluation.outcomes.filter fun outcome => !outcome.passed).map fun outcome =>
    .ruleFailed key outcome.rule

def precededBy
    (evaluation : Evaluation) (outcome : Outcome) :
    Evaluation :=
  { evaluation with outcomes := outcome :: evaluation.outcomes }

end Evaluation

namespace Outcome

/-- The message of a failed rule that is recorded: one that counts as present. -/
def recorded?
    (outcome : Outcome) :
    Option Value :=
  if !outcome.passed && outcome.message.isTrue then some outcome.message else none

end Outcome

namespace Condition

def empty
    (prefixText : String) :
    Condition :=
  ⟨prefixText, [], []⟩

/-- The condition with further rules at the end of its chain. -/
def extend
    (condition : Condition) (descriptors : List Descriptor) :
    Condition :=
  { condition with rules := condition.rules ++ descriptors }

def addRule
    (condition : Condition) (token : Token) (message : Value) :
    Except Refusal Condition :=
  (token.descriptors message).map condition.extend

def defaultMessage
    (prefixText : String) (descriptor : Descriptor) (name : String) :
    String :=
  match descriptor.target with
  | .named _ => prefixText ++ "." ++ name
  | .handler _ => "Failed validation for " ++ name ++ " rule"

/-- The first value that counts as present of a rule's own message, the message it reported, and
the default. -/
def failureMessage
    (prefixText : String) (descriptor : Descriptor) (name : String) (capture : FailureCapture) :
    Value :=
  if descriptor.message.isTrue then descriptor.message
  else if capture.message.isTrue then capture.message
  else .text (defaultMessage prefixText descriptor name)

def outcomeOf
    (prefixText : String) (descriptor : Descriptor) (name : String) (reports : Reports) :
    Outcome :=
  let capture := FailureCapture.ofReports reports
  if capture.failed then ⟨name, false, failureMessage prefixText descriptor name capture⟩
  else ⟨name, true, .null⟩

def evaluateRule
    (surroundings : Surroundings) (registry : Registry) (prefixText : String)
    (fields : Fields) (key : String) (descriptor : Descriptor) :
    Except Refusal Outcome :=
  match descriptor.resolve surroundings registry with
  | .error refusal => .error refusal
  | .ok (name, rule) =>
      match rule ⟨fields, key, descriptor.options⟩ with
      | .error fault => .error (.fault fault)
      | .ok reports => .ok (outcomeOf prefixText descriptor name reports)

/-- The evaluation of a chain, up to its end, to the first rule that breaks off, or with `bail` to
the first rule that fails. -/
def evaluateChain
    (evaluateOne : Descriptor → Except Refusal Outcome) (bail : Bool) :
    List Descriptor → Evaluation
  | [] => ⟨[], none⟩
  | descriptor :: rest =>
      match evaluateOne descriptor with
      | .error refusal => ⟨[], some refusal⟩
      | .ok outcome =>
          if bail && !outcome.passed then ⟨[outcome], none⟩
          else (evaluateChain evaluateOne bail rest).precededBy outcome

def evaluate
    (condition : Condition) (surroundings : Surroundings) (registry : Registry)
    (fields : Fields) (key : String) (bail : Bool) :
    Evaluation :=
  evaluateChain (evaluateRule surroundings registry condition.prefixText fields key) bail
    condition.rules

def recordedMessages
    (outcomes : List Outcome) :
    List Value :=
  outcomes.filterMap Outcome.recorded?

/-- The condition with the messages of the given outcomes in the place of its own. -/
def record
    (condition : Condition) (key : String) (outcomes : List Outcome) :
    Condition :=
  let messages := recordedMessages outcomes
  { condition with errors := if messages.isEmpty then [] else [(key, messages)] }

def allPassed
    (outcomes : List Outcome) :
    Bool :=
  outcomes.all (·.passed)

end Condition

/-- A check: the condition afterwards, the notes made, and whether every rule passed. -/
structure Check where
  condition : Condition
  notes : List Note
  verdict : Except Refusal Bool

namespace Condition

/-- Evaluates the condition's rules and records the outcomes. A check that breaks off leaves the
condition as it is. -/
def check
    (condition : Condition) (surroundings : Surroundings) (registry : Registry)
    (fields : Fields) (key : String) (bail : Bool) :
    Check :=
  let evaluation := condition.evaluate surroundings registry fields key bail
  match evaluation.refusal with
  | some refusal => ⟨condition, evaluation.notes key, .error refusal⟩
  | none =>
      ⟨condition.record key evaluation.outcomes, evaluation.notes key,
        .ok (allPassed evaluation.outcomes)⟩

end Condition

end FormRules
