import FormRules.Pattern.Compiled
import FormRules.Rule.Measure
import FormRules.Rule.Occasion
import FormRules.Rule.TextClass

/-!
The built-in rules.

Each either passes or fails without a message of its own. The options are those of a rule
expression: the first is the text after the colon, the others are its values, so that a threshold
is the second option. Names of built-in rules are found whatever their case and separators.
-/

namespace FormRules

open FormRules.Number
open FormRules.Pattern
open FormRules.Text
open FormRules.Time

inductive Builtin where
  | required
  | alpha
  | alphanum
  | num
  | slug
  | regex
  | email
  | same
  | different
  | after
  | before
  | between
  | min
  | max
  | size
  | array
  | numeric
  | string
  deriving DecidableEq, Repr

namespace Builtin

def all :
    List Builtin :=
  [required, alpha, alphanum, num, slug, regex, email, same, different, after, before, between,
    min, max, size, array, numeric, string]

def name :
    Builtin → String
  | required => "required"
  | alpha => "alpha"
  | alphanum => "alphanum"
  | num => "num"
  | slug => "slug"
  | regex => "regex"
  | email => "email"
  | same => "same"
  | different => "different"
  | after => "after"
  | before => "before"
  | between => "between"
  | min => "min"
  | max => "max"
  | size => "size"
  | array => "array"
  | numeric => "numeric"
  | string => "string"

def separatesWords
    (character : Char) :
    Bool :=
  isBlank character || character == '_' || character == '-'

/-- The name of a rule in lower case, without what separates its words. -/
def foldName
    (text : List Char) :
    List Char :=
  lowerText (text.filter fun character => !separatesWords character)

def find?
    (text : String) :
    Option Builtin :=
  let folded := String.ofList (foldName text.toList)
  all.find? fun rule => rule.name == folded

def option?
    (inquiry : Inquiry) (index : Nat) :
    Option String :=
  inquiry.options[index]?

/-- The quantity of a threshold. A threshold that is not given is zero. -/
def threshold
    (inquiry : Inquiry) (index : Nat) :
    Except Fault (Option Quantity) :=
  match option? inquiry index with
  | none => .ok (some (.integer 0))
  | some text => Value.quantityOfText text

def textPasses
    (inquiry : Inquiry) (test : List Char → Bool) :
    Except Fault Bool :=
  (inquiry.value.matchedText).map fun text => text.any test

/-- The pattern in the first option occurs in the text of the field. -/
def patternPasses
    (inquiry : Inquiry) :
    Except Fault Bool := do
  let text ← inquiry.value.matchedText
  let compiled ←
    match option? inquiry 0 with
    | none => pure none
    | some source =>
        if source.isEmpty then pure none else Compiled.ofText? source.toList
  match text, compiled with
  | some text, some compiled => return (← compiled.search text).isSome
  | _, _ => return false

/-- The field is loosely equal to the field named by the second option. Without such an option,
or with an empty one, it is compared with null. -/
def sameAsOther
    (inquiry : Inquiry) :
    Except Fault Bool :=
  match option? inquiry 1 with
  | none => inquiry.value.looselyEquals .null
  | some other =>
      if other.isEmpty then inquiry.value.looselyEquals .null
      else if other = inquiry.key then inquiry.value.looselyEqualsItself
      else inquiry.value.looselyEquals (inquiry.fields.value other)

/-- The timestamps of the field and of the limit in the second option. A field that does not count
as present is the present moment. -/
def timestamps?
    (present : Moment) (inquiry : Inquiry) :
    Except Fault (Option (Quantity × Quantity)) := do
  let moment ←
    if inquiry.value.isTrue then inquiry.value.toMoment present else pure (some present)
  let limit ←
    match option? inquiry 1 with
    | none => pure none
    | some text => if text.isEmpty then pure none else momentOfText present text
  match moment, limit with
  | some moment, some limit => do
      let time ← moment.timestamp
      let bound ← limit.timestamp
      return some (.real time, .real bound)
  | _, _ => return none

/-- The field's measure and the threshold in the second option are in a relation. -/
def sizePasses
    (inquiry : Inquiry) (relation : Quantity → Quantity → Bool) :
    Except Fault Bool := do
  let size ← inquiry.value.measure
  let limit ← threshold inquiry 1
  return match size, limit with
    | some size, some limit => relation size limit
    | _, _ => false

def betweenPasses
    (inquiry : Inquiry) :
    Except Fault Bool := do
  let size ← inquiry.value.measure
  let low ← threshold inquiry 1
  let high ← threshold inquiry 2
  return match size, low, high with
    | some size, some low, some high => low.le size && size.le high
    | _, _, _ => false

def passes
    (rule : Builtin) (present : Moment) (inquiry : Inquiry) :
    Except Fault Bool :=
  match rule with
  | required =>
      .ok (inquiry.value.isTrue && !inquiry.value.equals (.text "0"))
  | alpha => textPasses inquiry (consistsOf isLetter)
  | alphanum => textPasses inquiry (consistsOf isLetterOrDigit)
  | num => textPasses inquiry (consistsOf isNumeralDigit)
  | slug => textPasses inquiry (consistsOf isSlugCharacter)
  | email => textPasses inquiry isMailAddress
  | regex => patternPasses inquiry
  | same => sameAsOther inquiry
  | different => (sameAsOther inquiry).map (! ·)
  | after =>
      (timestamps? present inquiry).map fun times =>
        times.any fun (time, bound) => !time.le bound
  | before =>
      (timestamps? present inquiry).map fun times =>
        times.any fun (time, bound) => !bound.le time
  | between => betweenPasses inquiry
  | min => sizePasses inquiry fun size limit => limit.le size
  | max => sizePasses inquiry fun size limit => size.le limit
  | Builtin.size => sizePasses inquiry fun size limit => size.equals limit
  | array => .ok inquiry.value.isArray
  | numeric => .ok inquiry.value.isNumeric
  | string => .ok inquiry.value.isText

/-- The rule with its reports: none when it passes, one without a message when it fails. -/
def toPredicate
    (rule : Builtin) (present : Moment) :
    Predicate :=
  fun inquiry =>
    (rule.passes present inquiry).map fun passed => if passed then [] else [.null]

end Builtin

end FormRules
