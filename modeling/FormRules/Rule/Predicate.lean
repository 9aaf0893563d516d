import FormRules.Refusal

/-!
Rules as the library sees them.

A rule is asked about one field of an input. It answers with the reports it makes, each carrying a
message or nothing; a rule that reports nothing passes. A rule class is built anew for each
question, and what an instance remembers is lost with it.
-/

namespace FormRules

/-- An input: field names and their values. -/
abbrev Fields :=
  List (String × Value)

/-- The value of a field; null if the input does not have it. -/
def Fields.value
    (fields : Fields) (key : String) :
    Value :=
  (fields.lookup key).getD .null

/-- What a rule is asked: the input, the field, and the options of the rule's expression. -/
structure Inquiry where
  fields : Fields
  key : String
  options : List String

def Inquiry.value
    (inquiry : Inquiry) :
    Value :=
  inquiry.fields.value inquiry.key

/-- The messages of a rule's reports, null standing for none. -/
abbrev Reports :=
  List Value

/-- A rule: it reports on what it is asked, or breaks off. -/
abbrev Predicate :=
  Inquiry → Except Fault Reports

/-- A class from which rules are built. An instance is known by what it remembers. -/
structure RuleClass where
  qualifiedName : String
  /-- The class has the interface of rules. -/
  isRule : Bool
  /-- What a new instance remembers. -/
  construct : Except Fault Value
  /-- What an instance remembers after a question, and its reports. -/
  ask : Value → Inquiry → Except Fault (Value × Reports)

/-- A function that is used as a rule, or an object that can be called as one. -/
structure Callback where
  displayName : String
  /-- The callback has no name of its own, only that of its class. -/
  isInstance : Bool
  ask : Predicate

/-- What a rule can be made of: a class or a callback. -/
inductive Handler where
  | ofClass (ruleClass : RuleClass)
  | ofCallback (callback : Callback)

namespace RuleClass

def answer
    (ruleClass : RuleClass) (memory : Value) :
    Predicate :=
  fun inquiry => (ruleClass.ask memory inquiry).map Prod.snd

def instantiate
    (ruleClass : RuleClass) (name : String) :
    Except Refusal Predicate :=
  if ruleClass.isRule then
    match ruleClass.construct with
    | .ok memory => .ok (ruleClass.answer memory)
    | .error fault => .error (.fault fault)
  else .error (.notARuleClass name ruleClass.qualifiedName)

end RuleClass

namespace Handler

def displayName :
    Handler → String
  | ofClass ruleClass => ruleClass.qualifiedName
  | ofCallback callback => callback.displayName

def toPredicate
    (handler : Handler) (name : String) :
    Except Refusal Predicate :=
  match handler with
  | ofClass ruleClass => ruleClass.instantiate name
  | ofCallback callback => .ok callback.ask

end Handler

/-- The classes that can be reached by a dotted path. -/
structure Catalog where
  lookup : String → Option RuleClass

/-- The characters before and after the last point of a path, empty and everything if it has
none. -/
def splitAtLastPoint :
    List Char → List Char × List Char
  | [] => ([], [])
  | character :: rest =>
      if rest.contains '.' then
        (character :: (splitAtLastPoint rest).1, (splitAtLastPoint rest).2)
      else if character = '.' then ([], rest)
      else ([], character :: rest)

namespace Catalog

/-- The class that a dotted path names. A path without a module or without a name in it names
none, and a module that begins with a point is a fault. -/
def find?
    (catalog : Catalog) (path : String) :
    Except Fault (Option RuleClass) :=
  let (modulePart, name) := splitAtLastPoint path.toList
  if modulePart.isEmpty || name.isEmpty then .ok none
  else if modulePart.head? = some '.' then .error (.relativePath (String.ofList modulePart))
  else .ok (catalog.lookup path)

end Catalog

end FormRules
