import FormRules.Fault
import FormRules.Value.Basic

/-!
Notes: what is logged.

The library notes each rule it registers or attaches, each rule that fails, and the end of each
run, all for debugging; its notes go to its loggers directly. Others may note what they like, in one
of several ways to log; theirs are events, which come to a logger only if events are handed over.
Some names of values are kept for the loggers themselves.
-/

namespace FormRules

/-- How grave a note is. -/
inductive Level where
  | debug
  | info
  | warning
  | error
  | critical
  deriving DecidableEq, Repr

namespace Level

def rank :
    Level → Nat
  | debug => 0
  | info => 1
  | warning => 2
  | error => 3
  | critical => 4

def name :
    Level → String
  | debug => "debug"
  | info => "info"
  | warning => "warning"
  | error => "error"
  | critical => "critical"

end Level

/-- How a note comes to its logger: directly, or as an event that has to be handed over. -/
inductive NoteRoute where
  | direct
  | event
  deriving DecidableEq, Repr

/-- A note of a logger, with named values. -/
structure Note where
  level : Level
  logger : String
  event : String
  values : List (String × Value)
  route : NoteRoute

namespace Note

/-- The logger under which all loggers of the library are. -/
def rootLogger :
    String :=
  "fieldcheck"

def forDebugging
    (part event : String) :
    Note :=
  ⟨.debug, rootLogger ++ "." ++ part, event, [], .direct⟩

def ruleRegistered
    (name : String) :
    Note :=
  forDebugging "rules.registry" ("Registered rule: " ++ name)

def rulesAttached
    (field : String) :
    Note :=
  forDebugging "validation" ("Attached rules to field: " ++ field)

def ruleFailed
    (field rule : String) :
    Note :=
  forDebugging "condition" ("Rule failed: field=" ++ field ++ " rule=" ++ rule)

def runFinished
    (ok : Bool) (checked failed : Nat) :
    Note :=
  forDebugging "validation"
    ("Validation run finished: ok=" ++ (if ok then "True" else "False") ++ " checked=" ++
      toString checked ++ " failed=" ++ toString failed)

/-- The notes of registering a rule: one if that was not refused. -/
def ofRegistration {refusal result : Type}
    (name : String) :
    Except refusal result → List Note
  | .ok _ => [ruleRegistered name]
  | .error _ => []

def ofAttachment {refusal result : Type}
    (field : String) :
    Except refusal result → List Note
  | .ok _ => [rulesAttached field]
  | .error _ => []

/-- The level of the notes that a way to log makes. Two levels have a second way each, and an
exception is noted as an error. -/
def levelOf? :
    String → Option Level
  | "debug" => some .debug
  | "info" => some .info
  | "warning" => some .warning
  | "warn" => some .warning
  | "error" => some .error
  | "exception" => some .error
  | "critical" => some .critical
  | "fatal" => some .critical
  | _ => none

def loggerKind :
    String :=
  "BoundLogger"

/-- The name by which faults speak of a way to log. -/
def functionOf
    (way : String) :
    String :=
  loggerKind ++ "." ++ (if way == "warn" then "warning" else way)

/-- What is wrong with the values of a note. The event is given before them and cannot be among
them, and what is named like an earlier record has to be one. -/
def faultOf?
    (way : String) (values : List (String × Value)) :
    Option Fault :=
  match values.find? fun entry => ["event", "self"].contains entry.1 with
  | some entry => some (.repeatedArgument (functionOf way) entry.1)
  | none =>
      if (values.lookup "method_name").isSome then
        some (.repeatedArgument (loggerKind ++ "._proxy_to_logger") "method_name")
      else
        match (values.lookup "_record").filter fun record => !record.isNull with
        | some record => some (.missingAttribute record.fullKindName "name")
        | none => none

/-- The values of a note. A noted exception is the one being handled, unless something else is
said. -/
def givenValues
    (way : String) (values : List (String × Value)) :
    List (String × Value) :=
  if way == "exception" && (values.lookup "exc_info").isNone then
    values ++ [("exc_info", .boolean true)]
  else values

def of
    (way logger event : String) (values : List (String × Value)) :
    Except Fault Note :=
  match levelOf? way with
  | none => .error (.missingAttribute loggerKind way)
  | some level =>
      match faultOf? way values with
      | some fault => .error fault
      | none => .ok ⟨level, logger, event, givenValues way values, .event⟩

/-- The note belongs to a logger of the library or below one. -/
def isLocal
    (note : Note) :
    Bool :=
  note.logger == rootLogger || (rootLogger ++ ".").isPrefixOf note.logger

end Note

end FormRules
