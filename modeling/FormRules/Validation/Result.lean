import FormRules.Text.JsonText
import FormRules.Value.Lenient

/-!
Results of validations: whether every field passed, the messages of those that failed, and the
fields that were checked.
-/

namespace FormRules

open FormRules.Text

structure ValidationResult where
  ok : Bool
  errors : ErrorBag
  checked : List String
  deriving DecidableEq, Repr

namespace ValidationResult

def readOr {result : Type}
    (initial : result) (reader : Value → Lenient result) :
    Option Value → Lenient result
  | none => .ok initial
  | some value => reader value

/-- Reads the part that says whether every field passed. It must be given. -/
def readOk :
    Option Value → Lenient Bool
  | none => .fail .missing [.name "ok"]
  | some value => value.readTruth [.name "ok"]

/-- The result with the given parts, or everything wrong with them. Parts that are not known are
ignored. -/
def read
    (parts : List (String × Value)) :
    Lenient ValidationResult :=
  let ok := readOk (parts.lookup "ok")
  let errors := readOr [] (Value.readErrorBag [.name "errors"]) (parts.lookup "errors")
  let checked := readOr [] (Value.readTextList [.name "checked"]) (parts.lookup "checked")
  (Lenient.both (Lenient.both ok errors) checked).map
    fun ((ok, errors), checked) => ⟨ok, errors, checked⟩

def readMessages
    (entry : String × List Value) :
    Lenient (String × List String) :=
  (Value.readTexts [.name "errors", .name entry.1] entry.2).map fun messages =>
    (entry.1, messages)

/-- The result of a run that checked the given fields and found the given messages. Messages that
are no texts make it unusable. -/
def ofRun
    (errors : List (String × List Value)) (checked : List String) :
    Lenient ValidationResult :=
  (Lenient.collect (errors.map readMessages)).map fun read => ⟨errors.isEmpty, read, checked⟩

def bracketed
    (left : String) (parts : List String) (right : String) :
    String :=
  left ++ ",".intercalate parts ++ right

def jsonList
    (texts : List String) :
    String :=
  bracketed "[" (texts.map jsonString) "]"

def toJson
    (result : ValidationResult) :
    String :=
  let errors := result.errors.map fun entry => jsonString entry.1 ++ ":" ++ jsonList entry.2
  bracketed "\x7b"
    ["\"ok\":" ++ (if result.ok then "true" else "false"),
      "\"errors\":" ++ bracketed "\x7b" errors "\x7d",
      "\"checked\":" ++ jsonList result.checked]
    "\x7d"

end ValidationResult

end FormRules
