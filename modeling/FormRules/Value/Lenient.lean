import FormRules.Refusal
import FormRules.Roster
import FormRules.Value.Literal

/-!
Lenient reading of data.

Settings and results are built from values that may be given in several forms. A truth value may
also be zero, one or a word for yes or no; a text may be given as its bytes; a list may be given as
a tuple or a set. What cannot be read is reported with its place.
-/

namespace FormRules

open FormRules.Number

/-- What reading gives: the value read, or everything wrong with it. -/
abbrev Lenient (result : Type) :=
  Except (List Issue) result

def Lenient.fail {result : Type}
    (kind : IssueKind) (location : List LocationStep) :
    Lenient result :=
  .error [⟨kind, location⟩]

def affirmativeWords :
    List String :=
  ["1", "on", "t", "true", "y", "yes"]

def negativeWords :
    List String :=
  ["0", "off", "f", "false", "n", "no"]

def truthOfWord?
    (word : String) :
    Option Bool :=
  let lowered := String.ofList (word.toList.map Char.toLower)
  if affirmativeWords.contains lowered then some true
  else if negativeWords.contains lowered then some false
  else none

def truthOfInteger?
    (value : Int) :
    Option Bool :=
  if value = 0 then some false else if value = 1 then some true else none

/-- The least number beyond the integers of 64 bits. -/
def wordBound :
    Nat :=
  Nat.pow 2 63

def textOfBytes?
    (bytes : List UInt8) :
    Option String :=
  String.fromUTF8? ⟨bytes.toArray⟩

namespace Value

def fitsWord
    (value : Int) :
    Bool :=
  -(wordBound : Int) ≤ value && value < wordBound

def truthOr
    (location : List LocationStep) :
    Option Bool → Lenient Bool
  | some truth => .ok truth
  | none => .fail .booleanParsing location

/-- Reads a truth value. Numbers that are whole and fit 64 bits can be read or not; other numbers
and other kinds are no truth values at all. -/
def readTruth
    (location : List LocationStep) :
    Value → Lenient Bool
  | boolean value => .ok value
  | text value => truthOr location (truthOfWord? value)
  | bytes value => truthOr location ((textOfBytes? value).bind truthOfWord?)
  | integer value =>
      if fitsWord value then truthOr location (truthOfInteger? value)
      else .fail .booleanType location
  | real (.finite negative units) =>
      if units % unitsPerOne = 0 && units < wordBound * unitsPerOne then
        let magnitude : Int := units / unitsPerOne
        truthOr location (truthOfInteger? (if negative then -magnitude else magnitude))
      else .fail .booleanType location
  | _ => .fail .booleanType location

def readText
    (location : List LocationStep) :
    Value → Lenient String
  | text value => .ok value
  | bytes value =>
      match textOfBytes? value with
      | some decoded => .ok decoded
      | none => .fail .textEncoding location
  | _ => .fail .textType location

end Value

/-- The results of several readings, or everything wrong in any of them. -/
def Lenient.collect {result : Type} :
    List (Lenient result) → Lenient (List result)
  | [] => .ok []
  | .ok first :: others => (collect others).map (first :: ·)
  | .error issues :: others =>
      match collect others with
      | .ok _ => .error issues
      | .error more => .error (issues ++ more)

def Lenient.both {first second : Type}
    (left : Lenient first) (right : Lenient second) :
    Lenient (first × second) :=
  match left, right with
  | .ok leftRead, .ok rightRead => .ok (leftRead, rightRead)
  | .error issues, .ok _ => .error issues
  | .ok _, .error issues => .error issues
  | .error issues, .error more => .error (issues ++ more)

namespace Value

def readTexts
    (location : List LocationStep) (values : List Value) :
    Lenient (List String) :=
  Lenient.collect (values.mapIdx fun index value =>
    value.readText (location ++ [.index index]))

def readTextList
    (location : List LocationStep) :
    Value → Lenient (List String)
  | list items => readTexts location items
  | tuple items => readTexts location items
  | set members => readTexts location members
  | _ => .fail .listType location

/-- A key that is no text as a name: its literal, if it has no integer that is too long. -/
def keyName
    (key : Value) :
    String :=
  if key.isShowable then String.ofList key.literal
  else "<unprintable " ++ key.kindName ++ " object>"

def entryStep :
    Value → LocationStep
  | text name => .name name
  | integer value => if fitsWord value then .index value else .name (keyName (.integer value))
  | boolean value => .index (if value then 1 else 0)
  | key => .name key.keyName

/-- Entries with equal keys as one, in the place of the first and with the value of the last. -/
def mergeEntries {element : Type}
    (entries : List (String × element)) :
    List (String × element) :=
  entries.foldl (fun merged entry => setKey entry.1 entry.2 merged) []

def readErrorBag
    (location : List LocationStep) :
    Value → Lenient ErrorBag
  | mapping entries =>
      (Lenient.collect (entries.map fun (key, value) =>
        let entry := location ++ [entryStep key]
        Lenient.both (key.readText (entry ++ [.name "[key]"]))
          (value.readTextList entry))).map mergeEntries
  | _ => .fail .mappingType location

end Value

end FormRules
