import FormRules.Number.Quantity
import FormRules.Time.Moment

/-!
Input values.

An input maps field names to values of mixed kinds. `Value.isTrue` says which values count as
present, `Value.size?` which have a number of elements, and `Value.equals` which are equal.
-/

namespace FormRules

open FormRules.Number
open FormRules.Time

/-- A value of an input. Mappings and sets keep the order in which they were built. An object is
known by its kind and by how it is shown. -/
inductive Value where
  | null
  | boolean (value : Bool)
  | integer (value : Int)
  | real (value : Binary64)
  | text (value : String)
  | bytes (value : List UInt8)
  | list (items : List Value)
  | tuple (items : List Value)
  | mapping (entries : List (Value × Value))
  | set (members : List Value)
  | moment (value : Moment)
  | object (kind shown : String)
  deriving Inhabited

namespace Value

def kindName :
    Value → String
  | null => "NoneType"
  | boolean _ => "bool"
  | integer _ => "int"
  | real _ => "float"
  | text _ => "str"
  | bytes _ => "bytes"
  | list _ => "list"
  | tuple _ => "tuple"
  | mapping _ => "dict"
  | set _ => "frozenset"
  | moment _ => "datetime"
  | object kind _ => kind

/-- The name of the value's kind together with where the kind is from. -/
def fullKindName :
    Value → String
  | moment _ => "datetime.datetime"
  | value => value.kindName

/-- The value counts as present: it is neither null nor false nor zero nor empty. -/
def isTrue :
    Value → Bool
  | null => false
  | boolean value => value
  | integer value => value != 0
  | real value => !value.isZero
  | text value => value != ""
  | bytes value => !value.isEmpty
  | list items => !items.isEmpty
  | tuple items => !items.isEmpty
  | mapping entries => !entries.isEmpty
  | set members => !members.isEmpty
  | moment _ => true
  | object _ _ => true

def isNull :
    Value → Bool
  | null => true
  | _ => false

def isText :
    Value → Bool
  | text _ => true
  | _ => false

/-- The value is a list, a tuple or a mapping. -/
def isArray :
    Value → Bool
  | list _ => true
  | tuple _ => true
  | mapping _ => true
  | _ => false

/-- The number of characters of a text or of elements of a list, a tuple or a mapping. -/
def size? :
    Value → Option Nat
  | text value => some value.length
  | list items => some items.length
  | tuple items => some items.length
  | mapping entries => some entries.length
  | _ => none

/-- The quantity that a value is for equality; a truth value is one or zero. -/
def quantity? :
    Value → Option Quantity
  | boolean value => some (.integer (if value then 1 else 0))
  | integer value => some (.integer value)
  | real value => some (.real value)
  | _ => none

/-- Equality of values without elements: numbers by quantity, others only with their own kind. -/
def plainEquals
    (left right : Value) :
    Bool :=
  match left.quantity?, right.quantity? with
  | some leftQuantity, some rightQuantity => leftQuantity.equals rightQuantity
  | none, none =>
      match left, right with
      | null, null => true
      | text leftText, text rightText => leftText == rightText
      | bytes leftBytes, bytes rightBytes => leftBytes == rightBytes
      | moment leftMoment, moment rightMoment => leftMoment.agrees rightMoment
      | object leftKind leftShown, object rightKind rightShown =>
          leftKind == rightKind && leftShown == rightShown
      | _, _ => false
  | _, _ => false

mutual

/-- Equality of values. Lists and tuples are equal to their own kind, element by element; sets
are equal when each has an equal of every member of the other, and mappings when each has an
equal of every entry of the other. -/
def equals :
    Value → Value → Bool
  | list leftItems, right =>
      match right with
      | list rightItems => equalsItems leftItems rightItems
      | _ => false
  | tuple leftItems, right =>
      match right with
      | tuple rightItems => equalsItems leftItems rightItems
      | _ => false
  | set leftMembers, right =>
      match right with
      | set rightMembers =>
          allMembersIn leftMembers rightMembers &&
            rightMembers.all fun member => someMemberEquals leftMembers member
      | _ => false
  | mapping leftEntries, right =>
      match right with
      | mapping rightEntries =>
          allEntriesIn leftEntries rightEntries &&
            rightEntries.all fun entry => someEntryEquals leftEntries entry
      | _ => false
  | left, right => plainEquals left right

def equalsItems :
    List Value → List Value → Bool
  | [], right => right.isEmpty
  | leftItem :: leftItems, right =>
      match right with
      | [] => false
      | rightItem :: rightItems => equals leftItem rightItem && equalsItems leftItems rightItems

def allMembersIn :
    List Value → List Value → Bool
  | [], _ => true
  | member :: members, others =>
      others.any (fun other => equals member other) && allMembersIn members others

def someMemberEquals :
    List Value → Value → Bool
  | [], _ => false
  | member :: members, other => equals member other || someMemberEquals members other

def allEntriesIn :
    List (Value × Value) → List (Value × Value) → Bool
  | [], _ => true
  | (key, value) :: entries, others =>
      others.any (fun other => equals key other.1 && equals value other.2) &&
        allEntriesIn entries others

def someEntryEquals :
    List (Value × Value) → Value × Value → Bool
  | [], _ => false
  | (key, value) :: entries, other =>
      (equals key other.1 && equals value other.2) || someEntryEquals entries other

end

/-- A list of entries with one more. The value of an equal key is replaced, and the key kept. -/
def insertEntry
    (new : Value × Value) :
    List (Value × Value) → List (Value × Value)
  | [] => [new]
  | entry :: entries =>
      if equals entry.1 new.1 then (entry.1, new.2) :: entries
      else entry :: insertEntry new entries

/-- The mapping that has the given entries, later ones replacing earlier ones. -/
def mappingOf
    (entries : List (Value × Value)) :
    Value :=
  mapping (entries.foldl (fun built entry => insertEntry entry built) [])

def setOf
    (members : List Value) :
    Value :=
  set (members.foldl
    (fun built member => if someMemberEquals built member then built else built ++ [member]) [])

end Value

end FormRules
