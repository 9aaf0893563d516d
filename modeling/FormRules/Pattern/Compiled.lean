import FormRules.Fault
import FormRules.Pattern.Matching
import FormRules.Pattern.Reader

/-!
Patterns that can be searched for.

`Compiled.ofBody` reads a pattern under given options. `Compiled.ofText` reads the text of a rule:
a bare pattern, or a pattern between two equal delimiters with letters of options after it.
`Compiled.search` looks for the first match in a text.
-/

namespace FormRules.Pattern

/-- A pattern that can be searched for: its program, the number of its groups, where a match may
begin, and the least number of characters of a match. -/
structure Compiled where
  program : Program
  groups : Nat
  beginning : Beginning
  least : Nat

/-- A match: where it begins and ends, and the bounds of its groups. -/
structure Found where
  start : Nat
  stop : Nat
  groups : List (Option (Nat × Nat))
  deriving DecidableEq, Repr

namespace Compiled

/-- The pattern that a text denotes under the given options. Two alphabets at once are noticed
before a closing parenthesis too many, a condition on a group that is not there, a repetition
where none is allowed, and a condition on characters before of no fixed number. -/
def ofBody
    (options : Options) (text : List Char) :
    Except PatternRefusal Compiled :=
  match readWhole text options with
  | .error refusal => .error refusal
  | .ok (nodes, state) =>
      if state.whole.ascii && state.whole.unicode then .error .clashingAlphabets
      else if !state.rest.isEmpty then .error .malformed
      else if state.mentioned.any (state.widths.length < ·) then .error .malformed
      else if state.whole.template && !Node.everyOfAll (!·.isRepeated) nodes then .error .malformed
      else if !Node.everyOfAll Node.isFixedLook nodes then .error .malformed
      else
        .ok ⟨Node.programOfAll nodes .done, state.widths.length,
          .ofNodes state.whole.alphabet nodes, (Node.widthOf nodes).least⟩

def lettersStandAt
    (text : Array Nat) :
    List Nat → (place : Nat) → Bool
  | [], _ => true
  | code :: codes, place => text[place]? == some code && lettersStandAt text codes (place + 1)

def mayBeginAt
    (compiled : Compiled) (text : Array Nat) (place : Nat) :
    Bool :=
  match compiled.beginning with
  | .anywhere => true
  | .letters codes => lettersStandAt text codes place
  | .member members alphabet => (text[place]?).any (members.contains alphabet .exact)

def places
    (compiled : Compiled) (text : Array Nat) :
    Nat :=
  if text.size < compiled.least then 0
  else
    match compiled.beginning with
    | .anywhere => text.size - (compiled.least - 1) + 1
    | _ => text.size

/-- The machine at the end of the search for a match that begins at the place. -/
def machineAt
    (compiled : Compiled) (text : Array Nat) (place : Nat) :
    Machine :=
  Machine.run text Machine.stepLimit
    ⟨.attempt compiled.program place [], [], place, .ofGroups compiled.groups⟩

/-- The match that a machine has come to, from a place on. A group that ends before it begins is a
fault. -/
def foundBy
    (compiled : Compiled) (machine : Machine) (place : Nat) :
    Except Fault Found :=
  let groups := (List.range compiled.groups).map fun index => machine.marks.places? (index + 1)
  if groups.any fun bounds => bounds.any fun (start, stop) => stop < start then
    .error .crossedGroup
  else .ok ⟨place, machine.left, groups⟩

/-- The first match that begins at one of so many places from the given one on. -/
def searchFrom
    (compiled : Compiled) (text : Array Nat) :
    (count place : Nat) → Except Fault (Option Found)
  | 0, _ => .ok none
  | count + 1, place =>
      if compiled.mayBeginAt text place then
        let machine := compiled.machineAt text place
        if machine.hasSucceeded then (compiled.foundBy machine place).map some
        else searchFrom compiled text count (place + 1)
      else searchFrom compiled text count (place + 1)

def search
    (compiled : Compiled) (text : List Char) :
    Except Fault (Option Found) :=
  let codes := (text.map Char.toNat).toArray
  compiled.searchFrom codes (compiled.places codes) 0

end Compiled

def isDelimiter
    (character : Char) :
    Bool :=
  ['/', '#', '~', '!', '@', '%', '|', '+'].contains character

def splitAtLast?
    (separator : Char) :
    List Char → Option (List Char × List Char)
  | [] => none
  | character :: rest =>
      match splitAtLast? separator rest with
      | some (before, after) => some (character :: before, after)
      | none => if character = separator then some ([], rest) else none

def withoutFinalLineFeed
    (text : List Char) :
    List Char :=
  if text.getLast? = some '\n' then text.dropLast else text

/-- The option that a letter after a delimited pattern stands for. -/
def delimitedOption?
    (letter : Char) :
    Option Options :=
  if ['i', 'm', 's', 'x', 'u'].contains letter then Options.ofLetter? letter else none

/-- The options that letters after a delimited pattern stand for; none if one of them is no such
letter. -/
def delimitedOptions? :
    List Char → Option Options
  | [] => some Options.none
  | letter :: letters =>
      match delimitedOption? letter, delimitedOptions? letters with
      | some option, some options => some (option.union options)
      | _, _ => none

/-- The pattern between two equal delimiters and the options after the second. A line feed at the
very end is not looked at. -/
def readDelimited? :
    List Char → Option (List Char × Options)
  | [] => none
  | delimiter :: rest =>
      if isDelimiter delimiter then
        match splitAtLast? delimiter rest with
        | none => none
        | some (body, after) =>
            (delimitedOptions? (withoutFinalLineFeed after)).map fun options => (body, options)
      else none

namespace Compiled

def ofText
    (text : List Char) :
    Except PatternRefusal Compiled :=
  match readDelimited? text with
  | some (body, options) => ofBody options body
  | none => ofBody Options.none text

/-- The pattern that a text denotes; none if it is malformed. A repetition count that is too large
or too long and two alphabets at once are faults. -/
def ofText?
    (text : List Char) :
    Except Fault (Option Compiled) :=
  match ofText text with
  | .ok compiled => .ok (some compiled)
  | .error .malformed => .ok none
  | .error .repetitionTooLarge => .error .repetitionTooLarge
  | .error (.repetitionTooLong digits) => .error (.numeralTooLong digits)
  | .error .clashingAlphabets => .error .clashingAlphabets

/-- The match ends behind the `a` of the second round, which fails. -/
example :
    ((ofText? "x(?:ab+c){1,2}+".toList).toOption.join.bind fun compiled =>
      (compiled.search "xabcab".toList).toOption.join) = some ⟨0, 5, []⟩ := by
  decide +kernel

end Compiled

end FormRules.Pattern
