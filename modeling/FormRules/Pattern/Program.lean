import FormRules.Pattern.Node

/-!
Programs: patterns prepared for matching.

A program says what to do at a place of a text and how to go on after it. Alternatives share what
follows them, and every group is a pair of marks. A repetition of a single character is a run of
characters; other repetitions go round by round.

Beside the program stands what is known about the places where a match may begin.
-/

namespace FormRules.Pattern

open FormRules.Text

inductive CharacterTest where
  | letter (code : Nat) (negated : Bool) (folding : Folding)
  /-- Membership in a class, with the folding that the class needs. -/
  | oneOf (members : CharClass) (alphabet : Alphabet) (folding : Folding)
  | any (lineFeedToo : Bool)
  deriving DecidableEq, Repr

def lineFeed :
    Nat :=
  10

def hasCase
    (folding : Folding) (code : Nat) :
    Bool :=
  match folding with
  | .exact => false
  | .ascii => isAsciiLetter code
  | .unicode => isCasedCode code

namespace CharacterTest

def accepts
    (test : CharacterTest) (character : Nat) :
    Bool :=
  match test with
  | letter code negated folding => folding.matchesLetter code character != negated
  | oneOf members alphabet folding => members.contains alphabet folding character
  | any lineFeedToo => lineFeedToo || character != lineFeed

/-- The test asks for one letter and for no other form of it. -/
def exactLetter? :
    CharacterTest → Option Nat
  | letter code false folding => if hasCase folding code then none else some code
  | _ => none

/-- The test can be made before a way to match is begun: it asks for one letter in one form, or
for a class without letters of two cases. -/
def isDirect :
    CharacterTest → Bool
  | letter code negated folding => !negated && !hasCase folding code
  | oneOf _ _ folding => folding == .exact
  | any _ => false

/-- The characters of a run are passed one at a time: a class is asked about their folded forms. -/
def isFolded :
    CharacterTest → Bool
  | letter code _ folding =>
      folding == .unicode && isCasedCode code && (withSiblings (lowerCode code)).length != 1
  | oneOf _ _ folding => folding != .exact
  | any _ => false

end CharacterTest

/-- What to do at a place of a text. -/
inductive Program where
  /-- The end of the pattern, or of a part of it that is matched by itself. -/
  | done
  | character (test : CharacterTest) (next : Program)
  | anchor (place : Place) (next : Program)
  /-- Notes the place under a number. -/
  | mark (index : Nat) (next : Program)
  | choice (alternatives : List Program)
  /-- A run of characters that pass a test. -/
  | run (eagerness : Eagerness) (least : Nat) (greatest : Option Nat) (test : CharacterTest)
      (next : Program)
  /-- Begins a repetition. Each round and the place before the first lead to `again`. -/
  | rounds (least : Nat) (greatest : Option Nat) (body again : Program)
  /-- The place between the rounds of the innermost repetition, and what follows the last one. -/
  | again (few : Bool) (next : Program)
  | possessive (least : Nat) (greatest : Option Nat) (body next : Program)
  | atomic (body next : Program)
  | look (negated : Bool) (behind : Nat) (body next : Program)
  | backreference (group : Nat) (folding : Folding) (next : Program)
  | conditional (group : Nat) (present absent : Program)

instance : Inhabited Program :=
  ⟨.done⟩

namespace Node

/-- The test that a node makes, if it makes nothing but one test of one character. -/
def test? :
    Node → Option CharacterTest
  | letter code negated folding => some (.letter code negated folding)
  | oneOf members alphabet folding => some (.oneOf members alphabet (members.neededFolding folding))
  | anyCharacter lineFeedToo => some (.any lineFeedToo)
  | underOptions [node] => node.test?
  | enclosed [node] => node.test?
  | _ => none

def singleTest? :
    List Node → Option CharacterTest
  | [node] => node.test?
  | _ => none

mutual

/-- The program that matches a node and goes on. -/
def program :
    Node → Program → Program
  | letter code negated folding, next => .character (.letter code negated folding) next
  | oneOf members alphabet folding, next =>
      .character (.oneOf members alphabet (members.neededFolding folding)) next
  | anyCharacter lineFeedToo, next => .character (.any lineFeedToo) next
  | anchor place, next => .anchor place next
  | choice alternatives, next => .choice (programsOfChoice alternatives next)
  | enclosed body, next => programOfAll body next
  | underOptions body, next => programOfAll body next
  | capture group body, next =>
      .mark (2 * group - 2) (programOfAll body (.mark (2 * group - 1) next))
  | repeated eagerness least greatest body, next =>
      match singleTest? body, eagerness with
      | some test, _ => .run eagerness least greatest test next
      | none, .greedy =>
          .rounds least greatest (programOfAll body (.again false next)) (.again false next)
      | none, .lazy =>
          .rounds least greatest (programOfAll body (.again true next)) (.again true next)
      | none, .possessive => .possessive least greatest (programOfAll body .done) next
  | atomic body, next => .atomic (programOfAll body .done) next
  | look negated behind body, next =>
      .look negated (behind.getD 0) (programOfAll body .done) next
  | backreference group folding _, next => .backreference group folding next
  | conditional group present absent, next =>
      .conditional group (programOfAll present next) (programOfAll absent next)

def programOfAll :
    List Node → Program → Program
  | [], next => next
  | node :: nodes, next => program node (programOfAll nodes next)

def programsOfChoice :
    List (List Node) → Program → List Program
  | [], _ => []
  | alternative :: alternatives, next =>
      programOfAll alternative next :: programsOfChoice alternatives next

end

mutual

/-- The letters with which a node begins, and whether it is nothing but these letters. Letters of
two cases do not count. -/
def letters :
    Node → List Nat × Bool
  | letter code false folding => if hasCase folding code then ([], false) else ([code], true)
  | enclosed body => lettersOfAll body
  | underOptions body => lettersOfAll body
  | capture _ body => lettersOfAll body
  | _ => ([], false)

def lettersOfAll :
    List Node → List Nat × Bool
  | [] => ([], true)
  | node :: nodes =>
      match letters node with
      | (codes, false) => (codes, false)
      | (codes, true) => (codes ++ (lettersOfAll nodes).1, (lettersOfAll nodes).2)

end

/-- The letter with which nodes begin, if it is no letter of two cases. -/
def firstLetter? :
    List Node → Option Nat
  | letter code false folding :: _ => if hasCase folding code then none else some code
  | _ => none

/-- The item of a class holds a letter of two cases, or a span that goes beyond the basic
multilingual plane. -/
def itemHasCase
    (folding : Folding) :
    ClassItem → Bool
  | .single code => hasCase folding code
  | item => item.holdsCased folding

/-- The class that a match of a node begins with, if the node begins with a class, or with a
choice between letters. Letters of two cases do not count. -/
def leadingClass? :
    Node → Option CharClass
  | oneOf members _ folding =>
      if folding != .exact && members.items.any (itemHasCase folding) then none else some members
  | choice alternatives =>
      (alternatives.mapM firstLetter?).map fun codes => ⟨false, codes.map .single⟩
  | enclosed (node :: _) => node.leadingClass?
  | underOptions (node :: _) => node.leadingClass?
  | capture _ (node :: _) => node.leadingClass?
  | _ => none

end Node

/-- Where a match may begin: anywhere, where certain letters stand, or where a character of a
class stands. -/
inductive Beginning where
  | anywhere
  | letters (codes : List Nat)
  | member (members : CharClass) (alphabet : Alphabet)
  deriving DecidableEq, Repr

namespace Beginning

/-- Where a match of nodes may begin. A class is asked in the alphabet of the whole pattern. -/
def ofNodes
    (alphabet : Alphabet) (nodes : List Node) :
    Beginning :=
  if (Node.widthOf nodes).least = 0 then anywhere
  else
    match (Node.lettersOfAll nodes).1, nodes.head?.bind Node.leadingClass? with
    | [], some members => member members alphabet
    | [], none => anywhere
    | codes, _ => letters codes

end Beginning

end FormRules.Pattern
