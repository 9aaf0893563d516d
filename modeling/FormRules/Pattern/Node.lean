import FormRules.Pattern.CharClass

/-!
Patterns as trees.

Every node already carries the mode in which it is to be matched: how letters are folded, which
alphabet its categories range over, and what the anchors and the point mean. What is matched one
after another is a list of nodes.

`Node.joinAlternatives` gives alternatives their shortest form: a common beginning is taken out,
and alternatives of one character each become a class.
-/

namespace FormRules.Pattern

/-- A place in a text that an anchor asks for. -/
inductive Place where
  | textStart
  | textEnd
  /-- The end of the text, or before a line feed that ends it. -/
  | lastLineEnd
  | lineStart
  | lineEnd
  | wordBoundary (alphabet : Alphabet)
  | insideWord (alphabet : Alphabet)
  deriving DecidableEq, Repr

/-- How a repetition chooses the number of its rounds: as many as possible, as few as possible, or
as many as possible without ever giving one back. -/
inductive Eagerness where
  | greedy
  | lazy
  | possessive
  deriving DecidableEq, Repr

/-- The least repetition count that is too large; as a length, it stands for every length from it
on. -/
def repetitionLimit :
    Nat :=
  4294967295

/-- The least and the greatest length of what a pattern matches. -/
structure Width where
  least : Nat
  greatest : Nat
  deriving DecidableEq, Repr

namespace Width

def exactly
    (length : Nat) :
    Width :=
  ⟨length, length⟩

def followedBy
    (first second : Width) :
    Width :=
  ⟨first.least + second.least, first.greatest + second.greatest⟩

def orElse
    (first second : Width) :
    Width :=
  ⟨min first.least second.least, max first.greatest second.greatest⟩

def times
    (width : Width) (least : Nat) (greatest : Option Nat) :
    Width :=
  ⟨width.least * least, width.greatest * greatest.getD repetitionLimit⟩

/-- The width counted no further than to the limit, which the least length does not reach. -/
def limited
    (width : Width) :
    Width :=
  ⟨min width.least (repetitionLimit - 1), min width.greatest repetitionLimit⟩

end Width

/-- A part of a pattern. -/
inductive Node where
  /-- One character, equal to the letter, or different from it when negated. -/
  | letter (code : Nat) (negated : Bool) (folding : Folding)
  /-- One character of a class. -/
  | oneOf (members : CharClass) (alphabet : Alphabet) (folding : Folding)
  /-- Any character, a line feed only when asked for. -/
  | anyCharacter (lineFeedToo : Bool)
  | anchor (place : Place)
  | choice (alternatives : List (List Node))
  /-- Parentheses that neither capture nor change options. -/
  | enclosed (body : List Node)
  /-- Parentheses that change options. -/
  | underOptions (body : List Node)
  | capture (group : Nat) (body : List Node)
  | repeated (eagerness : Eagerness) (least : Nat) (greatest : Option Nat) (body : List Node)
  /-- A pattern whose first way to match is the only one tried. -/
  | atomic (body : List Node)
  /-- A condition on what follows, or on the characters before, so many of them. -/
  | look (negated : Bool) (behind : Option Nat) (body : List Node)
  /-- What a group captured before, once more. -/
  | backreference (group : Nat) (folding : Folding) (width : Width)
  /-- One pattern if the group took part in the match, another if not. -/
  | conditional (group : Nat) (present absent : List Node)

instance : Inhabited Node :=
  ⟨.choice []⟩

namespace Node

/-- The pattern asks for a place and matches no character. -/
def isAnchor :
    Node → Bool
  | anchor _ => true
  | _ => false

def isRepeated :
    Node → Bool
  | repeated _ _ _ _ => true
  | _ => false

/-- The nodes with parentheses that do nothing left out. -/
def unwrapped
    (nodes : List Node) :
    List Node :=
  nodes.flatMap fun node =>
    match node with
    | enclosed body => body
    | other => [other]

/-- What a repetition written after a node repeats. -/
def repeatable :
    Node → List Node
  | enclosed body => body
  | other => [other]

/-- Two nodes without parts that are equal. Nodes with parts count as different. -/
def isSameLeaf :
    Node → Node → Bool
  | letter code negated folding, letter otherCode otherNegated otherFolding =>
      code == otherCode && negated == otherNegated && folding == otherFolding
  | oneOf members alphabet folding, oneOf otherMembers otherAlphabet otherFolding =>
      members == otherMembers && alphabet == otherAlphabet && folding == otherFolding
  | anyCharacter lineFeedToo, anyCharacter otherLineFeedToo => lineFeedToo == otherLineFeedToo
  | anchor place, anchor otherPlace => place == otherPlace
  | backreference group folding _, backreference otherGroup otherFolding _ =>
      group == otherGroup && folding == otherFolding
  | _, _ => false

/-- The nodes with which two lists both begin, and what follows them in each. -/
def commonBeginning :
    List Node → List Node → List Node
  | node :: nodes, other :: others =>
      if node.isSameLeaf other then node :: commonBeginning nodes others else []
  | _, _ => []

def commonBeginningOfAll :
    List (List Node) → List Node
  | [] => []
  | [alternative] => alternative
  | first :: second :: others =>
      commonBeginning first (commonBeginningOfAll (second :: others))

/-- The items of a class that matches what the alternative matches, if it is a letter or a class,
not negated. -/
def classItems? :
    List Node → Option (List ClassItem)
  | [letter code false _] => some [.single code]
  | [oneOf members _ _] => if members.negated then none else some members.items
  | _ => none

/-- Alternatives as nodes. The alphabet and the folding are those in force around them. -/
def joinAlternatives
    (alphabet : Alphabet) (folding : Folding) (alternatives : List (List Node)) :
    List Node :=
  match alternatives with
  | [alternative] => alternative
  | _ =>
      let beginning := commonBeginningOfAll alternatives
      let remaining := alternatives.map (List.drop beginning.length)
      match remaining.mapM classItems? with
      | some items =>
          beginning ++ [oneOf ⟨false, items.flatten.eraseDups⟩ alphabet folding]
      | none => beginning ++ [choice remaining]

mutual

def width :
    Node → Width
  | letter _ _ _ => .exactly 1
  | oneOf _ _ _ => .exactly 1
  | anyCharacter _ => .exactly 1
  | anchor _ => .exactly 0
  | choice alternatives => widthOfChoice ⟨repetitionLimit - 1, 0⟩ alternatives
  | enclosed body => (widthOfAll (.exactly 0) body).limited
  | underOptions body => (widthOfAll (.exactly 0) body).limited
  | capture _ body => (widthOfAll (.exactly 0) body).limited
  | repeated _ least greatest body =>
      (widthOfAll (.exactly 0) body).limited.times least greatest
  | atomic body => (widthOfAll (.exactly 0) body).limited
  | look _ _ _ => .exactly 0
  | backreference _ _ width => width
  | conditional _ present absent =>
      (widthOfAll (.exactly 0) present).limited.orElse (widthOfAll (.exactly 0) absent).limited

/-- The width of nodes after a pattern of the given width. -/
def widthOfAll :
    Width → List Node → Width
  | before, [] => before
  | before, node :: nodes => widthOfAll (before.followedBy node.width) nodes

/-- The width of alternatives besides a pattern of the given width. -/
def widthOfChoice :
    Width → List (List Node) → Width
  | others, [] => others
  | others, alternative :: alternatives =>
      widthOfChoice (others.orElse (widthOfAll (.exactly 0) alternative).limited) alternatives

end

def widthOf
    (nodes : List Node) :
    Width :=
  (widthOfAll (.exactly 0) nodes).limited

mutual

/-- A node and all nodes in it pass a test. -/
def every
    (test : Node → Bool) :
    Node → Bool
  | choice alternatives => test (choice alternatives) && everyOfChoice test alternatives
  | enclosed body => test (enclosed body) && everyOfAll test body
  | underOptions body => test (underOptions body) && everyOfAll test body
  | capture group body => test (capture group body) && everyOfAll test body
  | repeated eagerness least greatest body =>
      test (repeated eagerness least greatest body) && everyOfAll test body
  | atomic body => test (atomic body) && everyOfAll test body
  | look negated behind body => test (look negated behind body) && everyOfAll test body
  | conditional group present absent =>
      test (conditional group present absent) && everyOfAll test present && everyOfAll test absent
  | leaf => test leaf

def everyOfAll
    (test : Node → Bool) :
    List Node → Bool
  | [] => true
  | node :: nodes => every test node && everyOfAll test nodes

def everyOfChoice
    (test : Node → Bool) :
    List (List Node) → Bool
  | [] => true
  | alternative :: alternatives =>
      everyOfAll test alternative && everyOfChoice test alternatives

end

/-- A condition on the characters before a place is on a fixed number of them. -/
def isFixedLook :
    Node → Bool
  | look _ (some _) body => (widthOf body).least == (widthOf body).greatest
  | _ => true

end Node

end FormRules.Pattern
