import FormRules.Text.Blank
import FormRules.Text.Case
import FormRules.Text.Digit
import FormRules.Text.WordCodes

/-!
Classes of characters in patterns.

A class lists single characters, spans and categories, and may be negated. Letters can be matched
without regard to case: then the character of the text is lowered first, and a letter of the
class stands for its lower case and for the small letters that share an upper case with it.
-/

namespace FormRules.Pattern

open FormRules.Text

/-- Which characters the categories of a pattern range over. -/
inductive Alphabet where
  | unicode
  | ascii
  deriving DecidableEq, Repr

/-- How letters are compared: as they are, or without regard to case among ASCII letters or among
all letters. -/
inductive Folding where
  | exact
  | ascii
  | unicode
  deriving DecidableEq, Repr

inductive Category where
  | digit
  | blank
  | word
  deriving DecidableEq, Repr

/-- A part of a class. -/
inductive ClassItem where
  | single (code : Nat)
  | span (low high : Nat)
  | category (category : Category) (negated : Bool)
  deriving DecidableEq, Repr

/-- A class of characters: those of some item, or those of none. -/
structure CharClass where
  negated : Bool
  items : List ClassItem
  deriving DecidableEq, Repr

/-- The least code point beyond the basic multilingual plane. -/
def supplementaryStart :
    Nat :=
  65536

def isAsciiLetter
    (code : Nat) :
    Bool :=
  (65 ≤ code && code ≤ 90) || (97 ≤ code && code ≤ 122)

def asciiLower
    (code : Nat) :
    Nat :=
  if 65 ≤ code && code ≤ 90 then code + 32 else code

/-- Groups of small letters that have the same upper case. -/
def siblingGroups :
    List (List Nat) :=
  [
    [105, 305], [115, 383], [181, 956], [837, 953, 8126], [912, 8147], [944, 8163], [946, 976],
    [949, 1013], [952, 977], [954, 1008], [960, 982], [961, 1009], [962, 963], [966, 981],
    [1074, 7296], [1076, 7297], [1086, 7298], [1089, 7299], [1090, 7300, 7301], [1098, 7302],
    [1123, 7303], [7304, 42571], [7777, 7835], [64261, 64262]
  ]

/-- A small letter and those that share its upper case. -/
def withSiblings
    (code : Nat) :
    List Nat :=
  (siblingGroups.find? (·.contains code)).getD [code]

namespace Category

def contains
    (alphabet : Alphabet) (category : Category) (code : Nat) :
    Bool :=
  match alphabet, category with
  | .ascii, digit => 48 ≤ code && code ≤ 57
  | .ascii, blank => (9 ≤ code && code ≤ 13) || code == 32
  | .ascii, word => isAsciiLetter code || (48 ≤ code && code ≤ 57) || code == 95
  | .unicode, digit => isDigit (Char.ofNat code)
  | .unicode, blank => isBlank (Char.ofNat code)
  | .unicode, word => wordCodes.contains code

end Category

namespace Folding

/-- The form in which a code point is compared. -/
def apply :
    Folding → Nat → Nat
  | exact, code => code
  | ascii, code => asciiLower code
  | unicode, code => lowerCode code

def matchesLetter
    (folding : Folding) (letter code : Nat) :
    Bool :=
  match folding with
  | exact => code == letter
  | ascii => asciiLower code == asciiLower letter
  | unicode =>
      if isCasedCode letter then (withSiblings (lowerCode letter)).contains (lowerCode code)
      else code == letter

end Folding

def runMeets
    (low high : Nat) (run : CaseRun) :
    Bool :=
  let first :=
    if low ≤ run.first then run.first
    else run.first + (low - run.first + run.step - 1) / run.step * run.step
  first ≤ min high run.last

namespace ClassItem

def contains
    (alphabet : Alphabet) (code : Nat) :
    ClassItem → Bool
  | single letter => code == letter
  | span low high => low ≤ code && code ≤ high
  | category kind negated => kind.contains alphabet code != negated

/-- The item holds a letter that differs from a counterpart in the other case. Characters beyond
the basic multilingual plane count as such letters. -/
def holdsCased
    (folding : Folding) :
    ClassItem → Bool
  | single letter =>
      letter ≥ supplementaryStart ||
        (if folding = .ascii then isAsciiLetter letter else isCasedCode letter)
  | span low high =>
      high ≥ supplementaryStart || (low ≤ 90 && 65 ≤ high) || (low ≤ 122 && 97 ≤ high) ||
        (folding != .ascii &&
          (lowerRuns.any (runMeets low high) || upperRuns.any (runMeets low high)))
  | category _ _ => false

/-- The code points that fold to one of the given ones. -/
def foldSources
    (folding : Folding) (image : Nat) :
    List Nat :=
  if folding = .ascii then
    if 65 ≤ image && image ≤ 90 then []
    else if 97 ≤ image && image ≤ 122 then [image, image - 32]
    else [image]
  else (withSiblings image).flatMap lowerSources

/-- A folded code point belongs to the item without regard to case. Beyond the basic multilingual
plane a single letter must be the folded code point itself, and a span is also asked for its
upper case. -/
def containsFolded
    (alphabet : Alphabet) (folding : Folding) (folded : Nat) :
    ClassItem → Bool
  | single letter =>
      if letter ≥ supplementaryStart then folded == letter
      else folding.matchesLetter letter folded
  | span low high =>
      ((foldSources folding folded).any fun source =>
        low ≤ source && source ≤ high && source < supplementaryStart) ||
        (high ≥ supplementaryStart &&
          ((low ≤ folded && folded ≤ high) ||
            (low ≤ upperCode folded && upperCode folded ≤ high)))
  | category kind negated => kind.contains alphabet folded != negated

end ClassItem

namespace CharClass

/-- The folding that a class needs: none when it holds no letter of two cases. -/
def neededFolding
    (folding : Folding) (members : CharClass) :
    Folding :=
  if folding != .exact && members.items.any (·.holdsCased folding) then folding else .exact

def contains
    (alphabet : Alphabet) (folding : Folding) (members : CharClass) (code : Nat) :
    Bool :=
  let listed :=
    match folding with
    | .exact => members.items.any (·.contains alphabet code)
    | _ => members.items.any (·.containsFolded alphabet folding (folding.apply code))
  listed != members.negated

end CharClass

end FormRules.Pattern
