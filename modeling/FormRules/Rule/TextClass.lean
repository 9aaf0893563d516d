/-!
Texts that rules recognize character by character: letters, digits, slugs and mail addresses.

All of these are made of ASCII characters. A mail address has one at sign; before it stands a
local part, after it labels with points between them, each of at most 63 letters, digits and
hyphens and with a hyphen at neither end.
-/

namespace FormRules

def isLetter
    (character : Char) :
    Bool :=
  ('a' ≤ character && character ≤ 'z') || ('A' ≤ character && character ≤ 'Z')

def isNumeralDigit
    (character : Char) :
    Bool :=
  '0' ≤ character && character ≤ '9'

def isLetterOrDigit
    (character : Char) :
    Bool :=
  isLetter character || isNumeralDigit character

/-- An ASCII small letter, a low line or a hyphen. -/
def isSlugCharacter
    (character : Char) :
    Bool :=
  ('a' ≤ character && character ≤ 'z') || character == '_' || character == '-'

/-- A text of at least one character that consists of characters of a kind. -/
def consistsOf
    (kind : Char → Bool) (text : List Char) :
    Bool :=
  !text.isEmpty && text.all kind

def isLocalCharacter
    (character : Char) :
    Bool :=
  isLetterOrDigit character ||
    ".!#$%&'*+/=?^_\x60\x7b|\x7d~-".toList.contains character

def labelLimit :
    Nat :=
  63

/-- The rest of a domain, inside a label that has so many characters so far and whose last
character was a hyphen or not. -/
def continuesDomain :
    (length : Nat) → (afterHyphen : Bool) → List Char → Bool
  | length, afterHyphen, [] => length != 0 && !afterHyphen
  | length, afterHyphen, character :: rest =>
      if character = '.' then length != 0 && !afterHyphen && continuesDomain 0 false rest
      else if isLetterOrDigit character then
        length < labelLimit && continuesDomain (length + 1) false rest
      else if character = '-' then
        length != 0 && length < labelLimit && continuesDomain (length + 1) true rest
      else false

def isMailAddress
    (text : List Char) :
    Bool :=
  let localPart := text.takeWhile isLocalCharacter
  match text.drop localPart.length with
  | '@' :: domain => !localPart.isEmpty && continuesDomain 0 false domain
  | _ => false

end FormRules
