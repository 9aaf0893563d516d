import FormRules.Text.CaseRuns

/-!
Lower and upper case.

`lowerCode` and `upperCode` map one code point to one code point. `lowerText` maps a text: there
a capital I with dot becomes two characters, and a capital sigma at the end of a word becomes the
final form of the small letter.
-/

namespace FormRules.Text

/-- The counterpart of a code point in a list of runs, or the code point itself. -/
def mapThroughRuns
    (runs : List CaseRun) (code : Nat) :
    Nat :=
  match runs.find? (·.covers code) with
  | some run => run.apply code
  | none => code

def lowerCode
    (code : Nat) :
    Nat :=
  if code < 128 then
    if 65 ≤ code && code ≤ 90 then code + 32 else code
  else mapThroughRuns lowerRuns code

def upperCode
    (code : Nat) :
    Nat :=
  if code < 128 then
    if 97 ≤ code && code ≤ 122 then code - 32 else code
  else mapThroughRuns upperRuns code

/-- A code point that differs from one of its two counterparts. -/
def isCasedCode
    (code : Nat) :
    Bool :=
  lowerCode code != code || upperCode code != code

def lowerSources
    (image : Nat) :
    List Nat :=
  let plain := if lowerCode image == image then [image] else []
  let ascii := if 97 ≤ image && image ≤ 122 then [image - 32] else []
  plain ++ ascii ++ lowerRuns.filterMap (·.source? image)

/-- The next character that counts when a capital sigma looks around is a cased letter. -/
def facesCasedLetter
    (neighbours : List Char) :
    Bool :=
  match neighbours.dropWhile (caseIgnorableCodes.contains ·.toNat) with
  | [] => false
  | nearest :: _ => casedCodes.contains nearest.toNat

/-- The lower case of one character between the characters before it, nearest first, and those
after it. -/
def lowerInContext
    (before : List Char) (character : Char) (after : List Char) :
    List Char :=
  if character.toNat == 304 then ['i', Char.ofNat 775]
  else if character.toNat == 931 then
    if facesCasedLetter before && !facesCasedLetter after then [Char.ofNat 962]
    else [Char.ofNat 963]
  else [Char.ofNat (lowerCode character.toNat)]

/-- The lower case of a text that follows the given characters, nearest first. -/
def lowerAfter
    (before : List Char) :
    List Char → List Char
  | [] => []
  | character :: after =>
      lowerInContext before character after ++ lowerAfter (character :: before) after

def lowerText
    (text : List Char) :
    List Char :=
  lowerAfter [] text

/-- ASCII letters are lowered by a fixed distance and other ASCII characters stay. -/
theorem lowerCode_ascii
    {code : Nat}
    (ascii : code < 128) :
    lowerCode code = if 65 ≤ code && code ≤ 90 then code + 32 else code := by
  simp [lowerCode, ascii]

end FormRules.Text
