import FormRules.Text.Names.Aliases
import FormRules.Text.Names.Alphabets
import FormRules.Text.Names.Hieroglyphs
import FormRules.Text.Names.Historic
import FormRules.Text.Names.Notation
import FormRules.Text.Names.Syllabaries
import FormRules.Text.Names.Symbols

/-!
Names of characters.

Most names are listed in tables; those of Hangul syllables are put together from the names of
their letters, and those of unified ideographs from their code points. A listed name is found
whatever the case of its letters, the other names only as they are.
-/

namespace FormRules.Text

def capitalHexValue?
    (character : Char) :
    Option Nat :=
  if '0' ≤ character && character ≤ '9' then some (character.toNat - 48)
  else if 'A' ≤ character && character ≤ 'F' then some (character.toNat - 55)
  else none

def capitalHexNumber?
    (digits : List Char) :
    Option Nat :=
  digits.foldl
    (fun value digit => do return 16 * (← value) + (← capitalHexValue? digit)) (some 0)

/-- The number of words that the first character of a listed name stands for. -/
def sharedWords?
    (character : Char) :
    Option Nat :=
  if '0' ≤ character && character ≤ '9' then some (character.toNat - 48)
  else if 'a' ≤ character && character ≤ 'z' then some (character.toNat - 87)
  else none

/-- The words of a listed name after another. -/
def wordsAfter
    (before : List String) (entry : String) :
    List String :=
  match entry.toList with
  | [] => []
  | first :: rest =>
      match sharedWords? first with
      | some count => before.take count ++ (String.ofList rest).splitOn " "
      | none => entry.splitOn " "

/-- The code point of a listed name, given by its words. The entries follow a name of the given
words; the next name belongs to the given code point. -/
def findListed?
    (wanted : List String) :
    (code : Nat) → (before : List String) → List String → Option Nat
  | _, _, [] => none
  | code, before, entry :: entries =>
      match entry.toList with
      | '=' :: digits => findListed? wanted ((capitalHexNumber? digits).getD 0) before entries
      | _ =>
          let words := wordsAfter before entry
          if words = wanted then some code else findListed? wanted (code + 1) words entries

def findInTable?
    (wanted : List String) (table : List String) :
    Option Nat :=
  findListed? wanted 0 [] ((String.join table).splitOn ";")

def nameTables :
    List (List String) :=
  [alphabetNames, symbolNames, syllabaryNames, historicNames, hieroglyphNames, notationNames,
    aliasNames]

def hangulInitials :
    List String :=
  ["G", "GG", "N", "D", "DD", "R", "M", "B", "BB", "S", "SS", "", "J", "JJ", "C", "K", "T", "P",
    "H"]

def hangulVowels :
    List String :=
  ["A", "AE", "YA", "YAE", "EO", "E", "YEO", "YE", "O", "WA", "WAE", "OE", "YO", "U", "WEO",
    "WE", "WI", "YU", "EU", "YI", "I"]

/-- Names of the letters with which a Hangul syllable ends, or of none. -/
def hangulFinals :
    List String :=
  ["", "G", "GG", "GS", "N", "NJ", "NH", "D", "L", "LG", "LM", "LB", "LS", "LT", "LP", "LH",
    "M", "B", "BS", "S", "SS", "NG", "J", "C", "K", "T", "P", "H"]

/-- The index of the longest of the names with which a text begins, and the rest of the text. -/
def longestLetter?
    (names : List String) (text : List Char) :
    Option (Nat × List Char) :=
  let lengths := names.map fun name =>
    if name.toList.isPrefixOf text then some name.length else none
  let longest := lengths.foldl max none
  match longest with
  | none => none
  | some length => some (lengths.idxOf (some length), text.drop length)

def hangulSyllable?
    (letters : List Char) :
    Option Nat := do
  let (initial, rest) ← longestLetter? hangulInitials letters
  let (vowel, rest) ← longestLetter? hangulVowels rest
  let (final, rest) ← longestLetter? hangulFinals rest
  if rest.isEmpty then return 0xAC00 + (initial * 21 + vowel) * 28 + final else none

def ideographSpans :
    List (Nat × Nat) :=
  [(0x3400, 0x4DBF), (0x4E00, 0x9FFF), (0x20000, 0x2A6DF), (0x2A700, 0x2B738),
    (0x2B740, 0x2B81D), (0x2B820, 0x2CEA1), (0x2CEB0, 0x2EBE0), (0x30000, 0x3134A)]

/-- The unified ideograph of the given digits, four or five of them. -/
def unifiedIdeograph?
    (digits : List Char) :
    Option Nat := do
  let code ← capitalHexNumber? digits
  if (digits.length = 4 || digits.length = 5) &&
      ideographSpans.any fun (first, last) => first ≤ code && code ≤ last then
    return code
  else none

def afterPrefix?
    (beginning : String) (text : List Char) :
    Option (List Char) :=
  if beginning.toList.isPrefixOf text then some (text.drop beginning.length) else none

def characterNamed?
    (name : List Char) :
    Option Nat :=
  match afterPrefix? "HANGUL SYLLABLE " name, afterPrefix? "CJK UNIFIED IDEOGRAPH-" name with
  | some letters, _ => hangulSyllable? letters
  | none, some digits => unifiedIdeograph? digits
  | none, none =>
      let wanted := (String.ofList (name.map Char.toUpper)).splitOn " "
      nameTables.findSome? (findInTable? wanted)

end FormRules.Text
