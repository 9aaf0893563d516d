import FormRules.Pattern.Compiled
import Mathlib.Data.List.Basic

/-!
# Delimited texts

A delimited text begins with a delimiter, and behind the last occurrence of the delimiter are only
letters of options, and perhaps a line feed at the very end. Reading cuts it there, whatever the
body holds. Every other text is bare: it does not begin with a delimiter, or its first delimiter is
also the last, or something else is behind the last one.
-/

namespace FormRules.Pattern

open FormRules.Text

def optionLetters :
    List Char :=
  ['i', 'm', 's', 'x', 'u']

/-- The options that have their letter in the list. -/
def Options.named
    (letters : List Char) :
    Options :=
  { Options.none with
    ignoreCase := letters.contains 'i'
    multiline := letters.contains 'm'
    dotAll := letters.contains 's'
    verbose := letters.contains 'x'
    unicode := letters.contains 'u' }

def isOptionLetter
    (character : Char) :
    Bool :=
  optionLetters.contains character

def isPatternLetter
    (character : Char) :
    Bool :=
  isAsciiLetter character.toNat

section Kinds

variable (isKnown : Char → Bool)

/-- The text consists of known letters, and perhaps a line feed at the end. -/
structure IsEnding
    (text letters : List Char) :
    Prop where
  known : letters.all isKnown = true
  text_eq : text = letters ∨ text = letters ++ ['\n']

/-- A text with a body between two equal delimiters, and known letters behind the second. -/
inductive IsDelimited :
    (text body letters : List Char) → Prop
  | intro {delimiter : Char} {ending letters : List Char}
      (delimits : isDelimiter delimiter = true) (body : List Char)
      (isEnding : IsEnding isKnown ending letters) :
      IsDelimited (delimiter :: (body ++ delimiter :: ending)) body letters

/-- A text without a body between two delimiters. -/
inductive IsBare :
    (text : List Char) → Prop
  | undelimited {first : Char} (other : isDelimiter first = false) (rest : List Char) :
      IsBare (first :: rest)
  | unclosed {delimiter : Char} (delimits : isDelimiter delimiter = true) {rest : List Char}
      (once : delimiter ∉ rest) :
      IsBare (delimiter :: rest)
  | otherEnding {delimiter : Char} {ending : List Char}
      (delimits : isDelimiter delimiter = true) (body : List Char) (last : delimiter ∉ ending)
      (noEnding : ∀ letters, ¬ IsEnding isKnown ending letters) :
      IsBare (delimiter :: (body ++ delimiter :: ending))

end Kinds

/-! ## Letters of options -/

namespace Options

/-- Only which letters there are matters, not their order nor how often they occur. -/
theorem named_congr
    {letters others : List Char} (same : ∀ letter, letter ∈ letters ↔ letter ∈ others) :
    named letters = named others := by
  have contained : ∀ letter, letters.contains letter = others.contains letter := by
    intro letter
    rw [Bool.eq_iff_iff, List.contains_iff_mem, List.contains_iff_mem]
    exact same letter
  simp only [named, contained]

theorem named_cons
    (letter : Char) (letters : List Char) :
    named (letter :: letters) = (named [letter]).union (named letters) := by
  simp only [named, union, none, List.contains_cons, List.contains_nil, Bool.or_false]

end Options

theorem delimitedOption?_eq
    (letter : Char) :
    delimitedOption? letter =
      if isOptionLetter letter then some (.named [letter]) else none := by
  have eachRead :
      optionLetters.all (fun letter =>
        delimitedOption? letter == some (.named [letter])) = true := by
    decide
  by_cases known : isOptionLetter letter = true
  · have read := List.all_eq_true.mp eachRead letter (List.contains_iff_mem.mp known)
    rw [if_pos known]
    exact beq_iff_eq.mp read
  · rw [if_neg known]
    exact if_neg known

/-- Letters are read together: one that is no letter of an option spoils all. -/
theorem delimitedOptions?_eq
    (letters : List Char) :
    delimitedOptions? letters =
      if letters.all isOptionLetter then some (.named letters) else none := by
  induction letters with
  | nil => rfl
  | cons letter letters inductionHypothesis =>
      rw [delimitedOptions?, delimitedOption?_eq, inductionHypothesis, List.all_cons,
        Options.named_cons letter letters]
      cases isOptionLetter letter with
      | false => rfl
      | true => cases letters.all isOptionLetter <;> rfl

/-! ## The ending -/

section Endings

variable {isKnown : Char → Bool} {letters rest : List Char}

theorem isEnding_append
    (known : letters.all isKnown = true) (ends : rest = [] ∨ rest = ['\n']) :
    IsEnding isKnown (letters ++ rest) letters := by
  refine ⟨known, ?_⟩
  rcases ends with rfl | rfl
  · exact Or.inl (List.append_nil letters)
  · exact Or.inr rfl

theorem IsEnding.exists_append
    {text : List Char} (isEnding : IsEnding isKnown text letters) :
    ∃ rest, text = letters ++ rest ∧ (rest = [] ∨ rest = ['\n']) := by
  rcases isEnding.text_eq with rfl | rfl
  · exact ⟨[], (List.append_nil text).symm, Or.inl rfl⟩
  · exact ⟨['\n'], rfl, Or.inr rfl⟩

end Endings

theorem isEnding_iff
    {text letters : List Char} :
    IsEnding isOptionLetter text letters ↔
      withoutFinalLineFeed text = letters ∧ letters.all isOptionLetter = true := by
  constructor
  · rintro ⟨known, rfl | rfl⟩
    · have noLineFeed : ¬ text.getLast? = some '\n' := by
        intro last
        have isKnown := List.all_eq_true.mp known '\n' (List.mem_of_getLast? last)
        exact absurd isKnown (by decide)
      rw [withoutFinalLineFeed, if_neg noLineFeed]
      exact ⟨rfl, known⟩
    · have last : (letters ++ ['\n']).getLast? = some '\n' := List.getLast?_concat
      rw [withoutFinalLineFeed, if_pos last, List.dropLast_concat]
      exact ⟨rfl, known⟩
  · rintro ⟨rfl, known⟩
    refine ⟨known, ?_⟩
    by_cases last : text.getLast? = some '\n'
    · right
      rw [withoutFinalLineFeed, if_pos last]
      exact (List.dropLast_append_getLast? '\n' last).symm
    · left
      rw [withoutFinalLineFeed, if_neg last]

/-- The letters of options are letters. -/
theorem IsEnding.of_isOptionLetter
    {text letters : List Char} (isEnding : IsEnding isOptionLetter text letters) :
    IsEnding isPatternLetter text letters := by
  have areLetters : optionLetters.all isPatternLetter = true := by
    decide
  refine ⟨List.all_eq_true.mpr fun letter member => ?_, isEnding.text_eq⟩
  have known := List.all_eq_true.mp isEnding.known letter member
  exact List.all_eq_true.mp areLetters letter (List.contains_iff_mem.mp known)

/-- Among the texts that are delimited with any letters, those count where the letters are letters
of options. -/
theorem isDelimited_isOptionLetter_iff
    {text body letters : List Char} :
    IsDelimited isOptionLetter text body letters ↔
      IsDelimited isPatternLetter text body letters ∧ letters.all isOptionLetter = true := by
  constructor
  · rintro ⟨delimits, body, isEnding⟩
    exact ⟨.intro delimits body isEnding.of_isOptionLetter, isEnding.known⟩
  · rintro ⟨⟨delimits, body, isEnding⟩, known⟩
    exact .intro delimits body ⟨known, isEnding.text_eq⟩

/-! ## The last occurrence of a character -/

theorem splitAtLast?_of_not_mem
    {separator : Char} {text : List Char} (absent : separator ∉ text) :
    splitAtLast? separator text = none := by
  induction text with
  | nil => rfl
  | cons character rest inductionHypothesis =>
      rw [List.mem_cons, not_or] at absent
      obtain ⟨other, absentLater⟩ := absent
      rw [splitAtLast?, inductionHypothesis absentLater, if_neg (Ne.symm other)]

theorem splitAtLast?_append
    {separator : Char} {after : List Char} (before : List Char) (absent : separator ∉ after) :
    splitAtLast? separator (before ++ separator :: after) = some (before, after) := by
  induction before with
  | nil =>
      rw [List.nil_append, splitAtLast?, splitAtLast?_of_not_mem absent]
      exact if_pos rfl
  | cons character before inductionHypothesis =>
      rw [List.cons_append, splitAtLast?, inductionHypothesis]

/-- A character that occurs has a last occurrence. -/
theorem exists_append_of_mem
    {separator : Char} {text : List Char} (occurs : separator ∈ text) :
    ∃ before after, text = before ++ separator :: after ∧ separator ∉ after := by
  induction text with
  | nil => cases occurs
  | cons character rest inductionHypothesis =>
      by_cases later : separator ∈ rest
      · obtain ⟨before, after, rfl, absent⟩ := inductionHypothesis later
        exact ⟨character :: before, after, rfl, absent⟩
      · obtain rfl : separator = character := (List.mem_cons.mp occurs).resolve_right later
        exact ⟨[], rest, rfl, later⟩

/-! ## Reading -/

/-- No delimiter is a letter or a line feed. -/
theorem IsEnding.delimiter_not_mem
    {delimiter : Char} {text letters : List Char} (delimits : isDelimiter delimiter = true)
    (isEnding : IsEnding isPatternLetter text letters) :
    delimiter ∉ text := by
  have apart :
      ['/', '#', '~', '!', '@', '%', '|', '+'].all (fun delimiter =>
        !isPatternLetter delimiter && delimiter != '\n') = true := by
    decide
  have other := List.all_eq_true.mp apart delimiter (List.contains_iff_mem.mp delimits)
  rw [Bool.and_eq_true, Bool.not_eq_true', bne_iff_ne] at other
  obtain ⟨noLetter, noLineFeed⟩ := other
  obtain ⟨known, ending⟩ := isEnding
  have absent : delimiter ∉ letters := by
    intro member
    have isLetter := List.all_eq_true.mp known delimiter member
    rw [noLetter] at isLetter
    cases isLetter
  rcases ending with rfl | rfl
  · exact absent
  · rw [List.mem_append, not_or, List.mem_singleton]
    exact ⟨absent, noLineFeed⟩

theorem isBlank_of_isDelimiter
    {delimiter : Char} (delimits : isDelimiter delimiter = true) :
    isBlank delimiter = false := by
  have filled :
      ['/', '#', '~', '!', '@', '%', '|', '+'].all (fun delimiter => !isBlank delimiter) =
        true := by
    decide
  have other := List.all_eq_true.mp filled delimiter (List.contains_iff_mem.mp delimits)
  rwa [Bool.not_eq_true'] at other

theorem IsDelimited.not_allBlank
    {text body letters : List Char} (isDelimited : IsDelimited isOptionLetter text body letters) :
    allBlank text = false := by
  obtain ⟨delimits, body, _⟩ := isDelimited
  rw [allBlank, List.all_cons, isBlank_of_isDelimiter delimits, Bool.false_and]

theorem IsDelimited.readDelimited?_eq
    {text body letters : List Char} (isDelimited : IsDelimited isOptionLetter text body letters) :
    readDelimited? text = some (body, .named letters) := by
  obtain ⟨delimits, body, isEnding⟩ := isDelimited
  obtain ⟨stripped, known⟩ := isEnding_iff.mp isEnding
  have split := splitAtLast?_append body (isEnding.of_isOptionLetter.delimiter_not_mem delimits)
  rw [readDelimited?, if_pos delimits, split]
  simp only [stripped, delimitedOptions?_eq, if_pos known, Option.map_some]

theorem IsBare.readDelimited?_eq
    {text : List Char} (isBare : IsBare isOptionLetter text) :
    readDelimited? text = none := by
  cases isBare with
  | undelimited other => simp only [readDelimited?, other, Bool.false_eq_true, if_false]
  | unclosed delimits once =>
      rw [readDelimited?, if_pos delimits, splitAtLast?_of_not_mem once]
  | otherEnding delimits body last noEnding =>
      have unknown := fun known => noEnding _ (isEnding_iff.mpr ⟨rfl, known⟩)
      rw [readDelimited?, if_pos delimits, splitAtLast?_append body last]
      simp only [delimitedOptions?_eq, if_neg unknown, Option.map_none]

/-- Every text that is not empty is either delimited or bare. -/
theorem isBare_iff
    {text : List Char} :
    IsBare isOptionLetter text ↔
      text ≠ [] ∧ ∀ body letters, ¬ IsDelimited isOptionLetter text body letters := by
  constructor
  · intro isBare
    refine ⟨?_, fun body letters isDelimited => ?_⟩
    · rintro rfl
      cases isBare
    · have unread := isBare.readDelimited?_eq
      rw [isDelimited.readDelimited?_eq] at unread
      cases unread
  · rintro ⟨notEmpty, notDelimited⟩
    obtain ⟨first, rest, rfl⟩ := List.exists_cons_of_ne_nil notEmpty
    cases delimits : isDelimiter first with
    | false => exact .undelimited delimits rest
    | true =>
        by_cases closed : first ∈ rest
        · obtain ⟨body, ending, rfl, last⟩ := exists_append_of_mem closed
          exact .otherEnding delimits body last fun letters isEnding =>
            notDelimited body letters (.intro delimits body isEnding)
        · exact .unclosed delimits closed

namespace Compiled

/-- A delimited text denotes the pattern that its body denotes under the options of its letters. -/
theorem ofText_of_isDelimited
    {text body letters : List Char} (isDelimited : IsDelimited isOptionLetter text body letters) :
    ofText text = ofBody (.named letters) body := by
  rw [ofText, isDelimited.readDelimited?_eq]

theorem ofText_of_isBare
    {text : List Char} (isBare : IsBare isOptionLetter text) :
    ofText text = ofBody Options.none text := by
  rw [ofText, isBare.readDelimited?_eq]

end Compiled

end FormRules.Pattern
