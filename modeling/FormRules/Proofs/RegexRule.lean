import FormRules.Proofs.BuiltinDecision
import FormRules.Proofs.DelimitedPattern

/-!
# The rule that searches for a pattern

What follows the colon of a `regex` expression reaches the search as it is written: the commas and
blanks in it are part of the pattern. If it is delimited then its body is searched for, under the
options that its letters name, and otherwise the whole of it. The rule passes exactly if something
is found.
-/

namespace FormRules

open FormRules.Pattern
open FormRules.Text

/-- The body is a pattern under the options, and something in the text matches it. -/
def Pattern.Finds
    (options : Options) (body text : List Char) :
    Prop :=
  ∃ compiled found,
    Compiled.ofBody options body = .ok compiled ∧ compiled.search text = .ok (some found)

/-- The body is malformed, or it is a pattern and nothing in the text matches it. -/
def Pattern.FindsNothing
    (options : Options) (body text : List Char) :
    Prop :=
  Compiled.ofBody options body = .error .malformed ∨
    ∃ compiled, Compiled.ofBody options body = .ok compiled ∧ compiled.search text = .ok none

section Deciding

variable {options : Options} {body text : List Char} {compiled : Compiled}

theorem Pattern.finds_iff
    (read : Compiled.ofBody options body = .ok compiled) :
    Finds options body text ↔ ∃ found, compiled.search text = .ok (some found) := by
  simp [Finds, read]

theorem Pattern.findsNothing_iff
    (read : Compiled.ofBody options body = .ok compiled) :
    FindsNothing options body text ↔ compiled.search text = .ok none := by
  simp [FindsNothing, read]

instance :
    Decidable (Finds options body text) :=
  match read : Compiled.ofBody options body with
  | .error _ => isFalse (by simp [Finds, read])
  | .ok compiled =>
      match searched : compiled.search text with
      | .error _ => isFalse (by simp [finds_iff read, searched])
      | .ok none => isFalse (by simp [finds_iff read, searched])
      | .ok (some _) => isTrue (by simp [finds_iff read, searched])

end Deciding

section Rules

variable (surroundings : Surroundings) (registry : Registry) (prefixText : String)
  (fields : Fields) (key : String) (message : Value)

/-- The rule read from the text passes exactly if something in the field matches the pattern, and
fails exactly if the pattern is malformed or nothing matches it. -/
structure Condition.SearchesFor
    (options : Options) (body : List Char) (text shown : String) :
    Prop where
  passes_iff :
    Decides surroundings registry prefixText fields key message text true ↔
      Finds options body shown.toList
  fails_iff :
    Decides surroundings registry prefixText fields key message text false ↔
      FindsNothing options body shown.toList

end Rules

def regexExpression
    (remainder : List Char) :
    String :=
  "regex:" ++ String.ofList remainder

theorem regexExpression_eq
    (remainder : List Char) :
    regexExpression remainder = Builtin.regex.expression (String.ofList remainder) := by
  have named : "regex:" = Builtin.regex.name ++ ":" := by
    decide
  rw [regexExpression, Builtin.expression, named]

namespace Builtin

/-- What the search for the pattern in the first option answers about a value that has a text. -/
theorem patternPasses_of_matched
    {inquiry : Inquiry} {text : List Char} {source : String}
    (matched : inquiry.value.matchedText = .ok (some text))
    (first : inquiry.options[0]? = some source) (written : source ≠ "") :
    patternPasses inquiry =
      match Compiled.ofText? source.toList with
      | .error fault => .error fault
      | .ok none => .ok false
      | .ok (some compiled) => (compiled.search text).map Option.isSome := by
  have given : source.isEmpty = false := by
    simpa using written
  unfold patternPasses option?
  rw [matched, first]
  simp only [given, Bool.false_eq_true, if_false]
  cases Compiled.ofText? source.toList with
  | error fault => rfl
  | ok compiled =>
      cases compiled with
      | none => rfl
      | some compiled =>
          simp only [bind, Except.bind]
          cases compiled.search text <;> rfl

theorem patternPasses_eq
    {inquiry : Inquiry} {shown source : String} (isText : inquiry.value = .text shown)
    (notEmpty : shown ≠ "") (first : inquiry.options[0]? = some source) (written : source ≠ "") :
    patternPasses inquiry =
      match Compiled.ofText? source.toList with
      | .error fault => .error fault
      | .ok none => .ok false
      | .ok (some compiled) => (compiled.search shown.toList).map Option.isSome := by
  have matched : inquiry.value.matchedText = .ok (some shown.toList) := by
    rw [isText]
    simp [Value.matchedText, Value.isTrue, notEmpty]
  exact patternPasses_of_matched matched first written

/-- The rule passes if the pattern is found, and fails if it is malformed or not found. -/
theorem patternPasses_iff
    {inquiry : Inquiry} {shown source : String} {options : Options} {body : List Char}
    (isText : inquiry.value = .text shown) (notEmpty : shown ≠ "")
    (first : inquiry.options[0]? = some source) (written : source ≠ "")
    (pattern : Compiled.ofText source.toList = Compiled.ofBody options body) :
    (patternPasses inquiry = .ok true ↔ Finds options body shown.toList) ∧
      (patternPasses inquiry = .ok false ↔ FindsNothing options body shown.toList) := by
  rw [patternPasses_eq isText notEmpty first written, Compiled.ofText?, pattern]
  cases read : Compiled.ofBody options body with
  | error refusal =>
      cases refusal <;> simp [Finds, FindsNothing, read]
  | ok compiled =>
      rw [finds_iff read, findsNothing_iff read]
      simp only
      cases compiled.search shown.toList with
      | error fault => simp [Except.map]
      | ok found => cases found <;> simp [Except.map]

end Builtin

namespace Condition

variable {surroundings : Surroundings} {registry : Registry} {prefixText : String}
  {fields : Fields} {key shown : String} {message : Value}

/-- What is searched for is what the text behind the colon is read as. -/
theorem searchesFor_of_ofText
    {remainder body : List Char} {options : Options} (isText : fields.value key = .text shown)
    (notEmpty : shown ≠ "") (filled : allBlank remainder = false)
    (pattern : Compiled.ofText remainder = Compiled.ofBody options body) :
    SearchesFor surroundings registry prefixText fields key message options body
      (regexExpression remainder) shown := by
  obtain ⟨others, given⟩ :
      ∃ others, (Expression.optionsOf (String.ofList remainder).toList).map String.ofList =
        String.ofList remainder :: others := by
    refine ⟨(Expression.valuesOf remainder).map String.ofList, ?_⟩
    rw [String.toList_ofList, Expression.optionsOf, filled]
    rfl
  have written : String.ofList remainder ≠ "" := by
    intro empty
    have nothing : remainder = [] := by simpa using empty
    rw [nothing] at filled
    cases filled
  have readPattern :
      Compiled.ofText (String.ofList remainder).toList = Compiled.ofBody options body := by
    rw [String.toList_ofList]
    exact pattern
  have decides : ∀ passed,
      Decides surroundings registry prefixText fields key message (regexExpression remainder)
          passed ↔
        Builtin.patternPasses ⟨fields, key, String.ofList remainder :: others⟩ = .ok passed := by
    intro passed
    rw [regexExpression_eq, decides_expression_iff, given]
    rfl
  have asked : (Inquiry.mk fields key (String.ofList remainder :: others)).value = .text shown :=
    isText
  obtain ⟨passes, fails⟩ := Builtin.patternPasses_iff asked notEmpty rfl written readPattern
  exact ⟨(decides true).trans passes, (decides false).trans fails⟩

/-- The pattern of a `regex` expression reaches the search unchanged. What the pattern of delimited
texts captures, with letters of options behind it, is a delimited text, and then exactly its body is
searched for, under the options that its letters name in whatever order and however often. Any other
text, if not blank, is bare, and is searched for as a whole. -/
theorem regex_searches_for_pattern
    (surroundings : Surroundings) (registry : Registry) (prefixText : String) (message : Value)
    (isText : fields.value key = .text shown) (notEmpty : shown ≠ "") :
    (∀ remainder body letters,
        IsDelimited isOptionLetter remainder body letters ↔
          Delimited.Captures remainder body letters ∧ letters.all isOptionLetter = true) ∧
      (∀ remainder body letters,
        IsDelimited isOptionLetter remainder body letters →
          SearchesFor surroundings registry prefixText fields key message (.named letters) body
            (regexExpression remainder) shown) ∧
      (∀ remainder other body letters others passed,
        IsDelimited isOptionLetter remainder body letters →
          IsDelimited isOptionLetter other body others →
            (∀ letter, letter ∈ letters ↔ letter ∈ others) →
              (Decides surroundings registry prefixText fields key message
                  (regexExpression remainder) passed ↔
                Decides surroundings registry prefixText fields key message
                  (regexExpression other) passed)) ∧
      ∀ remainder,
        allBlank remainder = false →
          (IsBare isOptionLetter remainder ↔
              ∀ body letters, ¬ IsDelimited isOptionLetter remainder body letters) ∧
            (IsBare isOptionLetter remainder →
              SearchesFor surroundings registry prefixText fields key message Options.none
                remainder (regexExpression remainder) shown) := by
  have delimited : ∀ remainder body letters, IsDelimited isOptionLetter remainder body letters →
      SearchesFor surroundings registry prefixText fields key message (.named letters) body
        (regexExpression remainder) shown := by
    intro remainder body letters isDelimited
    exact searchesFor_of_ofText isText notEmpty isDelimited.not_allBlank
      (Compiled.ofText_of_isDelimited isDelimited)
  refine ⟨?_, delimited, ?_, ?_⟩
  · intro remainder body letters
    rw [isDelimited_isOptionLetter_iff, Delimited.captures_iff]
  · intro remainder other body letters others passed isDelimited otherDelimited same
    have searched := delimited remainder body letters isDelimited
    have otherSearched := delimited other body others otherDelimited
    rw [← Options.named_congr same] at otherSearched
    cases passed with
    | true => rw [searched.passes_iff, otherSearched.passes_iff]
    | false => rw [searched.fails_iff, otherSearched.fails_iff]
  · intro remainder filled
    have someText : remainder ≠ [] := by
      rintro rfl
      cases filled
    refine ⟨?_, fun isBare => ?_⟩
    · rw [isBare_iff]
      exact and_iff_right someText
    · exact searchesFor_of_ofText isText notEmpty filled (Compiled.ofText_of_isBare isBare)

end Condition

/-! ## A note with a tag -/

def noteFields :
    Fields :=
  [("note", .text "now TAG: ab, 3/4")]

/-- A pattern with a colon, a comma, blanks and the delimiter in it. -/
def tagPattern :
    List Char :=
  "tag: [a-z]+, \\d/\\d".toList

/-- Between slashes the pattern is found in the note if its case is ignored, in whatever order the
letters stand. With a letter that is none of an option the slashes are searched for, too. -/
theorem tagPattern_searched_for :
    noteFields.value "note" = .text "now TAG: ab, 3/4" ∧ "now TAG: ab, 3/4" ≠ "" ∧
      Condition.Decides shopSurroundings shopRegistry "validation" noteFields "note" .null
        (regexExpression ('/' :: (tagPattern ++ '/' :: ['i', 'u']))) true ∧
      Condition.Decides shopSurroundings shopRegistry "validation" noteFields "note" .null
        (regexExpression ('/' :: (tagPattern ++ '/' :: ['u', 'i', 'i', '\n']))) true ∧
      ¬ Condition.Decides shopSurroundings shopRegistry "validation" noteFields "note" .null
        (regexExpression ('/' :: (tagPattern ++ '/' :: ['i', 'g']))) true := by
  have isText : noteFields.value "note" = .text "now TAG: ab, 3/4" := rfl
  have notEmpty : "now TAG: ab, 3/4" ≠ "" := by decide
  obtain ⟨-, delimited, sameLetters, bare⟩ :=
    Condition.regex_searches_for_pattern shopSurroundings shopRegistry "validation" .null isText
      notEmpty
  have isDelimited : IsDelimited isOptionLetter ('/' :: (tagPattern ++ '/' :: ['i', 'u']))
      tagPattern ['i', 'u'] :=
    .intro (by decide) tagPattern ⟨by decide, Or.inl rfl⟩
  have isDelimitedToo :
      IsDelimited isOptionLetter ('/' :: (tagPattern ++ '/' :: ['u', 'i', 'i', '\n'])) tagPattern
        ['u', 'i', 'i'] :=
    .intro (by decide) tagPattern ⟨by decide, Or.inr rfl⟩
  have isBare : IsBare isOptionLetter ('/' :: (tagPattern ++ '/' :: ['i', 'g'])) := by
    refine .otherEnding (by decide) tagPattern (by decide) fun letters isEnding => ?_
    obtain ⟨rfl, known⟩ := isEnding_iff.mp isEnding
    exact absurd known (by decide)
  have passes := (delimited _ _ _ isDelimited).passes_iff.mpr (by decide +kernel)
  refine ⟨isText, notEmpty, passes, ?_, ?_⟩
  · exact (sameLetters _ _ _ _ _ true isDelimited isDelimitedToo (by simp [or_comm])).mp passes
  · rw [((bare _ (by decide)).2 isBare).passes_iff]
    decide +kernel

end FormRules
