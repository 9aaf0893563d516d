import FormRules.Proofs.IntegerText
import FormRules.Proofs.NumeralGrammar

/-!
# Texts of one kind of characters

Four rules ask a text for characters of one kind only, and for at least one of them. They look at
every character of the text, the last one too, and they answer as their patterns do when these are
followed through the whole text. The kinds are ASCII characters, so that letters and digits of other
scripts are of none of them.
-/

namespace FormRules

open FormRules.Pattern
open FormRules.Text
open FormRules.Time
open Builtin

/-- The kind of characters that a rule asks for, with the pattern that says the same. -/
inductive AsksFor :
    Builtin → (Char → Prop) → String → Prop
  | letters :
      AsksFor alpha
        (fun character =>
          ('a' ≤ character ∧ character ≤ 'z') ∨ ('A' ≤ character ∧ character ≤ 'Z'))
        "[a-zA-Z]+"
  | lettersAndDigits :
      AsksFor alphanum
        (fun character =>
          ('a' ≤ character ∧ character ≤ 'z') ∨ ('A' ≤ character ∧ character ≤ 'Z') ∨
            ('0' ≤ character ∧ character ≤ '9'))
        "[a-zA-Z0-9]+"
  | digits :
      AsksFor num (fun character => '0' ≤ character ∧ character ≤ '9') "[0-9]+"
  | slugCharacters :
      AsksFor slug
        (fun character =>
          ('a' ≤ character ∧ character ≤ 'z') ∨ character = '_' ∨ character = '-')
        "[a-z_-]+"

/-! ## What a rule on texts answers about a text -/

/-- A test that the empty text does not pass is put to the text itself. -/
theorem textPasses_of_text
    {inquiry : Inquiry} {shown : String} (isText : inquiry.value = .text shown)
    {test : List Char → Bool} (refusesNone : test [] = false) :
    textPasses inquiry test = .ok (test shown.toList) := by
  rw [textPasses, isText, Value.matchedText]
  by_cases isEmpty : shown = ""
  · subst isEmpty
    exact congrArg Except.ok refusesNone.symm
  · have filled : (Value.text shown).isTrue = true := by
      simpa [Value.isTrue] using isEmpty
    rw [if_pos filled]
    rfl

theorem consistsOf_iff
    {kind : Char → Bool} {text : List Char} :
    consistsOf kind text = true ↔ text ≠ [] ∧ ∀ character ∈ text, kind character = true := by
  simp [consistsOf]

/-! ## Patterns of one class -/

section Classes

variable {source : List Char} {items : List ClassItem} {test : Char → Bool}

/-- A repeated class, followed through a whole text, answers whether the text consists of its
characters. -/
theorem answersWhole_class_iff
    (isRead : IsReadAs source [.repeated .greedy 1 none [.oneOf ⟨false, items⟩ .unicode .exact]])
    (asks : ∀ character : Char,
      items.any (ClassItem.contains .unicode character.toNat) = test character)
    (text : List Char) (answer : Bool) :
    AnswersWhole source text answer ↔ consistsOf test text = answer := by
  have inClass : ∀ character : Char,
      CharClass.contains .unicode .exact ⟨false, items⟩ character.toNat = test character := by
    intro character
    rw [CharClass.contains_listed, asks]
  have described :
      Node.DescribesAll [.repeated .greedy 1 none [.oneOf ⟨false, items⟩ .unicode .exact]] text ↔
        consistsOf test text = true := by
    rw [Node.describesAll_singleton, Node.describes_repeated_oneOf_iff inClass, consistsOf_iff,
      Nat.succ_le_iff, List.length_pos_iff]
    simp
  rw [isRead.answersWhole_iff, described, ← Bool.eq_iff_iff, eq_comm]

end Classes

/-- A test of characters decides what a rule and its pattern answer. -/
structure IsDecidedBy
    (rule : Builtin) (pattern : String) (test : Char → Bool) :
    Prop where
  passes_eq : ∀ present inquiry, rule.passes present inquiry = textPasses inquiry (consistsOf test)
  answersWhole_iff : ∀ text answer,
    AnswersWhole pattern.toList text answer ↔ consistsOf test text = answer

section Rules

set_option maxRecDepth 10000

theorem isDecidedBy_isLetter :
    IsDecidedBy alpha "[a-zA-Z]+" isLetter := by
  have isRead : IsReadAs "[a-zA-Z]+".toList
      [.repeated .greedy 1 none
        [.oneOf ⟨false, [.span 'a'.toNat 'z'.toNat, .span 'A'.toNat 'Z'.toNat]⟩ .unicode
          .exact]] :=
    ⟨by decide, .anywhere, 1, by cbv⟩
  refine ⟨fun _ _ => rfl, answersWhole_class_iff isRead fun character => ?_⟩
  simp only [List.any_cons, List.any_nil, ClassItem.contains_span, isLetter, Bool.or_false]

theorem isDecidedBy_isLetterOrDigit :
    IsDecidedBy alphanum "[a-zA-Z0-9]+" isLetterOrDigit := by
  have isRead : IsReadAs "[a-zA-Z0-9]+".toList
      [.repeated .greedy 1 none
        [.oneOf
          ⟨false, [.span 'a'.toNat 'z'.toNat, .span 'A'.toNat 'Z'.toNat,
            .span '0'.toNat '9'.toNat]⟩
          .unicode .exact]] :=
    ⟨by decide, .anywhere, 1, by cbv⟩
  refine ⟨fun _ _ => rfl, answersWhole_class_iff isRead fun character => ?_⟩
  simp only [List.any_cons, List.any_nil, ClassItem.contains_span, isLetterOrDigit, isLetter,
    isNumeralDigit, Bool.or_false, Bool.or_assoc]

theorem isDecidedBy_isNumeralDigit :
    IsDecidedBy num "[0-9]+" isNumeralDigit := by
  have isRead : IsReadAs "[0-9]+".toList
      [.repeated .greedy 1 none
        [.oneOf ⟨false, [.span '0'.toNat '9'.toNat]⟩ .unicode .exact]] :=
    ⟨by decide, .anywhere, 1, by cbv⟩
  refine ⟨fun _ _ => rfl, answersWhole_class_iff isRead fun character => ?_⟩
  simp only [List.any_cons, List.any_nil, ClassItem.contains_span, isNumeralDigit, Bool.or_false]

theorem isDecidedBy_isSlugCharacter :
    IsDecidedBy slug "[a-z_-]+" isSlugCharacter := by
  have isRead : IsReadAs "[a-z_-]+".toList
      [.repeated .greedy 1 none
        [.oneOf ⟨false, [.span 'a'.toNat 'z'.toNat, .single '_'.toNat, .single '-'.toNat]⟩
          .unicode .exact]] :=
    ⟨by decide, .anywhere, 1, by cbv⟩
  refine ⟨fun _ _ => rfl, answersWhole_class_iff isRead fun character => ?_⟩
  simp only [List.any_cons, List.any_nil, ClassItem.contains_span, ClassItem.contains_single,
    isSlugCharacter, Bool.or_false, Bool.or_assoc]

end Rules

/-- What a rule asks for is decided by a test, which the characters of the kind pass. -/
theorem exists_isDecidedBy
    {rule : Builtin} {kind : Char → Prop} {pattern : String} (asks : AsksFor rule kind pattern) :
    ∃ test, IsDecidedBy rule pattern test ∧ ∀ character, test character = true ↔ kind character := by
  cases asks with
  | letters =>
      refine ⟨isLetter, isDecidedBy_isLetter, fun character => ?_⟩
      simp [isLetter]
  | lettersAndDigits =>
      refine ⟨isLetterOrDigit, isDecidedBy_isLetterOrDigit, fun character => ?_⟩
      simp [isLetterOrDigit, isLetter, isNumeralDigit, or_assoc]
  | digits =>
      refine ⟨isNumeralDigit, isDecidedBy_isNumeralDigit, fun character => ?_⟩
      simp [isNumeralDigit]
  | slugCharacters =>
      refine ⟨isSlugCharacter, isDecidedBy_isSlugCharacter, fun character => ?_⟩
      simp [isSlugCharacter, or_assoc]

/-! ## How the kinds are related -/

theorem consistsOf_mono
    {narrow wide : Char → Bool} (includes : ∀ character, narrow character = true →
      wide character = true)
    {text : List Char} (narrowly : consistsOf narrow text = true) :
    consistsOf wide text = true := by
  obtain ⟨filled, all⟩ := consistsOf_iff.mp narrowly
  refine consistsOf_iff.mpr ⟨filled, fun character member => ?_⟩
  exact includes character (all character member)

theorem not_consistsOf_both
    {kind other : Char → Bool} (excludes : ∀ character, kind character = true →
      other character = false)
    {text : List Char} (isKind : consistsOf kind text = true) :
    consistsOf other text = false := by
  obtain ⟨filled, all⟩ := consistsOf_iff.mp isKind
  obtain ⟨first, rest, rfl⟩ := List.exists_cons_of_ne_nil filled
  have excluded : other first = false := excludes first (all first List.mem_cons_self)
  simp [consistsOf, excluded]

/-- The digits of ASCII are one of the rows of digits. -/
theorem isDigit_of_isNumeralDigit
    {character : Char} (decimal : isNumeralDigit character = true) :
    isDigit character = true := by
  obtain ⟨least, greatest⟩ := isNumeralDigit_iff.mp decimal
  have inRow : (decide (48 ≤ character.toNat) && decide (character.toNat < 48 + 10)) = true := by
    simp only [Bool.and_eq_true, decide_eq_true_eq]
    omega
  have firstRow : (48 : Nat) ∈ digitZeros := List.mem_cons_self
  rw [isDigit, digitValue?, Option.isSome_map, List.find?_isSome]
  exact ⟨48, firstRow, inRow⟩

/-- A text of digits is a numeral. -/
theorem isNumeral_of_digits
    {text : List Char} (digits : consistsOf isNumeralDigit text = true) :
    Number.IsNumeral text := by
  obtain ⟨filled, decimal⟩ := consistsOf_iff.mp digits
  have areDigits : Number.AreDigits text :=
    ⟨filled, fun digit member => isDigit_of_isNumeralDigit (decimal digit member)⟩
  have whole : text = [] ++ ([] ++ (text ++ ([] ++ []))) := by
    simp
  rw [whole]
  exact .intro rfl .none (.whole areDigits) .none rfl

/-! ## The rules -/

/-- About a text the four rules answer. They pass exactly if the text is not empty and each of its
characters is of the kind they ask for, and this is what their patterns answer about the whole
text. So letters alone and digits alone pass as letters and digits, no text passes as both, and a
text that passes as digits is numeric. -/
theorem texts_asked_character_by_character
    (present : Moment) (inquiry : Inquiry) (shown : String)
    (isText : inquiry.value = .text shown) :
    (∀ rule kind pattern, AsksFor rule kind pattern →
        (rule.passes present inquiry = .ok true ↔
            shown ≠ "" ∧ ∀ character ∈ shown.toList, kind character) ∧
          (rule.passes present inquiry = .ok false ↔
            ¬ (shown ≠ "" ∧ ∀ character ∈ shown.toList, kind character)) ∧
          ∀ passed,
            rule.passes present inquiry = .ok passed ↔
              AnswersWhole pattern.toList shown.toList passed) ∧
      (alpha.passes present inquiry = .ok true ∨ num.passes present inquiry = .ok true →
        alphanum.passes present inquiry = .ok true) ∧
      ¬ (alpha.passes present inquiry = .ok true ∧ num.passes present inquiry = .ok true) ∧
      (num.passes present inquiry = .ok true → (Value.text shown).isNumeric = true) := by
  have answer : ∀ rule pattern test, IsDecidedBy rule pattern test →
      rule.passes present inquiry = .ok (consistsOf test shown.toList) := by
    intro rule pattern test decided
    rw [decided.passes_eq, textPasses_of_text isText rfl]
  have letters := answer _ _ _ isDecidedBy_isLetter
  have lettersAndDigits := answer _ _ _ isDecidedBy_isLetterOrDigit
  have digits := answer _ _ _ isDecidedBy_isNumeralDigit
  refine ⟨fun rule kind pattern asks => ?_, ?_, ?_, ?_⟩
  · obtain ⟨test, decided, tests⟩ := exists_isDecidedBy asks
    have consists : consistsOf test shown.toList = true ↔
        shown ≠ "" ∧ ∀ character ∈ shown.toList, kind character := by
      rw [consistsOf_iff]
      simp only [tests, ne_eq, String.toList_eq_nil_iff]
    rw [answer rule pattern test decided]
    simp only [Except.ok.injEq]
    refine ⟨consists, ?_, fun passed => (decided.answersWhole_iff shown.toList passed).symm⟩
    rw [← consists, Bool.not_eq_true]
  · rw [letters, digits, lettersAndDigits]
    simp only [Except.ok.injEq]
    rintro (isKind | isKind)
    · exact consistsOf_mono (fun _ letter => Bool.or_eq_true_iff.mpr (Or.inl letter)) isKind
    · exact consistsOf_mono (fun _ digit => Bool.or_eq_true_iff.mpr (Or.inr digit)) isKind
  · rw [letters, digits]
    simp only [Except.ok.injEq]
    rintro ⟨onlyLetters, onlyDigits⟩
    have noLetters :=
      not_consistsOf_both (fun _ decimal => isLetter_of_isNumeralDigit decimal) onlyDigits
    rw [onlyLetters] at noLetters
    cases noLetters
  · rw [digits]
    simp only [Except.ok.injEq]
    exact fun onlyDigits => Number.isNumeric_text_iff.mpr (isNumeral_of_digits onlyDigits)

def handleInquiry
    (handle : String) :
    Inquiry :=
  ⟨[("handle", .text handle)], "handle", []⟩

/-- A line feed behind a year is seen, so that the year is no number of digits any more. -/
theorem year_before_line_feed_refused :
    (handleInquiry "1984\n").value = .text "1984\n" ∧
      num.passes shopSurroundings.present (handleInquiry "1984\n") = .ok false := by
  have isText : (handleInquiry "1984\n").value = .text "1984\n" := rfl
  obtain ⟨answers, -, -, -⟩ :=
    texts_asked_character_by_character shopSurroundings.present (handleInquiry "1984\n") "1984\n"
      isText
  obtain ⟨-, refused, -⟩ := answers num _ _ .digits
  refine ⟨isText, refused.mpr ?_⟩
  rintro ⟨-, onlyDigits⟩
  have lineFeed := onlyDigits '\n' (by simp)
  revert lineFeed
  decide

end FormRules
