import FormRules.Proofs.RegexFaults
import Mathlib.Data.Nat.Digits.Defs

/-!
# Rules that match the text of an integer

An integer is matched in decimal notation: its digits, and a hyphen before them if it is negative.
Zero has no text, for it does not count as present. So letters, slugs and mail addresses never match
an integer, digits match exactly the positive ones, and a pattern is searched for in the notation.
All this holds up to the digit limit: an integer with more digits has no notation, and every rule
that is to match it breaks off.
-/

namespace FormRules

open FormRules.Number
open FormRules.Text

/-- The digits are those of the number in decimal notation: the first is zero for the number zero
only. -/
structure AreDigitsOf
    (number : Nat) (digits : List Char) :
    Prop where
  decimal : ∀ digit ∈ digits, isNumeralDigit digit = true
  notNone : digits ≠ []
  denotes : Nat.ofDigitChars 10 digits 0 = number
  significant : digits.head? = some '0' → digits = ['0']

def signedDigits
    (value : Int) (digits : List Char) :
    List Char :=
  if value < 0 then '-' :: digits else digits

/-! ## Digits -/

theorem isNumeralDigit_iff
    {character : Char} :
    isNumeralDigit character = true ↔ 48 ≤ character.toNat ∧ character.toNat ≤ 57 := by
  rw [isNumeralDigit, Bool.and_eq_true, decide_eq_true_eq, decide_eq_true_eq]
  rfl

theorem digitChar_of_isNumeralDigit
    {digit : Char} (decimal : isNumeralDigit digit = true) :
    digit.toNat - 48 < 10 ∧ Nat.digitChar (digit.toNat - 48) = digit := by
  obtain ⟨least, greatest⟩ := isNumeralDigit_iff.mp decimal
  have small : digit.toNat - 48 < 10 := by omega
  refine ⟨small, Char.toNat_inj.mp ?_⟩
  rw [Nat.toNat_digitChar_of_lt_ten small]
  omega

/-- Further digits behind those of a positive number give the digits of what all of them denote. -/
theorem toDigits_append_of_decimal
    {digits : List Char} {front : Nat} (positive : 0 < front)
    (decimal : ∀ digit ∈ digits, isNumeralDigit digit = true) :
    Nat.toDigits 10 front ++ digits = Nat.toDigits 10 (Nat.ofDigitChars 10 digits front) := by
  induction digits generalizing front with
  | nil => rw [List.append_nil, Nat.ofDigitChars_nil]
  | cons digit rest inductionHypothesis =>
      rw [List.forall_mem_cons] at decimal
      obtain ⟨first, others⟩ := decimal
      obtain ⟨small, isDigit⟩ := digitChar_of_isNumeralDigit first
      have extended :
          Nat.toDigits 10 front ++ [digit] = Nat.toDigits 10 (10 * front + (digit.toNat - 48)) := by
        have appended := Nat.toDigits_append_toDigits (b := 10) (by decide) positive small
        rwa [Nat.toDigits_of_lt_base small, isDigit] at appended
      calc
        Nat.toDigits 10 front ++ digit :: rest
            = (Nat.toDigits 10 front ++ [digit]) ++ rest := by rw [List.append_cons]
        _ = Nat.toDigits 10 (10 * front + (digit.toNat - 48)) ++ rest := by rw [extended]
        _ = Nat.toDigits 10 (Nat.ofDigitChars 10 rest (10 * front + (digit.toNat - 48))) :=
            inductionHypothesis (by omega) others
        _ = Nat.toDigits 10 (Nat.ofDigitChars 10 (digit :: rest) front) := by
            rw [Nat.ofDigitChars_cons]
            rfl

namespace AreDigitsOf

variable {number : Nat} {digits : List Char}

theorem eq_toDigits
    (written : AreDigitsOf number digits) :
    digits = Nat.toDigits 10 number := by
  obtain ⟨first, rest, rfl⟩ := List.exists_cons_of_ne_nil written.notNone
  have decimal := written.decimal
  rw [List.forall_mem_cons] at decimal
  obtain ⟨firstDecimal, others⟩ := decimal
  obtain ⟨small, isDigit⟩ := digitChar_of_isNumeralDigit firstDecimal
  by_cases isZero : first = '0'
  · have alone := written.significant (by rw [isZero]; rfl)
    have denotes := written.denotes
    rw [alone] at denotes ⊢
    rw [← denotes]
    rfl
  · have positive : 0 < first.toNat - 48 := by
      by_contra notPositive
      have none : first.toNat - 48 = 0 := by omega
      rw [none] at isDigit
      exact isZero isDigit.symm
    have denotes : Nat.ofDigitChars 10 rest (first.toNat - 48) = number := by
      rw [← written.denotes, Nat.ofDigitChars_cons, Nat.mul_zero, Nat.zero_add]
      rfl
    have appended := toDigits_append_of_decimal positive others
    rwa [denotes, Nat.toDigits_of_lt_base small, isDigit] at appended

end AreDigitsOf

/-- The notation of a positive number does not begin with a zero. -/
theorem eq_zero_of_head?_toDigits
    {number : Nat} (beginsWithZero : (Nat.toDigits 10 number).head? = some '0') :
    number = 0 := by
  induction number using Nat.strongRecOn with
  | ind number inductionHypothesis =>
      rw [Nat.toDigits_eq_if (by decide)] at beginsWithZero
      by_cases single : number < 10
      · rw [if_pos single, List.head?_cons, Option.some.injEq] at beginsWithZero
        have code := congrArg Char.toNat beginsWithZero
        rw [Nat.toNat_digitChar_of_lt_ten single] at code
        have zeroCode : '0'.toNat = 48 := rfl
        omega
      · rw [if_neg single, List.head?_append_of_ne_nil _ Nat.toDigits_ne_nil] at beginsWithZero
        have front := inductionHypothesis (number / 10) (by omega) beginsWithZero
        omega

theorem areDigitsOf_toDigits
    (number : Nat) :
    AreDigitsOf number (Nat.toDigits 10 number) where
  decimal digit member := by
    have isDigit := Nat.isDigit_of_mem_toDigits (by decide) (by decide) member
    rw [Char.isDigit, Bool.and_eq_true, decide_eq_true_eq, decide_eq_true_eq] at isDigit
    exact isNumeralDigit_iff.mpr isDigit
  notNone := Nat.toDigits_ne_nil
  denotes := Nat.ofDigitChars_ten_toDigits
  significant beginsWithZero := by
    rw [eq_zero_of_head?_toDigits beginsWithZero, Nat.toDigits_zero]

/-! ## Kinds of texts -/

section Kinds

variable {number : Nat} {value : Int} {digits : List Char} {kind : Char → Bool}

theorem mem_signedDigits
    {digit : Char} (member : digit ∈ digits) :
    digit ∈ signedDigits value digits := by
  unfold signedDigits
  split
  · exact List.mem_cons_of_mem '-' member
  · exact member

/-- A text with a digit in it consists of no characters of a kind that no digit has. -/
theorem consistsOf_signedDigits_of_excluded
    (written : AreDigitsOf number digits)
    (excluded : ∀ digit, isNumeralDigit digit = true → kind digit = false) :
    consistsOf kind (signedDigits value digits) = false := by
  obtain ⟨digit, member⟩ := List.exists_mem_of_ne_nil digits written.notNone
  have other : kind digit = false := excluded digit (written.decimal digit member)
  rw [consistsOf, Bool.and_eq_false_iff]
  exact Or.inr (List.all_eq_false.mpr ⟨digit, mem_signedDigits member, by simp [other]⟩)

/-- Where digits are of a kind and hyphens are not, the sign alone decides. -/
theorem consistsOf_signedDigits_of_included
    (written : AreDigitsOf number digits)
    (included : ∀ digit, isNumeralDigit digit = true → kind digit = true)
    (noHyphen : kind '-' = false) :
    consistsOf kind (signedDigits value digits) = decide (0 ≤ value) := by
  by_cases negative : value < 0
  · have notPositive : ¬ 0 ≤ value := by omega
    simp [consistsOf, signedDigits, negative, notPositive, noHyphen]
  · have allDigits : digits.all kind = true :=
      List.all_eq_true.mpr fun digit member => included digit (written.decimal digit member)
    have someDigit : digits.isEmpty = false := by
      simpa using written.notNone
    have notNegative : 0 ≤ value := by omega
    simp [consistsOf, signedDigits, negative, notNegative, allDigits, someDigit]

/-- Digits and hyphens are local characters, so that no at sign is come to. -/
theorem isMailAddress_signedDigits
    (written : AreDigitsOf number digits) :
    isMailAddress (signedDigits value digits) = false := by
  have isLocal : ∀ character ∈ signedDigits value digits, isLocalCharacter character = true := by
    intro character member
    have cases : character = '-' ∨ character ∈ digits := by
      unfold signedDigits at member
      split at member
      · exact List.mem_cons.mp member
      · exact Or.inr member
    rcases cases with rfl | isDigit
    · decide
    · simp [isLocalCharacter, isLetterOrDigit, written.decimal character isDigit]
  have allLocal : (signedDigits value digits).takeWhile isLocalCharacter =
      signedDigits value digits :=
    List.takeWhile_eq_self_iff.mpr isLocal
  simp only [isMailAddress, allLocal, List.drop_length]

theorem isLetter_of_isNumeralDigit
    {digit : Char} (decimal : isNumeralDigit digit = true) :
    isLetter digit = false := by
  obtain ⟨least, greatest⟩ := isNumeralDigit_iff.mp decimal
  have noSmall : ¬ 'a' ≤ digit := fun small => by
    have code : 97 ≤ digit.toNat := small
    omega
  have noCapital : ¬ 'A' ≤ digit := fun capital => by
    have code : 65 ≤ digit.toNat := capital
    omega
  simp [isLetter, noSmall, noCapital]

theorem isSlugCharacter_of_isNumeralDigit
    {digit : Char} (decimal : isNumeralDigit digit = true) :
    isSlugCharacter digit = false := by
  obtain ⟨least, greatest⟩ := isNumeralDigit_iff.mp decimal
  have noSmall : ¬ 'a' ≤ digit := fun small => by
    have code : 97 ≤ digit.toNat := small
    omega
  have noLine : digit ≠ '_' := by
    rintro rfl
    exact absurd greatest (by decide)
  have noHyphen : digit ≠ '-' := by
    rintro rfl
    exact absurd least (by decide)
  simp [isSlugCharacter, noSmall, noLine, noHyphen]

end Kinds

/-! ## Matching integers -/

section Matching

variable {value : Int} {digits : List Char}

theorem isTooLong_iff
    (written : AreDigitsOf value.natAbs digits) :
    Value.isTooLong value = true ↔ integerDigitLimit < digits.length := by
  have fits := Nat.length_toDigits_le_iff (b := 10) (n := value.natAbs) (k := integerDigitLimit)
    (by decide) (by decide)
  rw [Value.isTooLong, decide_eq_true_iff, Nat.pow_eq, written.eq_toDigits, ← Nat.not_le, fits,
    Nat.not_lt]

theorem ne_zero_of_many
    (written : AreDigitsOf value.natAbs digits) (many : integerDigitLimit < digits.length) :
    value ≠ 0 := by
  rintro rfl
  have single : digits = ['0'] := written.eq_toDigits
  rw [single] at many
  exact absurd many (by decide)

theorem integerText_eq_signedDigits
    (written : AreDigitsOf value.natAbs digits) :
    integerText value = signedDigits value digits := by
  rw [written.eq_toDigits]
  rfl

namespace Value

/-- An integer with no more digits than can be written has a text, unless it is zero. -/
theorem matchedText_integer_of_few
    (written : AreDigitsOf value.natAbs digits) (few : digits.length ≤ integerDigitLimit) :
    (Value.integer value).matchedText =
      .ok (if value = 0 then none else some (signedDigits value digits)) := by
  have short : isTooLong value = false := by
    rw [Bool.eq_false_iff, ne_eq, isTooLong_iff written]
    omega
  by_cases isZero : value = 0
  · simp [matchedText, isTrue, isZero]
  · simp [matchedText, isTrue, isZero, short, integerText_eq_signedDigits written]

theorem matchedText_integer_of_many
    (written : AreDigitsOf value.natAbs digits) (many : integerDigitLimit < digits.length) :
    (Value.integer value).matchedText = .error .integerTooLong := by
  have long : isTooLong value = true := (isTooLong_iff written).mpr many
  simp [matchedText, isTrue, ne_zero_of_many written many, long]

end Value

end Matching

namespace Builtin

open FormRules.Pattern

def textRules :
    List Builtin :=
  [alpha, alphanum, num, slug, email, regex]

section Passing

variable {inquiry : Inquiry} {value : Int} {digits : List Char}

theorem textPasses_of_few
    (isInteger : inquiry.value = .integer value) (written : AreDigitsOf value.natAbs digits)
    (few : digits.length ≤ integerDigitLimit) (test : List Char → Bool) :
    textPasses inquiry test =
      .ok (decide (value ≠ 0) && test (signedDigits value digits)) := by
  rw [textPasses, isInteger, Value.matchedText_integer_of_few written few]
  by_cases isZero : value = 0
  · simp [Except.map, isZero]
  · simp [Except.map, isZero]

theorem patternPasses_of_few
    (isInteger : inquiry.value = .integer value) (written : AreDigitsOf value.natAbs digits)
    (few : digits.length ≤ integerDigitLimit)
    {source : String} {compiled : Compiled} (first : inquiry.options[0]? = some source)
    (given : source ≠ "") (read : Compiled.ofText? source.toList = .ok (some compiled)) :
    patternPasses inquiry =
      if value = 0 then .ok false
      else (compiled.search (signedDigits value digits)).map Option.isSome := by
  have matched := Value.matchedText_integer_of_few written few
  rw [← isInteger] at matched
  by_cases isZero : value = 0
  · rw [if_pos isZero] at matched ⊢
    rw [patternPasses_of_unmatched matched first given, read]
    rfl
  · rw [if_neg isZero] at matched ⊢
    rw [patternPasses_of_matched matched first given, read]

theorem passes_of_many
    {rule : Builtin} (ofText : rule ∈ textRules) (present : Time.Moment)
    (isInteger : inquiry.value = .integer value) (written : AreDigitsOf value.natAbs digits)
    (many : integerDigitLimit < digits.length) :
    rule.passes present inquiry = .error .integerTooLong := by
  have broken := Value.matchedText_integer_of_many written many
  have noText : ∀ test, textPasses inquiry test = .error .integerTooLong := by
    intro test
    rw [textPasses, isInteger, broken]
    rfl
  have noPattern : patternPasses inquiry = .error .integerTooLong := by
    unfold patternPasses
    rw [isInteger, broken]
    rfl
  simp only [textRules, List.mem_cons, List.not_mem_nil, or_false] at ofText
  rcases ofText with rfl | rfl | rfl | rfl | rfl | rfl
  · exact noText _
  · exact noText _
  · exact noText _
  · exact noText _
  · exact noText _
  · exact noPattern

end Passing

/-- Up to the digit limit every rule that matches a text answers about an integer: digits match the
positive ones, letters, slugs and mail addresses none, and a pattern those in whose notation it is
found, but never zero. It breaks off only where its search comes to a crossed group. An integer with
more digits breaks off each of the rules. -/
theorem integers_matched_up_to_digit_limit
    (present : Time.Moment) (inquiry : Inquiry) (value : Int)
    (isInteger : inquiry.value = .integer value) :
    (∃ digits, AreDigitsOf value.natAbs digits) ∧
      ∀ digits, AreDigitsOf value.natAbs digits →
        (digits.length ≤ integerDigitLimit →
          num.passes present inquiry = .ok (decide (0 < value)) ∧
            alphanum.passes present inquiry = .ok (decide (0 < value)) ∧
            alpha.passes present inquiry = .ok false ∧
            slug.passes present inquiry = .ok false ∧
            email.passes present inquiry = .ok false ∧
            ∀ source compiled,
              inquiry.options[0]? = some source → source ≠ "" →
                Compiled.ofText? source.toList = .ok (some compiled) →
                  (regex.passes present inquiry = .ok true ↔
                      value ≠ 0 ∧
                        ∃ found, compiled.search (signedDigits value digits) = .ok (some found)) ∧
                    ∀ fault,
                      regex.passes present inquiry = .error fault ↔
                        fault = .crossedGroup ∧ value ≠ 0 ∧
                          compiled.search (signedDigits value digits) = .error .crossedGroup) ∧
          (integerDigitLimit < digits.length →
            ∀ rule ∈ textRules, rule.passes present inquiry = .error .integerTooLong) := by
  refine ⟨⟨_, areDigitsOf_toDigits value.natAbs⟩, fun digits written => ⟨fun few => ?_, ?_⟩⟩
  · have excluded : ∀ kind : Char → Bool,
        (∀ digit, isNumeralDigit digit = true → kind digit = false) →
          textPasses inquiry (consistsOf kind) = .ok false := by
      intro kind noDigit
      rw [textPasses_of_few isInteger written few,
        consistsOf_signedDigits_of_excluded written noDigit, Bool.and_false]
    have included : ∀ kind : Char → Bool,
        (∀ digit, isNumeralDigit digit = true → kind digit = true) →
          kind '-' = false → textPasses inquiry (consistsOf kind) = .ok (decide (0 < value)) := by
      intro kind everyDigit noHyphen
      have positive : (0 < value) ↔ (value ≠ 0 ∧ 0 ≤ value) := by omega
      rw [textPasses_of_few isInteger written few,
        consistsOf_signedDigits_of_included written everyDigit noHyphen, ← Bool.decide_and,
        decide_eq_decide.mpr positive]
    refine ⟨included _ (fun _ decimal => decimal) (by decide), ?_, ?_, ?_, ?_, ?_⟩
    · refine included _ (fun digit decimal => ?_) (by decide)
      rw [isLetterOrDigit, decimal, Bool.or_true]
    · exact excluded _ fun digit decimal => isLetter_of_isNumeralDigit decimal
    · exact excluded _ fun digit decimal => isSlugCharacter_of_isNumeralDigit decimal
    · rw [passes, textPasses_of_few isInteger written few, isMailAddress_signedDigits written,
        Bool.and_false]
    · intro source compiled first given read
      have searched := patternPasses_of_few isInteger written few first given read
      rw [passes, searched]
      by_cases isZero : value = 0
      · simp [isZero]
      · rw [if_neg isZero]
        cases search : compiled.search (signedDigits value digits) with
        | ok found => simp [Except.map, isZero, Option.isSome_iff_exists]
        | error other =>
            obtain rfl := crossedGroup_of_search search
            simp [Except.map, isZero, eq_comm]
  · exact fun many rule ofText => passes_of_many ofText present isInteger written many

def yearInquiry
    (year : Int) :
    Inquiry :=
  ⟨[("year", .integer year)], "year", ["-\\d+$", "-\\d+$"]⟩

/-- A year before the first one is no number of digits, but its sign is found. -/
theorem year_before_first_matched :
    (yearInquiry (-44)).value = .integer (-44) ∧
      AreDigitsOf (-44 : Int).natAbs ['4', '4'] ∧
      num.passes shopSurroundings.present (yearInquiry (-44)) = .ok false ∧
      slug.passes shopSurroundings.present (yearInquiry (-44)) = .ok false ∧
      regex.passes shopSurroundings.present (yearInquiry (-44)) = .ok true := by
  have isInteger : (yearInquiry (-44)).value = .integer (-44) := rfl
  have decimal : ['4', '4'].all isNumeralDigit = true := by
    decide
  have written : AreDigitsOf (-44 : Int).natAbs ['4', '4'] :=
    ⟨List.all_eq_true.mp decimal, by decide, rfl, by decide⟩
  obtain ⟨_, answers⟩ :=
    integers_matched_up_to_digit_limit shopSurroundings.present (yearInquiry (-44)) (-44) isInteger
  obtain ⟨numbers, _, _, slugs, _, patterns⟩ := (answers ['4', '4'] written).1 (by decide)
  obtain ⟨compiled, found, body, searched⟩ :
      Finds Options.none "-\\d+$".toList (signedDigits (-44) ['4', '4']) := by
    decide +kernel
  have isBare : IsBare isOptionLetter "-\\d+$".toList := .undelimited (by decide) _
  have read : Compiled.ofText? "-\\d+$".toList = .ok (some compiled) := by
    rw [Compiled.ofText?, Compiled.ofText_of_isBare isBare, body]
  have finds := (patterns "-\\d+$" compiled rfl (by decide) read).1
  exact ⟨isInteger, written, numbers, slugs, finds.mpr ⟨by decide, found, searched⟩⟩

/-- The least integer with too many digits. -/
def longYear :
    Int :=
  (Nat.pow 10 integerDigitLimit : Nat)

/-- The least integer with too many digits is positive, and yet does not match digits: no rule that
matches a text answers about it. -/
theorem not_every_integer_is_matched :
    (¬ ∀ (present : Time.Moment) (inquiry : Inquiry) (value : Int),
        inquiry.value = .integer value →
          num.passes present inquiry = .ok (decide (0 < value))) ∧
      ∀ rule ∈ textRules,
        ¬ ∀ (present : Time.Moment) (inquiry : Inquiry) (value : Int),
          inquiry.value = .integer value →
            ∃ passed, rule.passes present inquiry = .ok passed := by
  have written := areDigitsOf_toDigits longYear.natAbs
  have magnitude : longYear.natAbs = Nat.pow 10 integerDigitLimit := Int.natAbs_natCast _
  have tooLong : Value.isTooLong longYear = true := decide_eq_true (Nat.le_of_eq magnitude.symm)
  have many := (isTooLong_iff written).mp tooLong
  have broken : ∀ rule ∈ textRules,
      rule.passes shopSurroundings.present (yearInquiry longYear) = .error .integerTooLong :=
    fun rule ofText => passes_of_many ofText shopSurroundings.present rfl written many
  refine ⟨fun everyMatched => ?_, fun rule ofText everyAnswered => ?_⟩
  · have matched := everyMatched shopSurroundings.present (yearInquiry longYear) longYear rfl
    rw [broken num (by decide)] at matched
    cases matched
  · obtain ⟨passed, answered⟩ :=
      everyAnswered shopSurroundings.present (yearInquiry longYear) longYear rfl
    rw [broken rule ofText] at answered
    cases answered

end Builtin

end FormRules
