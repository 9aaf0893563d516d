import FormRules.Proofs.NumericText
import Mathlib.Data.List.Forall2
import Mathlib.Data.Nat.Digits.Lemmas

/-!
# Integers in numerals

A numeral of an optional sign and digits denotes an integer. Up to the digit limit it is read as
that integer, and rules decide on it as on the integer itself. A longer one is read as the nearest
floating-point number, which is infinite if the first digit is not zero, so that such numerals of
one sign are all the same to the rules.
-/

namespace FormRules

open FormRules.Number
open FormRules.Text

/-- The characters are digits, of whatever script, with the given values. -/
def HaveValues
    (characters : List Char) (digits : List Nat) :
    Prop :=
  List.Forall₂ (fun character value => digitValue? character = some value) characters digits

theorem haveValues_iff
    {characters : List Char} {digits : List Nat} :
    HaveValues characters digits ↔ characters.map digitValue? = digits.map some := by
  rw [← List.forall₂_eq_eq_eq, List.forall₂_map_left_iff, List.forall₂_map_right_iff]
  rfl

instance (characters : List Char) (digits : List Nat) :
    Decidable (HaveValues characters digits) :=
  decidable_of_iff _ haveValues_iff.symm

/-- The text is an optional sign and at least one digit. It has the given digits and denotes the
given integer. -/
inductive IsIntegerNumeral :
    List Char → List Nat → Int → Prop
  | unsigned {characters : List Char} {digits : List Nat} (written : HaveValues characters digits)
      (notNone : digits ≠ []) :
      IsIntegerNumeral characters digits (Nat.ofDigits 10 digits.reverse : Nat)
  | plus {characters : List Char} {digits : List Nat} (written : HaveValues characters digits)
      (notNone : digits ≠ []) :
      IsIntegerNumeral ('+' :: characters) digits (Nat.ofDigits 10 digits.reverse : Nat)
  | minus {characters : List Char} {digits : List Nat} (written : HaveValues characters digits)
      (notNone : digits ≠ []) :
      IsIntegerNumeral ('-' :: characters) digits (-(Nat.ofDigits 10 digits.reverse : Nat))

/-- The value is an integer, or a numeral of one with no more digits than are read. -/
inductive Value.DenotesInteger :
    Value → Int → Prop
  | integer (value : Int) : DenotesInteger (.integer value) value
  | numeral {shown : String} {digits : List Nat} {value : Int}
      (isNumeral : IsIntegerNumeral shown.toList digits value)
      (fewDigits : digits.length ≤ integerDigitLimit) :
      DenotesInteger (.text shown) value

/-! ## Reading integer numerals -/

theorem digitValue?_sign
    {character : Char} {value : Nat} (digit : digitValue? character = some value) :
    character ≠ '-' ∧ character ≠ '+' := by
  constructor
  · rintro rfl
    have noDigit : digitValue? '-' = none := by decide
    rw [noDigit] at digit
    cases digit
  · rintro rfl
    have noDigit : digitValue? '+' = none := by decide
    rw [noDigit] at digit
    cases digit

namespace HaveValues

variable {characters : List Char} {digits : List Nat}

theorem readDigits_eq
    (written : HaveValues characters digits) :
    readDigits characters = (digits, []) := by
  induction written with
  | nil => rfl
  | cons digit _ inductionHypothesis =>
      simp only [readDigits, digit, inductionHypothesis]

theorem exists_digit_of_mem
    (written : HaveValues characters digits) {character : Char} (member : character ∈ characters) :
    ∃ value, digitValue? character = some value := by
  induction written with
  | nil => cases member
  | cons digit _ inductionHypothesis =>
      rcases List.mem_cons.mp member with rfl | later
      · exact ⟨_, digit⟩
      · exact inductionHypothesis later

theorem readSign_eq
    (written : HaveValues characters digits) :
    readSign characters = (false, characters) := by
  cases written with
  | nil => rfl
  | cons digit _ =>
      have ⟨notMinus, notPlus⟩ := digitValue?_sign digit
      unfold readSign
      split
      · rename_i sameText
        exact absurd (List.cons.inj sameText).1 notMinus
      · rename_i sameText
        exact absurd (List.cons.inj sameText).1 notPlus
      · rfl

theorem readMantissa?_eq
    (written : HaveValues characters digits) (notNone : digits ≠ []) :
    readMantissa? characters = some ((digits, none), []) := by
  obtain ⟨first, others, rfl⟩ := List.exists_cons_of_ne_nil notNone
  unfold readMantissa?
  rw [written.readDigits_eq]

theorem noSeparator
    (written : HaveValues characters digits) :
    characters.any isInformationSeparator = false := by
  rw [List.any_eq_false]
  intro character member
  obtain ⟨value, digit⟩ := written.exists_digit_of_mem member
  simp [isInformationSeparator_of_digit digit]

theorem trimStart_eq
    (written : HaveValues characters digits) :
    trimStart characters = characters := by
  refine trimStart_of_beginsFilled fun character first => ?_
  obtain ⟨value, digit⟩ := written.exists_digit_of_mem (List.mem_of_head? first)
  exact isBlank_of_digit digit

end HaveValues

theorem Number.Numeral.valueOfDigits_eq_ofDigits
    (digits : List Nat) :
    valueOfDigits digits = Nat.ofDigits 10 digits.reverse := by
  induction digits using List.reverseRecOn with
  | nil => rfl
  | append_singleton digits last inductionHypothesis =>
      have oneMore : valueOfDigits (digits ++ [last]) = 10 * valueOfDigits digits + last := by
        simp [valueOfDigits]
      rw [oneMore, inductionHypothesis, List.reverse_append, List.reverse_singleton,
        List.singleton_append, Nat.ofDigits_cons, Nat.add_comm]

namespace IsIntegerNumeral

variable {text : List Char} {digits : List Nat} {value : Int}

/-- An integer numeral is read as its sign and its digits. -/
theorem read?_eq
    (isNumeral : IsIntegerNumeral text digits value) :
    ∃ negative,
      Numeral.read? text = some ⟨negative, digits, none, none⟩ ∧
        value = (if negative then -(Numeral.valueOfDigits digits : Int)
          else Numeral.valueOfDigits digits) := by
  cases isNumeral with
  | unsigned written notNone =>
      refine ⟨false, ?_, by simp [Numeral.valueOfDigits_eq_ofDigits]⟩
      simp [Numeral.read?, written.trimStart_eq, written.readSign_eq,
        written.readMantissa?_eq notNone, readExponent?, allBlank]
  | plus written notNone =>
      refine ⟨false, ?_, by simp [Numeral.valueOfDigits_eq_ofDigits]⟩
      have filled : isBlank '+' = false := by decide
      simp [Numeral.read?, trimStart, filled, readSign, written.readMantissa?_eq notNone,
        readExponent?, allBlank]
  | minus written notNone =>
      refine ⟨true, ?_, by simp [Numeral.valueOfDigits_eq_ofDigits]⟩
      have filled : isBlank '-' = false := by decide
      simp [Numeral.read?, trimStart, filled, readSign, written.readMantissa?_eq notNone,
        readExponent?, allBlank]

theorem noSeparator
    (isNumeral : IsIntegerNumeral text digits value) :
    text.any isInformationSeparator = false := by
  cases isNumeral with
  | unsigned written _ => exact written.noSeparator
  | plus written _ =>
      have signIsNone : isInformationSeparator '+' = false := by decide
      rw [List.any_cons, signIsNone, written.noSeparator]
      rfl
  | minus written _ =>
      have signIsNone : isInformationSeparator '-' = false := by decide
      rw [List.any_cons, signIsNone, written.noSeparator]
      rfl

end IsIntegerNumeral

/-! ## Numerals beyond the limit -/

/-- A significand of more digits than are read is beyond all finite floating-point numbers. -/
theorem Number.Binary64.ofDecimal_of_huge
    (negative : Bool) {significand : Nat} (huge : 10 ^ integerDigitLimit ≤ significand) :
    ofDecimal negative significand 0 = infinite negative := by
  have manyBits : 2 ^ (3 * integerDigitLimit) ≤ significand := by
    calc 2 ^ (3 * integerDigitLimit) = (2 ^ 3) ^ integerDigitLimit := Nat.pow_mul 2 3 _
      _ ≤ 10 ^ integerDigitLimit := Nat.pow_le_pow_left (by decide) _
      _ ≤ significand := huge
  have positive : significand ≠ 0 := by
    have somePower : 0 < 2 ^ (3 * integerDigitLimit) := Nat.pow_pos (by decide)
    omega
  have bits : 3 * integerDigitLimit ≤ Nat.log2 significand :=
    (Nat.le_log2 positive).mpr manyBits
  unfold integerDigitLimit at bits
  unfold ofDecimal
  rw [if_neg positive]
  dsimp only
  rw [if_pos (by omega)]

namespace IsIntegerNumeral

variable {shown other : String} {digits others : List Nat} {value otherValue : Int}

/-- Up to the digit limit an integer numeral has the integer as its quantity, and beyond it the
nearest floating-point number. -/
theorem toQuantity_eq
    (isNumeral : IsIntegerNumeral shown.toList digits value) :
    ∃ negative : Bool,
      value = (if negative then -(Nat.ofDigits 10 digits.reverse : Nat)
        else (Nat.ofDigits 10 digits.reverse : Nat) : Int) ∧
        (Value.text shown).toQuantity =
          .ok (some (if digits.length ≤ integerDigitLimit then .integer value
            else .real (.ofDecimal negative value.natAbs 0))) := by
  obtain ⟨negative, read, isValue⟩ := isNumeral.read?_eq
  have magnitude : value.natAbs = Numeral.valueOfDigits digits := by
    rw [isValue]
    cases negative <;> simp
  have quantity :
      (Numeral.mk negative digits none none).quantity =
        if digits.length ≤ integerDigitLimit then .integer value
        else .real (.ofDecimal negative value.natAbs 0) := by
    rw [magnitude, isValue]
    simp [Numeral.quantity, Numeral.isWhole, Numeral.integer, Numeral.real, Numeral.significand,
      Numeral.scale]
  refine ⟨negative, ?_, ?_⟩
  · rw [isValue, Numeral.valueOfDigits_eq_ofDigits]
  · simp [Value.toQuantity, Value.quantityOfText, read, isNumeral.noSeparator, quantity]

theorem isNumeric
    (isNumeral : IsIntegerNumeral shown.toList digits value) :
    (Value.text shown).isNumeric = true := by
  obtain ⟨_, read, _⟩ := isNumeral.read?_eq
  simp [Value.isNumeric, read]

theorem toQuantity_of_few
    (isNumeral : IsIntegerNumeral shown.toList digits value)
    (fewDigits : digits.length ≤ integerDigitLimit) :
    (Value.text shown).toQuantity = .ok (some (.integer value)) := by
  obtain ⟨_, _, quantity⟩ := isNumeral.toQuantity_eq
  rw [quantity, if_pos fewDigits]

/-- A numeral beyond the limit is read as an infinity, if its first digit is not zero. -/
theorem toQuantity_of_many
    (isNumeral : IsIntegerNumeral shown.toList digits value)
    (manyDigits : integerDigitLimit < digits.length) (significant : digits.head? ≠ some 0) :
    (Value.text shown).toQuantity = .ok (some (.real (.infinite (decide (value < 0))))) := by
  obtain ⟨negative, isValue, quantity⟩ := isNumeral.toQuantity_eq
  obtain ⟨first, rest, rfl⟩ : ∃ first rest, digits = first :: rest := by
    refine List.exists_cons_of_ne_nil ?_
    rintro rfl
    cases manyDigits
  have notZero : (first :: rest).reverse.getLast (by simp) ≠ 0 := by
    simpa using significant
  have leading := Nat.pow_length_le_mul_ofDigits (b := 8) (by simp) notZero
  have huge : 10 ^ integerDigitLimit ≤ Nat.ofDigits 10 (first :: rest).reverse := by
    simp only [List.length_reverse, List.length_cons, Nat.pow_succ] at leading
    rw [Nat.mul_comm] at leading
    refine Nat.le_trans ?_ (Nat.le_of_mul_le_mul_left leading (by decide))
    refine Nat.pow_le_pow_right (by decide) ?_
    simpa [Nat.lt_succ_iff] using manyDigits
  have positive : 0 < Nat.ofDigits 10 (first :: rest).reverse :=
    Nat.lt_of_lt_of_le (Nat.pow_pos (by decide)) huge
  have magnitude : value.natAbs = Nat.ofDigits 10 (first :: rest).reverse := by
    rw [isValue]
    cases negative <;> simp
  have sign : decide (value < 0) = negative := by
    rw [isValue]
    cases negative with
    | true => exact decide_eq_true (by simp only [if_true]; omega)
    | false => exact decide_eq_false (by simp only [Bool.false_eq_true, if_false]; omega)
  rw [quantity, if_neg (by omega), magnitude, Binary64.ofDecimal_of_huge negative huge, sign]

/-- Numerals beyond the limit are loosely equal if they have the same sign. -/
theorem looselyEquals_of_many
    (isNumeral : IsIntegerNumeral shown.toList digits value)
    (isOther : IsIntegerNumeral other.toList others otherValue)
    (manyDigits : integerDigitLimit < digits.length) (significant : digits.head? ≠ some 0)
    (manyOthers : integerDigitLimit < others.length) (otherSignificant : others.head? ≠ some 0)
    (sameSign : value < 0 ↔ otherValue < 0) :
    (Value.text shown).looselyEquals (.text other) = .ok true := by
  have quantity := isNumeral.toQuantity_of_many manyDigits significant
  have otherQuantity := isOther.toQuantity_of_many manyOthers otherSignificant
  have signs : decide (value < 0) = decide (otherValue < 0) := by
    rw [decide_eq_decide]
    exact sameSign
  simp only [Value.looselyEquals, Value.isNull, isNumeral.isNumeric, isOther.isNumeric, quantity,
    otherQuantity, signs, Bool.or_self, Bool.and_self, Bool.false_eq_true, if_false, if_true]
  cases decide (otherValue < 0) <;> rfl

end IsIntegerNumeral

/-! ## Deciding on integers -/

namespace Number.Quantity

theorem integer_le_integer
    (left right : Int) :
    (integer left).le (integer right) = decide (left ≤ right) := by
  have unitsPositive : (0 : Int) < unitsPerOne := Int.natCast_pos.mpr unitsPerOne_pos
  simp only [le, position?, Position.le, decide_eq_decide]
  exact Int.mul_le_mul_right unitsPositive

theorem integer_equals_integer
    (left right : Int) :
    (integer left).equals (integer right) = decide (left = right) := by
  rw [equals_eq_le_and_le, integer_le_integer, integer_le_integer, ← Bool.decide_and,
    decide_eq_decide]
  omega

end Number.Quantity

namespace Value

variable {value left right : Value} {integer leftInteger rightInteger : Int}

theorem DenotesInteger.toQuantity_eq
    (denotes : value.DenotesInteger integer) :
    value.toQuantity = .ok (some (.integer integer)) := by
  cases denotes with
  | integer => rfl
  | numeral isNumeral fewDigits => exact isNumeral.toQuantity_of_few fewDigits

theorem DenotesInteger.isNumeric
    (denotes : value.DenotesInteger integer) :
    value.isNumeric = true := by
  cases denotes with
  | integer => rfl
  | numeral isNumeral _ => exact isNumeral.isNumeric

theorem DenotesInteger.measure_eq
    (denotes : value.DenotesInteger integer) :
    value.measure = .ok (some (.integer integer)) := by
  rw [measure, if_pos denotes.isNumeric]
  exact denotes.toQuantity_eq

theorem DenotesInteger.looselyEquals_eq
    (leftDenotes : left.DenotesInteger leftInteger)
    (rightDenotes : right.DenotesInteger rightInteger) :
    left.looselyEquals right = .ok (decide (leftInteger = rightInteger)) := by
  have leftFilled : left.isNull = false := by
    cases leftDenotes <;> rfl
  have rightFilled : right.isNull = false := by
    cases rightDenotes <;> rfl
  simp only [looselyEquals, leftFilled, rightFilled, leftDenotes.isNumeric,
    rightDenotes.isNumeric, leftDenotes.toQuantity_eq, rightDenotes.toQuantity_eq, Bool.or_self,
    Bool.and_self, Bool.false_eq_true, if_false, if_true, Quantity.integer_equals_integer]

end Value

namespace Builtin

/-- The threshold at the given place is an integer. One that is not given is zero. -/
inductive ThresholdIs
    (inquiry : Inquiry) (place : Nat) :
    Int → Prop
  | absent (notGiven : option? inquiry place = none) : ThresholdIs inquiry place 0
  | given {shown : String} {limit : Int} (given : option? inquiry place = some shown)
      (denotes : Value.DenotesInteger (.text shown) limit) :
      ThresholdIs inquiry place limit

/-- The field that the second option names is an integer. -/
inductive OtherFieldIs
    (inquiry : Inquiry) :
    Int → Prop
  | named {other : String} {integer : Int} (given : option? inquiry 1 = some other)
      (notEmpty : other ≠ "") (denotes : (inquiry.fields.value other).DenotesInteger integer) :
      OtherFieldIs inquiry integer

variable {inquiry : Inquiry} {size limit low high left right : Int}

theorem ThresholdIs.threshold_eq
    {place : Nat} (thresholdIs : ThresholdIs inquiry place limit) :
    threshold inquiry place = .ok (some (.integer limit)) := by
  unfold threshold
  cases thresholdIs with
  | absent notGiven => rw [notGiven]
  | given given denotes =>
      rw [given]
      exact denotes.toQuantity_eq

theorem sizePasses_of_integers
    (relation : Quantity → Quantity → Bool) (valueIs : inquiry.value.DenotesInteger size)
    (thresholdIs : ThresholdIs inquiry 1 limit) :
    sizePasses inquiry relation = .ok (relation (.integer size) (.integer limit)) := by
  unfold sizePasses
  rw [valueIs.measure_eq, thresholdIs.threshold_eq]
  rfl

theorem betweenPasses_of_integers
    (valueIs : inquiry.value.DenotesInteger size) (lowIs : ThresholdIs inquiry 1 low)
    (highIs : ThresholdIs inquiry 2 high) :
    betweenPasses inquiry = .ok (decide (low ≤ size ∧ size ≤ high)) := by
  unfold betweenPasses
  rw [valueIs.measure_eq, lowIs.threshold_eq, highIs.threshold_eq, Bool.decide_and,
    ← Quantity.integer_le_integer, ← Quantity.integer_le_integer]
  rfl

theorem sameAsOther_of_integers
    (valueIs : inquiry.value.DenotesInteger left) (otherIs : OtherFieldIs inquiry right) :
    sameAsOther inquiry = .ok (decide (left = right)) := by
  obtain ⟨given, notEmpty, denotes⟩ := otherIs
  unfold sameAsOther
  rw [given]
  simp only [String.isEmpty_iff, notEmpty, if_false]
  split
  · rename_i itself
    -- The field is compared with itself, so that it denotes both integers.
    subst itself
    rw [Value.looselyEqualsItself, if_pos valueIs.isNumeric]
    exact valueIs.looselyEquals_eq denotes
  · exact valueIs.looselyEquals_eq denotes

/-- An integer numeral is read as the integer exactly up to the digit limit. The rules that read
numbers decide on integers and on such numerals as the comparison of integers does. Beyond the limit
the nearest floating-point number is read, an infinity unless the first digit is zero, and all
numerals of one sign that are so long are loosely equal. -/
theorem integers_decided_up_to_digit_limit
    (present : Time.Moment) (inquiry : Inquiry) :
    (∀ (shown : String) (digits : List Nat) (value : Int),
        IsIntegerNumeral shown.toList digits value →
          ((Value.text shown).toQuantity = .ok (some (.integer value)) ↔
              digits.length ≤ integerDigitLimit) ∧
            (integerDigitLimit < digits.length →
              (∃ negative, (Value.text shown).toQuantity =
                  .ok (some (.real (.ofDecimal negative value.natAbs 0)))) ∧
                (digits.head? ≠ some 0 →
                  (Value.text shown).toQuantity =
                    .ok (some (.real (.infinite (decide (value < 0)))))))) ∧
      (∀ size limit, inquiry.value.DenotesInteger size → ThresholdIs inquiry 1 limit →
        min.passes present inquiry = .ok (decide (limit ≤ size)) ∧
          max.passes present inquiry = .ok (decide (size ≤ limit)) ∧
          Builtin.size.passes present inquiry = .ok (decide (size = limit))) ∧
      (∀ size low high, inquiry.value.DenotesInteger size → ThresholdIs inquiry 1 low →
        ThresholdIs inquiry 2 high →
          between.passes present inquiry = .ok (decide (low ≤ size ∧ size ≤ high))) ∧
      (∀ left right, inquiry.value.DenotesInteger left → OtherFieldIs inquiry right →
        same.passes present inquiry = .ok (decide (left = right)) ∧
          different.passes present inquiry = .ok (decide (left ≠ right))) ∧
      ∀ (shown other : String) (digits others : List Nat) (value otherValue : Int),
        IsIntegerNumeral shown.toList digits value →
          IsIntegerNumeral other.toList others otherValue →
            integerDigitLimit < digits.length → digits.head? ≠ some 0 →
              integerDigitLimit < others.length → others.head? ≠ some 0 →
                (value < 0 ↔ otherValue < 0) →
                  (Value.text shown).looselyEquals (.text other) = .ok true := by
  refine ⟨?_, ?_, ?_, ?_, ?_⟩
  · intro shown digits value isNumeral
    obtain ⟨negative, _, quantity⟩ := isNumeral.toQuantity_eq
    refine ⟨⟨fun exact => ?_, isNumeral.toQuantity_of_few⟩, fun manyDigits => ⟨⟨negative, ?_⟩, ?_⟩⟩
    · by_contra manyDigits
      rw [quantity, if_neg manyDigits] at exact
      cases exact
    · rw [quantity, if_neg (by omega)]
    · exact isNumeral.toQuantity_of_many manyDigits
  · intro size limit valueIs thresholdIs
    refine ⟨?_, ?_, ?_⟩
    · rw [passes, sizePasses_of_integers _ valueIs thresholdIs, Quantity.integer_le_integer]
    · rw [passes, sizePasses_of_integers _ valueIs thresholdIs, Quantity.integer_le_integer]
    · rw [passes, sizePasses_of_integers _ valueIs thresholdIs, Quantity.integer_equals_integer]
  · intro size low high valueIs lowIs highIs
    exact betweenPasses_of_integers valueIs lowIs highIs
  · intro left right valueIs otherIs
    have compared := sameAsOther_of_integers valueIs otherIs
    refine ⟨compared, ?_⟩
    rw [passes, compared, Except.map, decide_not]
  · intro shown other digits others value otherValue isNumeral isOther manyDigits significant
      manyOthers otherSignificant sameSign
    exact isNumeral.looselyEquals_of_many isOther manyDigits significant manyOthers otherSignificant
      sameSign

/-- The question about an amount with two thresholds, the first of which also names a field. -/
def amountInquiry :
    Inquiry :=
  ⟨[("amount", .text "9007199254740993"), ("9007199254740992", .integer 9007199254740992)],
    "amount", ["", "9007199254740992", "+٩٠٠٧١٩٩٢٥٤٧٤٠٩٩٣"]⟩

/-- Two neighbours beyond the integers that floating-point numbers tell apart, as numerals in two
scripts and as an integer. -/
theorem neighbours_told_apart :
    amountInquiry.value.DenotesInteger 9007199254740993 ∧
      ThresholdIs amountInquiry 1 9007199254740992 ∧
      ThresholdIs amountInquiry 2 9007199254740993 ∧
      OtherFieldIs amountInquiry 9007199254740992 ∧
      max.passes firstMoment amountInquiry = .ok false ∧
      between.passes firstMoment amountInquiry = .ok true ∧
      different.passes firstMoment amountInquiry = .ok true := by
  have upperWritten : HaveValues "9007199254740993".toList
      [9, 0, 0, 7, 1, 9, 9, 2, 5, 4, 7, 4, 0, 9, 9, 3] := by
    decide
  have lowerWritten : HaveValues "9007199254740992".toList
      [9, 0, 0, 7, 1, 9, 9, 2, 5, 4, 7, 4, 0, 9, 9, 2] := by
    decide
  have arabicWritten : HaveValues "٩٠٠٧١٩٩٢٥٤٧٤٠٩٩٣".toList
      [9, 0, 0, 7, 1, 9, 9, 2, 5, 4, 7, 4, 0, 9, 9, 3] := by
    decide
  have amount : amountInquiry.value.DenotesInteger 9007199254740993 :=
    .numeral (.unsigned upperWritten (by decide)) (by decide)
  have low : ThresholdIs amountInquiry 1 9007199254740992 :=
    .given rfl (.numeral (.unsigned lowerWritten (by decide)) (by decide))
  have high : ThresholdIs amountInquiry 2 9007199254740993 :=
    .given rfl (.numeral (.plus arabicWritten (by decide)) (by decide))
  have other : OtherFieldIs amountInquiry 9007199254740992 :=
    .named rfl (by decide) (.integer _)
  obtain ⟨_, sizes, betweens, equals, _⟩ :=
    integers_decided_up_to_digit_limit firstMoment amountInquiry
  exact ⟨amount, low, high, other, (sizes _ _ amount low).2.1, betweens _ _ _ amount low high,
    (equals _ _ amount other).2⟩

def repeatedDigit
    (count : Nat) (digit : Char) :
    String :=
  String.ofList (List.replicate count digit)

section Repeated

variable {count : Nat} {digit : Char} {value other : Nat}

theorem isIntegerNumeral_repeatedDigit
    (isDigit : digitValue? digit = some value) (notNone : 0 < count) :
    IsIntegerNumeral (repeatedDigit count digit).toList (List.replicate count value)
      (Nat.ofDigits 10 (List.replicate count value).reverse : Nat) := by
  rw [repeatedDigit, String.toList_ofList]
  refine .unsigned ?_ ?_
  · rw [haveValues_iff, List.map_replicate, List.map_replicate, isDigit]
  · exact List.ne_nil_of_length_pos (by rwa [List.length_replicate])

theorem toQuantity_repeatedDigit
    (isDigit : digitValue? digit = some value) (manyDigits : integerDigitLimit < count)
    (significant : value ≠ 0) :
    (Value.text (repeatedDigit count digit)).toQuantity = .ok (some (.real (.infinite false))) := by
  have isNumeral := isIntegerNumeral_repeatedDigit isDigit (Nat.zero_lt_of_lt manyDigits)
  rw [isNumeral.toQuantity_of_many (by rwa [List.length_replicate])]
  · simp
  · have someDigit : count ≠ 0 := Nat.ne_zero_of_lt manyDigits
    simpa [List.head?_replicate, someDigit] using significant

theorem eq_of_ofDigits_replicate_eq
    (notNone : 0 < count) (isDigit : value < 10) (otherIsDigit : other < 10)
    (same : Nat.ofDigits 10 (List.replicate count value).reverse =
      Nat.ofDigits 10 (List.replicate count other).reverse) :
    value = other := by
  rw [List.reverse_replicate, List.reverse_replicate] at same
  have sameDigits := Nat.ofDigits_inj_of_len_eq (by decide) (by simp)
    (fun digit member => (List.eq_of_mem_replicate member) ▸ isDigit)
    (fun digit member => (List.eq_of_mem_replicate member) ▸ otherIsDigit) same
  exact (List.replicate_right_inj (Nat.ne_of_gt notNone)).mp sameDigits

end Repeated

def sameTexts
    (shown other : String) :
    Inquiry :=
  ⟨[("test", .text shown), ("other", .text other)], "test", ["other", "other"]⟩

theorem passes_sameTexts
    (present : Time.Moment) (shown other : String) :
    same.passes present (sameTexts shown other) =
      (Value.text shown).looselyEquals (.text other) :=
  rfl

/-- A numeral of 4301 ones is not read as the integer that it denotes, and passes as the same as one
of 4301 twos. -/
theorem not_every_integer_numeral_is_exact :
    (¬ ∀ (shown : String) (digits : List Nat) (value : Int),
        IsIntegerNumeral shown.toList digits value →
          (Value.text shown).toQuantity = .ok (some (.integer value))) ∧
      ¬ ∀ (present : Time.Moment) (shown other : String) (digits others : List Nat)
        (left right : Int),
          IsIntegerNumeral shown.toList digits left →
            IsIntegerNumeral other.toList others right →
              same.passes present (sameTexts shown other) = .ok (decide (left = right)) := by
  have isOne : digitValue? '1' = some 1 := rfl
  have isTwo : digitValue? '2' = some 2 := rfl
  obtain ⟨count, isCount⟩ : ∃ count, count = 4301 := ⟨_, rfl⟩
  have manyDigits : integerDigitLimit < count := by
    rw [isCount]
    decide
  have notNone := Nat.zero_lt_of_lt manyDigits
  have ones := isIntegerNumeral_repeatedDigit isOne notNone
  have twos := isIntegerNumeral_repeatedDigit isTwo notNone
  have infinite := toQuantity_repeatedDigit isOne manyDigits (by decide)
  refine ⟨fun everyExact => ?_, fun everyDecided => ?_⟩
  · rw [everyExact _ _ _ ones] at infinite
    cases infinite
  · have otherInfinite := toQuantity_repeatedDigit isTwo manyDigits (by decide)
    have passed :
        same.passes firstMoment (sameTexts (repeatedDigit count '1') (repeatedDigit count '2')) =
          .ok true := by
      rw [passes_sameTexts]
      simp [Value.looselyEquals, Value.isNull, ones.isNumeric, twos.isNumeric, infinite,
        otherInfinite, Quantity.equals, Quantity.position?]
    rw [everyDecided firstMoment _ _ _ _ _ _ ones twos, Except.ok.injEq, decide_eq_true_eq]
      at passed
    have sameDigit := eq_of_ofDigits_replicate_eq notNone (by decide) (by decide)
      (Int.ofNat.inj passed)
    cases sameDigit

end Builtin

end FormRules
