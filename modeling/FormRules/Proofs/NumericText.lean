import FormRules.Proofs.Trimming
import FormRules.Rule.Builtin

/-!
# Numbers in texts

What a numeral is and what the reader of numbers skips around it are two things: the four
information separators are blank, and so they may stand around a numeral, but they are not skipped.
Every other numeric value has a quantity. The rules that read numbers therefore answer on every
question but those in which such a text is read as a number, and there they break off.
-/

namespace FormRules

open FormRules.Text

namespace Number

/-! ## What the reader of numerals takes from a text -/

/-- The rest is what is left of a text without some characters at its beginning that are no
information separators. -/
def TakesNoSeparator
    (text rest : List Char) :
    Prop :=
  ∃ taken, text = taken ++ rest ∧
    ∀ character ∈ taken, isInformationSeparator character = false

theorem TakesNoSeparator.refl
    (text : List Char) :
    TakesNoSeparator text text :=
  ⟨[], rfl, by simp⟩

theorem TakesNoSeparator.trans
    {text between rest : List Char}
    (first : TakesNoSeparator text between) (second : TakesNoSeparator between rest) :
    TakesNoSeparator text rest := by
  obtain ⟨taken, rfl, filled⟩ := first
  obtain ⟨more, rfl, moreFilled⟩ := second
  refine ⟨taken ++ more, (List.append_assoc ..).symm, fun character member => ?_⟩
  rcases List.mem_append.mp member with inTaken | inMore
  · exact filled character inTaken
  · exact moreFilled character inMore

theorem TakesNoSeparator.cons
    {character : Char} {text rest : List Char}
    (noSeparator : isInformationSeparator character = false)
    (later : TakesNoSeparator text rest) :
    TakesNoSeparator (character :: text) rest :=
  TakesNoSeparator.trans ⟨[character], rfl, by simpa using noSeparator⟩ later

/-- No digit is a blank: the rows of digits lie between the blocks of blanks. -/
theorem isBlank_of_digit
    {character : Char} {value : Nat} (digit : digitValue? character = some value) :
    isBlank character = false := by
  simp only [digitValue?, Option.map_eq_some_iff] at digit
  obtain ⟨rowZero, found, _⟩ := digit
  have inRow := List.find?_some found
  have isRow := List.mem_of_find?_eq_some found
  have betweenBlanks : ∀ row ∈ digitZeros,
      48 ≤ row ∧ (row + 10 ≤ 133 ∨ 160 < row) ∧ (row + 10 ≤ 5760 ∨ 5760 < row) ∧
        (row + 10 ≤ 8192 ∨ 12288 < row) := by
    decide
  have between := betweenBlanks rowZero isRow
  simp only [Bool.and_eq_true, decide_eq_true_eq] at inRow
  simp only [isBlank, Bool.or_eq_false_iff, Bool.and_eq_false_iff, decide_eq_false_iff_not,
    beq_eq_false_iff_ne]
  omega

theorem isInformationSeparator_of_digit
    {character : Char} {value : Nat} (digit : digitValue? character = some value) :
    isInformationSeparator character = false := by
  rw [← Bool.not_eq_true]
  intro separator
  have blank := isBlank_of_isInformationSeparator separator
  rw [isBlank_of_digit digit] at blank
  cases blank

theorem takesNoSeparator_readDigits
    (text : List Char) :
    TakesNoSeparator text (readDigits text).2 := by
  induction text with
  | nil => exact .refl []
  | cons character rest inductionHypothesis =>
      unfold readDigits
      cases digit : digitValue? character with
      | none => exact .refl _
      | some value => exact inductionHypothesis.cons (isInformationSeparator_of_digit digit)

theorem takesNoSeparator_readSign
    (text : List Char) :
    TakesNoSeparator text (readSign text).2 := by
  unfold readSign
  split
  · exact .cons (by decide) (.refl _)
  · exact .cons (by decide) (.refl _)
  · exact .refl _

theorem takesNoSeparator_readMantissa?
    {text rest : List Char} {digits : List Nat × Option (List Nat)}
    (read : readMantissa? text = some (digits, rest)) :
    TakesNoSeparator text rest := by
  have whole := takesNoSeparator_readDigits text
  unfold readMantissa? at read
  split at read
  · rename_i afterPoint readWhole
    rw [readWhole] at whole
    have fraction := takesNoSeparator_readDigits afterPoint
    split at read
    · cases read
    · rename_i readFraction
      rw [readFraction] at fraction
      simp only [Option.some.injEq, Prod.mk.injEq] at read
      obtain ⟨_, rfl⟩ := read
      exact whole.trans (fraction.cons (by decide))
  · cases read
  · rename_i afterPoint _ readWhole
    rw [readWhole] at whole
    have fraction := takesNoSeparator_readDigits afterPoint
    simp only [Option.some.injEq, Prod.mk.injEq] at read
    obtain ⟨_, rfl⟩ := read
    exact whole.trans (fraction.cons (by decide))
  · rename_i readWhole
    rw [readWhole] at whole
    simp only [Option.some.injEq, Prod.mk.injEq] at read
    obtain ⟨_, rfl⟩ := read
    exact whole

theorem takesNoSeparator_readExponentDigits?
    {text rest : List Char} {exponent : Option (Bool × List Nat)}
    (read : readExponentDigits? text = some (exponent, rest)) :
    TakesNoSeparator text rest := by
  have sign := takesNoSeparator_readSign text
  have digits := takesNoSeparator_readDigits (readSign text).2
  unfold readExponentDigits? at read
  split at read
  · cases read
  · rename_i readAll
    rw [readAll] at digits
    simp only [Option.some.injEq, Prod.mk.injEq] at read
    obtain ⟨_, rfl⟩ := read
    exact sign.trans digits

theorem takesNoSeparator_readExponent?
    {text rest : List Char} {exponent : Option (Bool × List Nat)}
    (read : readExponent? text = some (exponent, rest)) :
    TakesNoSeparator text rest := by
  unfold readExponent? at read
  split at read
  · exact .cons (by decide) (takesNoSeparator_readExponentDigits? read)
  · exact .cons (by decide) (takesNoSeparator_readExponentDigits? read)
  · simp only [Option.some.injEq, Prod.mk.injEq] at read
    obtain ⟨_, rfl⟩ := read
    exact .refl _

/-- A numeral stands between blanks, and has no information separator in it. -/
theorem Numeral.exists_blank_rest
    {text : List Char} {numeral : Numeral} (read : read? text = some numeral) :
    ∃ rest, TakesNoSeparator (trimStart text) rest ∧ allBlank rest = true := by
  have sign := takesNoSeparator_readSign (trimStart text)
  unfold read? at read
  dsimp only at read
  split at read
  · cases read
  · rename_i readMantissa
    have mantissa := takesNoSeparator_readMantissa? readMantissa
    split at read
    · cases read
    · rename_i readExponent
      have exponent := takesNoSeparator_readExponent? readExponent
      split at read
      · rename_i blank
        exact ⟨_, (sign.trans mantissa).trans exponent, blank⟩
      · cases read

end Number

def blanksAround
    (text : List Char) :
    List Char :=
  text.takeWhile isBlank ++ text.reverse.takeWhile isBlank

/-- The information separators of a numeral stand around it. -/
theorem mem_blanksAround_of_separator
    {text : List Char} {numeral : Number.Numeral} {character : Char}
    (read : Number.Numeral.read? text = some numeral) (member : character ∈ text)
    (separator : isInformationSeparator character = true) :
    character ∈ blanksAround text := by
  obtain ⟨rest, ⟨taken, split, filled⟩, blank⟩ := Number.Numeral.exists_blank_rest read
  have whole : text = text.takeWhile isBlank ++ (taken ++ rest) := by
    rw [← split]
    exact List.takeWhile_append_dropWhile.symm
  have atEnd : ∀ blankCharacter ∈ rest, blankCharacter ∈ text.reverse.takeWhile isBlank := by
    intro blankCharacter inRest
    have reversed :
        text.reverse = rest.reverse ++ (text.takeWhile isBlank ++ taken).reverse := by
      rw [← List.reverse_append, List.append_assoc, ← whole]
    rw [reversed, List.takeWhile_append_of_pos]
    · exact List.mem_append_left _ (List.mem_reverse.mpr inRest)
    · intro other inReversed
      exact allBlank_iff.mp blank other (List.mem_reverse.mp inReversed)
  rw [whole, List.mem_append, List.mem_append] at member
  rcases member with leading | inTaken | inRest
  · exact List.mem_append_left _ leading
  · rw [filled character inTaken] at separator
    cases separator
  · exact List.mem_append_right _ (atEnd character inRest)

namespace Value

/-- The value is a numeral with an information separator among the blanks around it. -/
def isUnreadable
    (value : Value) :
    Bool :=
  match value with
  | text shown =>
      value.isNumeric && (blanksAround shown.toList).any isInformationSeparator
  | _ => false

theorem isUnreadable_text
    {shown : String} {numeral : Number.Numeral}
    (read : Number.Numeral.read? shown.toList = some numeral) :
    (Value.text shown).isUnreadable = shown.toList.any isInformationSeparator := by
  have numeric : (Value.text shown).isNumeric = true := by
    simp [isNumeric, read]
  have unfolded :
      (Value.text shown).isUnreadable =
        (blanksAround shown.toList).any isInformationSeparator := by
    simp only [isUnreadable, numeric, Bool.true_and]
  rw [unfolded, Bool.eq_iff_iff, List.any_eq_true, List.any_eq_true]
  constructor
  · rintro ⟨character, around, separator⟩
    refine ⟨character, ?_, separator⟩
    rcases List.mem_append.mp around with leading | trailing
    · exact List.takeWhile_subset _ leading
    · exact List.mem_reverse.mp (List.takeWhile_subset _ trailing)
  · rintro ⟨character, member, separator⟩
    exact ⟨character, mem_blanksAround_of_separator read member separator, separator⟩

/-- A numeric value has a quantity, unless it is unreadable, and this is a fault. -/
theorem toQuantity_of_isNumeric
    {value : Value} (numeric : value.isNumeric = true) :
    (value.isUnreadable = false ∧ ∃ quantity, value.toQuantity = .ok (some quantity)) ∨
      value.isUnreadable = true ∧
        ∃ shown, value = .text shown ∧ value.toQuantity = .error (.unreadableNumber shown) := by
  cases value with
  | text shown =>
      obtain ⟨numeral, read⟩ := Option.isSome_iff_exists.mp numeric
      rw [isUnreadable_text read]
      cases separated : shown.toList.any isInformationSeparator with
      | true =>
          refine Or.inr ⟨rfl, shown, rfl, ?_⟩
          simp [toQuantity, quantityOfText, read, separated]
      | false =>
          refine Or.inl ⟨rfl, numeral.quantity, ?_⟩
          simp [toQuantity, quantityOfText, read, separated]
  | integer value => exact Or.inl ⟨rfl, _, rfl⟩
  | real value => exact Or.inl ⟨rfl, _, rfl⟩
  | _ => cases numeric

theorem toQuantity_of_not_isNumeric
    {value : Value} (notNumeric : value.isNumeric = false) :
    value.isUnreadable = false ∧ value.toQuantity = .ok none := by
  cases value with
  | text shown =>
      refine ⟨by simp [isUnreadable, notNumeric], ?_⟩
      simp only [isNumeric, Option.isSome_eq_false_iff, Option.isNone_iff_eq_none] at notNumeric
      simp [toQuantity, quantityOfText, notNumeric]
  | integer value => cases notNumeric
  | real value => cases notNumeric
  | _ => exact ⟨rfl, rfl⟩

end Value

/-! ## Reading numbers -/

/-- A computation that reads these values as numbers: it has an answer if none of them is
unreadable, and else it breaks off at one that is. -/
inductive ReadsNumbers {answer : Type}
    (values : List Value) (computation : Except Fault answer) :
    Prop
  | answers (given : answer) (answered : computation = .ok given)
      (readable : ∀ value ∈ values, value.isUnreadable = false)
  | breaksOff (shown : String) (broken : computation = .error (.unreadableNumber shown))
      (member : .text shown ∈ values) (unreadable : (Value.text shown).isUnreadable = true)

namespace ReadsNumbers

variable {answer next : Type} {values more : List Value} {computation : Except Fault answer}

theorem pure
    (given : answer) :
    ReadsNumbers [] (.ok given) :=
  .answers given rfl (by simp)

theorem bind
    {continuation : answer → Except Fault next}
    (reads : ReadsNumbers values computation)
    (readsLater : ∀ given, ReadsNumbers more (continuation given)) :
    ReadsNumbers (values ++ more) (computation >>= continuation) := by
  cases reads with
  | breaksOff shown broken member unreadable =>
      refine .breaksOff shown ?_ (List.mem_append_left _ member) unreadable
      rw [broken]
      rfl
  | answers given answered readable =>
      rw [answered]
      cases readsLater given with
      | breaksOff shown broken member unreadable =>
          exact .breaksOff shown broken (List.mem_append_right _ member) unreadable
      | answers laterGiven laterAnswered laterReadable =>
          refine .answers laterGiven laterAnswered fun value member => ?_
          rcases List.mem_append.mp member with inValues | inMore
          · exact readable value inValues
          · exact laterReadable value inMore

theorem thenReturn
    (reads : ReadsNumbers values computation) (change : answer → next) :
    ReadsNumbers values (do return change (← computation)) := by
  have continued := reads.bind fun given => pure (change given)
  rw [List.append_nil] at continued
  exact continued

theorem map
    (reads : ReadsNumbers values computation) (change : answer → next) :
    ReadsNumbers values (computation.map change) := by
  have returned := reads.thenReturn change
  cases computation <;> exact returned

theorem exists_answer_iff
    (reads : ReadsNumbers values computation) :
    (∃ given, computation = .ok given) ↔ ∀ value ∈ values, value.isUnreadable = false := by
  cases reads with
  | answers given answered readable => exact iff_of_true ⟨given, answered⟩ readable
  | breaksOff shown broken member unreadable =>
      refine iff_of_false ?_ fun readable => ?_
      · rintro ⟨given, answered⟩
        rw [broken] at answered
        cases answered
      · rw [readable _ member] at unreadable
        cases unreadable

theorem exists_text_of_fault
    (reads : ReadsNumbers values computation) {fault : Fault}
    (faulty : computation = .error fault) :
    ∃ shown, .text shown ∈ values ∧ (Value.text shown).isUnreadable = true ∧
      fault = .unreadableNumber shown := by
  cases reads with
  | answers given answered readable =>
      rw [answered] at faulty
      cases faulty
  | breaksOff shown broken member unreadable =>
      rw [broken, Except.error.injEq] at faulty
      exact ⟨shown, member, unreadable, faulty.symm⟩

end ReadsNumbers

namespace Value

theorem readsNumbers_toQuantity
    (value : Value) :
    ReadsNumbers [value] value.toQuantity := by
  cases numeric : value.isNumeric with
  | false =>
      obtain ⟨readable, answered⟩ := toQuantity_of_not_isNumeric numeric
      exact .answers _ answered (by simpa using readable)
  | true =>
      rcases toQuantity_of_isNumeric numeric with
        ⟨readable, quantity, answered⟩ | ⟨unreadable, shown, rfl, broken⟩
      · exact .answers _ answered (by simpa using readable)
      · exact .breaksOff shown broken List.mem_cons_self unreadable

theorem readsNumbers_measure
    (value : Value) :
    ReadsNumbers [value] value.measure := by
  unfold measure
  cases numeric : value.isNumeric with
  | true => exact value.readsNumbers_toQuantity
  | false =>
      have readable := (toQuantity_of_not_isNumeric numeric).1
      exact .answers _ rfl (by simpa using readable)

/-- The values that are read as numbers when two values are compared: both, if both are numeric. -/
def comparedNumbers
    (left right : Value) :
    List Value :=
  if left.isNumeric && right.isNumeric then [left, right] else []

theorem isNumeric_of_isNull
    {value : Value} (isNull : value.isNull = true) :
    value.isNumeric = false := by
  cases value with
  | null => rfl
  | _ => cases isNull

theorem readsNumbers_looselyEquals
    (left right : Value) :
    ReadsNumbers (comparedNumbers left right) (left.looselyEquals right) := by
  unfold comparedNumbers
  cases someNull : left.isNull || right.isNull with
  | true =>
      have notBoth : (left.isNumeric && right.isNumeric) = false := by
        rcases Bool.or_eq_true_iff.mp someNull with leftNull | rightNull
        · rw [isNumeric_of_isNull leftNull, Bool.false_and]
        · rw [isNumeric_of_isNull rightNull, Bool.and_false]
      simp only [notBoth, looselyEquals, someNull]
      exact .pure _
  | false =>
      cases bothNumeric : left.isNumeric && right.isNumeric with
      | false =>
          simp only [looselyEquals, someNull, bothNumeric]
          exact .pure _
      | true =>
          have oneAfterTheOther :
              left.looselyEquals right =
                left.toQuantity >>= fun leftQuantity =>
                  right.toQuantity.map fun rightQuantity =>
                    leftQuantity.any fun own =>
                      rightQuantity.any fun other => own.equals other := by
            simp only [looselyEquals, someNull, bothNumeric]
            rcases left.toQuantity with fault | _ | leftQuantity <;>
              rcases right.toQuantity with otherFault | _ | rightQuantity <;> rfl
          rw [oneAfterTheOther]
          exact left.readsNumbers_toQuantity.bind fun leftQuantity =>
            right.readsNumbers_toQuantity.map _

theorem readsNumbers_looselyEqualsItself
    (value : Value) :
    ReadsNumbers (comparedNumbers value value) value.looselyEqualsItself := by
  unfold looselyEqualsItself
  cases numeric : value.isNumeric with
  | true => exact value.readsNumbers_looselyEquals value
  | false =>
      simp only [comparedNumbers, numeric]
      exact .pure true

end Value

namespace Builtin

def numberRules :
    List Builtin :=
  [min, max, Builtin.size, between, same, different]

/-- The given options, as far as there are options at these places. -/
def optionsAt
    (inquiry : Inquiry) (places : List Nat) :
    List Value :=
  places.filterMap fun place => (option? inquiry place).map .text

/-- The values that a rule reads as numbers: the field and the thresholds, or two fields if both are
numeric. -/
def numbersRead
    (rule : Builtin) (inquiry : Inquiry) :
    List Value :=
  match rule with
  | min | max | Builtin.size => inquiry.value :: optionsAt inquiry [1]
  | between => inquiry.value :: optionsAt inquiry [1, 2]
  | same | different =>
      match option? inquiry 1 with
      | none => []
      | some other =>
          if other.isEmpty then []
          else Value.comparedNumbers inquiry.value (inquiry.fields.value other)
  | _ => []

theorem readsNumbers_threshold
    (inquiry : Inquiry) (place : Nat) :
    ReadsNumbers (optionsAt inquiry [place]) (threshold inquiry place) := by
  unfold threshold optionsAt
  cases given : option? inquiry place with
  | none =>
      rw [List.filterMap_cons_none (by rw [given]; rfl)]
      exact .pure _
  | some shown =>
      rw [List.filterMap_cons_some (by rw [given]; rfl)]
      exact (Value.text shown).readsNumbers_toQuantity

theorem readsNumbers_sizePasses
    (inquiry : Inquiry) (relation : Number.Quantity → Number.Quantity → Bool) :
    ReadsNumbers (inquiry.value :: optionsAt inquiry [1]) (sizePasses inquiry relation) := by
  have both : inquiry.value :: optionsAt inquiry [1] = [inquiry.value] ++ optionsAt inquiry [1] :=
    rfl
  rw [both]
  exact inquiry.value.readsNumbers_measure.bind fun _ =>
    (readsNumbers_threshold inquiry 1).thenReturn _

theorem readsNumbers_betweenPasses
    (inquiry : Inquiry) :
    ReadsNumbers (inquiry.value :: optionsAt inquiry [1, 2]) (betweenPasses inquiry) := by
  have both : optionsAt inquiry [1, 2] = optionsAt inquiry [1] ++ optionsAt inquiry [2] := by
    rw [optionsAt, optionsAt, optionsAt, ← List.filterMap_append]
    rfl
  rw [both]
  exact inquiry.value.readsNumbers_measure.bind fun _ =>
    (readsNumbers_threshold inquiry 1).bind fun _ =>
      (readsNumbers_threshold inquiry 2).thenReturn _

theorem readsNumbers_sameAsOther
    (inquiry : Inquiry) :
    ReadsNumbers (numbersRead same inquiry) (sameAsOther inquiry) := by
  have withNull : ReadsNumbers [] (inquiry.value.looselyEquals .null) := by
    have compared := inquiry.value.readsNumbers_looselyEquals .null
    have nothing : Value.comparedNumbers inquiry.value .null = [] := by
      simp [Value.comparedNumbers, Value.isNumeric]
    rw [nothing] at compared
    exact compared
  unfold sameAsOther
  simp only [numbersRead]
  cases option? inquiry 1 with
  | none => exact withNull
  | some other =>
      simp only
      split
      · exact withNull
      · split
        · rename_i _ itself
          rw [itself]
          exact inquiry.value.readsNumbers_looselyEqualsItself
        · exact inquiry.value.readsNumbers_looselyEquals _

theorem readsNumbers_passes
    {rule : Builtin} (isNumberRule : rule ∈ numberRules) (present : Time.Moment)
    (inquiry : Inquiry) :
    ReadsNumbers (rule.numbersRead inquiry) (rule.passes present inquiry) := by
  simp only [numberRules, List.mem_cons, List.not_mem_nil, or_false] at isNumberRule
  rcases isNumberRule with rfl | rfl | rfl | rfl | rfl | rfl
  · exact readsNumbers_sizePasses inquiry _
  · exact readsNumbers_sizePasses inquiry _
  · exact readsNumbers_sizePasses inquiry _
  · exact readsNumbers_betweenPasses inquiry
  · exact readsNumbers_sameAsOther inquiry
  · exact (readsNumbers_sameAsOther inquiry).map _

/-- Every numeric value has a quantity, but for numerals with an information separator around them.
A rule that reads numbers answers exactly if none of these is among the values that it reads, and
then it passes or fails without a message; else it breaks off at one of them. -/
theorem numbers_read_unless_separated
    (present : Time.Moment) (inquiry : Inquiry) :
    (∀ value : Value, value.isNumeric = true →
        ((∃ quantity, value.toQuantity = .ok (some quantity)) ↔ value.isUnreadable = false)) ∧
      ∀ rule ∈ numberRules,
        ((∃ reports, rule.toPredicate present inquiry = .ok reports) ↔
            ∀ value ∈ rule.numbersRead inquiry, value.isUnreadable = false) ∧
          (∀ reports, rule.toPredicate present inquiry = .ok reports →
            reports = [] ∨ reports = [.null]) ∧
          ∀ fault, rule.toPredicate present inquiry = .error fault →
            ∃ shown, .text shown ∈ rule.numbersRead inquiry ∧
              (Value.text shown).isUnreadable = true ∧ fault = .unreadableNumber shown := by
  refine ⟨fun value numeric => ?_, fun rule isNumberRule => ?_⟩
  · rcases Value.toQuantity_of_isNumeric numeric with
      ⟨readable, quantity, answered⟩ | ⟨unreadable, shown, _, broken⟩
    · exact iff_of_true ⟨quantity, answered⟩ readable
    · refine iff_of_false ?_ (by simp [unreadable])
      rintro ⟨quantity, answered⟩
      rw [broken] at answered
      cases answered
  · have reads := (readsNumbers_passes isNumberRule present inquiry).map fun passed =>
      if passed then [] else [Value.null]
    refine ⟨reads.exists_answer_iff, ?_, fun fault faulty => reads.exists_text_of_fault faulty⟩
    intro reports answered
    unfold toPredicate at answered
    cases passes : rule.passes present inquiry with
    | error fault => simp [passes, Except.map] at answered
    | ok passed =>
        simp only [passes, Except.map, Except.ok.injEq] at answered
        subst answered
        cases passed
        · exact Or.inr rfl
        · exact Or.inl rfl

def firstMoment :
    Time.Moment :=
  ⟨1, 0, none, Nat.one_pos, Time.one_le_lastDay, Time.microsecondsPerDay_pos⟩

def atLeastOne
    (shown : String) :
    Inquiry :=
  ⟨[("age", .text shown)], "age", ["1", "1"]⟩

/-- A numeral with a space before it is read; one between two information separators is not. -/
theorem spaced_numeral_read_unless_separated :
    (∃ quantity, (Value.text " 7").toQuantity = .ok (some quantity)) ∧
      (∃ reports, min.toPredicate firstMoment (atLeastOne " 7") = .ok reports) ∧
      ¬ ∃ reports, min.toPredicate firstMoment (atLeastOne "\x1c7\x1f") = .ok reports := by
  obtain ⟨quantities, spaced⟩ := numbers_read_unless_separated firstMoment (atLeastOne " 7")
  obtain ⟨_, separated⟩ :=
    numbers_read_unless_separated firstMoment (atLeastOne "\x1c7\x1f")
  refine ⟨(quantities (.text " 7") rfl).mpr rfl, ?_, ?_⟩
  · exact (spaced min (by decide)).1.mpr (by decide)
  · intro answered
    have readable := (separated min (by decide)).1.mp answered
    exact absurd readable (by decide)

/-- The numeral between two information separators has no quantity, and to ask whether it is at least
one is a fault. -/
theorem not_every_numeral_is_read :
    (¬ ∀ value : Value, value.isNumeric = true →
        ∃ quantity, value.toQuantity = .ok (some quantity)) ∧
      ¬ ∀ rule ∈ numberRules, ∀ (present : Time.Moment) (inquiry : Inquiry),
        ∃ reports, rule.toPredicate present inquiry = .ok reports := by
  refine ⟨fun everyNumeral => ?_, fun everyRule => ?_⟩
  · obtain ⟨quantity, answered⟩ := everyNumeral (.text "\x1c7\x1f") rfl
    have broken :
        (Value.text "\x1c7\x1f").toQuantity = .error (.unreadableNumber "\x1c7\x1f") :=
      rfl
    rw [broken] at answered
    cases answered
  · obtain ⟨reports, answered⟩ :=
      everyRule min (by decide) firstMoment (atLeastOne "\x1c7\x1f")
    cases answered

end Builtin

end FormRules
