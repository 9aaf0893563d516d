import FormRules.Proofs.BuiltinDecision
import FormRules.Proofs.TimeOrder

/-!
# After and before

A field and a limit are read in different ways: the field as it stands, and as the present moment if
it does not count as present; the limit cut out of the expression and trimmed. Yet a text denotes the
same time in both places, and so the two rules are one with its sides exchanged. No field passes
both, as every timestamp is a number.
-/

namespace FormRules

open FormRules.Number
open FormRules.Text
open FormRules.Time

/-- The text can be the limit of an expression: it has more than blanks in it, and no comma. There
may be blanks around it. -/
structure Expression.IsLimit
    (text : String) :
    Prop where
  filled : allBlank text.toList = false
  commaFree : ',' ∉ text.toList

instance (text : String) :
    Decidable (Expression.IsLimit text) :=
  decidable_of_iff (allBlank text.toList = false ∧ ',' ∉ text.toList)
    ⟨fun ⟨filled, commaFree⟩ => ⟨filled, commaFree⟩,
      fun isLimit => ⟨isLimit.filled, isLimit.commaFree⟩⟩

/-! ## Reading -/

theorem Text.trim_trim
    (text : List Char) :
    trim (trim text) = trim text :=
  trim_eq_self_iff.mpr ⟨(isCoreOf_trim text).begins, (isCoreOf_trim text).ends⟩

theorem momentOfText_trim
    (present : Moment) (text : String) :
    momentOfText present (String.ofList (trim text.toList)) = momentOfText present text := by
  have sameWord : timeWord (String.ofList (trim text.toList)) = timeWord text := by
    rw [timeWord, String.toList_ofList, trim_trim, timeWord]
  rw [momentOfText_eq, momentOfText_eq, sameWord, String.toList_ofList, trim_trim]

theorem isTrue_of_isLimit
    {text : String} (isLimit : Expression.IsLimit text) :
    (Value.text text).isTrue = true := by
  rw [Value.isTrue, bne_iff_ne]
  rintro rfl
  exact absurd isLimit.filled (by decide)

theorem isTrue_of_now
    {text : String} (isNow : timeWord text = "now") :
    (Value.text text).isTrue = true := by
  rw [Value.isTrue, bne_iff_ne]
  rintro rfl
  exact absurd isNow (by decide)

/-! ## Timestamps -/

theorem bind_eq_ok_iff {answer next : Type}
    {computation : Except Fault answer} {continuation : answer → Except Fault next} {given : next} :
    computation >>= continuation = .ok given ↔
      ∃ answered, computation = .ok answered ∧ continuation answered = .ok given := by
  cases computation with
  | error fault => simp [bind, Except.bind]
  | ok answered => simp [bind, Except.bind]

theorem Number.Binary64.ofIntRatio_ne_nan
    (numerator : Int) (denominator : Nat) :
    Binary64.ofIntRatio numerator denominator ≠ .nan := by
  rw [Binary64.ofIntRatio, Binary64.ofRatio]
  intro isNan
  split at isNan
  · cases isNan
  · cases isNan

/-- Without an offset the timestamp is a sum, which is a number as its parts are finite. -/
theorem Time.Moment.timestamp_ne_nan
    {moment : Moment} {seconds : Binary64} (stamped : moment.timestamp = .ok seconds) :
    seconds ≠ .nan := by
  cases known : moment.offset with
  | some offset =>
      rw [timestamp, known, Except.ok.injEq] at stamped
      rw [← stamped]
      exact Binary64.ofIntRatio_ne_nan _ _
  | none =>
      have hasTimestamp : moment.HasTimestamp := by
        refine ⟨fun untimed => ?_, ?_⟩
        · rw [timestamp_of_isUntimed untimed] at stamped
          cases stamped
        · rw [known]
          decide
      obtain ⟨finite, signed, stampedToo, isFinite, _⟩ := hasTimestamp.exists_stamp
      rw [stamped, Except.ok.injEq] at stampedToo
      subst stampedToo
      rintro rfl
      cases isFinite

theorem Number.Quantity.le_total
    {left right : Binary64} (isNumber : left ≠ .nan) (isNumberToo : right ≠ .nan) :
    (Quantity.real left).le (.real right) = true ∨
      (Quantity.real right).le (.real left) = true := by
  have hasPlace : ∀ number : Binary64, number ≠ .nan →
      ∃ place, (Quantity.real number).position? = some place := by
    intro number isNumber
    cases number with
    | nan => exact absurd rfl isNumber
    | infinite negative => cases negative <;> exact ⟨_, rfl⟩
    | finite negative units => cases negative <;> exact ⟨_, rfl⟩
  obtain ⟨place, atPlace⟩ := hasPlace left isNumber
  obtain ⟨placeToo, atPlaceToo⟩ := hasPlace right isNumberToo
  simp only [Quantity.le, atPlace, atPlaceToo]
  exact place.le_total placeToo

namespace Builtin

/-- The timestamps that two times are compared by, the time of the field first. There are none if
one of the times is unknown. -/
inductive AreComparedBy :
    Option Moment → Option Moment → Option (Quantity × Quantity) → Prop
  | noTime {limit : Option Moment} : AreComparedBy none limit none
  | noLimit {time : Option Moment} : AreComparedBy time none none
  | stamped {time limit : Moment} {seconds bound : Binary64}
      (hasSeconds : time.timestamp = .ok seconds) (hasBound : limit.timestamp = .ok bound) :
      AreComparedBy (some time) (some limit) (some (.real seconds, .real bound))

theorem AreComparedBy.swap
    {time limit : Option Moment} {times : Option (Quantity × Quantity)}
    (areCompared : AreComparedBy time limit times) :
    AreComparedBy limit time (times.map Prod.swap) := by
  cases areCompared with
  | noTime => exact .noLimit
  | noLimit => exact .noTime
  | stamped hasSeconds hasBound => exact .stamped hasBound hasSeconds

def isLater
    (times : Option (Quantity × Quantity)) :
    Bool :=
  times.any fun (time, bound) => !time.le bound

section Passing

variable {present : Moment} {inquiry other : Inquiry} {passed : Bool}

theorem timestamps?_eq_ok_iff
    {times : Option (Quantity × Quantity)} :
    timestamps? present inquiry = .ok times ↔
      ∃ time limit, fieldMoment? present inquiry = .ok time ∧
        limitMoment? present inquiry = .ok limit ∧ AreComparedBy time limit times := by
  rw [timestamps?_eq]
  simp only [bind_eq_ok_iff]
  constructor
  · rintro ⟨time, field, limit, limited, read⟩
    refine ⟨time, limit, field, limited, ?_⟩
    cases time with
    | none =>
        cases read
        exact .noTime
    | some time =>
        cases limit with
        | none =>
            cases read
            exact .noLimit
        | some limit =>
            simp only [bind_eq_ok_iff] at read
            obtain ⟨seconds, hasSeconds, bound, hasBound, together⟩ := read
            cases together
            exact .stamped hasSeconds hasBound
  · rintro ⟨time, limit, field, limited, areCompared⟩
    refine ⟨time, field, limit, limited, ?_⟩
    cases areCompared with
    | noTime => rfl
    | noLimit => cases time <;> rfl
    | stamped hasSeconds hasBound =>
        simp only [hasSeconds, hasBound]
        rfl

theorem after_passes_iff :
    after.passes present inquiry = .ok passed ↔
      ∃ times, timestamps? present inquiry = .ok times ∧ isLater times = passed := by
  unfold passes
  cases timestamps? present inquiry with
  | error fault => simp [Except.map]
  | ok times => simp [Except.map, isLater]

theorem before_passes_iff :
    before.passes present inquiry = .ok passed ↔
      ∃ times, timestamps? present inquiry = .ok times ∧
        isLater (times.map Prod.swap) = passed := by
  unfold passes
  cases timestamps? present inquiry with
  | error fault => simp [Except.map]
  | ok times => cases times <;> simp [Except.map, isLater]

/-- Of two timestamps that are numbers only one is later than the other. -/
theorem AreComparedBy.not_later_twice
    {time limit : Option Moment} {times : Option (Quantity × Quantity)}
    (areCompared : AreComparedBy time limit times) (later : isLater times = true) :
    isLater (times.map Prod.swap) = false := by
  cases areCompared with
  | noTime | noLimit => rfl
  | stamped hasSeconds hasBound =>
      have total := Quantity.le_total (Moment.timestamp_ne_nan hasSeconds)
        (Moment.timestamp_ne_nan hasBound)
      simp only [isLater, Option.any_some, Bool.not_eq_true'] at later
      rw [later] at total
      simpa [isLater] using total

theorem not_after_and_before :
    ¬ (after.passes present inquiry = .ok true ∧ before.passes present inquiry = .ok true) := by
  rw [after_passes_iff, before_passes_iff]
  rintro ⟨⟨times, read, isAfter⟩, ⟨timesToo, readToo, isBefore⟩⟩
  obtain rfl := Except.ok.inj (read.symm.trans readToo)
  obtain ⟨_, _, _, _, areCompared⟩ := timestamps?_eq_ok_iff.mp read
  rw [areCompared.not_later_twice isAfter] at isBefore
  cases isBefore

/-- Where a field is read as the limit of another one, and its limit as the other field, to be after
is to be before. -/
theorem after_iff_before
    (fieldAsLimit : fieldMoment? present inquiry = limitMoment? present other)
    (limitAsField : limitMoment? present inquiry = fieldMoment? present other) :
    after.passes present inquiry = .ok passed ↔ before.passes present other = .ok passed := by
  simp only [after_passes_iff, before_passes_iff, timestamps?_eq_ok_iff, fieldAsLimit, limitAsField]
  constructor
  · rintro ⟨times, ⟨time, limit, field, limited, areCompared⟩, isAfter⟩
    refine ⟨times.map Prod.swap, ⟨limit, time, limited, field, areCompared.swap⟩, ?_⟩
    rw [Option.map_map, Prod.swap_swap_eq, Option.map_id]
    exact isAfter
  · rintro ⟨times, ⟨time, limit, field, limited, areCompared⟩, isBefore⟩
    exact ⟨times.map Prod.swap, ⟨limit, time, limited, field, areCompared.swap⟩, isBefore⟩

theorem passes_congr
    {rule : Builtin} (isTimeRule : rule ∈ timeRules)
    (sameField : fieldMoment? present inquiry = fieldMoment? present other)
    (sameLimit : limitMoment? present inquiry = limitMoment? present other) :
    rule.passes present inquiry = rule.passes present other := by
  have sameTimes : timestamps? present inquiry = timestamps? present other := by
    rw [timestamps?_eq, timestamps?_eq, sameField, sameLimit]
  simp only [timeRules, List.mem_cons, List.not_mem_nil, or_false] at isTimeRule
  rcases isTimeRule with rfl | rfl
  · rw [passes, passes, sameTimes]
  · rw [passes, passes, sameTimes]

end Passing

def limitInquiry
    (fields : Fields) (key limit : String) :
    Inquiry :=
  ⟨fields, key, [limit, String.ofList (trim limit.toList)]⟩

section Limits

variable {present : Moment} {fields : Fields} {key limit shown : String}

theorem limitMoment?_limitInquiry :
    limitMoment? present (limitInquiry fields key limit) = momentOfText present limit :=
  momentOfText_trim present limit

theorem fieldMoment?_limitInquiry
    (isShown : fields.value key = .text shown) (isLimit : Expression.IsLimit shown) :
    fieldMoment? present (limitInquiry fields key limit) = momentOfText present shown := by
  have isField : (limitInquiry fields key limit).value = .text shown := isShown
  rw [fieldMoment?, isField, if_pos (isTrue_of_isLimit isLimit), Value.toMoment]

theorem fieldMoment?_of_absent
    (absent : (fields.value key).isTrue = false) :
    fieldMoment? present (limitInquiry fields key limit) = .ok (some present) := by
  have isField : (limitInquiry fields key limit).value = fields.value key := rfl
  rw [fieldMoment?, isField, absent]
  rfl

theorem fieldMoment?_of_now
    (isShown : fields.value key = .text shown) (isNow : timeWord shown = "now") :
    fieldMoment? present (limitInquiry fields key limit) = .ok (some present) := by
  have isField : (limitInquiry fields key limit).value = .text shown := isShown
  rw [fieldMoment?, isField, if_pos (isTrue_of_now isNow)]
  exact toMoment_of_denotes (.now isNow)

end Limits

end Builtin

namespace Setting

variable {setting : Setting} {fields otherFields : Fields} {key otherKey limit shown : String}
  {passed : Bool}

theorem decides_limitInquiry_iff
    {rule : Builtin} (isLimit : Expression.IsLimit limit) :
    setting.Decides fields key (rule.expression limit) passed ↔
      rule.passes setting.surroundings.present (Builtin.limitInquiry fields key limit) =
        .ok passed :=
  decides_expression_of_options (Expression.optionsOf_core isLimit.filled isLimit.commaFree)

/-- Whether a field with one text is after another text is decided as whether a field with the other
text is before the one. A field never passes as both after and before a limit. A field that does not
count as present, such as an absent one, is decided as a field with the word for the present moment,
in whichever case. -/
theorem after_dual_to_before
    (setting : Setting) (isLimit : Expression.IsLimit limit) :
    (∀ shown, Expression.IsLimit shown → ∀ fields key otherFields otherKey,
        fields.value key = .text shown → otherFields.value otherKey = .text limit →
          ∀ passed, setting.Decides fields key (Builtin.after.expression limit) passed ↔
            setting.Decides otherFields otherKey (Builtin.before.expression shown) passed) ∧
      (∀ fields key, ¬ (setting.Decides fields key (Builtin.after.expression limit) true ∧
        setting.Decides fields key (Builtin.before.expression limit) true)) ∧
      ∀ rule ∈ Builtin.timeRules, ∀ fields key otherFields otherKey shown,
        (fields.value key).isTrue = false → otherFields.value otherKey = .text shown →
          timeWord shown = "now" →
            ∀ passed, setting.Decides fields key (rule.expression limit) passed ↔
              setting.Decides otherFields otherKey (rule.expression limit) passed := by
  refine ⟨?_, ?_, ?_⟩
  · intro shown isShown fields key otherFields otherKey inField inOther passed
    rw [decides_limitInquiry_iff isLimit, decides_limitInquiry_iff isShown]
    apply Builtin.after_iff_before
    · rw [Builtin.fieldMoment?_limitInquiry inField isShown, Builtin.limitMoment?_limitInquiry]
    · rw [Builtin.fieldMoment?_limitInquiry inOther isLimit, Builtin.limitMoment?_limitInquiry]
  · intro fields key
    rw [decides_limitInquiry_iff isLimit, decides_limitInquiry_iff isLimit]
    exact Builtin.not_after_and_before
  · intro rule isTimeRule fields key otherFields otherKey shown absent inOther isNow passed
    rw [decides_limitInquiry_iff isLimit, decides_limitInquiry_iff isLimit]
    have sameField :
        Builtin.fieldMoment? setting.surroundings.present (Builtin.limitInquiry fields key limit) =
          Builtin.fieldMoment? setting.surroundings.present
            (Builtin.limitInquiry otherFields otherKey limit) := by
      rw [Builtin.fieldMoment?_of_absent absent, Builtin.fieldMoment?_of_now inOther isNow]
    have sameLimit :
        Builtin.limitMoment? setting.surroundings.present (Builtin.limitInquiry fields key limit) =
          Builtin.limitMoment? setting.surroundings.present
            (Builtin.limitInquiry otherFields otherKey limit) :=
      rfl
    rw [Builtin.passes_congr isTimeRule sameField sameLimit]

end Setting

/-! ## An hour of the present day -/

/-- An input with an hour in the notation with an offset, and with two words. The present day is the
first of January 2000. -/
def hourFields :
    Fields :=
  [("hour", .text "2000-01-01T01:30+01:00"), ("day", .text " Today"), ("moment", .text "NOW")]

/-- The hour is after the start of the day, which is before the hour; and as noon is after the start
of the day, so is a field without a value. -/
theorem hour_after_day_before_hour :
    Expression.IsLimit " Today" ∧
      shopSetting.Decides hourFields "hour" (Builtin.after.expression " Today") true ∧
      shopSetting.Decides hourFields "day"
        (Builtin.before.expression "2000-01-01T01:30+01:00") true ∧
      ¬ shopSetting.Decides hourFields "hour" (Builtin.before.expression " Today") true ∧
      shopSetting.Decides hourFields "end" (Builtin.after.expression " Today") true := by
  have isLimit : Expression.IsLimit " Today" := by decide
  have isHour : Expression.IsLimit "2000-01-01T01:30+01:00" := by decide
  obtain ⟨dual, exclusive, absentAsNow⟩ := Setting.after_dual_to_before shopSetting isLimit
  have isAfter : shopSetting.Decides hourFields "hour" (Builtin.after.expression " Today") true :=
    (Setting.decides_limitInquiry_iff isLimit).mpr (by decide +kernel)
  have nowIsAfter :
      shopSetting.Decides hourFields "moment" (Builtin.after.expression " Today") true :=
    (Setting.decides_limitInquiry_iff isLimit).mpr (by decide +kernel)
  refine ⟨isLimit, isAfter, ?_, ?_, ?_⟩
  · exact (dual _ isHour hourFields "hour" hourFields "day" rfl rfl true).mp isAfter
  · exact fun isBefore => exclusive hourFields "hour" ⟨isAfter, isBefore⟩
  · exact (absentAsNow .after (by decide) hourFields "end" hourFields "moment" "NOW" rfl rfl
      (by decide) true).mpr nowIsAfter

end FormRules
