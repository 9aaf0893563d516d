import FormRules.Proofs.BuiltinDecision
import FormRules.Proofs.NumericText

/-!
# Rules with thresholds

A field is measured and compared with the thresholds of a rule. To lie between two thresholds is to
reach the lower one and not to exceed the upper one, and to have a size is to do both with one and
the same threshold, although the rules are made in different ways and read their thresholds from
different options. Where there is nothing to compare, they all fail.
-/

namespace FormRules

open FormRules.Number
open FormRules.Text

/-- The value is of a kind that has a measure: a number, a text, a list, a tuple or a mapping. -/
def Value.isMeasurable :
    Value → Bool
  | integer _ => true
  | real _ => true
  | text _ => true
  | list _ => true
  | tuple _ => true
  | mapping _ => true
  | _ => false

/-- The expressions of the rules with a threshold, with the given one in each place. Where there are
two of them, the other one stands in the other place. -/
def thresholdExpressions
    (limit other : String) :
    List String :=
  [Builtin.min.expression limit, Builtin.max.expression limit, Builtin.size.expression limit,
    Builtin.between.expression (limit ++ "," ++ other),
    Builtin.between.expression (other ++ "," ++ limit)]

/-! ## What is compared -/

theorem Value.measure_of_not_isMeasurable
    {value : Value} (unmeasurable : value.isMeasurable = false) :
    value.measure = .ok none := by
  cases value with
  | integer _ | real _ | text _ | list _ | tuple _ | mapping _ => cases unmeasurable
  | _ => rfl

theorem blanksAround_eq_nil
    {text : List Char} (begins : BeginsFilled text) (ends : EndsFilled text) :
    blanksAround text = [] := by
  have noBlanks : ∀ filled, BeginsFilled filled → filled.takeWhile isBlank = [] := by
    intro filled beginsToo
    cases filled with
    | nil => rfl
    | cons first rest =>
        have isFilled : isBlank first = false := beginsToo first rfl
        rw [List.takeWhile_cons_of_neg (by simp [isFilled])]
  rw [blanksAround, noBlanks text begins, noBlanks _ (beginsFilled_reverse_iff.mpr ends)]
  rfl

/-- A threshold is read without a fault, and it has a quantity if it is a numeral. -/
theorem Expression.IsValue.exists_quantity
    {limit : String} (isValue : IsValue limit) :
    ∃ quantity, Value.quantityOfText limit = .ok quantity ∧
      quantity.isSome = (Value.text limit).isNumeric := by
  have readable : (Value.text limit).isUnreadable = false := by
    simp [Value.isUnreadable, blanksAround_eq_nil isValue.begins isValue.ends]
  cases numeric : (Value.text limit).isNumeric with
  | false => exact ⟨none, (Value.toQuantity_of_not_isNumeric numeric).2, rfl⟩
  | true =>
      rcases Value.toQuantity_of_isNumeric numeric with
        ⟨_, quantity, read⟩ | ⟨unreadable, _⟩
      · exact ⟨some quantity, read, rfl⟩
      · rw [readable] at unreadable
        cases unreadable

namespace Builtin

/-- The relation of measure and threshold that a rule with one threshold asks for. -/
def relation? :
    Builtin → Option (Quantity → Quantity → Bool)
  | min => some fun size limit => limit.le size
  | max => some fun size limit => size.le limit
  | Builtin.size => some fun size limit => size.equals limit
  | _ => none

/-- The measure and the threshold are both known, and they are in the relation. -/
def areRelated
    (relation : Quantity → Quantity → Bool) (size limit : Option Quantity) :
    Bool :=
  size.any fun own => limit.any fun bound => relation own bound

theorem areRelated_of_unknown
    {size limit : Option Quantity} (unknown : size = none ∨ limit = none)
    (relation : Quantity → Quantity → Bool) :
    areRelated relation size limit = false := by
  rcases unknown with rfl | rfl
  · rfl
  · cases size <;> rfl

theorem passes_of_relation?
    {rule : Builtin} {relation : Quantity → Quantity → Bool}
    (isRelation : rule.relation? = some relation) (present : Time.Moment) (inquiry : Inquiry) :
    rule.passes present inquiry = sizePasses inquiry relation := by
  cases rule with
  | min | max | size =>
      obtain rfl := Option.some.inj isRelation
      rfl
  | _ => cases isRelation

theorem sizePasses_of_read
    {inquiry : Inquiry} {size limit : Option Quantity} {relation : Quantity → Quantity → Bool}
    (measured : inquiry.value.measure = .ok size) (limited : threshold inquiry 1 = .ok limit) :
    sizePasses inquiry relation = .ok (areRelated relation size limit) := by
  rw [sizePasses, measured, limited]
  cases size <;> cases limit <;> rfl

theorem betweenPasses_of_read
    {inquiry : Inquiry} {size low high : Option Quantity}
    (measured : inquiry.value.measure = .ok size) (lower : threshold inquiry 1 = .ok low)
    (upper : threshold inquiry 2 = .ok high) :
    betweenPasses inquiry =
      .ok (areRelated (fun own bound => bound.le own) size low &&
        areRelated (fun own bound => own.le bound) size high) := by
  rw [betweenPasses, measured, lower, upper]
  cases size with
  | none => rfl
  | some own =>
      cases low with
      | none => rfl
      | some lowest =>
          cases high with
          | none => simp [areRelated, pure, Except.pure, bind, Except.bind]
          | some highest => rfl

end Builtin

/-! ## What the rules decide -/

namespace Setting

variable {setting : Setting} {fields : Fields} {key limit low high : String}
  {size bound lower upper : Option Quantity} {passed : Bool}

theorem decides_limit_iff
    {rule : Builtin} {relation : Quantity → Quantity → Bool}
    (isRelation : rule.relation? = some relation)
    (measured : (fields.value key).measure = .ok size) (isValue : Expression.IsValue limit)
    (read : Value.quantityOfText limit = .ok bound) :
    setting.Decides fields key (rule.expression limit) passed ↔
      Builtin.areRelated relation size bound = passed := by
  have answered : Builtin.sizePasses ⟨fields, key, [limit, limit]⟩ relation =
      .ok (Builtin.areRelated relation size bound) :=
    Builtin.sizePasses_of_read measured read
  rw [decides_expression_of_options (Expression.optionsOf_value isValue),
    Builtin.passes_of_relation? isRelation, answered, Except.ok.injEq]

theorem decides_between_iff
    (measured : (fields.value key).measure = .ok size) (isLow : Expression.IsValue low)
    (isHigh : Expression.IsValue high) (readLow : Value.quantityOfText low = .ok lower)
    (readHigh : Value.quantityOfText high = .ok upper) :
    setting.Decides fields key (Builtin.between.expression (low ++ "," ++ high)) passed ↔
      (Builtin.areRelated (fun own bound => bound.le own) size lower &&
        Builtin.areRelated (fun own bound => own.le bound) size upper) = passed := by
  have answered : Builtin.betweenPasses ⟨fields, key, [low ++ "," ++ high, low, high]⟩ =
      .ok (Builtin.areRelated (fun own bound => bound.le own) size lower &&
        Builtin.areRelated (fun own bound => own.le bound) size upper) :=
    Builtin.betweenPasses_of_read measured readLow readHigh
  rw [decides_expression_of_options (Expression.optionsOf_two_values isLow isHigh),
    Builtin.passes, answered, Except.ok.injEq]

/-- Each of the rules with a threshold has an answer, and it fails if the measure or the threshold is
unknown. -/
theorem exists_answer_of_threshold
    (measured : (fields.value key).measure = .ok size) {other : String}
    (isValue : Expression.IsValue limit) (isOther : Expression.IsValue other)
    (read : Value.quantityOfText limit = .ok bound) {text : String}
    (member : text ∈ thresholdExpressions limit other) :
    ∃ answer, (∀ passed, setting.Decides fields key text passed ↔ answer = passed) ∧
      (size = none ∨ bound = none → answer = false) := by
  obtain ⟨otherBound, readOther, _⟩ := isOther.exists_quantity
  have single : ∀ {rule : Builtin} {relation : Quantity → Quantity → Bool},
      rule.relation? = some relation →
        ∃ answer,
          (∀ passed, setting.Decides fields key (rule.expression limit) passed ↔
            answer = passed) ∧
            (size = none ∨ bound = none → answer = false) := fun isRelation =>
    ⟨_, fun _ => decides_limit_iff isRelation measured isValue read, fun unknown =>
      Builtin.areRelated_of_unknown unknown _⟩
  simp only [thresholdExpressions, List.mem_cons, List.not_mem_nil, or_false] at member
  rcases member with rfl | rfl | rfl | rfl | rfl
  · exact single rfl
  · exact single rfl
  · exact single rfl
  · refine ⟨_, fun _ => decides_between_iff measured isValue isOther read readOther, ?_⟩
    intro unknown
    rw [Builtin.areRelated_of_unknown unknown, Bool.false_and]
  · refine ⟨_, fun _ => decides_between_iff measured isOther isValue readOther read, ?_⟩
    intro unknown
    rw [Builtin.areRelated_of_unknown unknown, Bool.and_false]

/-- A field passes between two thresholds exactly if it passes as at least the first and as at most
the second, and with a size exactly if it passes as at least and as at most this size. If it can be
measured then all these rules answer; they fail if the value is of no kind that has a measure, and
if a threshold is no numeral. -/
theorem between_and_size_from_min_and_max
    (setting : Setting) (measured : ∃ size, (fields.value key).measure = .ok size) :
    (∀ low high, Expression.IsValue low → Expression.IsValue high →
        (setting.Decides fields key (Builtin.between.expression (low ++ "," ++ high)) true ↔
          setting.Decides fields key (Builtin.min.expression low) true ∧
            setting.Decides fields key (Builtin.max.expression high) true)) ∧
      (∀ limit, Expression.IsValue limit →
        (setting.Decides fields key (Builtin.size.expression limit) true ↔
          setting.Decides fields key (Builtin.min.expression limit) true ∧
            setting.Decides fields key (Builtin.max.expression limit) true)) ∧
      ∀ limit other, Expression.IsValue limit → Expression.IsValue other →
        ∀ text ∈ thresholdExpressions limit other,
          (∃ passed, setting.Decides fields key text passed) ∧
            ((fields.value key).isMeasurable = false ∨ (Value.text limit).isNumeric = false →
              setting.Decides fields key text false) := by
  obtain ⟨size, measured⟩ := measured
  refine ⟨fun low high isLow isHigh => ?_, fun limit isValue => ?_, ?_⟩
  · obtain ⟨lower, readLow, _⟩ := isLow.exists_quantity
    obtain ⟨upper, readHigh, _⟩ := isHigh.exists_quantity
    rw [decides_between_iff measured isLow isHigh readLow readHigh,
      decides_limit_iff rfl measured isLow readLow,
      decides_limit_iff rfl measured isHigh readHigh, Bool.and_eq_true]
  · obtain ⟨bound, read, _⟩ := isValue.exists_quantity
    rw [decides_limit_iff rfl measured isValue read, decides_limit_iff rfl measured isValue read,
      decides_limit_iff rfl measured isValue read, ← Bool.and_eq_true]
    cases size with
    | none => simp [Builtin.areRelated]
    | some own =>
        cases bound with
        | none => simp [Builtin.areRelated]
        | some bound =>
            simp only [Builtin.areRelated, Option.any_some, Quantity.equals_eq_le_and_le,
              Bool.and_comm]
  · intro limit other isValue isOther text member
    obtain ⟨bound, read, isNumber⟩ := isValue.exists_quantity
    obtain ⟨answer, decides, fails⟩ :=
      exists_answer_of_threshold measured isValue isOther read member
    refine ⟨⟨answer, (decides answer).mpr rfl⟩, fun nothing => (decides false).mpr (fails ?_)⟩
    rcases nothing with unmeasurable | notNumeric
    · rw [Value.measure_of_not_isMeasurable unmeasurable, Except.ok.injEq] at measured
      exact Or.inl measured.symm
    · rw [notNumeric, Option.isSome_eq_false_iff, Option.isNone_iff_eq_none] at isNumber
      exact Or.inr isNumber

end Setting

/-! ## An amount and a truth value -/

def amountFields :
    Fields :=
  [("amount", .text " 7.0"), ("paid", .boolean true)]

/-- The numeral lies between two others, one of them with an exponent, and has not the size of the
greater one; with a word it cannot be compared, and neither can the truth value with a number. -/
theorem amount_between_as_min_and_max :
    (∃ size, (amountFields.value "amount").measure = .ok size) ∧
      shopSetting.Decides amountFields "amount"
        (Builtin.between.expression ("+7" ++ "," ++ "1e1")) true ∧
      ¬ shopSetting.Decides amountFields "amount" (Builtin.size.expression "1e1") true ∧
      shopSetting.Decides amountFields "amount"
        (Builtin.between.expression ("+7" ++ "," ++ "many")) false ∧
      shopSetting.Decides amountFields "paid" (Builtin.min.expression "1e1") false := by
  have measured : ∃ size, (amountFields.value "amount").measure = .ok size := ⟨_, rfl⟩
  have measuredToo : ∃ size, (amountFields.value "paid").measure = .ok size := ⟨_, rfl⟩
  have isLow : Expression.IsValue "+7" := by decide
  have isHigh : Expression.IsValue "1e1" := by decide
  have isWord : Expression.IsValue "many" := by decide
  obtain ⟨between, size, fails⟩ :=
    Setting.between_and_size_from_min_and_max shopSetting measured
  obtain ⟨_, _, failsToo⟩ := Setting.between_and_size_from_min_and_max shopSetting measuredToo
  have least : shopSetting.Decides amountFields "amount" (Builtin.min.expression "+7") true :=
    (Setting.decides_expression_of_options (Expression.optionsOf_value isLow)).mpr
      (by decide +kernel)
  have most : shopSetting.Decides amountFields "amount" (Builtin.max.expression "1e1") true :=
    (Setting.decides_expression_of_options (Expression.optionsOf_value isHigh)).mpr
      (by decide +kernel)
  refine ⟨measured, (between _ _ isLow isHigh).mpr ⟨least, most⟩, ?_, ?_, ?_⟩
  · rw [size _ isHigh, Setting.decides_expression_of_options (Expression.optionsOf_value isHigh)]
    rintro ⟨reached, _⟩
    exact absurd reached (by decide +kernel)
  · exact (fails "many" "+7" isWord isLow _ (by simp [thresholdExpressions])).2 (Or.inr rfl)
  · exact (failsToo "1e1" "+7" isHigh isLow _ (by simp [thresholdExpressions])).2 (Or.inl rfl)

end FormRules
