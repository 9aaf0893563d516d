import FormRules.Proofs.Answer
import FormRules.Proofs.Resolution

/-!
# What an expression of a built-in rule decides

An expression is read, its name is resolved, and the rule is asked. For the name of a built-in rule
nothing can come between: whatever is registered and whatever paths there are, the expression decides
what the rule itself does on the options behind the colon. The options are the remainder as it stands
and the values in it; values without commas and without blanks at their ends are found as they are.
-/

namespace FormRules

open FormRules.Text

section Rules

variable (surroundings : Surroundings) (registry : Registry) (prefixText : String)
  (fields : Fields) (key : String) (message : Value)

/-- The rule read from the text is evaluated, and it passes or does not. -/
def Condition.Decides
    (text : String) (passed : Bool) :
    Prop :=
  ∃ descriptor outcome,
    Descriptor.ofText text message = .ok descriptor ∧
      evaluateRule surroundings registry prefixText fields key descriptor = .ok outcome ∧
      outcome.passed = passed

end Rules

/-- What a rule is evaluated with, apart from the input: the surroundings, the registered rules, the
prefix of default messages, and the message given with the rule. -/
structure Setting where
  surroundings : Surroundings
  registry : Registry
  prefixText : String
  message : Value

/-- In the setting the rule read from the text is evaluated on the field, and it passes or does
not. -/
def Setting.Decides
    (setting : Setting) (fields : Fields) (key text : String) (passed : Bool) :
    Prop :=
  Condition.Decides setting.surroundings setting.registry setting.prefixText fields key
    setting.message text passed

/-- The expression of a built-in rule with the given text behind its colon. -/
def Builtin.expression
    (rule : Builtin) (remainder : String) :
    String :=
  rule.name ++ ":" ++ remainder

/-- The text can be a value of an expression at every place: it is not empty, it has no comma, and
there are no blanks at its ends. -/
structure Expression.IsValue
    (text : String) :
    Prop where
  notEmpty : text ≠ ""
  commaFree : ',' ∉ text.toList
  begins : BeginsFilled text.toList
  ends : EndsFilled text.toList

instance (text : String) :
    Decidable (Expression.IsValue text) :=
  decidable_of_iff
    (text ≠ "" ∧ ',' ∉ text.toList ∧ BeginsFilled text.toList ∧ EndsFilled text.toList)
    ⟨fun ⟨notEmpty, commaFree, begins, ends⟩ => ⟨notEmpty, commaFree, begins, ends⟩,
      fun isValue => ⟨isValue.notEmpty, isValue.commaFree, isValue.begins, isValue.ends⟩⟩

/-! ## The name -/

namespace Builtin

theorem isName_name
    (rule : Builtin) :
    Expression.IsName rule.name.toList := by
  cases rule <;> exact ⟨by decide, by decide, by decide, by decide⟩

theorem find?_name
    (rule : Builtin) :
    find? rule.name = some rule := by
  have everyRule : ∀ rule ∈ all, find? rule.name = some rule := by
    decide +kernel
  exact everyRule rule rule.mem_all

/-- A rule that passes makes no report, and one that fails makes one. -/
theorem toPredicate_eq_ok_iff
    {rule : Builtin} {present : Time.Moment} {inquiry : Inquiry} {passed : Bool} :
    (∃ reports, rule.toPredicate present inquiry = .ok reports ∧ reports.isEmpty = passed) ↔
      rule.passes present inquiry = .ok passed := by
  unfold toPredicate
  cases rule.passes present inquiry with
  | error fault => simp [Except.map]
  | ok answer => cases answer <;> cases passed <;> simp [Except.map]

end Builtin

namespace Descriptor

/-- The name of a built-in rule is no path, and it is looked up before what is registered. -/
theorem resolveName_name
    (surroundings : Surroundings) (registry : Registry) (rule : Builtin) :
    resolveName surroundings registry rule.name =
      .ok (rule.name, rule.toPredicate surroundings.present) := by
  have noPoint : '.' ∉ rule.name.toList := by
    cases rule <;> decide
  have noPath : classAtPath surroundings.catalog rule.name = .ok none :=
    classAtPath_eq_none_iff.mpr fun pointed => absurd pointed noPoint
  exact resolveName_of_builtin noPath rule.find?_name

theorem ofText_expression
    (rule : Builtin) (remainder : String) (message : Value) :
    ofText (rule.expression remainder) message =
      .ok ⟨.named rule.name, (Expression.optionsOf remainder.toList).map String.ofList,
        rule.expression remainder, message⟩ := by
  have isName := rule.isName_name
  have written : (rule.expression remainder).toList =
      rule.name.toList ++ ':' :: remainder.toList := by
    simp [Builtin.expression]
  have cut : CutAtColon (rule.expression remainder).toList rule.name.toList
      remainder.toList := by
    rw [written]
    exact .cut isName.colonFree remainder.toList
  rw [ofText_of_cut cut, isName.not_allBlank, isName.trim_eq, String.ofList_toList]
  rfl

end Descriptor

/-! ## The options -/

namespace Expression

theorem IsValue.toList_ne_nil
    {text : String} (isValue : IsValue text) :
    text.toList ≠ [] := by
  simpa using isValue.notEmpty

/-- Values behind a colon are the options behind the first one. -/
theorem optionsOf_values
    {values : List String} (someValues : values ≠ []) (areValues : ∀ value ∈ values, IsValue value)
    {remainder : String} (joined : joinWithCommas (values.map String.toList) = remainder.toList) :
    (optionsOf remainder.toList).map String.ofList = remainder :: values := by
  have readable : AreValues (values.map String.toList) := by
    refine ⟨?_, ?_, ?_, ?_, ?_⟩
    · simpa using someValues
    · intro singleEmpty
      obtain ⟨value, rfl, empty⟩ := List.map_eq_singleton_iff.mp singleEmpty
      exact (areValues value List.mem_cons_self).toList_ne_nil empty
    · rw [List.forall_mem_map]
      exact fun value member => (areValues value member).commaFree
    · rw [List.forall_mem_map]
      exact fun value member => (areValues value member).begins
    · intro last isLast
      obtain ⟨value, member, rfl⟩ := List.mem_map.mp (List.mem_of_getLast? isLast)
      exact (areValues value member).ends
  have noBlanks : allBlank [] = true := rfl
  have options := readable.optionsOf_eq noBlanks
  rw [List.append_nil, joined] at options
  have unchanged : String.ofList ∘ String.toList = id := funext fun _ => String.ofList_toList
  rw [options, List.map_cons, List.map_map, String.ofList_toList, unchanged, List.map_id]

theorem optionsOf_value
    {value : String} (isValue : IsValue value) :
    (optionsOf value.toList).map String.ofList = [value, value] :=
  optionsOf_values (List.cons_ne_nil value []) (by simpa using isValue) rfl

theorem optionsOf_two_values
    {first second : String} (isValue : IsValue first) (isValueToo : IsValue second) :
    (optionsOf (first ++ "," ++ second).toList).map String.ofList =
      [first ++ "," ++ second, first, second] :=
  optionsOf_values (List.cons_ne_nil first [second]) (by simp [isValue, isValueToo])
    (by simp [joinWithCommas])

/-- A text without commas has one value, its core. -/
theorem optionsOf_core
    {text : String} (filled : allBlank text.toList = false) (commaFree : ',' ∉ text.toList) :
    (optionsOf text.toList).map String.ofList = [text, String.ofList (trim text.toList)] := by
  have core := isCoreOf_trim text.toList
  have coreFree : ',' ∉ trim text.toList := by
    obtain ⟨_, _, leading, trailing, _, _, split⟩ := core
    intro member
    apply commaFree
    rw [split]
    exact List.mem_append_left trailing (List.mem_append_right leading member)
  have cut : CutAtCommas (trim text.toList) [trim text.toList] :=
    ⟨List.cons_ne_nil _ _, by simpa using coreFree, rfl⟩
  have tails : List.Forall₂ IsTailOf [trim text.toList] [trim text.toList] :=
    .cons ⟨core.begins, [], rfl, rfl⟩ .nil
  have values := areValuesOf_iff.mp (.intro core cut tails)
  rw [optionsOf, filled, ← values]
  simp

end Expression

/-! ## Evaluating -/

section Evaluating

variable {surroundings : Surroundings} {registry : Registry} {prefixText : String}
  {fields : Fields} {key : String} {message : Value}

namespace Condition

/-- A rule that is read and resolved decides as its predicate does. -/
theorem decides_iff
    {text name : String} {passed : Bool} {descriptor : Descriptor} {rule : Predicate}
    (read : Descriptor.ofText text message = .ok descriptor)
    (resolved : descriptor.resolve surroundings registry = .ok (name, rule)) :
    Decides surroundings registry prefixText fields key message text passed ↔
      ∃ reports, rule ⟨fields, key, descriptor.options⟩ = .ok reports ∧
        reports.isEmpty = passed := by
  constructor
  · rintro ⟨readToo, outcome, same, evaluated, rfl⟩
    rw [read, Except.ok.injEq] at same
    subst same
    cases asked : rule ⟨fields, key, descriptor.options⟩ with
    | error fault => simp only [evaluateRule, resolved, asked, reduceCtorEq] at evaluated
    | ok reports =>
        simp only [evaluateRule, resolved, asked, Except.ok.injEq] at evaluated
        subst evaluated
        exact ⟨reports, rfl, (passed_outcomeOf _ _ _ _).symm⟩
  · rintro ⟨reports, asked, rfl⟩
    have evaluated :
        evaluateRule surroundings registry prefixText fields key descriptor =
          .ok (outcomeOf prefixText descriptor name reports) := by
      simp only [evaluateRule, resolved, asked]
    exact ⟨descriptor, _, read, evaluated, passed_outcomeOf _ _ _ _⟩

/-- An expression of a built-in rule decides as the rule itself does. -/
theorem decides_expression_iff
    {rule : Builtin} {remainder : String} {passed : Bool} :
    Decides surroundings registry prefixText fields key message (rule.expression remainder)
        passed ↔
      rule.passes surroundings.present
          ⟨fields, key, (Expression.optionsOf remainder.toList).map String.ofList⟩ =
        .ok passed := by
  have read := Descriptor.ofText_expression rule remainder message
  have resolved := Descriptor.resolveName_name surroundings registry rule
  rw [decides_iff read resolved, Builtin.toPredicate_eq_ok_iff]

end Condition

theorem Setting.decides_expression_of_options
    {setting : Setting} {rule : Builtin} {remainder : String} {options : List String}
    (given : (Expression.optionsOf remainder.toList).map String.ofList = options) {passed : Bool} :
    setting.Decides fields key (rule.expression remainder) passed ↔
      rule.passes setting.surroundings.present ⟨fields, key, options⟩ = .ok passed := by
  rw [Setting.Decides, Condition.decides_expression_iff, given]

end Evaluating

def shopSetting :
    Setting :=
  ⟨shopSurroundings, shopRegistry, defaultPrefix, .null⟩

end FormRules
