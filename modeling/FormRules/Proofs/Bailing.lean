import FormRules.Proofs.FullRun

/-!
# Runs that bail and full runs

The rules of all fields stand in one order: by field, and within a field by chain. A run that bails
ends at the first rule of this order that does not pass. Whatever the later rules would do, a
failure there is all it reports, and a refusal there is also that of the full run.
-/

namespace FormRules

/-- A rule of a field, with the prefix of the default messages of the field's condition. -/
structure FieldRule where
  field : String
  prefixText : String
  descriptor : Descriptor

namespace FieldRule

variable (surroundings : Surroundings) (registry : Registry) (fields : Fields)

def evaluate
    (rule : FieldRule) :
    Except Refusal Outcome :=
  Condition.evaluateRule surroundings registry rule.prefixText fields rule.field rule.descriptor

/-- The rule neither fails nor breaks off. -/
def passes
    (rule : FieldRule) :
    Bool :=
  match rule.evaluate surroundings registry fields with
  | .ok outcome => outcome.passed
  | .error _ => false

def firstTrouble?
    (rules : List FieldRule) :
    Option FieldRule :=
  rules.find? fun rule => !rule.passes surroundings registry fields

variable {surroundings : Surroundings} {registry : Registry} {fields : Fields}

theorem exists_outcome_of_passes
    {rule : FieldRule} (passes : rule.passes surroundings registry fields = true) :
    ∃ outcome, rule.evaluate surroundings registry fields = .ok outcome ∧
      outcome.passed = true := by
  unfold FieldRule.passes at passes
  cases evaluated : rule.evaluate surroundings registry fields with
  | error refusal => simp [evaluated] at passes
  | ok outcome =>
      rw [evaluated] at passes
      exact ⟨outcome, rfl, passes⟩

theorem passes_of_evaluate
    {rule : FieldRule} {outcome : Outcome}
    (evaluated : rule.evaluate surroundings registry fields = .ok outcome) :
    rule.passes surroundings registry fields = outcome.passed := by
  simp [FieldRule.passes, evaluated]

theorem not_passes_of_refused
    {rule : FieldRule} {refusal : Refusal}
    (refused : rule.evaluate surroundings registry fields = .error refusal) :
    rule.passes surroundings registry fields = false := by
  simp [FieldRule.passes, refused]

theorem firstTrouble?_eq_some_iff
    {rules : List FieldRule} {rule : FieldRule} :
    firstTrouble? surroundings registry fields rules = some rule ↔
      rule.passes surroundings registry fields = false ∧
        ∃ before after, rules = before ++ rule :: after ∧
          ∀ earlier ∈ before, earlier.passes surroundings registry fields = true := by
  simp [firstTrouble?, List.find?_eq_some_iff_append]

theorem firstTrouble?_eq_none_iff
    {rules : List FieldRule} :
    firstTrouble? surroundings registry fields rules = none ↔
      ∀ rule ∈ rules, rule.passes surroundings registry fields = true := by
  simp [firstTrouble?]

end FieldRule

def Condition.fieldRules
    (condition : Condition) (field : String) :
    List FieldRule :=
  condition.rules.map fun descriptor => ⟨field, condition.prefixText, descriptor⟩

def fieldRulesOf
    (conditions : List (String × Condition)) :
    List FieldRule :=
  conditions.flatMap fun entry => entry.2.fieldRules entry.1

def Validation.fieldRules
    (validation : Validation) :
    List FieldRule :=
  fieldRulesOf validation.conditions.entries

def Validation.fieldsThrough
    (validation : Validation) (field : String) :
    List String :=
  validation.fields.takeWhile (· != field) ++ [field]

namespace Condition

variable {surroundings : Surroundings} {registry : Registry} {fields : Fields}

/-- A condition whose rules pass is evaluated to its end, be the run to bail or not. -/
theorem exists_evaluate_of_passing
    {condition : Condition} {field : String}
    (passing : FieldRule.firstTrouble? surroundings registry fields (condition.fieldRules field) =
      none) :
    ∃ outcomes, allPassed outcomes = true ∧
      ∀ bail, condition.evaluate surroundings registry fields field bail = ⟨outcomes, none⟩ := by
  rw [FieldRule.firstTrouble?_eq_none_iff, fieldRules, List.forall_mem_map] at passing
  obtain ⟨outcomes, allPass, evaluation⟩ :=
    exists_evaluateChain_append fun descriptor member =>
      FieldRule.exists_outcome_of_passes (passing descriptor member)
  refine ⟨outcomes, allPass, fun bail => ?_⟩
  have atEnd := evaluation bail []
  simp only [List.append_nil, evaluateChain] at atEnd
  exact atEnd

theorem exists_split_of_trouble
    {condition : Condition} {field : String} {rule : FieldRule}
    (trouble : FieldRule.firstTrouble? surroundings registry fields (condition.fieldRules field) =
      some rule) :
    rule.field = field ∧
      ∃ before after passed,
        allPassed passed = true ∧
          condition.rules = before ++ rule.descriptor :: after ∧
          rule.evaluate surroundings registry fields =
            evaluateRule surroundings registry condition.prefixText fields field
              rule.descriptor ∧
          ∀ bail,
            condition.evaluate surroundings registry fields field bail =
              let later :=
                evaluateChain
                  (evaluateRule surroundings registry condition.prefixText fields field) bail
                  (rule.descriptor :: after)
              ⟨passed ++ later.outcomes, later.refusal⟩ := by
  obtain ⟨_, before, after, split, passing⟩ :=
    FieldRule.firstTrouble?_eq_some_iff.mp trouble
  obtain ⟨chainBefore, chainRest, chainSplit, rfl, rest⟩ := List.map_eq_append_iff.mp split
  obtain ⟨descriptor, chainAfter, rfl, rfl, rfl⟩ := List.map_eq_cons_iff.mp rest
  rw [List.forall_mem_map] at passing
  obtain ⟨passed, allPass, evaluation⟩ :=
    exists_evaluateChain_append fun descriptor member =>
      FieldRule.exists_outcome_of_passes (passing descriptor member)
  refine ⟨rfl, chainBefore, chainAfter, passed, allPass, chainSplit, rfl, fun bail => ?_⟩
  rw [evaluate, chainSplit]
  exact evaluation bail _

end Condition

namespace Progress

variable {surroundings : Surroundings} {registry : Registry} {fields : Fields}

theorem across_cons_of_passing
    {field : String} {condition : Condition} (bail : Bool) (rest : List (String × Condition))
    (passing : FieldRule.firstTrouble? surroundings registry fields (condition.fieldRules field) =
      none) :
    (across surroundings registry fields bail ((field, condition) :: rest)).checked =
        field :: (across surroundings registry fields bail rest).checked ∧
      (across surroundings registry fields bail ((field, condition) :: rest)).errors =
        (across surroundings registry fields bail rest).errors ∧
      (across surroundings registry fields bail ((field, condition) :: rest)).refusal =
        (across surroundings registry fields bail rest).refusal := by
  obtain ⟨outcomes, allPass, evaluated⟩ := Condition.exists_evaluate_of_passing passing
  have goesOn : (bail && !Condition.allPassed outcomes) = false := by
    rw [allPass, Bool.not_true, Bool.and_false]
  rw [across_cons_of_evaluated bail rest (evaluated bail) goesOn]
  refine ⟨rfl, ?_, rfl⟩
  simp [errors_afterChecking, failuresOf, allPass]

theorem firstTrouble?_fieldRulesOf_cons
    (entry : String × Condition) (rest : List (String × Condition)) :
    FieldRule.firstTrouble? surroundings registry fields (fieldRulesOf (entry :: rest)) =
      (FieldRule.firstTrouble? surroundings registry fields (entry.2.fieldRules entry.1)).or
        (FieldRule.firstTrouble? surroundings registry fields (fieldRulesOf rest)) := by
  rw [fieldRulesOf, List.flatMap_cons, FieldRule.firstTrouble?, List.find?_append]
  rfl

/-- Fields whose rules pass add only themselves to the fields checked. -/
theorem across_append_of_passing
    (bail : Bool) {before : List (String × Condition)} (rest : List (String × Condition))
    (passing : FieldRule.firstTrouble? surroundings registry fields (fieldRulesOf before) =
      none) :
    (across surroundings registry fields bail (before ++ rest)).checked =
        before.map Prod.fst ++ (across surroundings registry fields bail rest).checked ∧
      (across surroundings registry fields bail (before ++ rest)).errors =
        (across surroundings registry fields bail rest).errors ∧
      (across surroundings registry fields bail (before ++ rest)).refusal =
        (across surroundings registry fields bail rest).refusal := by
  induction before with
  | nil => exact ⟨rfl, rfl, rfl⟩
  | cons entry before inductionHypothesis =>
      rw [firstTrouble?_fieldRulesOf_cons, Option.or_eq_none_iff] at passing
      obtain ⟨checked, errors, refusal⟩ := across_cons_of_passing bail (before ++ rest) passing.1
      obtain ⟨laterChecked, laterErrors, laterRefusal⟩ := inductionHypothesis passing.2
      rw [List.cons_append, checked, errors, refusal, laterChecked, laterErrors, laterRefusal]
      exact ⟨rfl, rfl, rfl⟩

/-- If every rule passes, every field is checked and nothing is found. -/
theorem across_of_passing
    (bail : Bool) {conditions : List (String × Condition)}
    (passing : FieldRule.firstTrouble? surroundings registry fields (fieldRulesOf conditions) =
      none) :
    (across surroundings registry fields bail conditions).checked = conditions.map Prod.fst ∧
      (across surroundings registry fields bail conditions).errors = [] ∧
      (across surroundings registry fields bail conditions).refusal = none := by
  have all := across_append_of_passing bail [] passing
  rw [List.append_nil] at all
  obtain ⟨checked, errors, refusal⟩ := all
  exact ⟨checked.trans (List.append_nil _), errors, refusal⟩

/-- The fields before that of the first rule that does not pass have passing rules only. -/
theorem exists_fields_of_trouble
    {conditions : List (String × Condition)} {rule : FieldRule}
    (trouble : FieldRule.firstTrouble? surroundings registry fields (fieldRulesOf conditions) =
      some rule) :
    ∃ before condition rest,
      conditions = before ++ (rule.field, condition) :: rest ∧
        FieldRule.firstTrouble? surroundings registry fields (fieldRulesOf before) = none ∧
        FieldRule.firstTrouble? surroundings registry fields
          (condition.fieldRules rule.field) = some rule := by
  induction conditions with
  | nil => simp [fieldRulesOf, FieldRule.firstTrouble?] at trouble
  | cons entry rest inductionHypothesis =>
      obtain ⟨field, condition⟩ := entry
      rw [firstTrouble?_fieldRulesOf_cons] at trouble
      cases own :
          FieldRule.firstTrouble? surroundings registry fields (condition.fieldRules field) with
      | none =>
          rw [own, Option.none_or] at trouble
          obtain ⟨before, found, after, split, passing, ofFound⟩ := inductionHypothesis trouble
          refine ⟨(field, condition) :: before, found, after, by rw [split]; rfl, ?_, ofFound⟩
          rw [firstTrouble?_fieldRulesOf_cons, own, passing]
          rfl
      | some first =>
          rw [own, Option.some_or, Option.some.injEq] at trouble
          subst trouble
          obtain ⟨rfl, _⟩ := Condition.exists_split_of_trouble own
          exact ⟨[], condition, rest, rfl, rfl, own⟩

theorem across_of_refused
    (bail : Bool) {conditions : List (String × Condition)} {rule : FieldRule} {refusal : Refusal}
    (trouble : FieldRule.firstTrouble? surroundings registry fields (fieldRulesOf conditions) =
      some rule)
    (refused : rule.evaluate surroundings registry fields = .error refusal) :
    (across surroundings registry fields bail conditions).refusal = some refusal := by
  obtain ⟨before, condition, rest, rfl, passing, own⟩ := exists_fields_of_trouble trouble
  obtain ⟨_, _, after, _, _, _, ruleEvaluation, evaluation⟩ :=
    Condition.exists_split_of_trouble own
  rw [(across_append_of_passing bail _ passing).2.2]
  apply across_cons_of_refused
  rw [evaluation bail]
  rw [ruleEvaluation] at refused
  simp [Condition.evaluateChain_cons_of_error bail after refused]

/-- If the first rule that does not pass fails, a run that bails checks the fields up to that of the
rule and finds the message of the rule alone. -/
theorem across_true_of_failed
    {conditions : List (String × Condition)} {rule : FieldRule} {outcome : Outcome}
    (distinct : (conditions.map Prod.fst).Nodup)
    (trouble : FieldRule.firstTrouble? surroundings registry fields (fieldRulesOf conditions) =
      some rule)
    (evaluated : rule.evaluate surroundings registry fields = .ok outcome)
    (failed : outcome.passed = false) :
    (across surroundings registry fields true conditions).checked =
        (conditions.map Prod.fst).takeWhile (· != rule.field) ++ [rule.field] ∧
      (across surroundings registry fields true conditions).errors =
        [(rule.field, [outcome.message])] ∧
      (across surroundings registry fields true conditions).refusal = none := by
  obtain ⟨before, condition, rest, rfl, passing, own⟩ := exists_fields_of_trouble trouble
  obtain ⟨_, _, after, passed, allPass, _, ruleEvaluation, evaluation⟩ :=
    Condition.exists_split_of_trouble own
  rw [ruleEvaluation] at evaluated
  have ownEvaluation := evaluation true
  rw [Condition.evaluateChain_cons_of_fails after evaluated failed] at ownEvaluation
  have present := Condition.isTrue_message_of_evaluateRule evaluated failed
  obtain ⟨checked, errors, refusal⟩ :=
    across_true_cons_of_fails rest ownEvaluation
      (allPassed_append_cons_of_fails passed [] failed)
  obtain ⟨allChecked, allErrors, allRefusal⟩ :=
    across_append_of_passing true ((rule.field, condition) :: rest) passing
  rw [allChecked, allErrors, allRefusal, checked, errors]
  refine ⟨?_, ?_, refusal⟩
  · -- The field of the rule is none of the earlier ones, for the fields are distinct.
    rw [List.map_append, List.map_cons] at distinct ⊢
    have earlier : ∀ field ∈ before.map Prod.fst, (field != rule.field) = true := by
      intro field member
      have different := (List.nodup_append.mp distinct).2.2 field member rule.field
        List.mem_cons_self
      simpa using different
    rw [List.takeWhile_append_of_pos earlier, List.takeWhile_cons_of_neg (by simp),
      List.append_nil]
  · rw [failuresOf_append_cons rule.field [] allPass failed present]
    rfl

/-- If the first rule that does not pass fails, a full run that is not refused finds its message
first. -/
theorem across_false_of_failed
    {conditions : List (String × Condition)} {rule : FieldRule} {outcome : Outcome}
    (trouble : FieldRule.firstTrouble? surroundings registry fields (fieldRulesOf conditions) =
      some rule)
    (evaluated : rule.evaluate surroundings registry fields = .ok outcome)
    (failed : outcome.passed = false)
    (finished : (across surroundings registry fields false conditions).refusal = none) :
    ∃ more others,
      (across surroundings registry fields false conditions).errors =
        (rule.field, outcome.message :: more) :: others := by
  obtain ⟨before, condition, rest, rfl, passing, own⟩ := exists_fields_of_trouble trouble
  obtain ⟨_, _, after, passed, allPass, _, ruleEvaluation, evaluation⟩ :=
    Condition.exists_split_of_trouble own
  obtain ⟨_, allErrors, allRefusal⟩ :=
    across_append_of_passing false ((rule.field, condition) :: rest) passing
  rw [allRefusal] at finished
  rw [ruleEvaluation] at evaluated
  have ownEvaluation := evaluation false
  rw [Condition.evaluateChain_false_cons after evaluated] at ownEvaluation
  simp only [Evaluation.precededBy] at ownEvaluation
  have present := Condition.isTrue_message_of_evaluateRule evaluated failed
  generalize laterEvaluation :
    Condition.evaluateChain
      (Condition.evaluateRule surroundings registry condition.prefixText fields rule.field)
      false after = later at ownEvaluation
  cases refused : later.refusal with
  | some refusal =>
      have endsRun :
          (across surroundings registry fields false
            ((rule.field, condition) :: rest)).refusal = some refusal := by
        apply across_cons_of_refused
        rw [ownEvaluation]
        exact refused
      rw [endsRun] at finished
      cases finished
  | none =>
      rw [refused] at ownEvaluation
      rw [allErrors, across_cons_of_evaluated false rest ownEvaluation (Bool.false_and _),
        errors_afterChecking,
        failuresOf_append_cons rule.field later.outcomes allPass failed present]
      exact ⟨_, _, rfl⟩

/-- A result is fine exactly if every rule passes, be the run to bail or not. -/
theorem ok_iff_of_result
    {bail : Bool} {conditions : List (String × Condition)} {returned : ValidationResult}
    (distinct : (conditions.map Prod.fst).Nodup)
    (hasResult : (across surroundings registry fields bail conditions).result = .ok returned) :
    returned.ok = true ↔
      FieldRule.firstTrouble? surroundings registry fields (fieldRulesOf conditions) = none := by
  obtain ⟨finished, read⟩ := finished_of_result hasResult
  rw [ValidationResult.ok_of_ofRun read]
  cases trouble :
      FieldRule.firstTrouble? surroundings registry fields (fieldRulesOf conditions) with
  | none => simp [(across_of_passing bail trouble).2.1]
  | some rule =>
      cases evaluated : rule.evaluate surroundings registry fields with
      | error refusal =>
          rw [across_of_refused bail trouble evaluated] at finished
          cases finished
      | ok outcome =>
          have failed : outcome.passed = false := by
            rw [← FieldRule.passes_of_evaluate evaluated]
            exact (FieldRule.firstTrouble?_eq_some_iff.mp trouble).1
          cases bail with
          | true => simp [(across_true_of_failed distinct trouble evaluated failed).2.1]
          | false =>
              obtain ⟨more, others, errors⟩ :=
                across_false_of_failed trouble evaluated failed finished
              simp [errors]

theorem ok_eq_of_results
    {conditions : List (String × Condition)} {bailed full : ValidationResult}
    (distinct : (conditions.map Prod.fst).Nodup)
    (bailReturned : (across surroundings registry fields true conditions).result = .ok bailed)
    (fullReturned : (across surroundings registry fields false conditions).result = .ok full) :
    bailed.ok = full.ok := by
  rw [Bool.eq_iff_iff, ok_iff_of_result distinct bailReturned,
    ok_iff_of_result distinct fullReturned]

end Progress

namespace Validation

/-- A run that bails and a full run over the same rules. If the first rule that does not pass fails,
and with a text, the run that bails reports this failure alone and the full run, if it has a result,
reports it first. If that rule breaks off, both runs are refused for its reason. If every rule
passes, both have the same result. Where both have a result, they agree on whether it is fine. -/
theorem run_bail_agrees_with_full
    (validation : Validation) (surroundings : Surroundings) (fields : Fields) :
    (∀ before rule after name message,
        validation.fieldRules = before ++ rule :: after →
        (∀ earlier ∈ before,
          earlier.passes surroundings validation.registry fields = true) →
        rule.evaluate surroundings validation.registry fields =
          .ok ⟨name, false, .text message⟩ →
        (validation.run surroundings fields (some true)).result =
            .ok ⟨false, [(rule.field, [message])], validation.fieldsThrough rule.field⟩ ∧
          ∀ result, (validation.run surroundings fields (some false)).result = .ok result →
            ∃ more others, result.errors = (rule.field, message :: more) :: others) ∧
      (∀ before rule after refusal,
        validation.fieldRules = before ++ rule :: after →
        (∀ earlier ∈ before,
          earlier.passes surroundings validation.registry fields = true) →
        rule.evaluate surroundings validation.registry fields = .error refusal →
        ∀ bail, (validation.run surroundings fields (some bail)).result = .error refusal) ∧
      ((∀ rule ∈ validation.fieldRules,
          rule.passes surroundings validation.registry fields = true) →
        ∀ bail,
          (validation.run surroundings fields (some bail)).result =
            .ok ⟨true, [], validation.fields⟩) ∧
      ∀ bailed full,
        (validation.run surroundings fields (some true)).result = .ok bailed →
        (validation.run surroundings fields (some false)).result = .ok full →
        bailed.ok = full.ok := by
  refine ⟨?_, ?_, ?_, ?_⟩
  · intro before rule after name message split passing evaluated
    have trouble :=
      FieldRule.firstTrouble?_eq_some_iff.mpr
        ⟨FieldRule.passes_of_evaluate evaluated, before, after, split, passing⟩
    obtain ⟨checked, errors, finished⟩ :=
      Progress.across_true_of_failed validation.conditions.names_nodup trouble evaluated rfl
    refine ⟨?_, fun result returned => ?_⟩
    · have shown :
          (Progress.across surroundings validation.registry fields true
            validation.conditions.entries).errors =
          ErrorBag.values [(rule.field, [message])] :=
        errors
      rw [result_run, Option.getD_some, progress_eq_across]
      exact Progress.result_of_texts finished shown checked
    · rw [result_run, Option.getD_some, progress_eq_across] at returned
      obtain ⟨fullFinished, read⟩ := Progress.finished_of_result returned
      obtain ⟨more, others, fullErrors⟩ :=
        Progress.across_false_of_failed trouble evaluated rfl fullFinished
      rw [fullErrors] at read
      exact ValidationResult.errors_of_ofRun_cons read
  · intro before rule after refusal split passing refused bail
    have trouble :=
      FieldRule.firstTrouble?_eq_some_iff.mpr
        ⟨FieldRule.not_passes_of_refused refused, before, after, split, passing⟩
    rw [result_run, Option.getD_some, progress_eq_across]
    exact Progress.result_of_refused (Progress.across_of_refused bail trouble refused)
  · intro passing bail
    obtain ⟨checked, errors, finished⟩ :=
      Progress.across_of_passing bail (FieldRule.firstTrouble?_eq_none_iff.mpr passing)
    have shown :
        (Progress.across surroundings validation.registry fields bail
          validation.conditions.entries).errors =
        ErrorBag.values [] :=
      errors
    rw [result_run, Option.getD_some, progress_eq_across]
    exact Progress.result_of_texts finished shown checked
  · intro bailed full bailReturned fullReturned
    rw [result_run, Option.getD_some, progress_eq_across] at bailReturned fullReturned
    exact Progress.ok_eq_of_results validation.conditions.names_nodup bailReturned fullReturned

end Validation

/-! ## Forms -/

def ageForm
    (ruleClass : RuleClass) :
    Validation :=
  ⟨.initial, .empty,
    ⟨[("age", ⟨"form", [⟨.handler (.ofClass ruleClass), [], "", .null⟩], []⟩)],
      by simp⟩⟩

def ageRule
    (ruleClass : RuleClass) :
    FieldRule :=
  ⟨"age", "form", ⟨.handler (.ofClass ruleClass), [], "", .null⟩⟩

/-- With a name given, the first rule of `signUp` passes and its second one fails. A class of which
no instance can be built breaks off, and a class without reports passes. -/
theorem forms_bail_agree_with_full :
    ((signUp.run quietSurroundings [("name", .text "Ann")] (some true)).result =
          .ok ⟨false, [("name", ["taken"])], ["name"]⟩ ∧
        ∀ result,
          (signUp.run quietSurroundings [("name", .text "Ann")] (some false)).result =
            .ok result →
          ∃ more others, result.errors = ("name", "taken" :: more) :: others) ∧
      (∀ bail,
        ((ageForm (.unbuildable "Adult" "no age")).run quietSurroundings [] (some bail)).result =
          .error (.fault (.raised .argument "no age"))) ∧
      ∀ bail,
        ((ageForm ((Stock.always []).toClass "Adult")).run quietSurroundings []
            (some bail)).result =
          .ok ⟨true, [], ["age"]⟩ := by
  refine ⟨?_, ?_, ?_⟩
  · have split :
        signUp.fieldRules =
          [⟨"name", "form", ⟨.named "required", [], "required", .null⟩⟩] ++
            ⟨"name", "form",
              ⟨.handler (.ofClass ((Stock.always [.text "taken", .null]).toClass "Unique")), [],
                "", .null⟩⟩ ::
              [⟨"age", "form",
                ⟨.handler (.ofClass ((Stock.always [.null]).toClass "Adult")), [], "",
                  .text "Too young"⟩⟩] :=
      rfl
    refine (signUp.run_bail_agrees_with_full quietSurroundings [("name", .text "Ann")]).1
      _ _ _ "Unique" "taken" split ?_ rfl
    intro earlier member
    rw [List.mem_singleton] at member
    subst member
    have asked :
        Builtin.required.toPredicate quietSurroundings.present
            ⟨[("name", .text "Ann")], "name", []⟩ =
          .ok [] := by
      simp [Builtin.toPredicate, Builtin.passes, Except.map, Inquiry.value, Fields.value,
        Value.isTrue, Value.equals, Value.plainEquals, Value.quantity?]
    rw [FieldRule.passes, FieldRule.evaluate, Condition.evaluateRule_eq,
      Descriptor.answer_of_resolve (Descriptor.resolve_of_builtin? builtin?_required), asked]
    rfl
  · let form := ageForm (.unbuildable "Adult" "no age")
    exact (form.run_bail_agrees_with_full quietSurroundings []).2.1 []
      (ageRule (.unbuildable "Adult" "no age")) [] _ rfl (by simp) rfl
  · let form := ageForm ((Stock.always []).toClass "Adult")
    refine (form.run_bail_agrees_with_full quietSurroundings []).2.2.1 fun rule member => ?_
    obtain rfl : rule = ageRule ((Stock.always []).toClass "Adult") :=
      List.mem_singleton.mp member
    rfl

/-- A failure whose message is no text is not reported by a run that bails. Such a run has no result:
a number that is reported as a message is refused. -/
theorem not_bail_reports_every_message :
    ¬ ∀ (validation : Validation) (surroundings : Surroundings) (fields : Fields)
        (before : List FieldRule) (rule : FieldRule) (after : List FieldRule) (outcome : Outcome),
        validation.fieldRules = before ++ rule :: after →
        (∀ earlier ∈ before,
          earlier.passes surroundings validation.registry fields = true) →
        rule.evaluate surroundings validation.registry fields = .ok outcome →
        outcome.passed = false →
        ∃ result,
          (validation.run surroundings fields (some true)).result = .ok result ∧
            result.ok = false ∧
            result.checked = validation.fieldsThrough rule.field ∧
            ErrorBag.values result.errors = [(rule.field, [outcome.message])] := by
  intro reported
  let counted := (Stock.always [.integer 18]).toClass "Adult"
  obtain ⟨result, returned, _⟩ :=
    reported (ageForm counted) quietSurroundings [] [] (ageRule counted) []
      ⟨"Adult", false, .integer 18⟩ rfl (by simp) rfl rfl
  have refused :
      ((ageForm counted).run quietSurroundings [] (some true)).result =
        .error (.unusableData [⟨.textType, [.name "errors", .name "age", .index 0]⟩]) :=
    rfl
  rw [refused] at returned
  cases returned

end FormRules
