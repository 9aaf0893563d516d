import FormRules.Proofs.Progress
import FormRules.Rule.Stock

/-!
# Full runs

A run that is not to bail and in which every rule answers checks every field. Its messages by field
are those of the failed rules: a field is among them exactly if one of its rules failed, and then
with one message for each of these. The result is fine exactly if there are no messages, and so is
the verdict.
-/

namespace FormRules

namespace Condition

variable (surroundings : Surroundings) (registry : Registry) (fields : Fields) (key : String)

def failedRules
    (condition : Condition) :
    List Descriptor :=
  condition.rules.filter (Descriptor.fails surroundings registry fields key)

/-- The rule fails with the given message, and this is not empty. -/
def FailsWith
    (prefixText : String) (descriptor : Descriptor) (message : String) :
    Prop :=
  message ≠ "" ∧
    ∃ name,
      evaluateRule surroundings registry prefixText fields key descriptor =
        .ok ⟨name, false, .text message⟩

variable {surroundings : Surroundings} {registry : Registry} {fields : Fields} {key : String}

/-- The outcomes of an evaluation have messages where rules failed. -/
theorem haveMessages_evaluate
    (condition : Condition) (bail : Bool) :
    Progress.HaveMessages
      (condition.evaluate surroundings registry fields key bail).outcomes := by
  intro outcome member failed
  obtain ⟨descriptor, _, evaluated⟩ := exists_rule_of_mem_outcomes member
  exact isTrue_message_of_evaluateRule evaluated failed

/-- Rules that answer have outcomes. -/
theorem exists_outcomes_of_answers
    (prefixText : String) {rules : List Descriptor}
    (answers : ∀ descriptor ∈ rules,
      ∃ answer, descriptor.answer surroundings registry fields key = .ok answer) :
    ∃ outcomes,
      List.Forall₂
        (fun descriptor outcome =>
          evaluateRule surroundings registry prefixText fields key descriptor = .ok outcome)
        rules outcomes := by
  induction rules with
  | nil => exact ⟨[], .nil⟩
  | cons descriptor rules inductionHypothesis =>
      rw [List.forall_mem_cons] at answers
      obtain ⟨⟨answer, answered⟩, others⟩ := answers
      obtain ⟨outcomes, evaluated⟩ := inductionHypothesis others
      refine ⟨outcomeOf prefixText descriptor answer.1 answer.2 :: outcomes, .cons ?_ evaluated⟩
      rw [evaluateRule_eq, answered]
      rfl

/-- The messages recorded for a chain are texts, one for each failed rule and in the order of these.
The induction follows the chain: a passed rule records nothing, a failed one its own message. -/
theorem exists_texts_of_outcomes
    {prefixText : String} {rules : List Descriptor} {outcomes : List Outcome}
    (texts : ∀ descriptor ∈ rules, descriptor.UsesTexts surroundings registry fields key)
    (evaluated :
      List.Forall₂
        (fun descriptor outcome =>
          evaluateRule surroundings registry prefixText fields key descriptor = .ok outcome)
        rules outcomes) :
    ∃ shown : List String,
      recordedMessages outcomes = shown.map .text ∧
        List.Forall₂ (FailsWith surroundings registry fields key prefixText)
          (rules.filter (Descriptor.fails surroundings registry fields key)) shown := by
  induction evaluated with
  | nil => exact ⟨[], rfl, .nil⟩
  | @cons descriptor outcome rules outcomes head _ inductionHypothesis =>
      rw [List.forall_mem_cons] at texts
      obtain ⟨firstTexts, otherTexts⟩ := texts
      obtain ⟨shown, recorded, failures⟩ := inductionHypothesis otherTexts
      have fails := fails_eq_not_passed head
      cases passed : outcome.passed with
      | true =>
          rw [passed] at fails
          refine ⟨shown, ?_, ?_⟩
          · rw [recordedMessages_cons_of_passed _ passed, recorded]
          · rwa [List.filter_cons_of_neg (by simp [fails])]
      | false =>
          rw [passed] at fails
          obtain ⟨first, firstNotEmpty, message⟩ :=
            exists_text_of_evaluateRule firstTexts head passed
          refine ⟨first :: shown, ?_, ?_⟩
          · rw [recordedMessages_cons_of_fails _ passed (isTrue_message_of_evaluateRule head passed),
              recorded, message]
            rfl
          · rw [List.filter_cons_of_pos (by simp [fails])]
            refine .cons ⟨firstNotEmpty, outcome.rule, ?_⟩ failures
            rw [head, ← passed, ← message]

variable (surroundings registry fields) in
/-- The messages of a field are those of the failed rules of its condition. -/
def Reports
    (entry : String × Condition) (row : String × List String) :
    Prop :=
  row.1 = entry.1 ∧
    List.Forall₂ (FailsWith surroundings registry fields entry.1 entry.2.prefixText)
      (entry.2.failedRules surroundings registry fields entry.1) row.2

variable (surroundings registry fields) in
def failing
    (conditions : List (String × Condition)) :
    List (String × Condition) :=
  conditions.filter fun entry =>
    !(entry.2.failedRules surroundings registry fields entry.1).isEmpty

/-- A field whose rules all answer is evaluated to its end. If a rule failed it adds one entry to the
messages by field, and otherwise none. -/
theorem exists_rows_of_condition
    (condition : Condition)
    (answers : ∀ descriptor ∈ condition.rules,
      ∃ answer, descriptor.answer surroundings registry fields key = .ok answer)
    (texts : ∀ descriptor ∈ condition.rules,
      descriptor.UsesTexts surroundings registry fields key) :
    (condition.evaluate surroundings registry fields key false).refusal = none ∧
      ∃ rows : ErrorBag,
        Progress.failuresOf key
            (condition.evaluate surroundings registry fields key false).outcomes =
          ErrorBag.values rows ∧
        List.Forall₂ (Reports surroundings registry fields)
          (failing surroundings registry fields [(key, condition)]) rows := by
  obtain ⟨outcomes, evaluated⟩ := exists_outcomes_of_answers condition.prefixText answers
  have evaluation :
      condition.evaluate surroundings registry fields key false = ⟨outcomes, none⟩ :=
    evaluateChain_false_of_forall₂ evaluated
  have messages :
      Progress.HaveMessages
        (condition.evaluate surroundings registry fields key false).outcomes :=
    haveMessages_evaluate condition false
  rw [evaluation] at messages ⊢
  refine ⟨rfl, ?_⟩
  obtain ⟨shown, recorded, failures⟩ := exists_texts_of_outcomes texts evaluated
  by_cases passed : allPassed outcomes = true
  · rw [recordedMessages_of_allPassed passed, eq_comm, List.map_eq_nil_iff] at recorded
    subst recorded
    rw [List.forall₂_nil_right_iff] at failures
    refine ⟨[], by simp [Progress.failuresOf, passed, ErrorBag.values], ?_⟩
    simp [failing, failedRules, failures]
  · have somethingShown : shown ≠ [] := by
      rintro rfl
      exact passed ((recordedMessages_eq_nil_iff messages).mp recorded)
    have someFailed :
        condition.failedRules surroundings registry fields key ≠ [] := by
      intro none
      rw [← failedRules, none, List.forall₂_nil_left_iff] at failures
      exact somethingShown failures
    refine ⟨[(key, shown)], ?_, ?_⟩
    · rw [Progress.failuresOf, if_neg passed, recorded]
      rfl
    · rw [failing, List.filter_cons_of_pos (by simpa using someFailed)]
      exact .cons ⟨rfl, failures⟩ .nil

/-- Over all fields the entries of the messages by field belong to the conditions with a failed rule,
one by one and in their order. -/
theorem exists_rows_of_conditions
    {conditions : List (String × Condition)}
    (answers : ∀ entry ∈ conditions, ∀ descriptor ∈ entry.2.rules,
      ∃ answer, descriptor.answer surroundings registry fields entry.1 = .ok answer)
    (texts : ∀ entry ∈ conditions, ∀ descriptor ∈ entry.2.rules,
      descriptor.UsesTexts surroundings registry fields entry.1) :
    ∃ errors : ErrorBag,
      (conditions.flatMap fun entry =>
        Progress.failuresOf entry.1
          (entry.2.evaluate surroundings registry fields entry.1 false).outcomes) =
        errors.values ∧
      List.Forall₂ (Reports surroundings registry fields)
        (failing surroundings registry fields conditions) errors := by
  induction conditions with
  | nil => exact ⟨[], rfl, .nil⟩
  | cons entry conditions inductionHypothesis =>
      rw [List.forall_mem_cons] at answers texts
      obtain ⟨_, rows, ofFirst, firstReported⟩ :=
        exists_rows_of_condition entry.2 answers.1 texts.1
      obtain ⟨errors, ofOthers, othersReported⟩ := inductionHypothesis answers.2 texts.2
      refine ⟨rows ++ errors, ?_, ?_⟩
      · rw [List.flatMap_cons, ofFirst, ofOthers]
        simp [ErrorBag.values]
      · have split :
            failing surroundings registry fields (entry :: conditions) =
              failing surroundings registry fields [entry] ++
                failing surroundings registry fields conditions := by
          rw [failing, failing, failing, ← List.filter_append]
          rfl
        rw [split]
        exact List.rel_append firstReported othersReported

/-- What one list has is related to something of the other. -/
theorem Reports.exists_of_mem
    {conditions : List (String × Condition)} {errors : ErrorBag}
    (reported : List.Forall₂ (Reports surroundings registry fields) conditions errors)
    {row : String × List String} (member : row ∈ errors) :
    ∃ entry ∈ conditions, Reports surroundings registry fields entry row := by
  induction reported with
  | nil => cases member
  | cons head _ inductionHypothesis =>
      rcases List.mem_cons.mp member with same | later
      · exact ⟨_, List.mem_cons_self, same ▸ head⟩
      · obtain ⟨entry, inTail, reports⟩ := inductionHypothesis later
        exact ⟨entry, List.mem_cons_of_mem _ inTail, reports⟩

theorem Reports.keys_eq
    {conditions : List (String × Condition)} {errors : ErrorBag}
    (reported : List.Forall₂ (Reports surroundings registry fields) conditions errors) :
    errors.map Prod.fst = conditions.map Prod.fst := by
  induction reported with
  | nil => rfl
  | cons head _ inductionHypothesis =>
      rw [List.map_cons, List.map_cons, head.1, inductionHypothesis]

end Condition

namespace Validation

variable (validation : Validation) (surroundings : Surroundings) (fields : Fields)

/-- Every rule of every field answers: none breaks off. -/
def EveryRuleAnswers :
    Prop :=
  ∀ field condition, validation.condition? field = some condition →
    ∀ descriptor ∈ condition.rules,
      ∃ answer, descriptor.answer surroundings validation.registry fields field = .ok answer

/-- The messages given with rules and by custom rules are texts. -/
def UsesTexts :
    Prop :=
  ∀ field condition, validation.condition? field = some condition →
    ∀ descriptor ∈ condition.rules,
      descriptor.UsesTexts surroundings validation.registry fields field

def FieldFails
    (field : String) :
    Prop :=
  ∃ condition, validation.condition? field = some condition ∧
    condition.failedRules surroundings validation.registry fields field ≠ []

/-- Messages by field that are those of the failed rules: the fields stand in the order of the
validation, they are those with a failed rule, and each has one message for each failed rule, in
the order of its chain. -/
structure ReportsFailures
    (errors : ErrorBag) :
    Prop where
  inOrder : (errors.map Prod.fst).Sublist validation.fields
  mem_iff : ∀ field,
    field ∈ errors.map Prod.fst ↔ validation.FieldFails surroundings fields field
  ofFailedRules : ∀ field messages, (field, messages) ∈ errors →
    messages ≠ [] ∧
      ∃ condition, validation.condition? field = some condition ∧
        List.Forall₂
          (Condition.FailsWith surroundings validation.registry fields field
            condition.prefixText)
          (condition.failedRules surroundings validation.registry fields field) messages

variable {validation : Validation} {surroundings : Surroundings} {fields : Fields}

theorem reportsFailures_of_forall₂
    {errors : ErrorBag}
    (reported :
      List.Forall₂ (Condition.Reports surroundings validation.registry fields)
        (Condition.failing surroundings validation.registry fields
          validation.conditions.entries)
        errors) :
    validation.ReportsFailures surroundings fields errors where
  inOrder := by
    rw [Condition.Reports.keys_eq reported]
    exact List.filter_sublist.map Prod.fst
  mem_iff field := by
    rw [Condition.Reports.keys_eq reported, List.mem_map]
    constructor
    · rintro ⟨⟨_, condition⟩, member, rfl⟩
      obtain ⟨held, fails⟩ := List.mem_filter.mp member
      exact ⟨condition, validation.conditions.find?_eq_some_iff_mem.mpr held,
        by simpa using fails⟩
    · rintro ⟨condition, found, fails⟩
      have held := validation.conditions.find?_eq_some_iff_mem.mp found
      exact ⟨(field, condition), List.mem_filter.mpr ⟨held, by simpa using fails⟩, rfl⟩
  ofFailedRules field messages member := by
    obtain ⟨⟨_, condition⟩, inFailing, rfl, failures⟩ :=
      Condition.Reports.exists_of_mem reported member
    obtain ⟨held, fails⟩ := List.mem_filter.mp inFailing
    refine ⟨?_, condition, validation.conditions.find?_eq_some_iff_mem.mpr held, failures⟩
    rintro rfl
    rw [List.forall₂_nil_right_iff] at failures
    simp [failures] at fails

end Validation

/-- Sorting names keeps them all. -/
theorem sortedNames_perm
    (names : List String) :
    (sortedNames names).Perm names :=
  List.mergeSort_perm names _

/-- Sorted names ascend in the order of their code points. -/
theorem pairwise_sortedNames
    (names : List String) :
    (sortedNames names).Pairwise (· ≤ ·) := by
  have sorted :
      (sortedNames names).Pairwise fun left right => decide (left ≤ right) = true :=
    List.pairwise_mergeSort
      (fun left middle right first second => by
        simp only [decide_eq_true_eq] at first second ⊢
        exact String.le_trans first second)
      (fun left right => by
        simpa using String.le_total left right)
      names
  exact sorted.imp fun ordered => by simpa using ordered

/-- The report of a failed validation holds the messages by field, and its detail lists their fields
in the order of code points. -/
def ErrorReport.IsOfFailure
    (report : ErrorReport) (errors : ErrorBag) :
    Prop :=
  report.kind = .validationFailed ∧
    report.errors = some (errors.map fun entry => (.text entry.1, entry.2.map .text)) ∧
    ∃ names : List String,
      report.detail = .mapping [(.text "fields", .list (names.map .text))] ∧
        names.Perm (errors.map Prod.fst) ∧ names.Pairwise (· ≤ ·)

theorem exists_report_of_failed
    (errors : ErrorBag) :
    ∃ report, (Refusal.failed errors).report? = some report ∧ report.IsOfFailure errors :=
  ⟨_, rfl, rfl, rfl, sortedNames (errors.map Prod.fst), rfl, sortedNames_perm _,
    pairwise_sortedNames _⟩

namespace Validation

/-- A full run in which every rule answers, and in which messages are texts, checks every field and
reports exactly the failed rules. It is fine if there are none; otherwise the verdict is a refusal
with the same messages, and its report lists their fields in the order of code points. -/
theorem run_reports_every_failure
    (validation : Validation) (surroundings : Surroundings) (fields : Fields)
    (answers : validation.EveryRuleAnswers surroundings fields)
    (texts : validation.UsesTexts surroundings fields) :
    ∃ result,
      (validation.run surroundings fields (some false)).result = .ok result ∧
        result.checked = validation.fields ∧
        validation.ReportsFailures surroundings fields result.errors ∧
        (result.ok = true ↔ result.errors = []) ∧
        ((validation.run surroundings fields (some false)).verdict = .ok () ↔
          result.ok = true) ∧
        (result.ok = false →
          (validation.run surroundings fields (some false)).verdict =
              .error (.failed result.errors) ∧
            ∃ report,
              (Refusal.failed result.errors).report? = some report ∧
                report.IsOfFailure result.errors) := by
  have conditionAnswers : ∀ entry ∈ validation.conditions.entries,
      ∀ descriptor ∈ entry.2.rules,
        ∃ answer,
          descriptor.answer surroundings validation.registry fields entry.1 = .ok answer :=
    fun entry member =>
      answers entry.1 entry.2 (validation.conditions.find?_eq_some_iff_mem.mpr member)
  have conditionTexts : ∀ entry ∈ validation.conditions.entries,
      ∀ descriptor ∈ entry.2.rules,
        descriptor.UsesTexts surroundings validation.registry fields entry.1 :=
    fun entry member =>
      texts entry.1 entry.2 (validation.conditions.find?_eq_some_iff_mem.mpr member)
  obtain ⟨errors, found, reported⟩ :=
    Condition.exists_rows_of_conditions conditionAnswers conditionTexts
  have evaluated : ∀ entry ∈ validation.conditions.entries,
      (entry.2.evaluate surroundings validation.registry fields entry.1 false).refusal = none :=
    fun entry member =>
      (Condition.exists_rows_of_condition entry.2 (conditionAnswers entry member)
        (conditionTexts entry member)).1
  obtain ⟨checked, runErrors, finished⟩ := Progress.across_full evaluated
  have resultEq :
      (validation.run surroundings fields (some false)).result =
        .ok ⟨errors.isEmpty, errors, validation.fields⟩ := by
    rw [result_run, Option.getD_some, progress_eq_across]
    exact Progress.result_of_texts finished (runErrors.trans found) checked
  refine ⟨_, resultEq, rfl, reportsFailures_of_forall₂ reported, by simp, ?_, ?_⟩
  · rw [Run.verdict, resultEq]
    by_cases fine : errors.isEmpty = true <;> simp [fine]
  · intro failed
    refine ⟨?_, exists_report_of_failed errors⟩
    rw [Run.verdict, resultEq]
    simp only at failed ⊢
    simp [failed]

end Validation

/-! ## A form with two fields

Its first field has a built-in rule and a rule class that reports twice, its second one a rule class
that reports nothing in particular and an override for its message. -/

/-- No class can be reached by a path, and the calendar begins. -/
def quietSurroundings :
    Surroundings :=
  ⟨⟨1, 0, none, Nat.one_pos, Time.one_le_lastDay, Time.microsecondsPerDay_pos⟩, ⟨fun _ => none⟩⟩

def nameCondition :
    Condition :=
  ⟨"form",
    [⟨.named "required", [], "required", .null⟩,
      ⟨.handler (.ofClass ((Stock.always [.text "taken", .null]).toClass "Unique")), [], "",
        .null⟩],
    []⟩

def ageCondition :
    Condition :=
  ⟨"form",
    [⟨.handler (.ofClass ((Stock.always [.null]).toClass "Adult")), [], "",
      .text "Too young"⟩],
    []⟩

def signUp :
    Validation :=
  ⟨.initial, .empty, ⟨[("name", nameCondition), ("age", ageCondition)], by decide⟩⟩

theorem signUp_condition?
    {field : String} {condition : Condition} (found : signUp.condition? field = some condition) :
    (field = "name" ∧ condition = nameCondition) ∨ (field = "age" ∧ condition = ageCondition) := by
  simpa [signUp] using signUp.conditions.find?_eq_some_iff_mem.mp found

theorem builtin?_required :
    Descriptor.builtin? quietSurroundings ⟨.named "required", [], "required", .null⟩ =
      some .required := by
  have noPath : classAtPath quietSurroundings.catalog "required" = .ok none := by
    simp [classAtPath]
  have known : Builtin.find? "required" = some .required := by
    decide +kernel
  simp [Descriptor.builtin?, noPath, known]

theorem signUp_everyRuleAnswers :
    signUp.EveryRuleAnswers quietSurroundings [] := by
  intro field condition found descriptor member
  rcases signUp_condition? found with ⟨rfl, rfl⟩ | ⟨rfl, rfl⟩
  · simp only [nameCondition, List.mem_cons, List.not_mem_nil, or_false] at member
    rcases member with rfl | rfl
    · refine ⟨("required", [.null]), ?_⟩
      rw [Descriptor.answer_of_resolve (Descriptor.resolve_of_builtin? builtin?_required)]
      rfl
    · exact ⟨("Unique", [.text "taken", .null]), rfl⟩
  · simp only [ageCondition, List.mem_singleton] at member
    subst member
    exact ⟨("Adult", [.null]), rfl⟩

theorem signUp_usesTexts :
    signUp.UsesTexts quietSurroundings [] := by
  intro field condition found descriptor member
  rcases signUp_condition? found with ⟨rfl, rfl⟩ | ⟨rfl, rfl⟩
  · simp only [nameCondition, List.mem_cons, List.not_mem_nil, or_false] at member
    rcases member with rfl | rfl
    · refine ⟨rfl, fun custom => ?_⟩
      rw [builtin?_required] at custom
      cases custom
    · exact Descriptor.usesTexts_of_answer rfl rfl (by simp [Value.isMessage])
  · simp only [ageCondition, List.mem_singleton] at member
    subst member
    exact Descriptor.usesTexts_of_answer rfl rfl (by simp [Value.isMessage])

/-- The form with nothing filled in: the run has a result, and both fields are in it. -/
theorem signUp_reports_every_failure :
    signUp.EveryRuleAnswers quietSurroundings [] ∧ signUp.UsesTexts quietSurroundings [] ∧
      ∃ result,
        (signUp.run quietSurroundings [] (some false)).result = .ok result ∧
          result.checked = ["name", "age"] ∧
          signUp.ReportsFailures quietSurroundings [] result.errors ∧
          (result.ok = true ↔ result.errors = []) := by
  obtain ⟨result, returned, checked, reports, fine, _⟩ :=
    signUp.run_reports_every_failure quietSurroundings [] signUp_everyRuleAnswers
      signUp_usesTexts
  exact ⟨signUp_everyRuleAnswers, signUp_usesTexts, result, returned, checked, reports, fine⟩

end FormRules
