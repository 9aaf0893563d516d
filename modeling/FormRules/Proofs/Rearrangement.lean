import FormRules.Proofs.Bailing
import FormRules.Proofs.Configuration
import FormRules.Proofs.Snapshot
import Mathlib.Data.List.Perm.Basic

/-!
# Rearranged validations

Two validations have the same fields, and under each field the same rules, but in another order. As
long as no rule breaks off, a rule is evaluated for itself: its outcome does not depend on its place.
A full run of either therefore finds the same messages, in another order, and whether everything is
fine is the same for all runs that have a result.
-/

namespace FormRules

namespace Condition

variable {surroundings : Surroundings} {registry : Registry} {fields : Fields} {key : String}

theorem exists_perm_outcomes
    (prefixText : String) {left right : List Descriptor} (rearranged : left.Perm right)
    (answers : ∀ descriptor ∈ left,
      ∃ answer, descriptor.answer surroundings registry fields key = .ok answer) :
    ∃ leftOutcomes rightOutcomes,
      evaluateChain (evaluateRule surroundings registry prefixText fields key) false left =
          ⟨leftOutcomes, none⟩ ∧
        evaluateChain (evaluateRule surroundings registry prefixText fields key) false right =
          ⟨rightOutcomes, none⟩ ∧
        leftOutcomes.Perm rightOutcomes := by
  obtain ⟨leftOutcomes, leftEvaluated⟩ := exists_outcomes_of_answers prefixText answers
  obtain ⟨rightOutcomes, rightEvaluated, permuted⟩ :=
    List.perm_comp_forall₂ rearranged.symm leftEvaluated
  exact ⟨leftOutcomes, rightOutcomes, evaluateChain_false_of_forall₂ leftEvaluated,
    evaluateChain_false_of_forall₂ rightEvaluated, permuted.symm⟩

theorem refusal_evaluateChain_of_answers
    {prefixText : String} {rules : List Descriptor} (bail : Bool)
    (answers : ∀ descriptor ∈ rules,
      ∃ answer, descriptor.answer surroundings registry fields key = .ok answer) :
    (evaluateChain (evaluateRule surroundings registry prefixText fields key) bail
      rules).refusal = none := by
  induction rules with
  | nil => rfl
  | cons descriptor rules inductionHypothesis =>
      rw [List.forall_mem_cons] at answers
      obtain ⟨⟨answer, answered⟩, others⟩ := answers
      have evaluated :
          evaluateRule surroundings registry prefixText fields key descriptor =
            .ok (outcomeOf prefixText descriptor answer.1 answer.2) := by
        rw [evaluateRule_eq, answered]
        rfl
      rw [evaluateChain, evaluated]
      simp only
      split
      · rfl
      · exact inductionHypothesis others

end Condition

theorem Progress.mem_failuresOf_iff
    {key field : String} {outcomes : List Outcome} {messages : List Value} :
    (field, messages) ∈ failuresOf key outcomes ↔
      Condition.allPassed outcomes = false ∧ field = key ∧
        messages = Condition.recordedMessages outcomes := by
  unfold failuresOf
  cases Condition.allPassed outcomes <;> simp

theorem Progress.refusal_ofConditions_of_finished
    {evaluate : Condition → String → Evaluation} {bail stopped : Bool}
    {conditions : List (String × Condition)}
    (finished : ∀ entry ∈ conditions, (evaluate entry.2 entry.1).refusal = none) :
    (ofConditions evaluate bail stopped conditions).refusal = none := by
  induction conditions generalizing stopped with
  | nil => cases stopped <;> rfl
  | cons entry rest inductionHypothesis =>
      rw [List.forall_mem_cons] at finished
      cases stopped with
      | true => exact inductionHypothesis finished.2
      | false =>
          rw [ofConditions_cons_of_evaluated evaluate bail rest
            (Evaluation.eq_of_finished finished.1)]
          exact inductionHypothesis finished.2

namespace Validation

/-! ## The same rules in another order -/

/-- The same settings, the same custom rules and the same fields, each with the same rules; the
fields and the rules of each of them may stand in another order. -/
structure Rearranges
    (left right : Validation) :
    Prop where
  settings : left.settings = right.settings
  registry : left.registry = right.registry
  fields : left.fields.Perm right.fields
  chains : ∀ field first second, left.condition? field = some first →
    right.condition? field = some second → first.rules.Perm second.rules

theorem Rearranges.symm
    {left right : Validation} (rearranged : left.Rearranges right) :
    right.Rearranges left :=
  ⟨rearranged.settings.symm, rearranged.registry.symm, rearranged.fields.symm,
    fun field first second found foundToo =>
      (rearranged.chains field second first foundToo found).symm⟩

theorem mem_fields_iff
    {validation : Validation} {field : String} :
    field ∈ validation.fields ↔ ∃ condition, validation.condition? field = some condition := by
  constructor
  · intro member
    obtain ⟨⟨_, condition⟩, held, rfl⟩ := List.mem_map.mp member
    exact ⟨condition, validation.conditions.find?_eq_some_iff_mem.mpr held⟩
  · rintro ⟨condition, found⟩
    have held := validation.conditions.find?_eq_some_iff_mem.mp found
    exact List.mem_map_of_mem held

theorem Rearranges.exists_condition
    {left right : Validation} (rearranged : left.Rearranges right)
    {field : String} {condition : Condition}
    (found : left.condition? field = some condition) :
    ∃ other, right.condition? field = some other ∧ condition.rules.Perm other.rules := by
  have isField : field ∈ right.fields :=
    rearranged.fields.mem_iff.mp (mem_fields_iff.mpr ⟨condition, found⟩)
  obtain ⟨other, foundToo⟩ := mem_fields_iff.mp isField
  exact ⟨other, foundToo, rearranged.chains field condition other found foundToo⟩

variable {left right : Validation} {surroundings : Surroundings} {fields : Fields}

theorem Rearranges.everyRuleAnswers
    (rearranged : left.Rearranges right) (answers : left.EveryRuleAnswers surroundings fields) :
    right.EveryRuleAnswers surroundings fields := by
  intro field condition found descriptor member
  obtain ⟨other, foundToo, rules⟩ := rearranged.symm.exists_condition found
  rw [← rearranged.registry]
  exact answers field other foundToo descriptor (rules.mem_iff.mp member)

theorem Rearranges.usesTexts
    (rearranged : left.Rearranges right) (texts : left.UsesTexts surroundings fields) :
    right.UsesTexts surroundings fields := by
  intro field condition found descriptor member
  obtain ⟨other, foundToo, rules⟩ := rearranged.symm.exists_condition found
  rw [← rearranged.registry]
  exact texts field other foundToo descriptor (rules.mem_iff.mp member)

theorem mem_fieldRules_iff
    {validation : Validation} {rule : FieldRule} :
    rule ∈ validation.fieldRules ↔
      ∃ condition, validation.condition? rule.field = some condition ∧
        rule.prefixText = condition.prefixText ∧ rule.descriptor ∈ condition.rules := by
  unfold fieldRules fieldRulesOf
  rw [List.mem_flatMap]
  constructor
  · rintro ⟨⟨field, condition⟩, held, member⟩
    obtain ⟨descriptor, inChain, rfl⟩ := List.mem_map.mp member
    exact ⟨condition, validation.conditions.find?_eq_some_iff_mem.mpr held, rfl, inChain⟩
  · rintro ⟨condition, found, samePrefix, inChain⟩
    have held := validation.conditions.find?_eq_some_iff_mem.mp found
    refine ⟨(rule.field, condition), held, List.mem_map.mpr ⟨rule.descriptor, inChain, ?_⟩⟩
    rw [← samePrefix]

theorem Rearranges.mem_fieldRules
    (rearranged : left.Rearranges right) (leftShares : left.SharesPrefix)
    (rightShares : right.SharesPrefix) {rule : FieldRule} (member : rule ∈ left.fieldRules) :
    rule ∈ right.fieldRules := by
  obtain ⟨condition, found, samePrefix, inChain⟩ := mem_fieldRules_iff.mp member
  obtain ⟨other, foundToo, rules⟩ := rearranged.exists_condition found
  refine mem_fieldRules_iff.mpr ⟨other, foundToo, ?_, rules.mem_iff.mp inChain⟩
  rw [samePrefix, leftShares _ _ found, rightShares _ _ foundToo, rearranged.settings]

/-! ## What full runs find -/

theorem refusal_evaluate_of_answers
    {validation : Validation} (answers : validation.EveryRuleAnswers surroundings fields)
    (bail : Bool) :
    ∀ entry ∈ validation.conditions.entries,
      (entry.2.evaluate surroundings validation.registry fields entry.1 bail).refusal = none :=
  fun entry held =>
    Condition.refusal_evaluateChain_of_answers bail
      (answers entry.1 entry.2 (validation.conditions.find?_eq_some_iff_mem.mpr held))

theorem refusal_progress_of_answers
    {validation : Validation} (answers : validation.EveryRuleAnswers surroundings fields)
    (bail : Bool) :
    (validation.progress surroundings fields bail).refusal = none :=
  Progress.refusal_ofConditions_of_finished (refusal_evaluate_of_answers answers bail)

/-- The messages by field that a full run finds: a field with a failed rule has those of its
outcomes. -/
theorem mem_errors_iff
    {validation : Validation} (answers : validation.EveryRuleAnswers surroundings fields)
    {field : String} {messages : List Value} :
    (field, messages) ∈ (validation.progress surroundings fields false).errors ↔
      ∃ condition outcomes, validation.condition? field = some condition ∧
        condition.evaluate surroundings validation.registry fields field false =
            ⟨outcomes, none⟩ ∧
          Condition.allPassed outcomes = false ∧
          messages = Condition.recordedMessages outcomes := by
  have evaluated := refusal_evaluate_of_answers answers false
  rw [progress_eq_across, (Progress.across_full evaluated).2.1, List.mem_flatMap]
  constructor
  · rintro ⟨⟨key, condition⟩, held, member⟩
    obtain ⟨someFailed, rfl, rfl⟩ := Progress.mem_failuresOf_iff.mp member
    exact ⟨condition, _, validation.conditions.find?_eq_some_iff_mem.mpr held,
      Evaluation.eq_of_finished (evaluated _ held), someFailed, rfl⟩
  · rintro ⟨condition, outcomes, found, evaluation, someFailed, rfl⟩
    refine ⟨(field, condition), validation.conditions.find?_eq_some_iff_mem.mp found, ?_⟩
    rw [evaluation]
    exact Progress.mem_failuresOf_iff.mpr ⟨someFailed, rfl, rfl⟩

theorem messages_eq_of_mem_errors
    {validation : Validation} (answers : validation.EveryRuleAnswers surroundings fields)
    {field : String} {messages others : List Value}
    (member : (field, messages) ∈ (validation.progress surroundings fields false).errors)
    (memberToo : (field, others) ∈ (validation.progress surroundings fields false).errors) :
    messages = others := by
  obtain ⟨condition, outcomes, found, evaluation, _, rfl⟩ := (mem_errors_iff answers).mp member
  obtain ⟨other, otherOutcomes, foundToo, otherEvaluation, _, rfl⟩ :=
    (mem_errors_iff answers).mp memberToo
  obtain rfl : condition = other := Option.some.inj (found.symm.trans foundToo)
  have sameOutcomes := congrArg Evaluation.outcomes (evaluation.symm.trans otherEvaluation)
  exact congrArg Condition.recordedMessages sameOutcomes

/-- What a full run finds for a field, the full run of the rearranged validation finds as well, in
another order. -/
theorem Rearranges.exists_perm_messages
    (rearranged : left.Rearranges right) (leftShares : left.SharesPrefix)
    (rightShares : right.SharesPrefix) (answers : left.EveryRuleAnswers surroundings fields)
    {field : String} {messages : List Value}
    (member : (field, messages) ∈ (left.progress surroundings fields false).errors) :
    ∃ others, (field, others) ∈ (right.progress surroundings fields false).errors ∧
      messages.Perm others := by
  obtain ⟨condition, outcomes, found, evaluation, someFailed, rfl⟩ :=
    (mem_errors_iff answers).mp member
  obtain ⟨other, foundToo, rules⟩ := rearranged.exists_condition found
  have samePrefix : other.prefixText = condition.prefixText := by
    rw [rightShares _ _ foundToo, leftShares _ _ found, rearranged.settings]
  obtain ⟨sameOutcomes, otherOutcomes, evaluated, otherEvaluated, permuted⟩ :=
    Condition.exists_perm_outcomes condition.prefixText rules (answers field condition found)
  obtain rfl : outcomes = sameOutcomes :=
    congrArg Evaluation.outcomes (evaluation.symm.trans evaluated)
  have otherEvaluation :
      other.evaluate surroundings right.registry fields field false = ⟨otherOutcomes, none⟩ := by
    rw [Condition.evaluate, samePrefix, ← rearranged.registry]
    exact otherEvaluated
  have otherFailed : Condition.allPassed otherOutcomes = false := by
    rw [← someFailed]
    exact permuted.symm.all_eq
  refine ⟨Condition.recordedMessages otherOutcomes, ?_, permuted.filterMap _⟩
  exact (mem_errors_iff (rearranged.everyRuleAnswers answers)).mpr
    ⟨other, otherOutcomes, foundToo, otherEvaluation, otherFailed, rfl⟩

/-! ## Results -/

/-- A full run has this result exactly if its messages can be read as texts. -/
theorem full_result_eq_ok_iff
    {validation : Validation} (answers : validation.EveryRuleAnswers surroundings fields)
    {result : ValidationResult} :
    (validation.run surroundings fields (some false)).result = .ok result ↔
      (∀ entry ∈ (validation.progress surroundings fields false).errors,
          ∀ message ∈ entry.2, message.shownText?.isSome = true) ∧
        result =
          ⟨(validation.progress surroundings fields false).errors.isEmpty,
            (validation.progress surroundings fields false).errors.map fun entry =>
              (entry.1, entry.2.filterMap Value.shownText?),
            (validation.progress surroundings fields false).checked⟩ := by
  rw [← ValidationResult.ofRun_eq_ok_iff, result_run, Option.getD_some, Progress.result,
    refusal_progress_of_answers answers false]
  cases ValidationResult.ofRun _ _ <;> simp [Except.mapError]

/-- A result is fine exactly if every rule passes, be the run to bail or not. -/
theorem ok_iff_every_rule_passes
    {validation : Validation} {bail : Option Bool} {result : ValidationResult}
    (returned : (validation.run surroundings fields bail).result = .ok result) :
    result.ok = true ↔
      ∀ rule ∈ validation.fieldRules,
        rule.passes surroundings validation.registry fields = true := by
  rw [result_run, progress_eq_across] at returned
  rw [Progress.ok_iff_of_result validation.conditions.names_nodup returned,
    FieldRule.firstTrouble?_eq_none_iff]
  rfl

theorem exists_result
    {validation : Validation} (answers : validation.EveryRuleAnswers surroundings fields)
    (texts : validation.UsesTexts surroundings fields) (bail : Option Bool) :
    ∃ result, (validation.run surroundings fields bail).result = .ok result := by
  obtain ⟨errors, shown⟩ := texts.exists_values (bail.getD validation.settings.bail)
  rw [result_run]
  exact ⟨_, Progress.result_of_texts (refusal_progress_of_answers answers _) shown rfl⟩

theorem Rearranges.exists_full_result
    (rearranged : left.Rearranges right) (leftShares : left.SharesPrefix)
    (rightShares : right.SharesPrefix) (answers : left.EveryRuleAnswers surroundings fields)
    (returned : ∃ result, (left.run surroundings fields (some false)).result = .ok result) :
    ∃ result, (right.run surroundings fields (some false)).result = .ok result := by
  obtain ⟨_, leftReturned⟩ := returned
  have rightAnswers := rearranged.everyRuleAnswers answers
  obtain ⟨readable, _⟩ := (full_result_eq_ok_iff answers).mp leftReturned
  refine ⟨_, (full_result_eq_ok_iff rightAnswers).mpr ⟨?_, rfl⟩⟩
  rintro ⟨field, others⟩ member message ofOthers
  obtain ⟨messages, memberToo, permuted⟩ :=
    rearranged.symm.exists_perm_messages rightShares leftShares rightAnswers member
  exact readable _ memberToo message (permuted.mem_iff.mp ofOthers)

end Validation

/-- The same fields, each with the same messages; both may stand in another order. -/
structure ErrorBag.Rearranges
    (left right : ErrorBag) :
    Prop where
  fields : ∀ field, field ∈ left.map Prod.fst ↔ field ∈ right.map Prod.fst
  messages : ∀ field messages others, (field, messages) ∈ left → (field, others) ∈ right →
    messages.Perm others

namespace Validation

variable {left right : Validation} {surroundings : Surroundings} {fields : Fields}

theorem mem_errors_of_full_result
    {validation : Validation} (answers : validation.EveryRuleAnswers surroundings fields)
    {result : ValidationResult}
    (returned : (validation.run surroundings fields (some false)).result = .ok result)
    (field : String) (shown : List String) :
    (field, shown) ∈ result.errors ↔
      ∃ messages, (field, messages) ∈ (validation.progress surroundings fields false).errors ∧
        shown = messages.filterMap Value.shownText? := by
  obtain ⟨_, rfl⟩ := (full_result_eq_ok_iff answers).mp returned
  rw [List.mem_map]
  constructor
  · rintro ⟨⟨_, messages⟩, member, same⟩
    obtain ⟨rfl, rfl⟩ := Prod.mk.inj same
    exact ⟨messages, member, rfl⟩
  · rintro ⟨messages, member, rfl⟩
    exact ⟨(field, messages), member, rfl⟩

theorem Rearranges.exists_perm_shown
    (rearranged : left.Rearranges right) (leftShares : left.SharesPrefix)
    (rightShares : right.SharesPrefix) (answers : left.EveryRuleAnswers surroundings fields)
    {leftResult rightResult : ValidationResult}
    (leftReturned : (left.run surroundings fields (some false)).result = .ok leftResult)
    (rightReturned : (right.run surroundings fields (some false)).result = .ok rightResult)
    {field : String} {shown : List String} (member : (field, shown) ∈ leftResult.errors) :
    ∃ others, (field, others) ∈ rightResult.errors ∧ shown.Perm others ∧
      ∀ more, (field, more) ∈ rightResult.errors → more = others := by
  have rightAnswers := rearranged.everyRuleAnswers answers
  have rightRows := mem_errors_of_full_result rightAnswers rightReturned
  obtain ⟨messages, found, rfl⟩ :=
    (mem_errors_of_full_result answers leftReturned field shown).mp member
  obtain ⟨others, foundToo, permuted⟩ :=
    rearranged.exists_perm_messages leftShares rightShares answers found
  refine ⟨_, (rightRows field _).mpr ⟨others, foundToo, rfl⟩, permuted.filterMap _, ?_⟩
  intro more moreMember
  obtain ⟨moreMessages, moreFound, rfl⟩ := (rightRows field more).mp moreMember
  rw [messages_eq_of_mem_errors rightAnswers moreFound foundToo]

theorem Rearranges.errors_rearranges
    (rearranged : left.Rearranges right) (leftShares : left.SharesPrefix)
    (rightShares : right.SharesPrefix) (answers : left.EveryRuleAnswers surroundings fields)
    {leftResult rightResult : ValidationResult}
    (leftReturned : (left.run surroundings fields (some false)).result = .ok leftResult)
    (rightReturned : (right.run surroundings fields (some false)).result = .ok rightResult) :
    leftResult.errors.Rearranges rightResult.errors := by
  refine ⟨fun field => ⟨?_, ?_⟩, ?_⟩
  · intro inLeft
    obtain ⟨⟨_, shown⟩, member, rfl⟩ := List.mem_map.mp inLeft
    obtain ⟨others, found, _⟩ :=
      rearranged.exists_perm_shown leftShares rightShares answers leftReturned rightReturned
        member
    exact List.mem_map.mpr ⟨_, found, rfl⟩
  · intro inRight
    obtain ⟨⟨_, shown⟩, member, rfl⟩ := List.mem_map.mp inRight
    obtain ⟨others, found, _⟩ :=
      rearranged.symm.exists_perm_shown rightShares leftShares
        (rearranged.everyRuleAnswers answers) rightReturned leftReturned member
    exact List.mem_map.mpr ⟨_, found, rfl⟩
  · intro field shown more inLeft inRight
    obtain ⟨others, _, permuted, only⟩ :=
      rearranged.exists_perm_shown leftShares rightShares answers leftReturned rightReturned
        inLeft
    rw [only more inRight]
    exact permuted

/-- Rearranged validations, on an input for which no rule breaks off. One full run has a result
exactly if the other has one, and then the results have the same failing fields and under each the
same messages, rearranged. All runs that have a result, full ones and runs that bail, agree on
whether everything is fine. If messages are texts, all runs have a result. -/
theorem run_of_rearranged
    {left right : Validation} (rearranged : left.Rearranges right)
    (leftShares : left.SharesPrefix) (rightShares : right.SharesPrefix)
    (surroundings : Surroundings) (fields : Fields)
    (answers : left.EveryRuleAnswers surroundings fields) :
    ((∃ result, (left.run surroundings fields (some false)).result = .ok result) ↔
        ∃ result, (right.run surroundings fields (some false)).result = .ok result) ∧
      (∀ leftResult rightResult,
        (left.run surroundings fields (some false)).result = .ok leftResult →
          (right.run surroundings fields (some false)).result = .ok rightResult →
            leftResult.errors.Rearranges rightResult.errors) ∧
      (∀ first ∈ [left, right], ∀ second ∈ [left, right],
        ∀ firstBail secondBail firstResult secondResult,
          (first.run surroundings fields firstBail).result = .ok firstResult →
            (second.run surroundings fields secondBail).result = .ok secondResult →
              firstResult.ok = secondResult.ok) ∧
      (left.UsesTexts surroundings fields →
        ∀ validation ∈ [left, right], ∀ bail,
          ∃ result, (validation.run surroundings fields bail).result = .ok result) := by
  have rightAnswers := rearranged.everyRuleAnswers answers
  have sameRules : ∀ rule, rule ∈ left.fieldRules ↔ rule ∈ right.fieldRules := fun rule =>
    ⟨rearranged.mem_fieldRules leftShares rightShares,
      rearranged.symm.mem_fieldRules rightShares leftShares⟩
  refine ⟨⟨?_, ?_⟩, ?_, ?_, ?_⟩
  · exact rearranged.exists_full_result leftShares rightShares answers
  · exact rearranged.symm.exists_full_result rightShares leftShares rightAnswers
  · intro leftResult rightResult leftReturned rightReturned
    exact rearranged.errors_rearranges leftShares rightShares answers leftReturned rightReturned
  · have ok_iff : ∀ validation ∈ [left, right], ∀ bail result,
        (validation.run surroundings fields bail).result = .ok result →
          (result.ok = true ↔
            ∀ rule ∈ left.fieldRules,
              rule.passes surroundings left.registry fields = true) := by
      intro validation isEither bail result returned
      rw [ok_iff_every_rule_passes returned]
      simp only [List.mem_cons, List.not_mem_nil, or_false] at isEither
      rcases isEither with rfl | rfl
      · rfl
      · simp only [sameRules, rearranged.registry]
    intro first isFirst second isSecond firstBail secondBail firstResult secondResult
      firstReturned secondReturned
    rw [Bool.eq_iff_iff, ok_iff first isFirst _ _ firstReturned,
      ok_iff second isSecond _ _ secondReturned]
  · intro texts validation isEither bail
    simp only [List.mem_cons, List.not_mem_nil, or_false] at isEither
    rcases isEither with rfl | rfl
    · exact exists_result answers texts bail
    · exact exists_result rightAnswers (rearranged.usesTexts texts) bail

end Validation

/-! ## Forms in two orders -/

/-- Attaches a rule class of the given name that always reports the message. -/
def attachingReport
    (field name : String) (message : Value) :
    Call :=
  .attach field (.leaf (.handler (.ofClass ((Stock.always [message]).toClass name)))) .null

def formOf
    (calls : List Call) :
    Validation :=
  (Validation.empty .initial).afterCalls noClasses calls

theorem formOf_sharesPrefix
    (calls : List Call) :
    (formOf calls).SharesPrefix :=
  (Validation.sharesPrefix_empty .initial).afterCalls noClasses calls

theorem formOf_settings
    (calls : List Call) :
    (formOf calls).settings = .initial :=
  (Validation.isConfiguredBy_afterCalls noClasses .initial calls).settings_eq

/-- A form with a name that has two rules, and with an age. -/
def nameFirst :
    Validation :=
  formOf
    [attachingReport "name" "Unique" (.text "taken"),
      attachingReport "age" "Adult" (.text "too young"),
      attachingReport "name" "Long" (.text "too short")]

/-- The same form with the age first and the rules of the name the other way round. -/
def ageFirst :
    Validation :=
  formOf
    [attachingReport "age" "Adult" (.text "too young"),
      attachingReport "name" "Long" (.text "too short"),
      attachingReport "name" "Unique" (.text "taken")]

def reporting
    (name : String) (message : Value) :
    Descriptor :=
  ⟨.handler (.ofClass ((Stock.always [message]).toClass name)), [], "", .null⟩

theorem answer_reporting
    (name : String) (message : Value) (surroundings : Surroundings) (registry : Registry)
    (fields : Fields) (key : String) :
    (reporting name message).answer surroundings registry fields key = .ok (name, [message]) :=
  rfl

theorem nameFirst_condition?
    {field : String} {condition : Condition} (found : nameFirst.condition? field = some condition) :
    (field = "name" ∧
        condition.rules =
          [reporting "Unique" (.text "taken"), reporting "Long" (.text "too short")]) ∨
      (field = "age" ∧ condition.rules = [reporting "Adult" (.text "too young")]) := by
  have held := nameFirst.conditions.find?_eq_some_iff_mem.mp found
  rcases List.mem_cons.mp held with first | later
  · obtain ⟨rfl, rfl⟩ := Prod.mk.inj first
    exact Or.inl ⟨rfl, rfl⟩
  · obtain ⟨rfl, rfl⟩ := Prod.mk.inj (List.mem_singleton.mp later)
    exact Or.inr ⟨rfl, rfl⟩

theorem nameFirst_rearranges_ageFirst :
    nameFirst.Rearranges ageFirst := by
  have noRules : nameFirst.registry = .empty := rfl
  have noRulesToo : ageFirst.registry = .empty := rfl
  refine ⟨(formOf_settings _).trans (formOf_settings _).symm, noRules.trans noRulesToo.symm,
    List.Perm.swap "age" "name" [], ?_⟩
  intro field first second found foundToo
  have ofName :
      ageFirst.condition? "name" =
        some ⟨"validation",
          [reporting "Long" (.text "too short"), reporting "Unique" (.text "taken")], []⟩ :=
    rfl
  have ofAge :
      ageFirst.condition? "age" =
        some ⟨"validation", [reporting "Adult" (.text "too young")], []⟩ :=
    rfl
  rcases nameFirst_condition? found with ⟨rfl, rules⟩ | ⟨rfl, rules⟩
  · rw [ofName, Option.some.injEq] at foundToo
    rw [rules, ← foundToo]
    exact List.Perm.swap _ _ []
  · rw [ofAge, Option.some.injEq] at foundToo
    rw [rules, ← foundToo]

theorem nameFirst_everyRuleAnswers :
    nameFirst.EveryRuleAnswers quietSurroundings [] := by
  intro field condition found descriptor member
  rcases nameFirst_condition? found with ⟨rfl, rules⟩ | ⟨rfl, rules⟩ <;> rw [rules] at member
  · simp only [List.mem_cons, List.not_mem_nil, or_false] at member
    rcases member with rfl | rfl <;> exact ⟨_, answer_reporting ..⟩
  · obtain rfl := List.mem_singleton.mp member
    exact ⟨_, answer_reporting ..⟩

/-- With nothing filled in both forms find the same messages. -/
theorem nameFirst_run_as_ageFirst :
    ∃ nameFirstResult ageFirstResult,
      (nameFirst.run quietSurroundings [] (some false)).result = .ok nameFirstResult ∧
        (ageFirst.run quietSurroundings [] (some false)).result = .ok ageFirstResult ∧
        nameFirstResult.errors.Rearranges ageFirstResult.errors ∧
        ∀ bailed,
          (ageFirst.run quietSurroundings [] (some true)).result = .ok bailed →
            bailed.ok = nameFirstResult.ok := by
  obtain ⟨returns, errors, ok, _⟩ :=
    Validation.run_of_rearranged nameFirst_rearranges_ageFirst (formOf_sharesPrefix _)
      (formOf_sharesPrefix _) quietSurroundings [] nameFirst_everyRuleAnswers
  have returned :
      (nameFirst.run quietSurroundings [] (some false)).result =
        .ok ⟨false, [("name", ["taken", "too short"]), ("age", ["too young"])],
          ["name", "age"]⟩ :=
    rfl
  obtain ⟨ageFirstResult, returnedToo⟩ := returns.mp ⟨_, returned⟩
  refine ⟨_, ageFirstResult, returned, returnedToo, errors _ _ returned returnedToo, ?_⟩
  intro bailed bailReturned
  exact ok ageFirst (by simp) nameFirst (by simp) _ _ _ _ bailReturned returned

/-- A form with an age that has two rules, of which the second one reports a number. -/
def numberLast :
    Validation :=
  formOf
    [attachingReport "age" "Adult" (.text "too young"), attachingReport "age" "Old" (.integer 5)]

def numberFirst :
    Validation :=
  formOf
    [attachingReport "age" "Old" (.integer 5), attachingReport "age" "Adult" (.text "too young")]

theorem numberLast_rearranges_numberFirst :
    numberLast.Rearranges numberFirst := by
  have noRules : numberLast.registry = .empty := rfl
  have noRulesToo : numberFirst.registry = .empty := rfl
  have onlyAge : numberLast.fields = ["age"] := rfl
  have onlyAgeToo : numberFirst.fields = ["age"] := rfl
  refine ⟨(formOf_settings _).trans (formOf_settings _).symm, noRules.trans noRulesToo.symm,
    List.Perm.of_eq (onlyAge.trans onlyAgeToo.symm), ?_⟩
  intro field first second found foundToo
  have held := numberLast.conditions.find?_eq_some_iff_mem.mp found
  have heldToo := numberFirst.conditions.find?_eq_some_iff_mem.mp foundToo
  obtain ⟨rfl, rfl⟩ := Prod.mk.inj (List.mem_singleton.mp held)
  obtain ⟨-, rfl⟩ := Prod.mk.inj (List.mem_singleton.mp heldToo)
  exact List.Perm.swap (reporting "Old" (.integer 5)) (reporting "Adult" (.text "too young")) []

/-- A run that comes to a message that is a number has no result. So the order of two rules decides
whether a run that bails has one, though no rule breaks off. -/
theorem not_run_of_every_rearrangement :
    ¬ ∀ (left right : Validation) (surroundings : Surroundings) (fields : Fields),
        left.Rearranges right → left.SharesPrefix → right.SharesPrefix →
          left.EveryRuleAnswers surroundings fields →
            ∃ leftFull rightFull leftBailed rightBailed,
              (left.run surroundings fields (some false)).result = .ok leftFull ∧
                (right.run surroundings fields (some false)).result = .ok rightFull ∧
                (left.run surroundings fields (some true)).result = .ok leftBailed ∧
                (right.run surroundings fields (some true)).result = .ok rightBailed ∧
                leftFull.ok = rightFull.ok ∧ leftFull.errors.Rearranges rightFull.errors ∧
                leftBailed.ok = leftFull.ok ∧ rightBailed.ok = rightFull.ok := by
  intro agree
  have answers : numberLast.EveryRuleAnswers quietSurroundings [] := by
    intro field condition found descriptor member
    have held := numberLast.conditions.find?_eq_some_iff_mem.mp found
    obtain ⟨rfl, rfl⟩ := Prod.mk.inj (List.mem_singleton.mp held)
    have inChain :
        descriptor ∈ [reporting "Adult" (.text "too young"), reporting "Old" (.integer 5)] :=
      member
    rcases List.mem_cons.mp inChain with rfl | later
    · exact ⟨_, answer_reporting ..⟩
    · obtain rfl := List.mem_singleton.mp later
      exact ⟨_, answer_reporting ..⟩
  obtain ⟨_, _, _, rightBailed, _, _, _, returned, _⟩ :=
    agree numberLast numberFirst quietSurroundings [] numberLast_rearranges_numberFirst
      (formOf_sharesPrefix _) (formOf_sharesPrefix _) answers
  have refused :
      (numberFirst.run quietSurroundings [] (some true)).result =
        .error (.unusableData [⟨.textType, [.name "errors", .name "age", .index 0]⟩]) :=
    rfl
  rw [refused] at returned
  cases returned

end FormRules
