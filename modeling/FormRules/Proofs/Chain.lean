import FormRules.Proofs.Answer
import Mathlib.Data.List.Forall2

/-!
# Chains of rules

A chain is evaluated rule by rule. Rules that pass only add their outcomes in front of what the rest
of the chain gives, whether the evaluation is to bail or not. An evaluation that does not bail and
does not break off has one outcome for each rule, and a chain fails exactly if it has messages to
record.
-/

namespace FormRules

namespace Condition

section Evaluation

variable {evaluateOne : Descriptor → Except Refusal Outcome}

/-- A rule passes: it has an outcome, and this is that of a passed rule. -/
def Passes
    (evaluateOne : Descriptor → Except Refusal Outcome) (descriptor : Descriptor) :
    Prop :=
  ∃ outcome, evaluateOne descriptor = .ok outcome ∧ outcome.passed = true

/-- Passing rules add passed outcomes and do not end the evaluation, be it to bail or not. -/
theorem exists_evaluateChain_append
    {before : List Descriptor}
    (passing : ∀ descriptor ∈ before, Passes evaluateOne descriptor) :
    ∃ passed, allPassed passed = true ∧
      ∀ bail rest,
        evaluateChain evaluateOne bail (before ++ rest) =
          ⟨passed ++ (evaluateChain evaluateOne bail rest).outcomes,
            (evaluateChain evaluateOne bail rest).refusal⟩ := by
  induction before with
  | nil => exact ⟨[], rfl, fun _ _ => rfl⟩
  | cons descriptor before inductionHypothesis =>
      rw [List.forall_mem_cons] at passing
      obtain ⟨⟨outcome, evaluated, outcomePassed⟩, othersPass⟩ := passing
      obtain ⟨passed, allPass, evaluation⟩ := inductionHypothesis othersPass
      refine ⟨outcome :: passed, ?_, fun bail rest => ?_⟩
      · simpa [allPassed, outcomePassed] using allPass
      · rw [List.cons_append, evaluateChain, evaluated]
        simp only [outcomePassed, Bool.not_true, Bool.and_false, Bool.false_eq_true, if_false]
        rw [evaluation bail rest]
        rfl

theorem evaluateChain_cons_of_fails
    {descriptor : Descriptor} {outcome : Outcome} (rest : List Descriptor)
    (evaluated : evaluateOne descriptor = .ok outcome) (failed : outcome.passed = false) :
    evaluateChain evaluateOne true (descriptor :: rest) = ⟨[outcome], none⟩ := by
  rw [evaluateChain, evaluated]
  simp [failed]

theorem evaluateChain_false_cons
    {descriptor : Descriptor} {outcome : Outcome} (rest : List Descriptor)
    (evaluated : evaluateOne descriptor = .ok outcome) :
    evaluateChain evaluateOne false (descriptor :: rest) =
      (evaluateChain evaluateOne false rest).precededBy outcome := by
  rw [evaluateChain, evaluated]
  rfl

theorem evaluateChain_cons_of_error
    {descriptor : Descriptor} {refusal : Refusal} (bail : Bool) (rest : List Descriptor)
    (refused : evaluateOne descriptor = .error refusal) :
    evaluateChain evaluateOne bail (descriptor :: rest) = ⟨[], some refusal⟩ := by
  rw [evaluateChain, refused]

/-- Rules that neither break off nor end the evaluation add their outcomes in front of what the rest
of the chain gives. -/
theorem evaluateChain_append_of_unbroken
    {bail : Bool} {before : List Descriptor} (rest : List Descriptor)
    (unbroken : (evaluateChain evaluateOne bail before).refusal = none)
    (passing : bail = true → allPassed (evaluateChain evaluateOne bail before).outcomes = true) :
    evaluateChain evaluateOne bail (before ++ rest) =
      ⟨(evaluateChain evaluateOne bail before).outcomes ++
          (evaluateChain evaluateOne bail rest).outcomes,
        (evaluateChain evaluateOne bail rest).refusal⟩ := by
  induction before with
  | nil => rfl
  | cons descriptor before inductionHypothesis =>
      rw [evaluateChain] at unbroken passing
      rw [List.cons_append, evaluateChain, evaluateChain]
      cases evaluated : evaluateOne descriptor with
      | error refusal =>
          rw [evaluated] at unbroken
          cases unbroken
      | ok outcome =>
          simp only [evaluated] at unbroken passing ⊢
          by_cases stops : (bail && !outcome.passed) = true
          · -- An evaluation that is to bail would have ended at a failed rule.
            obtain ⟨bails, failed⟩ := Bool.and_eq_true_iff.mp stops
            have passed := passing bails
            rw [if_pos stops] at passed
            simp [allPassed] at passed
            simp [passed] at failed
          · rw [if_neg stops] at unbroken passing ⊢
            rw [if_neg stops]
            have later := inductionHypothesis unbroken fun bails => by
              have passed := passing bails
              simp only [allPassed, Evaluation.precededBy, List.all_cons, Bool.and_eq_true]
                at passed
              exact passed.2
            rw [later]
            rfl

/-- Without `bail`, a chain whose rules all have an outcome has exactly these outcomes. -/
theorem evaluateChain_false_of_forall₂
    {rules : List Descriptor} {outcomes : List Outcome}
    (evaluated :
      List.Forall₂ (fun descriptor outcome => evaluateOne descriptor = .ok outcome)
        rules outcomes) :
    evaluateChain evaluateOne false rules = ⟨outcomes, none⟩ := by
  induction evaluated with
  | nil => rfl
  | cons head _ inductionHypothesis =>
      rw [evaluateChain_false_cons _ head, inductionHypothesis]
      rfl

/-- Without `bail`, an evaluation that does not break off has one outcome for each rule, and these
are all its outcomes. -/
theorem toExcept_evaluateChain_false_eq_ok_iff
    {rules : List Descriptor} {outcomes : List Outcome} :
    (evaluateChain evaluateOne false rules).toExcept = .ok outcomes ↔
      List.Forall₂ (fun descriptor outcome => evaluateOne descriptor = .ok outcome)
        rules outcomes := by
  constructor
  · intro returned
    induction rules generalizing outcomes with
    | nil =>
        cases returned
        exact .nil
    | cons descriptor rest inductionHypothesis =>
        cases evaluated : evaluateOne descriptor with
        | error refusal =>
            rw [evaluateChain_cons_of_error false rest evaluated] at returned
            cases returned
        | ok outcome =>
            rw [evaluateChain_false_cons rest evaluated, Evaluation.toExcept] at returned
            cases ended : (evaluateChain evaluateOne false rest).refusal with
            | some refusal => simp [Evaluation.precededBy, ended] at returned
            | none =>
                simp only [Evaluation.precededBy, ended, Except.ok.injEq] at returned
                subst returned
                refine .cons evaluated (inductionHypothesis ?_)
                rw [Evaluation.toExcept, ended]
  · intro evaluated
    rw [evaluateChain_false_of_forall₂ evaluated]
    rfl

theorem exists_rule_of_mem_outcomes
    {bail : Bool} {rules : List Descriptor} {outcome : Outcome}
    (member : outcome ∈ (evaluateChain evaluateOne bail rules).outcomes) :
    ∃ descriptor ∈ rules, evaluateOne descriptor = .ok outcome := by
  induction rules with
  | nil => simp [evaluateChain] at member
  | cons descriptor rest inductionHypothesis =>
      rw [evaluateChain] at member
      cases evaluated : evaluateOne descriptor with
      | error refusal => simp [evaluated] at member
      | ok head =>
          have headHas : ∃ rule ∈ descriptor :: rest, evaluateOne rule = .ok head :=
            ⟨descriptor, List.mem_cons_self, evaluated⟩
          simp only [evaluated] at member
          split at member
          · rw [List.mem_singleton] at member
            exact member ▸ headHas
          · rcases List.mem_cons.mp member with same | later
            · exact same ▸ headHas
            · obtain ⟨rule, inRest, ruleEvaluated⟩ := inductionHypothesis later
              exact ⟨rule, List.mem_cons_of_mem descriptor inRest, ruleEvaluated⟩

end Evaluation

section Messages

theorem recordedMessages_of_allPassed
    {outcomes : List Outcome} (passed : allPassed outcomes = true) :
    recordedMessages outcomes = [] := by
  rw [allPassed, List.all_eq_true] at passed
  rw [recordedMessages, List.filterMap_eq_nil_iff]
  intro outcome member
  simp [Outcome.recorded?, passed outcome member]

theorem recordedMessages_append
    (left right : List Outcome) :
    recordedMessages (left ++ right) = recordedMessages left ++ recordedMessages right :=
  List.filterMap_append

theorem recordedMessages_cons_of_fails
    {outcome : Outcome} (outcomes : List Outcome)
    (failed : outcome.passed = false) (present : outcome.message.isTrue = true) :
    recordedMessages (outcome :: outcomes) = outcome.message :: recordedMessages outcomes := by
  have recorded : outcome.recorded? = some outcome.message := by
    simp [Outcome.recorded?, failed, present]
  rw [recordedMessages, List.filterMap_cons_some recorded]
  rfl

theorem recordedMessages_cons_of_passed
    {outcome : Outcome} (outcomes : List Outcome) (passed : outcome.passed = true) :
    recordedMessages (outcome :: outcomes) = recordedMessages outcomes := by
  have notRecorded : outcome.recorded? = none := by
    simp [Outcome.recorded?, passed]
  rw [recordedMessages, List.filterMap_cons_none notRecorded]
  rfl

/-- Nothing is recorded exactly if every rule passed, for a failed rule has a message. -/
theorem recordedMessages_eq_nil_iff
    {outcomes : List Outcome}
    (present : ∀ outcome ∈ outcomes, outcome.passed = false → outcome.message.isTrue = true) :
    recordedMessages outcomes = [] ↔ allPassed outcomes = true := by
  refine ⟨fun nothing => ?_, recordedMessages_of_allPassed⟩
  rw [recordedMessages, List.filterMap_eq_nil_iff] at nothing
  rw [allPassed, List.all_eq_true]
  intro outcome member
  by_contra failed
  rw [Bool.not_eq_true] at failed
  have message := present outcome member failed
  simpa [Outcome.recorded?, failed, message] using nothing outcome member

end Messages

end Condition

end FormRules
