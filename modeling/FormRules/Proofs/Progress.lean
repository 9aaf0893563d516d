import FormRules.Proofs.Chain
import FormRules.Proofs.Result
import FormRules.Validation.Run

/-!
# Progress of runs

What a field adds to a run: a checked field adds itself and, if a rule failed, its messages; a
skipped field adds nothing. What a condition records is the same messages, so that after a run that
is not refused the messages of the run are those held by the conditions.
-/

namespace FormRules

/-- An evaluation that did not break off is made of its outcomes. -/
theorem Evaluation.eq_of_finished
    {evaluation : Evaluation} (finished : evaluation.refusal = none) :
    evaluation = ⟨evaluation.outcomes, none⟩ := by
  rw [← finished]

namespace Progress

def failuresOf
    (key : String) (outcomes : List Outcome) :
    List (String × List Value) :=
  if Condition.allPassed outcomes then [] else [(key, Condition.recordedMessages outcomes)]

def HaveMessages
    (outcomes : List Outcome) :
    Prop :=
  ∀ outcome ∈ outcomes, outcome.passed = false → outcome.message.isTrue = true

/-- A condition records the messages that its field adds to the run, though the two are filtered in
different ways. -/
theorem errors_record
    (condition : Condition) (key : String) {outcomes : List Outcome}
    (messages : HaveMessages outcomes) :
    (condition.record key outcomes).errors = failuresOf key outcomes := by
  have nothing := Condition.recordedMessages_eq_nil_iff messages
  by_cases passed : Condition.allPassed outcomes = true
  · rw [failuresOf, if_pos passed]
    simp [Condition.record, nothing.mpr passed]
  · have something : Condition.recordedMessages outcomes ≠ [] := fun none =>
      passed (nothing.mp none)
    rw [failuresOf, if_neg passed]
    simp [Condition.record, something]

/-- With a failed outcome among them, outcomes are not all those of passed rules. -/
theorem allPassed_append_cons_of_fails
    (passed : List Outcome) {outcome : Outcome} (later : List Outcome)
    (failed : outcome.passed = false) :
    Condition.allPassed (passed ++ outcome :: later) = false := by
  simp [Condition.allPassed, failed]

/-- The message of the first failed outcome is the first message that a field adds. -/
theorem failuresOf_append_cons
    (key : String) {passed : List Outcome} {outcome : Outcome} (later : List Outcome)
    (allPass : Condition.allPassed passed = true) (failed : outcome.passed = false)
    (present : outcome.message.isTrue = true) :
    failuresOf key (passed ++ outcome :: later) =
      [(key, outcome.message :: Condition.recordedMessages later)] := by
  have notAllPassed := allPassed_append_cons_of_fails passed later failed
  rw [failuresOf, if_neg (by simp [notAllPassed]), Condition.recordedMessages_append,
    Condition.recordedMessages_of_allPassed allPass,
    Condition.recordedMessages_cons_of_fails later failed present]
  rfl

variable (evaluate : Condition → String → Evaluation) (bail : Bool)

/-- A run that has stopped checks no further field, finds nothing more and is not refused. -/
theorem ofConditions_stopped
    (conditions : List (String × Condition)) :
    (ofConditions evaluate bail true conditions).checked = [] ∧
      (ofConditions evaluate bail true conditions).errors = [] ∧
      (ofConditions evaluate bail true conditions).refusal = none := by
  induction conditions with
  | nil => exact ⟨rfl, rfl, rfl⟩
  | cons entry rest inductionHypothesis => exact inductionHypothesis

/-- A field whose evaluation does not break off is followed by the fields after it. -/
theorem ofConditions_cons_of_evaluated
    {key : String} {condition : Condition} {outcomes : List Outcome}
    (rest : List (String × Condition))
    (evaluated : evaluate condition key = ⟨outcomes, none⟩) :
    ofConditions evaluate bail false ((key, condition) :: rest) =
      (ofConditions evaluate bail (bail && !Condition.allPassed outcomes) rest).afterChecking
        key condition outcomes ((evaluate condition key).notes key) := by
  rw [ofConditions]
  simp [evaluated]

/-- A field whose evaluation breaks off ends the run. -/
theorem ofConditions_cons_of_refused
    {key : String} {condition : Condition} {refusal : Refusal}
    (rest : List (String × Condition))
    (refused : (evaluate condition key).refusal = some refusal) :
    (ofConditions evaluate bail false ((key, condition) :: rest)).refusal = some refusal := by
  rw [ofConditions]
  simp [refused]

theorem errors_afterChecking
    (key : String) (condition : Condition) (outcomes : List Outcome) (notes : List Note)
    (later : Progress) :
    (later.afterChecking key condition outcomes notes).errors =
      failuresOf key outcomes ++ later.errors :=
  rfl

/-- A condition holds nothing, or only messages of the given field. -/
def HoldsOnly
    (key : String) (condition : Condition) :
    Prop :=
  condition.errors = [] ∨ ∃ messages, condition.errors = [(key, messages)]

theorem holdsOnly_record
    (condition : Condition) (key : String) (outcomes : List Outcome) :
    HoldsOnly key (condition.record key outcomes) := by
  unfold HoldsOnly Condition.record
  by_cases nothing : (Condition.recordedMessages outcomes).isEmpty = true
  · exact Or.inl (by simp [nothing])
  · exact Or.inr ⟨Condition.recordedMessages outcomes, by simp [nothing]⟩

variable {evaluate : Condition → String → Evaluation} {bail : Bool}

/-- After a run that is not refused each condition holds nothing but messages of its own field, and
the messages of the run are those that the conditions hold. -/
theorem errors_eq_flatMap_conditions
    {stopped : Bool} {conditions : List (String × Condition)}
    (messages : ∀ entry ∈ conditions, HaveMessages (evaluate entry.2 entry.1).outcomes)
    (finished : (ofConditions evaluate bail stopped conditions).refusal = none) :
    (∀ entry ∈ (ofConditions evaluate bail stopped conditions).conditions,
        HoldsOnly entry.1 entry.2) ∧
      (ofConditions evaluate bail stopped conditions).errors =
        (ofConditions evaluate bail stopped conditions).conditions.flatMap
          fun entry => entry.2.errors := by
  -- The flag is left open, for a failed field stops the run for the fields after it.
  induction conditions generalizing stopped with
  | nil => cases stopped <;> exact ⟨by simp [ofConditions, done], rfl⟩
  | cons entry rest inductionHypothesis =>
      obtain ⟨key, condition⟩ := entry
      rw [List.forall_mem_cons] at messages
      obtain ⟨first, others⟩ := messages
      cases stopped with
      | true =>
          rw [ofConditions] at finished ⊢
          obtain ⟨held, errors⟩ := inductionHypothesis others finished
          refine ⟨?_, ?_⟩
          · exact List.forall_mem_cons.mpr ⟨holdsOnly_record condition key [], held⟩
          · exact errors
      | false =>
          cases refused : (evaluate condition key).refusal with
          | some refusal =>
              rw [ofConditions_cons_of_refused evaluate bail rest refused] at finished
              cases finished
          | none =>
              rw [ofConditions_cons_of_evaluated evaluate bail rest
                (Evaluation.eq_of_finished refused)] at finished ⊢
              obtain ⟨held, errors⟩ := inductionHypothesis others finished
              refine ⟨?_, ?_⟩
              · exact List.forall_mem_cons.mpr ⟨holdsOnly_record condition key _, held⟩
              · rw [errors_afterChecking, errors, ← errors_record condition key first]
                rfl

def result
    (progress : Progress) :
    Except Refusal ValidationResult :=
  match progress.refusal with
  | some refusal => .error refusal
  | none =>
      (ValidationResult.ofRun progress.errors progress.checked).mapError Refusal.unusableData

theorem result_of_refused
    {progress : Progress} {refusal : Refusal} (refused : progress.refusal = some refusal) :
    progress.result = .error refusal := by
  simp [result, refused]

/-- Messages that are texts are those of the result. -/
theorem result_of_texts
    {progress : Progress} {errors : ErrorBag} {checked : List String}
    (finished : progress.refusal = none) (found : progress.errors = errors.values)
    (fieldsChecked : progress.checked = checked) :
    progress.result = .ok ⟨errors.isEmpty, errors, checked⟩ := by
  simp only [result, finished]
  rw [found, fieldsChecked, ValidationResult.ofRun_values]
  rfl

/-- A run with a result was not refused, and the result is made of its messages. -/
theorem finished_of_result
    {progress : Progress} {returned : ValidationResult}
    (hasResult : progress.result = .ok returned) :
    progress.refusal = none ∧
      ValidationResult.ofRun progress.errors progress.checked = .ok returned := by
  unfold result at hasResult
  cases refused : progress.refusal with
  | some refusal => simp [refused] at hasResult
  | none =>
      refine ⟨rfl, ?_⟩
      simp only [refused] at hasResult
      cases read : ValidationResult.ofRun progress.errors progress.checked with
      | error issues => simp [read, Except.mapError] at hasResult
      | ok found => simpa [read, Except.mapError] using hasResult

section Across

variable (surroundings : Surroundings) (registry : Registry) (fields : Fields)

/-- The progress over the conditions of fields in a run that is to bail or not. -/
def across
    (bail : Bool) (conditions : List (String × Condition)) :
    Progress :=
  ofConditions
    (fun condition key => condition.evaluate surroundings registry fields key bail)
    bail false conditions

variable {surroundings : Surroundings} {registry : Registry} {fields : Fields}

/-- A run goes on after a field that is evaluated to its end, unless it is to bail and a rule
failed. -/
theorem across_cons_of_evaluated
    (bail : Bool) {key : String} {condition : Condition} {outcomes : List Outcome}
    (rest : List (String × Condition))
    (evaluated : condition.evaluate surroundings registry fields key bail = ⟨outcomes, none⟩)
    (goesOn : (bail && !Condition.allPassed outcomes) = false) :
    across surroundings registry fields bail ((key, condition) :: rest) =
      (across surroundings registry fields bail rest).afterChecking key condition outcomes
        ((condition.evaluate surroundings registry fields key bail).notes key) := by
  rw [across, ofConditions_cons_of_evaluated _ bail rest evaluated, goesOn]
  rfl

/-- A run that bails ends at the first field with a failed rule. -/
theorem across_true_cons_of_fails
    {key : String} {condition : Condition} {outcomes : List Outcome}
    (rest : List (String × Condition))
    (evaluated : condition.evaluate surroundings registry fields key true = ⟨outcomes, none⟩)
    (fails : Condition.allPassed outcomes = false) :
    (across surroundings registry fields true ((key, condition) :: rest)).checked = [key] ∧
      (across surroundings registry fields true ((key, condition) :: rest)).errors =
        failuresOf key outcomes ∧
      (across surroundings registry fields true ((key, condition) :: rest)).refusal = none := by
  rw [across, ofConditions_cons_of_evaluated _ true rest evaluated, fails, Bool.not_false,
    Bool.and_true]
  obtain ⟨nothingChecked, nothingFound, notRefused⟩ :=
    ofConditions_stopped
      (fun condition key => condition.evaluate surroundings registry fields key true) true rest
  refine ⟨?_, ?_, notRefused⟩
  · exact congrArg (key :: ·) nothingChecked
  · rw [errors_afterChecking, nothingFound, List.append_nil]

/-- A field whose evaluation breaks off is the last one of a run. -/
theorem across_cons_of_refused
    (bail : Bool) {key : String} {condition : Condition} {refusal : Refusal}
    (rest : List (String × Condition))
    (refused :
      (condition.evaluate surroundings registry fields key bail).refusal = some refusal) :
    (across surroundings registry fields bail ((key, condition) :: rest)).refusal = some refusal :=
  ofConditions_cons_of_refused _ bail rest refused

/-- A full run checks every field if no evaluation breaks off. -/
theorem across_full
    {conditions : List (String × Condition)}
    (evaluated : ∀ entry ∈ conditions,
      (entry.2.evaluate surroundings registry fields entry.1 false).refusal = none) :
    (across surroundings registry fields false conditions).checked = conditions.map Prod.fst ∧
      (across surroundings registry fields false conditions).errors =
        (conditions.flatMap fun entry =>
          failuresOf entry.1
            (entry.2.evaluate surroundings registry fields entry.1 false).outcomes) ∧
      (across surroundings registry fields false conditions).refusal = none := by
  induction conditions with
  | nil => exact ⟨rfl, rfl, rfl⟩
  | cons entry rest inductionHypothesis =>
      obtain ⟨key, condition⟩ := entry
      rw [List.forall_mem_cons] at evaluated
      obtain ⟨first, others⟩ := evaluated
      obtain ⟨checked, errors, refusal⟩ := inductionHypothesis others
      rw [across_cons_of_evaluated false rest (Evaluation.eq_of_finished first)
        (Bool.false_and _)]
      refine ⟨?_, ?_, refusal⟩
      · exact congrArg (key :: ·) checked
      · rw [errors_afterChecking, List.flatMap_cons, errors]

end Across

end Progress

namespace Validation

theorem progress_eq_across
    (validation : Validation) (surroundings : Surroundings) (fields : Fields) (bail : Bool) :
    validation.progress surroundings fields bail =
      Progress.across surroundings validation.registry fields bail validation.conditions.entries :=
  rfl

/-- The result of a run is that of its progress. -/
theorem result_run
    (validation : Validation) (surroundings : Surroundings) (fields : Fields)
    (bail : Option Bool) :
    (validation.run surroundings fields bail).result =
      (validation.progress surroundings fields (bail.getD validation.settings.bail)).result := by
  unfold run Progress.result
  cases refused :
      (validation.progress surroundings fields (bail.getD validation.settings.bail)).refusal with
  | some refusal => simp only [refused]
  | none =>
      simp only [refused]
      cases ValidationResult.ofRun _ _ <;> rfl

end Validation

end FormRules
