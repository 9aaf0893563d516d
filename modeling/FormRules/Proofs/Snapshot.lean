import FormRules.Proofs.FullRun

/-!
# What conditions hold after a run

A run that has a result leaves in each condition what the result says of its field: its messages if
the field is among those that failed, and nothing otherwise, also if the field was skipped. Whatever
the conditions held before is gone.
-/

namespace FormRules

namespace Progress

variable {evaluate : Condition → String → Evaluation} {bail : Bool}

def HaveTexts
    (outcomes : List Outcome) :
    Prop :=
  ∀ outcome ∈ outcomes, outcome.passed = false → ∃ shown, outcome.message = .text shown

theorem exists_texts_of_haveTexts
    {outcomes : List Outcome} (texts : HaveTexts outcomes) :
    ∃ shown : List String, Condition.recordedMessages outcomes = shown.map .text := by
  induction outcomes with
  | nil => exact ⟨[], rfl⟩
  | cons outcome outcomes inductionHypothesis =>
      rw [HaveTexts, List.forall_mem_cons] at texts
      obtain ⟨first, others⟩ := texts
      obtain ⟨shown, recorded⟩ := inductionHypothesis others
      cases passed : outcome.passed with
      | true =>
          rw [Condition.recordedMessages_cons_of_passed outcomes passed]
          exact ⟨shown, recorded⟩
      | false =>
          obtain ⟨message, isText⟩ := first passed
          by_cases present : outcome.message.isTrue = true
          · rw [Condition.recordedMessages_cons_of_fails outcomes passed present, isText, recorded]
            exact ⟨message :: shown, rfl⟩
          · have notRecorded : outcome.recorded? = none := by
              simp [Outcome.recorded?, present]
            rw [Condition.recordedMessages, List.filterMap_cons_none notRecorded]
            exact ⟨shown, recorded⟩

theorem exists_values_of_haveTexts
    {stopped : Bool} {conditions : List (String × Condition)}
    (texts : ∀ entry ∈ conditions, HaveTexts (evaluate entry.2 entry.1).outcomes) :
    ∃ errors : ErrorBag,
      (ofConditions evaluate bail stopped conditions).errors = errors.values := by
  induction conditions generalizing stopped with
  | nil => cases stopped <;> exact ⟨[], rfl⟩
  | cons entry rest inductionHypothesis =>
      obtain ⟨key, condition⟩ := entry
      rw [List.forall_mem_cons] at texts
      obtain ⟨first, others⟩ := texts
      cases stopped with
      | true =>
          rw [ofConditions]
          exact inductionHypothesis others
      | false =>
          cases refused : (evaluate condition key).refusal with
          | some refusal =>
              refine ⟨[], ?_⟩
              rw [ofConditions]
              simp [refused, ErrorBag.values]
          | none =>
              rw [ofConditions_cons_of_evaluated evaluate bail rest
                (Evaluation.eq_of_finished refused), errors_afterChecking]
              obtain ⟨errors, later⟩ := inductionHypothesis others
              obtain ⟨shown, recorded⟩ := exists_texts_of_haveTexts first
              rw [later, failuresOf]
              split
              · exact ⟨errors, rfl⟩
              · rw [recorded]
                exact ⟨(key, shown) :: errors, rfl⟩

/-- Conditions that hold messages of their own fields only hold none of any other field. -/
theorem lookup_flatMap_errors_of_absent
    {conditions : List (String × Condition)} {key : String}
    (held : ∀ entry ∈ conditions, HoldsOnly entry.1 entry.2)
    (absent : key ∉ conditions.map Prod.fst) :
    (conditions.flatMap fun entry => entry.2.errors).lookup key = none := by
  rw [List.lookup_eq_none_iff]
  intro pair inErrors
  obtain ⟨entry, member, ofEntry⟩ := List.mem_flatMap.mp inErrors
  have different : key ≠ entry.1 := fun same =>
    absent (List.mem_map.mpr ⟨entry, member, same.symm⟩)
  rcases held entry member with nothing | ⟨messages, something⟩
  · rw [nothing] at ofEntry
    cases ofEntry
  · rw [something, List.mem_singleton] at ofEntry
    simpa [ofEntry] using different

/-- Where conditions hold messages of their own fields only, those of a field are found with its
condition. -/
theorem lookup_flatMap_errors
    {conditions : List (String × Condition)}
    (distinct : (conditions.map Prod.fst).Nodup)
    (held : ∀ entry ∈ conditions, HoldsOnly entry.1 entry.2)
    {key : String} {condition : Condition} (member : (key, condition) ∈ conditions) :
    (conditions.flatMap fun entry => entry.2.errors).lookup key = condition.errors.lookup key := by
  induction conditions with
  | nil => cases member
  | cons entry rest inductionHypothesis =>
      rw [List.map_cons, List.nodup_cons] at distinct
      obtain ⟨fresh, restDistinct⟩ := distinct
      rw [List.forall_mem_cons] at held
      obtain ⟨first, others⟩ := held
      rw [List.flatMap_cons, List.lookup_append]
      rcases List.mem_cons.mp member with rfl | later
      · rw [lookup_flatMap_errors_of_absent others fresh, Option.or_none]
      · -- The first condition is that of another field, so nothing is found with it.
        have inRest : key ∈ rest.map Prod.fst := List.mem_map.mpr ⟨_, later, rfl⟩
        have own : (([entry] : List (String × Condition)).flatMap
            fun entry => entry.2.errors).lookup key = none := by
          refine lookup_flatMap_errors_of_absent (by simpa using first) ?_
          rw [List.map_singleton, List.mem_singleton]
          rintro rfl
          exact fresh inRest
        rw [List.flatMap_singleton] at own
        rw [own, Option.none_or]
        exact inductionHypothesis restDistinct others later

end Progress

/-- What the condition of a field is to hold if these are the messages of the latest run. -/
def ErrorBag.snapshot
    (errors : ErrorBag) (field : String) :
    List (String × List Value) :=
  match errors.lookup field with
  | some messages => [(field, messages.map .text)]
  | none => []

theorem ErrorBag.lookup_values
    (errors : ErrorBag) (field : String) :
    errors.values.lookup field = (errors.lookup field).map (List.map .text) := by
  induction errors with
  | nil => rfl
  | cons row rows inductionHypothesis =>
      rw [values, List.map_cons, List.lookup_cons, List.lookup_cons]
      split
      · rfl
      · exact inductionHypothesis

/-- A condition with messages of its own field only holds what is found there. -/
theorem Progress.HoldsOnly.errors_eq_snapshot
    {key : String} {condition : Condition} (held : HoldsOnly key condition) {errors : ErrorBag}
    (found : errors.values.lookup key = condition.errors.lookup key) :
    condition.errors = errors.snapshot key := by
  rw [ErrorBag.lookup_values] at found
  unfold ErrorBag.snapshot
  rcases held with nothing | ⟨messages, something⟩
  · rw [nothing, List.lookup_nil, Option.map_eq_none_iff] at found
    rw [nothing, found]
  · rw [something, List.lookup_cons_self, Option.map_eq_some_iff] at found
    obtain ⟨shown, isThere, rfl⟩ := found
    rw [something, isThere]

namespace Validation

variable {validation : Validation} {surroundings : Surroundings} {fields : Fields}

theorem entries_run
    (validation : Validation) (surroundings : Surroundings) (fields : Fields)
    (bail : Option Bool) :
    (validation.run surroundings fields bail).validation.conditions.entries =
      (validation.progress surroundings fields
        (bail.getD validation.settings.bail)).conditions := by
  unfold run
  cases refused :
      (validation.progress surroundings fields (bail.getD validation.settings.bail)).refusal <;>
    simp only [refused] <;> rfl

theorem fields_run
    (validation : Validation) (surroundings : Surroundings) (fields : Fields)
    (bail : Option Bool) :
    (validation.run surroundings fields bail).validation.fields = validation.fields := by
  rw [Validation.fields, Roster.names, entries_run]
  exact Progress.keys_ofConditions _ _ _ _

/-- The messages of a run that is not refused are those that the conditions hold after it, each
those of its own field. -/
theorem errors_progress
    {bail : Bool}
    (finished : (validation.progress surroundings fields bail).refusal = none) :
    (∀ entry ∈ (validation.progress surroundings fields bail).conditions,
        Progress.HoldsOnly entry.1 entry.2) ∧
      (validation.progress surroundings fields bail).errors =
        (validation.progress surroundings fields bail).conditions.flatMap
          fun entry => entry.2.errors :=
  Progress.errors_eq_flatMap_conditions
    (fun entry _ => Condition.haveMessages_evaluate entry.2 bail) finished

theorem UsesTexts.exists_values
    (texts : validation.UsesTexts surroundings fields) (bail : Bool) :
    ∃ errors : ErrorBag,
      (validation.progress surroundings fields bail).errors = errors.values := by
  refine Progress.exists_values_of_haveTexts fun entry member outcome ofEntry failed => ?_
  have found := validation.conditions.find?_eq_some_iff_mem.mpr member
  obtain ⟨descriptor, inChain, evaluated⟩ := Condition.exists_rule_of_mem_outcomes ofEntry
  obtain ⟨shown, _, message⟩ :=
    Condition.exists_text_of_evaluateRule (texts _ _ found descriptor inChain) evaluated failed
  exact ⟨shown, message⟩

/-- After a run with a result every condition holds the messages that the result has for its field,
whatever it held before and be the field checked or skipped, and these are all messages of the
result. -/
theorem run_snapshots_agree
    (validation : Validation) (surroundings : Surroundings) (fields : Fields)
    (bail : Option Bool) (result : ValidationResult)
    (texts : validation.UsesTexts surroundings fields)
    (returned : (validation.run surroundings fields bail).result = .ok result) :
    (∀ field ∈ validation.fields,
        ∃ condition,
          (validation.run surroundings fields bail).validation.condition? field =
              some condition ∧
            condition.errors = result.errors.snapshot field) ∧
      result.errors.values =
        (validation.run surroundings fields bail).validation.conditions.entries.flatMap
          fun entry => entry.2.errors := by
  have hasResult := returned
  rw [result_run] at hasResult
  obtain ⟨finished, _⟩ := Progress.finished_of_result hasResult
  obtain ⟨held, union⟩ := errors_progress finished
  obtain ⟨errors, shown⟩ := texts.exists_values (bail.getD validation.settings.bail)
  have ofResult : result.errors = errors := by
    rw [Progress.result_of_texts finished shown rfl, Except.ok.injEq] at hasResult
    rw [← hasResult]
  rw [shown] at union
  rw [ofResult, entries_run]
  refine ⟨fun field configured => ?_, union⟩
  rw [← fields_run validation surroundings fields bail] at configured
  obtain ⟨⟨_, condition⟩, member, rfl⟩ := List.mem_map.mp configured
  have found :=
    (validation.run surroundings fields bail).validation.conditions.find?_eq_some_iff_mem.mpr
      member
  have distinct :=
    (validation.run surroundings fields bail).validation.conditions.names_nodup
  rw [entries_run] at member distinct
  refine ⟨condition, found, (held _ member).errors_eq_snapshot ?_⟩
  rw [union]
  exact Progress.lookup_flatMap_errors distinct held member

end Validation

/-! ## A form with older messages -/

/-- A form whose conditions hold messages of earlier checks, one of them for another field. -/
def usedForm :
    Validation :=
  ⟨.initial, .empty,
    ⟨[("name",
        ⟨"form", [⟨.handler (.ofClass ((Stock.always [.text "taken"]).toClass "Unique")), [], "",
            .null⟩],
          [("nickname", [.text "too short"])]⟩),
      ("age",
        ⟨"form", [⟨.handler (.ofClass ((Stock.always [.null]).toClass "Adult")), [], "", .null⟩],
          [("age", [.text "too young"])]⟩)],
      by simp⟩⟩

theorem usedForm_usesTexts :
    usedForm.UsesTexts quietSurroundings [] := by
  intro field condition found descriptor member
  have held := usedForm.conditions.find?_eq_some_iff_mem.mp found
  simp only [usedForm, List.mem_cons, List.not_mem_nil, or_false, Prod.mk.injEq] at held
  rcases held with ⟨rfl, rfl⟩ | ⟨rfl, rfl⟩
  · obtain rfl := List.mem_singleton.mp member
    exact Descriptor.usesTexts_of_answer rfl rfl (by simp [Value.isMessage])
  · obtain rfl := List.mem_singleton.mp member
    exact Descriptor.usesTexts_of_answer rfl rfl (by simp [Value.isMessage])

/-- A run of the form that bails at the name skips the age. -/
theorem usedForm_snapshots_agree :
    usedForm.UsesTexts quietSurroundings [] ∧
      (usedForm.run quietSurroundings [] (some true)).result =
        .ok ⟨false, [("name", ["taken"])], ["name"]⟩ ∧
      ∀ field ∈ usedForm.fields,
        ∃ condition,
          (usedForm.run quietSurroundings [] (some true)).validation.condition? field =
              some condition ∧
            condition.errors = ErrorBag.snapshot [("name", ["taken"])] field :=
  ⟨usedForm_usesTexts, rfl,
    (usedForm.run_snapshots_agree quietSurroundings [] (some true) _ usedForm_usesTexts rfl).1⟩

end FormRules
