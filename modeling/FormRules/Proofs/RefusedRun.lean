import FormRules.Proofs.KeptConfiguration

/-!
# Runs that are refused

A rule that breaks off ends the run at its field. The conditions of the fields before it hold what
this run found for them; those of its own field and of the fields after it hold what they held
before. Nothing else has changed, and no messages by field are reported: the run is refused for the
reason of the rule, and so is the verdict.
-/

namespace FormRules

/-- The reasons for which the evaluation of a rule breaks off: the class is no rule class, the rule
is not known, or the rule itself breaks off. -/
inductive Refusal.IsOfRule :
    Refusal → Prop
  | notARuleClass (rule className : String) : IsOfRule (.notARuleClass rule className)
  | unknownRule (rule : String) : IsOfRule (.unknownRule rule)
  | fault (fault : Fault) : IsOfRule (.fault fault)

theorem Refusal.IsOfRule.ne_failed
    {refusal : Refusal} (ofRule : refusal.IsOfRule) (errors : ErrorBag) :
    refusal ≠ .failed errors := by
  cases ofRule <;> exact fun same => by cases same

theorem Refusal.IsOfRule.ne_unusableData
    {refusal : Refusal} (ofRule : refusal.IsOfRule) (issues : List Issue) :
    refusal ≠ .unusableData issues := by
  cases ofRule <;> exact fun same => by cases same

/-- What is refused of a changed answer is refused of the answer. -/
theorem eq_error_of_map_eq_error {refusal before after : Type}
    {change : before → after} {answer : Except refusal before} {reason : refusal}
    (refused : answer.map change = .error reason) :
    answer = .error reason := by
  cases answer with
  | error found => simpa [Except.map] using refused
  | ok value => simp [Except.map] at refused

/-! ## Why the evaluation of a rule breaks off -/

theorem RuleClass.isOfRule_of_instantiate
    {ruleClass : RuleClass} {name : String} {refusal : Refusal}
    (refused : ruleClass.instantiate name = .error refusal) :
    refusal.IsOfRule := by
  unfold instantiate at refused
  split at refused
  · cases constructed : ruleClass.construct with
    | ok memory => simp [constructed] at refused
    | error fault =>
        simp only [constructed, Except.error.injEq] at refused
        rw [← refused]
        exact .fault fault
  · rw [Except.error.injEq] at refused
    rw [← refused]
    exact .notARuleClass name ruleClass.qualifiedName

theorem Handler.isOfRule_of_toPredicate
    {handler : Handler} {name : String} {refusal : Refusal}
    (refused : handler.toPredicate name = .error refusal) :
    refusal.IsOfRule := by
  cases handler with
  | ofClass ruleClass => exact RuleClass.isOfRule_of_instantiate refused
  | ofCallback callback => cases refused

theorem Registry.isOfRule_of_resolve
    {registry : Registry} {name : String} {refusal : Refusal}
    (refused : registry.resolve name = .error refusal) :
    refusal.IsOfRule := by
  unfold Registry.resolve Registry.get at refused
  cases found : registry.find? name with
  | some handler =>
      simp only [found] at refused
      exact Handler.isOfRule_of_toPredicate refused
  | none =>
      simp only [found, Except.error.injEq] at refused
      rw [← refused]
      exact .unknownRule name

namespace Descriptor

variable {surroundings : Surroundings} {registry : Registry}

theorem isOfRule_of_resolveName
    {name : String} {refusal : Refusal}
    (refused : resolveName surroundings registry name = .error refusal) :
    refusal.IsOfRule := by
  unfold resolveName at refused
  cases path : classAtPath surroundings.catalog name with
  | error fault =>
      simp only [path, Except.error.injEq] at refused
      rw [← refused]
      exact .fault fault
  | ok held =>
      cases held with
      | some ruleClass =>
          simp only [path] at refused
          exact RuleClass.isOfRule_of_instantiate (eq_error_of_map_eq_error refused)
      | none =>
          cases known : Builtin.find? name with
          | some builtin => simp [path, known] at refused
          | none =>
              simp only [path, known] at refused
              split at refused
              · exact Registry.isOfRule_of_resolve (eq_error_of_map_eq_error refused)
              · rw [Except.error.injEq] at refused
                rw [← refused]
                exact .unknownRule name

theorem isOfRule_of_resolve
    {descriptor : Descriptor} {refusal : Refusal}
    (refused : descriptor.resolve surroundings registry = .error refusal) :
    refusal.IsOfRule := by
  unfold resolve at refused
  cases target : descriptor.target with
  | named name =>
      simp only [target] at refused
      exact isOfRule_of_resolveName refused
  | handler handler =>
      simp only [target] at refused
      exact Handler.isOfRule_of_toPredicate (eq_error_of_map_eq_error refused)

end Descriptor

namespace Condition

variable {surroundings : Surroundings} {registry : Registry} {fields : Fields}

theorem isOfRule_of_evaluateRule
    {prefixText key : String} {descriptor : Descriptor} {refusal : Refusal}
    (refused :
      evaluateRule surroundings registry prefixText fields key descriptor = .error refusal) :
    refusal.IsOfRule := by
  unfold evaluateRule at refused
  cases resolved : descriptor.resolve surroundings registry with
  | error reason =>
      simp only [resolved, Except.error.injEq] at refused
      rw [← refused]
      exact Descriptor.isOfRule_of_resolve resolved
  | ok named =>
      obtain ⟨name, rule⟩ := named
      simp only [resolved] at refused
      cases answered : rule ⟨fields, key, descriptor.options⟩ with
      | ok reports => simp [answered] at refused
      | error fault =>
          simp only [answered, Except.error.injEq] at refused
          rw [← refused]
          exact .fault fault

theorem exists_rule_of_refusal
    {evaluateOne : Descriptor → Except Refusal Outcome} {bail : Bool}
    {rules : List Descriptor} {refusal : Refusal}
    (refused : (evaluateChain evaluateOne bail rules).refusal = some refusal) :
    ∃ descriptor ∈ rules, evaluateOne descriptor = .error refusal := by
  induction rules with
  | nil => cases refused
  | cons descriptor rest inductionHypothesis =>
      cases evaluated : evaluateOne descriptor with
      | error reason =>
          rw [evaluateChain_cons_of_error bail rest evaluated, Option.some.injEq] at refused
          rw [← refused]
          exact ⟨descriptor, List.mem_cons_self, evaluated⟩
      | ok outcome =>
          simp only [evaluateChain, evaluated] at refused
          split at refused
          · cases refused
          · obtain ⟨rule, inRest, reason⟩ := inductionHypothesis refused
            exact ⟨rule, List.mem_cons_of_mem descriptor inRest, reason⟩

theorem isOfRule_of_evaluate
    {condition : Condition} {key : String} {bail : Bool} {refusal : Refusal}
    (refused :
      (condition.evaluate surroundings registry fields key bail).refusal = some refusal) :
    refusal.IsOfRule := by
  obtain ⟨descriptor, _, reason⟩ := exists_rule_of_refusal refused
  exact isOfRule_of_evaluateRule reason

variable (surroundings registry fields) in
/-- The condition as a run leaves it that came to the end of its chain: it holds what the run found
for its field. -/
def afterRun
    (condition : Condition) (field : String) (bail : Bool) :
    Condition :=
  { condition with
    errors :=
      Progress.failuresOf field
        (condition.evaluate surroundings registry fields field bail).outcomes }

theorem record_eq_afterRun
    (condition : Condition) (field : String) (bail : Bool) :
    condition.record field
        (condition.evaluate surroundings registry fields field bail).outcomes =
      condition.afterRun surroundings registry fields field bail := by
  have messages :
      Progress.HaveMessages
        (condition.evaluate surroundings registry fields field bail).outcomes :=
    condition.haveMessages_evaluate bail
  rw [afterRun, ← Progress.errors_record condition field messages]
  rfl

variable (surroundings registry fields) in
/-- A run goes on after the field: its chain does not break off, and a run that is to bail meets no
failed rule in it. -/
structure LetsGoOn
    (condition : Condition) (field : String) (bail : Bool) :
    Prop where
  unbroken : (condition.evaluate surroundings registry fields field bail).refusal = none
  passing : bail = true →
    allPassed (condition.evaluate surroundings registry fields field bail).outcomes = true

end Condition

namespace Progress

variable {surroundings : Surroundings} {registry : Registry} {fields : Fields} {bail : Bool}

theorem across_cons_of_letsGoOn
    {field : String} {condition : Condition} (rest : List (String × Condition))
    (goesOn : condition.LetsGoOn surroundings registry fields field bail) :
    (across surroundings registry fields bail ((field, condition) :: rest)).conditions =
        (field, condition.afterRun surroundings registry fields field bail) ::
          (across surroundings registry fields bail rest).conditions ∧
      (across surroundings registry fields bail ((field, condition) :: rest)).refusal =
        (across surroundings registry fields bail rest).refusal := by
  have evaluated := Evaluation.eq_of_finished goesOn.unbroken
  have notStopped :
      (bail && !Condition.allPassed
        (condition.evaluate surroundings registry fields field bail).outcomes) = false := by
    cases bail with
    | false => rfl
    | true => rw [goesOn.passing rfl, Bool.not_true, Bool.and_false]
  rw [across_cons_of_evaluated bail rest evaluated notStopped]
  refine ⟨?_, rfl⟩
  rw [← Condition.record_eq_afterRun]
  rfl

/-- Fields after which a run goes on leave their conditions with what the run found. -/
theorem across_append_of_letsGoOn
    {before : List (String × Condition)} (rest : List (String × Condition))
    (goesOn : ∀ entry ∈ before,
      entry.2.LetsGoOn surroundings registry fields entry.1 bail) :
    (across surroundings registry fields bail (before ++ rest)).conditions =
        before.map (fun entry =>
          (entry.1, entry.2.afterRun surroundings registry fields entry.1 bail)) ++
          (across surroundings registry fields bail rest).conditions ∧
      (across surroundings registry fields bail (before ++ rest)).refusal =
        (across surroundings registry fields bail rest).refusal := by
  induction before with
  | nil => exact ⟨rfl, rfl⟩
  | cons entry before inductionHypothesis =>
      rw [List.forall_mem_cons] at goesOn
      obtain ⟨first, others⟩ := goesOn
      obtain ⟨ownConditions, ownRefusal⟩ := across_cons_of_letsGoOn (before ++ rest) first
      obtain ⟨laterConditions, laterRefusal⟩ := inductionHypothesis others
      rw [List.cons_append, ownConditions, ownRefusal, laterConditions, laterRefusal]
      exact ⟨rfl, rfl⟩

theorem conditions_across_cons_of_refused
    {field : String} {condition : Condition} {refusal : Refusal}
    (rest : List (String × Condition))
    (refused :
      (condition.evaluate surroundings registry fields field bail).refusal = some refusal) :
    (across surroundings registry fields bail ((field, condition) :: rest)).conditions =
      (field, condition) :: rest := by
  rw [across, ofConditions]
  simp [refused]

/-- A run that is refused has come to a field whose chain breaks off. -/
theorem exists_split_of_refused
    {conditions : List (String × Condition)} {refusal : Refusal}
    (refused :
      (across surroundings registry fields bail conditions).refusal = some refusal) :
    ∃ before field condition after,
      conditions = before ++ (field, condition) :: after ∧
        (∀ entry ∈ before, entry.2.LetsGoOn surroundings registry fields entry.1 bail) ∧
        (condition.evaluate surroundings registry fields field bail).refusal =
          some refusal := by
  induction conditions with
  | nil => cases refused
  | cons entry rest inductionHypothesis =>
      obtain ⟨field, condition⟩ := entry
      cases ended : (condition.evaluate surroundings registry fields field bail).refusal with
      | some reason =>
          rw [across_cons_of_refused bail rest ended, Option.some.injEq] at refused
          rw [refused] at ended
          exact ⟨[], field, condition, rest, rfl, by simp, ended⟩
      | none =>
          by_cases goesOn : condition.LetsGoOn surroundings registry fields field bail
          · rw [(across_cons_of_letsGoOn rest goesOn).2] at refused
            obtain ⟨before, found, own, after, split, earlier, breaksOff⟩ :=
              inductionHypothesis refused
            refine ⟨(field, condition) :: before, found, own, after, ?_, ?_, breaksOff⟩
            · rw [split]
              rfl
            · exact List.forall_mem_cons.mpr ⟨goesOn, earlier⟩
          · -- The run has stopped at a failed rule, so that no later field is evaluated.
            have bails : bail = true := by
              by_contra full
              exact goesOn ⟨ended, fun bails => absurd bails full⟩
            subst bails
            have failed :
                Condition.allPassed
                  (condition.evaluate surroundings registry fields field true).outcomes =
                  false := by
              by_contra passed
              rw [Bool.not_eq_false] at passed
              exact goesOn ⟨ended, fun _ => passed⟩
            have stopped :=
              (across_true_cons_of_fails rest (Evaluation.eq_of_finished ended) failed).2.2
            rw [stopped] at refused
            cases refused

end Progress

namespace Validation

/-- A run comes to a field, and the chain of the field breaks off. -/
structure BreaksOffAt
    (validation : Validation) (surroundings : Surroundings) (fields : Fields) (bail : Bool)
    (before : List (String × Condition)) (field : String) (condition : Condition)
    (after : List (String × Condition)) (refusal : Refusal) :
    Prop where
  split : validation.conditions.entries = before ++ (field, condition) :: after
  goesOn : ∀ entry ∈ before,
    entry.2.LetsGoOn surroundings validation.registry fields entry.1 bail
  breaksOff :
    (condition.evaluate surroundings validation.registry fields field bail).refusal =
      some refusal

variable {validation : Validation} {surroundings : Surroundings} {fields : Fields}

theorem BreaksOffAt.refusal_progress
    {bail : Bool} {before after : List (String × Condition)} {field : String}
    {condition : Condition} {refusal : Refusal}
    (stop :
      validation.BreaksOffAt surroundings fields bail before field condition after refusal) :
    (validation.progress surroundings fields bail).refusal = some refusal := by
  rw [progress_eq_across, stop.split,
    (Progress.across_append_of_letsGoOn _ stop.goesOn).2]
  exact Progress.across_cons_of_refused bail after stop.breaksOff

theorem BreaksOffAt.conditions_progress
    {bail : Bool} {before after : List (String × Condition)} {field : String}
    {condition : Condition} {refusal : Refusal}
    (stop :
      validation.BreaksOffAt surroundings fields bail before field condition after refusal) :
    (validation.progress surroundings fields bail).conditions =
      before.map (fun entry =>
        (entry.1,
          entry.2.afterRun surroundings validation.registry fields entry.1 bail)) ++
        (field, condition) :: after := by
  rw [progress_eq_across, stop.split,
    (Progress.across_append_of_letsGoOn _ stop.goesOn).1,
    Progress.conditions_across_cons_of_refused after stop.breaksOff]

/-- A run is refused for another reason than unusable messages exactly if it comes to a field whose
chain breaks off. -/
theorem refused_iff_breaksOffAt
    (bail : Bool) (refusal : Refusal) :
    ((validation.progress surroundings fields bail).result = .error refusal ∧
        ∀ issues, refusal ≠ .unusableData issues) ↔
      ∃ before field condition after,
        validation.BreaksOffAt surroundings fields bail before field condition after
          refusal := by
  constructor
  · rintro ⟨refused, notUnusable⟩
    have ended : (validation.progress surroundings fields bail).refusal = some refusal := by
      cases found : (validation.progress surroundings fields bail).refusal with
      | some reason =>
          rw [Progress.result_of_refused found, Except.error.injEq] at refused
          rw [refused]
      | none =>
          simp only [Progress.result, found] at refused
          cases read :
              ValidationResult.ofRun
                (validation.progress surroundings fields bail).errors
                (validation.progress surroundings fields bail).checked with
          | ok result => simp [read, Except.mapError] at refused
          | error issues =>
              simp only [read, Except.mapError, Except.error.injEq] at refused
              exact absurd refused.symm (notUnusable issues)
    rw [progress_eq_across] at ended
    obtain ⟨before, field, condition, after, split, goesOn, breaksOff⟩ :=
      Progress.exists_split_of_refused ended
    exact ⟨before, field, condition, after, split, goesOn, breaksOff⟩
  · rintro ⟨before, field, condition, after, stop⟩
    refine ⟨Progress.result_of_refused stop.refusal_progress, ?_⟩
    exact (Condition.isOfRule_of_evaluate stop.breaksOff).ne_unusableData

/-- A run is refused while it checks fields exactly if it comes to a field whose chain breaks off.
Then the conditions of the fields before hold what this run found for them, and those of the field
and of all later ones are what they were; the configuration has not changed, and neither the run nor
the verdict gives messages by field. A check that is refused leaves its condition as it was. -/
theorem run_refused_keeps_later_snapshots
    (validation : Validation) (surroundings : Surroundings) (fields : Fields)
    (bail : Option Bool) :
    (∀ refusal,
        ((validation.run surroundings fields bail).result = .error refusal ∧
            ∀ issues, refusal ≠ .unusableData issues) ↔
          ∃ before field condition after,
            validation.BreaksOffAt surroundings fields (bail.getD validation.settings.bail)
              before field condition after refusal) ∧
      (∀ before field condition after refusal,
        validation.BreaksOffAt surroundings fields (bail.getD validation.settings.bail)
            before field condition after refusal →
          (validation.run surroundings fields bail).validation.conditions.entries =
              before.map (fun entry =>
                (entry.1,
                  entry.2.afterRun surroundings validation.registry fields entry.1
                    (bail.getD validation.settings.bail))) ++
                (field, condition) :: after ∧
            (validation.run surroundings fields bail).validation.configuration =
              validation.configuration ∧
            (validation.run surroundings fields bail).result = .error refusal ∧
            (validation.run surroundings fields bail).verdict = .error refusal ∧
            refusal.IsOfRule ∧ ∀ errors, refusal ≠ .failed errors) ∧
      ∀ (condition : Condition) registry key checkBail refusal,
        (condition.check surroundings registry fields key checkBail).verdict =
            .error refusal →
          (condition.check surroundings registry fields key checkBail).condition =
            condition := by
  refine ⟨?_, ?_, ?_⟩
  · intro refusal
    rw [result_run]
    exact refused_iff_breaksOffAt _ refusal
  · intro before field condition after refusal stop
    have refused :
        (validation.run surroundings fields bail).result = .error refusal := by
      rw [result_run]
      exact Progress.result_of_refused stop.refusal_progress
    have ofRule := Condition.isOfRule_of_evaluate stop.breaksOff
    refine ⟨?_, configuration_run _ _ _ _, refused, ?_, ofRule, ofRule.ne_failed⟩
    · rw [entries_run]
      exact stop.conditions_progress
    · rw [Run.verdict, refused]
  · intro condition registry key checkBail refusal refused
    exact Condition.condition_check_of_refused refused

end Validation

/-! ## A form whose second field breaks off -/

def complaining
    (name text : String) :
    Descriptor :=
  ⟨.handler (.ofClass ((Stock.always [.text text]).toClass name)), [], "", .null⟩

/-- A form with messages of earlier checks. The chain of its second field has a class that is no
rule class behind a rule that fails. -/
def brokenForm :
    Validation :=
  ⟨.initial, .empty,
    ⟨[("name", ⟨"form", [complaining "Unique" "taken"], [("nickname", [.text "short"])]⟩),
      ("age",
        ⟨"form",
          [complaining "Adult" "too young", ⟨.handler (.ofClass (.plain "Age")), [], "", .null⟩],
          [("age", [.text "missing"])]⟩),
      ("town", ⟨"form", [complaining "Known" "unknown"], [("town", [.text "missing"])]⟩)],
      by decide⟩⟩

/-- A full run of the form records the name anew and leaves the other two fields as they were. A run
that bails ends at the name, and is not refused. -/
theorem brokenForm_keeps_later_snapshots :
    (∃ before field condition after,
        brokenForm.BreaksOffAt quietSurroundings [] false before field condition after
          (.notARuleClass "Age" "Age")) ∧
      ((brokenForm.run quietSurroundings [] (some false)).validation.conditions.entries.map
          fun entry => (entry.1, entry.2.errors)) =
        [("name", [("name", [.text "taken"])]), ("age", [("age", [.text "missing"])]),
          ("town", [("town", [.text "missing"])])] ∧
      (brokenForm.run quietSurroundings [] (some false)).verdict =
        .error (.notARuleClass "Age" "Age") := by
  obtain ⟨refused, kept, _⟩ :=
    brokenForm.run_refused_keeps_later_snapshots quietSurroundings [] (some false)
  have stops :
      ∃ before field condition after,
        brokenForm.BreaksOffAt quietSurroundings [] false before field condition after
          (.notARuleClass "Age" "Age") :=
    (refused (.notARuleClass "Age" "Age")).mp ⟨rfl, fun issues same => by cases same⟩
  have stop :
      brokenForm.BreaksOffAt quietSurroundings [] false
        (brokenForm.conditions.entries.take 1) "age"
        ⟨"form",
          [complaining "Adult" "too young", ⟨.handler (.ofClass (.plain "Age")), [], "", .null⟩],
          [("age", [.text "missing"])]⟩
        (brokenForm.conditions.entries.drop 2) (.notARuleClass "Age" "Age") := by
    refine ⟨rfl, ?_, rfl⟩
    intro entry member
    obtain rfl := List.mem_singleton.mp member
    exact ⟨rfl, fun bails => by cases bails⟩
  obtain ⟨conditions, _, _, verdict, _⟩ := kept _ _ _ _ _ stop
  refine ⟨stops, ?_, verdict⟩
  rw [conditions]
  rfl

end FormRules
