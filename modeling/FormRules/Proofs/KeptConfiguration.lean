import FormRules.Proofs.Configuration
import FormRules.Proofs.Snapshot

/-!
# What using a validation leaves as it is

The configuration of a validation is what is left of it without the messages that its conditions
hold. Runs, checks and recordings change these messages only, and none of them is ever read by a
run: how far a run comes and what it finds depends on the configuration alone.
-/

namespace FormRules

/-- The value under a key set again to what it is. -/
theorem setKey_of_lookup {value : Type}
    {key : String} {found : value} {entries : List (String × value)}
    (held : entries.lookup key = some found) :
    setKey key found entries = entries := by
  induction entries with
  | nil => cases held
  | cons entry entries inductionHypothesis =>
      obtain ⟨name, own⟩ := entry
      unfold setKey
      by_cases same : name = key
      · subst same
        rw [List.lookup_cons_self, Option.some.injEq] at held
        rw [if_pos rfl, held]
      · have unequal : (key == name) = false := by
          simpa using fun equal : key = name => same equal.symm
        rw [List.lookup_cons, unequal] at held
        rw [if_neg same, inductionHypothesis held]

theorem map_setKey {value other : Type}
    (change : value → other) (key : String) (new : value) (entries : List (String × value)) :
    (setKey key new entries).map (fun entry => (entry.1, change entry.2)) =
      setKey key (change new) (entries.map fun entry => (entry.1, change entry.2)) := by
  induction entries with
  | nil => rfl
  | cons entry entries inductionHypothesis =>
      by_cases same : entry.1 = key
      · simp [setKey, same]
      · simp [setKey, same, inductionHypothesis]

theorem lookup_map_value {value other : Type}
    (change : value → other) (key : String) (entries : List (String × value)) :
    (entries.map fun entry => (entry.1, change entry.2)).lookup key =
      (entries.lookup key).map change := by
  induction entries with
  | nil => rfl
  | cons entry entries inductionHypothesis =>
      rw [List.map_cons, List.lookup_cons, List.lookup_cons, inductionHypothesis]
      cases key == entry.1 <;> rfl

namespace Roster

variable {value other : Type}

def mapValues
    (change : value → other) (roster : Roster value) :
    Roster other :=
  ⟨roster.entries.map fun entry => (entry.1, change entry.2), by
    rw [List.map_map]
    exact roster.names_nodup⟩

theorem find?_mapValues
    (change : value → other) (roster : Roster value) (name : String) :
    (roster.mapValues change).find? name = (roster.find? name).map change :=
  lookup_map_value change name roster.entries

theorem set_of_find?
    {roster : Roster value} {name : String} {found : value}
    (held : roster.find? name = some found) :
    roster.set name found = roster :=
  ext (setKey_of_lookup held)

theorem mapValues_set
    (change : value → other) (roster : Roster value) (name : String) (new : value) :
    (roster.set name new).mapValues change = (roster.mapValues change).set name (change new) :=
  ext (map_setKey change name new roster.entries)

end Roster

namespace Condition

/-- The condition without the messages that it holds. -/
def cleared
    (condition : Condition) :
    Condition :=
  { condition with errors := [] }

theorem evaluate_cleared
    (condition : Condition) (surroundings : Surroundings) (registry : Registry)
    (fields : Fields) (key : String) (bail : Bool) :
    condition.cleared.evaluate surroundings registry fields key bail =
      condition.evaluate surroundings registry fields key bail :=
  rfl

theorem cleared_record
    (condition : Condition) (key : String) (outcomes : List Outcome) :
    (condition.record key outcomes).cleared = condition.cleared :=
  rfl

/-- A check that breaks off leaves the condition as it was. -/
theorem condition_check_of_refused
    {condition : Condition} {surroundings : Surroundings} {registry : Registry}
    {fields : Fields} {key : String} {bail : Bool} {refusal : Refusal}
    (refused :
      (condition.check surroundings registry fields key bail).verdict = .error refusal) :
    (condition.check surroundings registry fields key bail).condition = condition := by
  cases ended : (condition.evaluate surroundings registry fields key bail).refusal with
  | some found => simp [check, ended]
  | none => simp [check, ended] at refused

theorem cleared_check
    (condition : Condition) (surroundings : Surroundings) (registry : Registry)
    (fields : Fields) (key : String) (bail : Bool) :
    (condition.check surroundings registry fields key bail).condition.cleared =
      condition.cleared := by
  cases ended : (condition.evaluate surroundings registry fields key bail).refusal with
  | some refusal => simp [check, ended]
  | none =>
      have recorded :
          (condition.check surroundings registry fields key bail).condition =
            condition.record key
              (condition.evaluate surroundings registry fields key bail).outcomes := by
        simp [check, ended]
      rw [recorded, cleared_record]

end Condition

def clearedConditions
    (conditions : List (String × Condition)) :
    List (String × Condition) :=
  conditions.map fun entry => (entry.1, entry.2.cleared)

namespace Progress

/-- What a progress tells besides the conditions it leaves behind. -/
def findings
    (progress : Progress) :
    Progress :=
  { progress with conditions := [] }

variable {evaluate : Condition → String → Evaluation} {bail : Bool}

/-- A run leaves every condition what it was, the messages it holds aside. -/
theorem clearedConditions_ofConditions
    (stopped : Bool) (conditions : List (String × Condition)) :
    clearedConditions (ofConditions evaluate bail stopped conditions).conditions =
      clearedConditions conditions := by
  induction conditions generalizing stopped with
  | nil => cases stopped <;> rfl
  | cons entry rest inductionHypothesis =>
      obtain ⟨key, condition⟩ := entry
      cases stopped with
      | true =>
          have skipped :
              (ofConditions evaluate bail true ((key, condition) :: rest)).conditions =
                (key, condition.record key []) ::
                  (ofConditions evaluate bail true rest).conditions :=
            rfl
          rw [skipped, clearedConditions, List.map_cons]
          exact congrArg (List.cons (key, condition.cleared)) (inductionHypothesis true)
      | false =>
          cases ended : (evaluate condition key).refusal with
          | some refusal =>
              rw [ofConditions]
              simp [ended]
          | none =>
              rw [ofConditions_cons_of_evaluated evaluate bail rest
                (Evaluation.eq_of_finished ended)]
              exact congrArg (List.cons (key, condition.cleared)) (inductionHypothesis _)

/-- What a run tells does not depend on what the conditions hold, if their evaluation does not. -/
theorem findings_ofConditions_cleared
    (ignored : ∀ condition key, evaluate condition.cleared key = evaluate condition key)
    (stopped : Bool) (conditions : List (String × Condition)) :
    (ofConditions evaluate bail stopped (clearedConditions conditions)).findings =
      (ofConditions evaluate bail stopped conditions).findings := by
  induction conditions generalizing stopped with
  | nil => rfl
  | cons entry rest inductionHypothesis =>
      obtain ⟨key, condition⟩ := entry
      have unfolded :
          clearedConditions ((key, condition) :: rest) =
            (key, condition.cleared) :: clearedConditions rest :=
        rfl
      rw [unfolded]
      cases stopped with
      | true =>
          have later := inductionHypothesis true
          simpa [ofConditions, findings, afterSkipping] using later
      | false =>
          cases ended : (evaluate condition key).refusal with
          | some refusal => simp [ofConditions, ignored, ended, findings]
          | none =>
              have later :=
                inductionHypothesis
                  (bail && !Condition.allPassed (evaluate condition key).outcomes)
              simp only [findings, Progress.mk.injEq, true_and] at later
              obtain ⟨checked, errors, notes, refusal⟩ := later
              simp [ofConditions, ignored, ended, findings, afterChecking, checked, errors,
                notes, refusal]

theorem result_findings
    (progress : Progress) :
    progress.findings.result = progress.result :=
  rfl

end Progress

namespace Validation

/-- The validation without the messages that its conditions hold. -/
def configuration
    (validation : Validation) :
    Validation :=
  { validation with conditions := validation.conditions.mapValues Condition.cleared }

theorem findings_progress_configuration
    (validation : Validation) (surroundings : Surroundings) (fields : Fields) (bail : Bool) :
    (validation.configuration.progress surroundings fields bail).findings =
      (validation.progress surroundings fields bail).findings :=
  Progress.findings_ofConditions_cleared
    (fun condition key =>
      condition.evaluate_cleared surroundings validation.registry fields key bail)
    false validation.conditions.entries

/-- A run, refused or not, leaves the configuration as it is. -/
theorem configuration_run
    (validation : Validation) (surroundings : Surroundings) (fields : Fields)
    (bail : Option Bool) :
    (validation.run surroundings fields bail).validation.configuration =
      validation.configuration := by
  have settings :
      (validation.run surroundings fields bail).validation.settings = validation.settings := by
    unfold run
    dsimp only
    split <;> rfl
  have registry :
      (validation.run surroundings fields bail).validation.registry = validation.registry := by
    unfold run
    dsimp only
    split <;> rfl
  have conditions :
      (validation.run surroundings fields bail).validation.conditions.mapValues
          Condition.cleared =
        validation.conditions.mapValues Condition.cleared := by
    apply Roster.ext
    simp only [Roster.mapValues, entries_run]
    exact Progress.clearedConditions_ofConditions false validation.conditions.entries
  simp only [configuration, settings, registry, conditions]

/-- What a run answers is fixed by the configuration. -/
theorem result_run_of_configuration_eq
    {left right : Validation} (same : left.configuration = right.configuration)
    (surroundings : Surroundings) (fields : Fields) (bail : Option Bool) :
    (left.run surroundings fields bail).result =
      (right.run surroundings fields bail).result := by
  have settings : left.settings = right.settings := by
    have ofConfiguration := congrArg Validation.settings same
    exact ofConfiguration
  have findings :
      (left.progress surroundings fields (bail.getD left.settings.bail)).findings =
        (right.progress surroundings fields (bail.getD left.settings.bail)).findings := by
    rw [← findings_progress_configuration left, ← findings_progress_configuration right, same]
  rw [result_run, result_run, ← settings, ← Progress.result_findings, findings,
    Progress.result_findings]

theorem verdict_eq_of_result_eq
    {left right : Run} (same : left.result = right.result) :
    left.verdict = right.verdict := by
  rw [Run.verdict, Run.verdict, same]

/-- Runs, checks and recordings leave the prefixes as they are, since they leave the configuration as
it is. -/
theorem SharesPrefix.of_configuration_eq
    {validation earlier : Validation} (shares : earlier.SharesPrefix)
    (same : validation.configuration = earlier.configuration) :
    validation.SharesPrefix := by
  intro field condition found
  have settings : validation.settings = earlier.settings := by
    have ofConfiguration := congrArg Validation.settings same
    exact ofConfiguration
  have cleared : earlier.configuration.condition? field = some condition.cleared := by
    rw [← same]
    refine (validation.conditions.find?_mapValues Condition.cleared field).trans ?_
    exact congrArg (Option.map Condition.cleared) found
  have earlierFound :=
    (earlier.conditions.find?_mapValues Condition.cleared field).symm.trans cleared
  obtain ⟨other, foundToo, sameCleared⟩ := Option.map_eq_some_iff.mp earlierFound
  have samePrefix : other.prefixText = condition.prefixText := by
    have ofCleared := congrArg Condition.prefixText sameCleared
    exact ofCleared
  rw [← samePrefix, settings]
  exact shares field other foundToo

end Validation

end FormRules
