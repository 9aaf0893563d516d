import FormRules.Settings
import FormRules.Validation.Condition
import FormRules.Validation.Result

/-!
Validations: conditions by field, custom rules by name, and the runs of them.

A run checks the fields in the order in which they were first given rules. When it is to bail, it
stops at the first field that fails, and there at the first rule that fails. Each checked field
records its messages; a field that is skipped records none. A rule that breaks off ends the run:
the field it belongs to and the fields after it keep the messages they had.
-/

namespace FormRules

/-- A validation: its settings, the custom rules, and the conditions of its fields in the order in
which the fields were first given rules. -/
structure Validation where
  settings : Settings
  registry : Registry
  conditions : Roster Condition

/-- A change of a validation that may be refused. What was done before the refusal stays done. -/
abbrev Change :=
  ExceptT Refusal (StateM Validation) Unit

/-- How far a run came: the conditions afterwards, the fields checked, the messages by field, the
notes made, and why it broke off, if it did. -/
structure Progress where
  conditions : List (String × Condition)
  checked : List String
  errors : List (String × List Value)
  notes : List Note
  refusal : Option Refusal

/-- A run: the validation afterwards, the notes made, and the result. -/
structure Run where
  validation : Validation
  notes : List Note
  result : Except Refusal ValidationResult

namespace Progress

def done :
    Progress :=
  ⟨[], [], [], [], none⟩

def afterSkipping
    (key : String) (condition : Condition) (later : Progress) :
    Progress :=
  { later with conditions := (key, condition.record key []) :: later.conditions }

def afterChecking
    (key : String) (condition : Condition) (outcomes : List Outcome) (notes : List Note)
    (later : Progress) :
    Progress :=
  let own :=
    if Condition.allPassed outcomes then []
    else [(key, Condition.recordedMessages outcomes)]
  ⟨(key, condition.record key outcomes) :: later.conditions, key :: later.checked,
    own ++ later.errors, notes ++ later.notes, later.refusal⟩

/-- The progress of a run over conditions. The second argument tells that the run has stopped
already. -/
def ofConditions
    (evaluate : Condition → String → Evaluation) (bail : Bool) :
    (stopped : Bool) → List (String × Condition) → Progress
  | _, [] => done
  | true, (key, condition) :: rest =>
      (ofConditions evaluate bail true rest).afterSkipping key condition
  | false, (key, condition) :: rest =>
      let evaluation := evaluate condition key
      let notes := evaluation.notes key
      match evaluation.refusal with
      | some refusal => ⟨(key, condition) :: rest, [key], [], notes, some refusal⟩
      | none =>
          let stops := bail && !Condition.allPassed evaluation.outcomes
          (ofConditions evaluate bail stops rest).afterChecking key condition
            evaluation.outcomes notes

/-- A run changes what the conditions hold, neither their fields nor the order of these. -/
theorem keys_ofConditions
    (evaluate : Condition → String → Evaluation) (bail stopped : Bool)
    (conditions : List (String × Condition)) :
    (ofConditions evaluate bail stopped conditions).conditions.map Prod.fst =
      conditions.map Prod.fst := by
  induction conditions generalizing stopped with
  | nil => cases stopped <;> rfl
  | cons entry rest inductionHypothesis =>
      obtain ⟨key, condition⟩ := entry
      cases stopped with
      | true =>
          simp only [ofConditions, afterSkipping, List.map_cons]
          rw [inductionHypothesis]
      | false =>
          simp only [ofConditions]
          split
          · rfl
          · simp only [afterChecking, List.map_cons]
            rw [inductionHypothesis]

end Progress

namespace Validation

def empty
    (settings : Settings) :
    Validation :=
  ⟨settings, .empty, .empty⟩

def fields
    (validation : Validation) :
    List String :=
  validation.conditions.names

def condition?
    (validation : Validation) (field : String) :
    Option Condition :=
  validation.conditions.find? field

/-- The condition of a field, without rules if the field has none yet. -/
def conditionOrNew
    (validation : Validation) (field : String) :
    Condition :=
  (validation.condition? field).getD (.empty validation.settings.messagePrefix)

def setCondition
    (validation : Validation) (field : String) (condition : Condition) :
    Validation :=
  { validation with conditions := validation.conditions.set field condition }

/-- The validation that a change leaves behind, be it refused or not. -/
def leftBy
    (validation : Validation) (change : Change) :
    Validation :=
  (change.run.run validation).2

/-- The validation after a change, or the reason for which the change was refused. -/
def changedBy
    (validation : Validation) (change : Change) :
    Except Refusal Validation :=
  (change.run.run validation).1.map fun _ => validation.leftBy change

/-- The validation with a condition for a field, without rules if it is new. -/
def ensureCondition
    (validation : Validation) (field : String) :
    Validation :=
  match validation.condition? field with
  | some _ => validation
  | none => validation.setCondition field (.empty validation.settings.messagePrefix)

def extendCondition
    (validation : Validation) (field : String) (descriptors : List Descriptor) :
    Validation :=
  match validation.condition? field with
  | some condition => validation.setCondition field (condition.extend descriptors)
  | none => validation

def setHandler
    (validation : Validation) (name : String) (handler : Handler) :
    Validation :=
  { validation with registry := validation.registry.set name handler }

/-- Attaching the rules of a token to a field. The whole token is read before anything is
changed. -/
def attaching
    (field : String) (token : Token) (message : Value) :
    Change := do
  let descriptors ← (token.descriptorsForField field message : Except Refusal (List Descriptor))
  modify fun validation => validation.ensureCondition field
  modify fun validation => validation.extendCondition field descriptors

/-- Registering a custom rule. Its source is read before the handler is stored. -/
def registering
    (catalog : Catalog) (name : String) (source : HandlerSource) :
    Change := do
  let handler ← (Registry.handlerOf catalog name source : Except Refusal Handler)
  modify fun validation => validation.setHandler name handler

def attach
    (validation : Validation) (field : String) (token : Token) (message : Value) :
    Except Refusal Validation :=
  validation.changedBy (attaching field token message)

def register
    (validation : Validation) (catalog : Catalog) (name : String) (source : HandlerSource) :
    Except Refusal Validation :=
  validation.changedBy (registering catalog name source)

def progress
    (validation : Validation) (surroundings : Surroundings) (fields : Fields) (bail : Bool) :
    Progress :=
  Progress.ofConditions
    (fun condition key => condition.evaluate surroundings validation.registry fields key bail)
    bail false validation.conditions.entries

/-- Runs the validation on an input. Without a wish to bail or not, the settings decide. -/
def run
    (validation : Validation) (surroundings : Surroundings) (fields : Fields)
    (bail : Option Bool) :
    Run :=
  let progress := validation.progress surroundings fields (bail.getD validation.settings.bail)
  let after :=
    { validation with
      conditions :=
        validation.conditions.withEntries progress.conditions
          (Progress.keys_ofConditions _ _ _ _) }
  match progress.refusal with
  | some refusal => ⟨after, progress.notes, .error refusal⟩
  | none =>
      let finished :=
        Note.runFinished progress.errors.isEmpty progress.checked.length progress.errors.length
      ⟨after, progress.notes ++ [finished],
        match ValidationResult.ofRun progress.errors progress.checked with
        | .ok result => .ok result
        | .error issues => .error (.unusableData issues)⟩

end Validation

namespace Run

/-- The verdict of a run: a failed field is a refusal with the messages of all failed fields. -/
def verdict
    (run : Run) :
    Except Refusal Unit :=
  match run.result with
  | .error refusal => .error refusal
  | .ok result => if result.ok then .ok () else .error (.failed result.errors)

end Run

end FormRules
