import FormRules.Proofs.RefusedRun

/-!
# The messages of the latest check

A condition is added to, evaluated, checked, and given outcomes to record, in any order. What it
holds afterwards depends on the last time that outcomes were recorded and on nothing else: it is
their messages, under one field or none. To add rules, to evaluate, and to break off leaves the
messages as they are. A condition that has been checked holds none exactly if the check passed.
-/

namespace FormRules

def Outcome.tellsFailure
    (outcome : Outcome) :
    Bool :=
  !outcome.passed && outcome.message.isTrue

namespace Condition

/-- What can be done with a condition. -/
inductive Operation where
  | addRule (token : Token) (message : Value)
  | extend (descriptors : List Descriptor)
  | evaluate (surroundings : Surroundings) (registry : Registry) (fields : Fields) (key : String)
      (bail : Bool)
  | check (surroundings : Surroundings) (registry : Registry) (fields : Fields) (key : String)
      (bail : Bool)
  | record (key : String) (outcomes : List Outcome)

/-- The condition after one operation, be it that the operation returns or that it breaks off. -/
def perform
    (condition : Condition) :
    Operation → Condition
  | .addRule token message => (condition.addRule token message).toOption.getD condition
  | .extend descriptors => condition.extend descriptors
  | .evaluate _ _ _ _ _ => condition
  | .check surroundings registry fields key bail =>
      (condition.check surroundings registry fields key bail).condition
  | .record key outcomes => condition.record key outcomes

def after
    (condition : Condition) (history : List Operation) :
    Condition :=
  history.foldl perform condition

inductive BreaksOff
    (condition : Condition) :
    Operation → Prop
  | addRule {token : Token} {message : Value} {refusal : Refusal}
      (unreadable : condition.addRule token message = .error refusal) :
      BreaksOff condition (.addRule token message)
  | evaluate {surroundings : Surroundings} {registry : Registry} {fields : Fields}
      {key : String} {bail : Bool} {refusal : Refusal}
      (refused :
        (condition.evaluate surroundings registry fields key bail).toExcept = .error refusal) :
      BreaksOff condition (.evaluate surroundings registry fields key bail)
  | check {surroundings : Surroundings} {registry : Registry} {fields : Fields}
      {key : String} {bail : Bool} {refusal : Refusal}
      (refused :
        (condition.check surroundings registry fields key bail).verdict = .error refusal) :
      BreaksOff condition (.check surroundings registry fields key bail)

/-- The operation is neither a check nor a recording. -/
inductive Operation.NeverRecords :
    Operation → Prop
  | addRule (token : Token) (message : Value) : NeverRecords (.addRule token message)
  | extend (descriptors : List Descriptor) : NeverRecords (.extend descriptors)
  | evaluate (surroundings : Surroundings) (registry : Registry) (fields : Fields) (key : String)
      (bail : Bool) :
      NeverRecords (.evaluate surroundings registry fields key bail)

/-- The field and the outcomes that an operation records: those of a check that does not break off,
and those that are given to be recorded. -/
def recording?
    (condition : Condition) :
    Operation → Option (String × List Outcome)
  | .addRule _ _ | .extend _ | .evaluate _ _ _ _ _ => none
  | .check surroundings registry fields key bail =>
      match (condition.check surroundings registry fields key bail).verdict with
      | .ok _ => some (key, (condition.evaluate surroundings registry fields key bail).outcomes)
      | .error _ => none
  | .record key outcomes => some (key, outcomes)

def lastRecording?
    (condition : Condition) :
    List Operation → Option (String × List Outcome)
  | [] => none
  | operation :: later =>
      (lastRecording? (condition.perform operation) later).or (condition.recording? operation)

/-- The messages of failed rules under the name of the field, and nothing if there are none. -/
def messagesByField
    (key : String) (outcomes : List Outcome) :
    List (String × List Value) :=
  match (outcomes.filter Outcome.tellsFailure).map Outcome.message with
  | [] => []
  | messages => [(key, messages)]

/-- Messages by field as a condition may hold them: of one field at most, and if there is one, with
messages that all count as present. -/
structure MayHold
    (errors : List (String × List Value)) :
    Prop where
  oneField : errors.length ≤ 1
  someMessage : ∀ entry ∈ errors, entry.2 ≠ []
  present : ∀ entry ∈ errors, ∀ message ∈ entry.2, message.isTrue = true

/-! ## What outcomes leave behind -/

/-- To select the failed outcomes with a message and then to take the messages is to record them. -/
theorem map_message_filter
    (outcomes : List Outcome) :
    (outcomes.filter Outcome.tellsFailure).map Outcome.message = recordedMessages outcomes := by
  induction outcomes with
  | nil => rfl
  | cons outcome outcomes inductionHypothesis =>
      by_cases kept : outcome.tellsFailure = true
      · have recorded : outcome.recorded? = some outcome.message := if_pos kept
        rw [List.filter_cons_of_pos kept, List.map_cons, inductionHypothesis, recordedMessages,
          recordedMessages, List.filterMap_cons_some recorded]
      · have ignored : outcome.recorded? = none := if_neg kept
        rw [List.filter_cons_of_neg kept, inductionHypothesis, recordedMessages,
          recordedMessages, List.filterMap_cons_none ignored]

theorem errors_record
    (condition : Condition) (key : String) (outcomes : List Outcome) :
    (condition.record key outcomes).errors = messagesByField key outcomes := by
  rw [record, messagesByField, map_message_filter]
  cases recordedMessages outcomes <;> rfl

/-- No field has messages exactly if there are none to record. -/
theorem messagesByField_eq_nil_iff
    {key : String} {outcomes : List Outcome} :
    messagesByField key outcomes = [] ↔ recordedMessages outcomes = [] := by
  rw [messagesByField, map_message_filter]
  cases recordedMessages outcomes <;> simp

theorem mayHold_messagesByField
    (key : String) (outcomes : List Outcome) :
    MayHold (messagesByField key outcomes) := by
  rw [messagesByField]
  split
  · exact ⟨Nat.zero_le 1, by simp, by simp⟩
  · next something =>
      refine ⟨Nat.le_refl 1, ?_, ?_⟩
      · rintro _ (_ | ⟨_, ⟨⟩⟩)
        exact something
      · rintro _ (_ | ⟨_, ⟨⟩⟩) message member
        obtain ⟨outcome, kept, rfl⟩ := List.mem_map.mp member
        exact (Bool.and_eq_true_iff.mp (List.mem_filter.mp kept).2).2

/-! ## One operation -/

/-- A check that does not break off records the outcomes of the evaluation, and tells whether all
rules passed. -/
theorem check_of_verdict
    {condition : Condition} {surroundings : Surroundings} {registry : Registry}
    {fields : Fields} {key : String} {bail passed : Bool}
    (returned :
      (condition.check surroundings registry fields key bail).verdict = .ok passed) :
    (condition.check surroundings registry fields key bail).condition =
        condition.record key (condition.evaluate surroundings registry fields key bail).outcomes ∧
      passed = allPassed (condition.evaluate surroundings registry fields key bail).outcomes := by
  cases ended : (condition.evaluate surroundings registry fields key bail).refusal with
  | some refusal => simp [check, ended] at returned
  | none =>
      have checked :
          condition.check surroundings registry fields key bail =
            ⟨condition.record key
                (condition.evaluate surroundings registry fields key bail).outcomes,
              (condition.evaluate surroundings registry fields key bail).notes key,
              .ok (allPassed
                (condition.evaluate surroundings registry fields key bail).outcomes)⟩ := by
        simp [check, ended]
      rw [checked] at returned ⊢
      exact ⟨rfl, (Except.ok.inj returned).symm⟩

/-- An operation that breaks off leaves the condition as it was. -/
theorem perform_of_breaksOff
    {condition : Condition} {operation : Operation}
    (breaksOff : condition.BreaksOff operation) :
    condition.perform operation = condition := by
  cases breaksOff with
  | addRule unreadable =>
      rw [perform, unreadable]
      rfl
  | evaluate refused => rfl
  | check refused => exact condition_check_of_refused refused

/-- After an operation the condition holds the messages of what it recorded, and those from before
if it recorded nothing. -/
theorem errors_perform
    (condition : Condition) (operation : Operation) :
    (condition.perform operation).errors =
      (condition.recording? operation).elim condition.errors
        fun recording => messagesByField recording.1 recording.2 := by
  cases operation with
  | addRule token message =>
      rw [perform, addRule]
      cases token.descriptors message <;> rfl
  | extend descriptors => rfl
  | evaluate surroundings registry fields key bail => rfl
  | check surroundings registry fields key bail =>
      rw [recording?]
      cases returned : (condition.check surroundings registry fields key bail).verdict with
      | error refusal =>
          rw [perform_of_breaksOff (.check returned)]
          rfl
      | ok passed =>
          rw [perform, (check_of_verdict returned).1, errors_record]
          rfl
  | record key outcomes => exact errors_record condition key outcomes

theorem errors_perform_of_neverRecords
    {operation : Operation} (neverRecords : operation.NeverRecords) (condition : Condition) :
    (condition.perform operation).errors = condition.errors := by
  rw [errors_perform]
  cases neverRecords <;> rfl

/-- A condition that has been checked holds nothing exactly if every rule passed, for a failed rule
always has a message. -/
theorem errors_check_eq_nil_iff
    {condition : Condition} {surroundings : Surroundings} {registry : Registry}
    {fields : Fields} {key : String} {bail passed : Bool}
    (returned :
      (condition.check surroundings registry fields key bail).verdict = .ok passed) :
    (condition.check surroundings registry fields key bail).condition.errors = [] ↔
      passed = true := by
  obtain ⟨recorded, rfl⟩ := check_of_verdict returned
  rw [recorded, errors_record, messagesByField_eq_nil_iff]
  exact recordedMessages_eq_nil_iff (haveMessages_evaluate condition bail)

/-! ## Histories of operations -/

/-- After a history a condition holds the messages of what was recorded last. The induction is on
the history, with the condition left open, for later operations find it changed by the first. -/
theorem errors_after
    (condition : Condition) (history : List Operation) :
    (condition.after history).errors =
      (condition.lastRecording? history).elim condition.errors
        fun recording => messagesByField recording.1 recording.2 := by
  induction history generalizing condition with
  | nil => rfl
  | cons operation later inductionHypothesis =>
      have first :
          condition.after (operation :: later) = (condition.perform operation).after later :=
        rfl
      rw [first, inductionHypothesis, lastRecording?, errors_perform]
      cases (condition.perform operation).lastRecording? later <;> rfl

theorem mayHold_after
    {condition : Condition} (mayHold : MayHold condition.errors) (history : List Operation) :
    MayHold (condition.after history).errors := by
  rw [errors_after]
  cases condition.lastRecording? history with
  | none => exact mayHold
  | some recording => exact mayHold_messagesByField recording.1 recording.2

/-- After every history, a condition that was made without rules holds the messages of what was
recorded last, and none if nothing was: those of one field at most, none of them empty. What comes
next changes them only if it records, and what breaks off changes nothing at all. After a check that
does not break off there are none exactly if it passed. -/
theorem errors_are_of_last_recording
    (prefixText : String) (history : List Operation) :
    let condition := (empty prefixText).after history
    (condition.errors =
        ((empty prefixText).lastRecording? history).elim []
          fun recording => messagesByField recording.1 recording.2) ∧
      MayHold condition.errors ∧
      (∀ operation : Operation, operation.NeverRecords →
        (condition.perform operation).errors = condition.errors) ∧
      (∀ operation, condition.BreaksOff operation →
        condition.perform operation = condition) ∧
      ∀ surroundings registry fields key bail passed,
        (condition.check surroundings registry fields key bail).verdict = .ok passed →
          ((condition.check surroundings registry fields key bail).condition.errors = [] ↔
            passed = true) := by
  intro condition
  have nothing : MayHold (empty prefixText).errors :=
    ⟨Nat.zero_le 1, by simp [empty], by simp [empty]⟩
  exact ⟨errors_after (empty prefixText) history, mayHold_after nothing history,
    fun operation neverRecords => errors_perform_of_neverRecords neverRecords condition,
    fun operation breaksOff => perform_of_breaksOff breaksOff,
    fun surroundings registry fields key bail passed returned => errors_check_eq_nil_iff returned⟩

end Condition

/-! ## A condition that is used for several fields -/

/-- A rule that fails, and that breaks off for a field that the input does not have. -/
def uniqueRule :
    Descriptor :=
  ⟨.handler (.ofCallback ⟨"unique", false, fun inquiry =>
    if (inquiry.fields.lookup inquiry.key).isSome then .ok [.text "taken"]
    else .error (.raised .runtime "no such field")⟩), [], "", .null⟩

def nicknameOutcomes :
    List Outcome :=
  [⟨"short", false, .text ""⟩, ⟨"known", true, .null⟩, ⟨"rude", false, .text "too rude"⟩]

/-- A name is checked, the outcomes of the nickname are recorded, and a check of the age and another
rule are refused. -/
def nameHistory :
    List Condition.Operation :=
  [.extend [uniqueRule], .check quietSurroundings .empty [("name", .text "ada")] "name" false,
    .record "nickname" nicknameOutcomes, .check quietSurroundings .empty [] "age" false,
    .addRule (.leaf (.unusable "int")) .null]

/-- The condition holds the message of the nickname. A further check of the age leaves it there, and
one of the name, which fails, leaves a message again. -/
theorem nickname_recorded_last :
    let condition := (Condition.empty "form").after nameHistory
    condition.errors = [("nickname", [.text "too rude"])] ∧
      (condition.perform (.check quietSurroundings .empty [] "age" false)).errors =
        [("nickname", [.text "too rude"])] ∧
      (condition.perform (.evaluate quietSurroundings .empty [] "age" false)).errors =
        [("nickname", [.text "too rude"])] ∧
      (condition.check quietSurroundings .empty [("name", .text "ada")] "name"
        false).condition.errors ≠ [] := by
  intro condition
  obtain ⟨held, _, kept, unchanged, isNothing⟩ :=
    Condition.errors_are_of_last_recording "form" nameHistory
  have last :
      (Condition.empty "form").lastRecording? nameHistory = some ("nickname", nicknameOutcomes) :=
    rfl
  rw [last] at held
  have brokenOff :
      condition.BreaksOff (.check quietSurroundings .empty [] "age" false) :=
    .check rfl
  refine ⟨held, ?_, ?_, fun nothing => ?_⟩
  · rw [unchanged _ brokenOff]
    exact held
  · rw [kept _ (.evaluate _ _ _ _ _)]
    exact held
  · exact Bool.false_ne_true ((isNothing _ _ _ _ _ false rfl).mp nothing)

end FormRules
