import FormRules.Validation.Condition

/-!
# What one rule answers

A rule answers with a name and its reports, and it fails when it makes a report. The statements say
what its outcome makes of the answer: a failed rule always carries a message that counts as
present, and this message is a text if the messages given with the rule and by the rule are texts.
-/

namespace FormRules

namespace Value

/-- The value can be given as a message: it is a text, or null for no message. -/
def isMessage :
    Value → Bool
  | null => true
  | text _ => true
  | _ => false

theorem exists_text_of_isMessage
    {value : Value} (message : value.isMessage = true) (present : value.isTrue = true) :
    ∃ shown : String, shown ≠ "" ∧ value = .text shown := by
  cases value with
  | text shown =>
      refine ⟨shown, ?_, rfl⟩
      simpa [isTrue] using present
  | null => simp [isTrue] at present
  | _ => simp [isMessage] at message

end Value

namespace FailureCapture

private theorem failed_foldl_report
    (reports : Reports) (capture : FailureCapture) :
    (reports.foldl report capture).failed = (capture.failed || !reports.isEmpty) := by
  induction reports generalizing capture with
  | nil => simp
  | cons message reports inductionHypothesis =>
      rw [List.foldl_cons, inductionHypothesis]
      simp [report]

/-- A rule has failed as soon as it has made a report. -/
theorem failed_ofReports
    (reports : Reports) :
    (ofReports reports).failed = !reports.isEmpty := by
  simp [ofReports, failed_foldl_report, initial]

private theorem isMessage_foldl_report
    {reports : Reports} (capture : FailureCapture)
    (held : capture.message.isMessage = true)
    (messages : ∀ message ∈ reports, message.isMessage = true) :
    (reports.foldl report capture).message.isMessage = true := by
  induction reports generalizing capture with
  | nil => exact held
  | cons message reports inductionHypothesis =>
      rw [List.forall_mem_cons] at messages
      obtain ⟨first, others⟩ := messages
      rw [List.foldl_cons]
      apply inductionHypothesis _ _ others
      unfold report
      split
      · exact first
      · exact held

theorem isMessage_ofReports
    {reports : Reports} (messages : ∀ message ∈ reports, message.isMessage = true) :
    (ofReports reports).message.isMessage = true :=
  isMessage_foldl_report initial rfl messages

end FailureCapture

namespace Condition

theorem defaultMessage_ne_empty
    (prefixText : String) (descriptor : Descriptor) (name : String) :
    defaultMessage prefixText descriptor name ≠ "" := by
  unfold defaultMessage
  cases descriptor.target <;> simp

/-- The message of a failed rule counts as present, for the default is not empty. -/
theorem isTrue_failureMessage
    (prefixText : String) (descriptor : Descriptor) (name : String) (capture : FailureCapture) :
    (failureMessage prefixText descriptor name capture).isTrue = true := by
  unfold failureMessage
  split
  · assumption
  · split
    · assumption
    · simpa [Value.isTrue] using defaultMessage_ne_empty prefixText descriptor name

theorem isMessage_failureMessage
    (prefixText : String) {descriptor : Descriptor} (name : String) {capture : FailureCapture}
    (given : descriptor.message.isMessage = true)
    (reported : capture.message.isMessage = true) :
    (failureMessage prefixText descriptor name capture).isMessage = true := by
  unfold failureMessage
  split
  · exact given
  · split
    · exact reported
    · rfl

theorem passed_outcomeOf
    (prefixText : String) (descriptor : Descriptor) (name : String) (reports : Reports) :
    (outcomeOf prefixText descriptor name reports).passed = reports.isEmpty := by
  unfold outcomeOf
  simp only [FailureCapture.failed_ofReports]
  cases reports <;> rfl

theorem outcomeOf_of_ne_nil
    (prefixText : String) (descriptor : Descriptor) (name : String) {reports : Reports}
    (reported : reports ≠ []) :
    outcomeOf prefixText descriptor name reports =
      ⟨name, false, failureMessage prefixText descriptor name (.ofReports reports)⟩ := by
  have failed : (FailureCapture.ofReports reports).failed = true := by
    rw [FailureCapture.failed_ofReports]
    simpa using reported
  simp [outcomeOf, failed]

end Condition

namespace Descriptor

variable (surroundings : Surroundings) (registry : Registry) (fields : Fields) (key : String)

/-- The built-in rule that a descriptor stands for. A handler is none, and neither is a name that is
the path of a class or that no built-in rule has. -/
def builtin?
    (descriptor : Descriptor) :
    Option Builtin :=
  match descriptor.target with
  | .handler _ => none
  | .named name =>
      match classAtPath surroundings.catalog name with
      | .ok none => Builtin.find? name
      | _ => none

/-- What a rule answers about a field: the name under which its outcome is reported, and its
reports. -/
def answer
    (descriptor : Descriptor) :
    Except Refusal (String × Reports) :=
  match descriptor.resolve surroundings registry with
  | .error refusal => .error refusal
  | .ok (name, rule) =>
      match rule ⟨fields, key, descriptor.options⟩ with
      | .error fault => .error (.fault fault)
      | .ok reports => .ok (name, reports)

def fails
    (descriptor : Descriptor) :
    Bool :=
  match descriptor.answer surroundings registry fields key with
  | .ok (_, reports) => !reports.isEmpty
  | .error _ => false

/-- Messages are texts: the one given with the rule is, and so are those of its reports if it is not
a built-in rule. -/
structure UsesTexts
    (descriptor : Descriptor) :
    Prop where
  given : descriptor.message.isMessage = true
  reported : descriptor.builtin? surroundings = none →
    ∀ name reports, descriptor.answer surroundings registry fields key = .ok (name, reports) →
      ∀ message ∈ reports, message.isMessage = true

end Descriptor

/-- A built-in rule makes no report but those without a message. -/
theorem Builtin.eq_null_of_mem_reports
    {rule : Builtin} {present : Time.Moment} {inquiry : Inquiry} {reports : Reports}
    (answered : rule.toPredicate present inquiry = .ok reports) :
    ∀ message ∈ reports, message = .null := by
  unfold toPredicate at answered
  cases passes : rule.passes present inquiry with
  | error fault => simp [passes, Except.map] at answered
  | ok passed =>
      simp only [passes, Except.map, Except.ok.injEq] at answered
      subst answered
      cases passed <;> simp

namespace Descriptor

variable {surroundings : Surroundings} {registry : Registry} {fields : Fields} {key : String}

theorem resolve_of_builtin?
    {descriptor : Descriptor} {rule : Builtin}
    (found : descriptor.builtin? surroundings = some rule) :
    descriptor.resolve surroundings registry =
      .ok (rule.name, rule.toPredicate surroundings.present) := by
  unfold builtin? at found
  unfold resolve
  cases target : descriptor.target with
  | handler handler => simp [target] at found
  | named name =>
      simp only [target] at found
      simp only [resolveName]
      cases path : classAtPath surroundings.catalog name with
      | error fault => simp [path] at found
      | ok ruleClass =>
          cases ruleClass with
          | some ruleClass => simp [path] at found
          | none =>
              simp only [path] at found
              simp only [found]

theorem answer_of_resolve
    {descriptor : Descriptor} {name : String} {rule : Predicate}
    (resolved : descriptor.resolve surroundings registry = .ok (name, rule)) :
    descriptor.answer surroundings registry fields key =
      match rule ⟨fields, key, descriptor.options⟩ with
      | .error fault => .error (.fault fault)
      | .ok reports => .ok (name, reports) := by
  unfold answer
  rw [resolved]

/-- A rule that answers with texts uses texts, if the message given with it is one. -/
theorem usesTexts_of_answer
    {descriptor : Descriptor} {name : String} {reports : Reports}
    (given : descriptor.message.isMessage = true)
    (answered : descriptor.answer surroundings registry fields key = .ok (name, reports))
    (messages : ∀ message ∈ reports, message.isMessage = true) :
    descriptor.UsesTexts surroundings registry fields key where
  given := given
  reported _ otherName otherReports answeredToo := by
    rw [answered, Except.ok.injEq, Prod.mk.injEq] at answeredToo
    rw [← answeredToo.2]
    exact messages

/-- Every report of a rule that uses texts has a text or no message. -/
theorem UsesTexts.isMessage_of_mem_reports
    {descriptor : Descriptor} (texts : descriptor.UsesTexts surroundings registry fields key)
    {name : String} {reports : Reports}
    (answered : descriptor.answer surroundings registry fields key = .ok (name, reports)) :
    ∀ message ∈ reports, message.isMessage = true := by
  cases found : descriptor.builtin? surroundings with
  | none => exact texts.reported found name reports answered
  | some rule =>
      rw [answer_of_resolve (resolve_of_builtin? found)] at answered
      cases asked :
          rule.toPredicate surroundings.present ⟨fields, key, descriptor.options⟩ with
      | error fault => simp [asked] at answered
      | ok made =>
          simp only [asked, Except.ok.injEq, Prod.mk.injEq] at answered
          obtain ⟨_, rfl⟩ := answered
          intro message member
          rw [Builtin.eq_null_of_mem_reports asked message member]
          rfl

end Descriptor

namespace Condition

variable {surroundings : Surroundings} {registry : Registry} {fields : Fields} {key : String}

theorem evaluateRule_eq
    (prefixText : String) (descriptor : Descriptor) :
    evaluateRule surroundings registry prefixText fields key descriptor =
      (descriptor.answer surroundings registry fields key).map fun answer =>
        outcomeOf prefixText descriptor answer.1 answer.2 := by
  unfold evaluateRule Descriptor.answer
  cases descriptor.resolve surroundings registry with
  | error refusal => rfl
  | ok resolved =>
      obtain ⟨name, rule⟩ := resolved
      simp only
      cases rule ⟨fields, key, descriptor.options⟩ <;> rfl

theorem exists_answer_of_evaluateRule
    {prefixText : String} {descriptor : Descriptor} {outcome : Outcome}
    (evaluated :
      evaluateRule surroundings registry prefixText fields key descriptor = .ok outcome) :
    ∃ name reports,
      descriptor.answer surroundings registry fields key = .ok (name, reports) ∧
        outcome = outcomeOf prefixText descriptor name reports := by
  rw [evaluateRule_eq] at evaluated
  cases answered : descriptor.answer surroundings registry fields key with
  | error refusal => simp [answered, Except.map] at evaluated
  | ok answer =>
      simp only [answered, Except.map, Except.ok.injEq] at evaluated
      exact ⟨answer.1, answer.2, rfl, evaluated.symm⟩

theorem fails_eq_not_passed
    {prefixText : String} {descriptor : Descriptor} {outcome : Outcome}
    (evaluated :
      evaluateRule surroundings registry prefixText fields key descriptor = .ok outcome) :
    descriptor.fails surroundings registry fields key = !outcome.passed := by
  obtain ⟨name, reports, answered, rfl⟩ := exists_answer_of_evaluateRule evaluated
  simp [Descriptor.fails, answered, passed_outcomeOf]

theorem isTrue_message_of_evaluateRule
    {prefixText : String} {descriptor : Descriptor} {outcome : Outcome}
    (evaluated :
      evaluateRule surroundings registry prefixText fields key descriptor = .ok outcome)
    (failed : outcome.passed = false) :
    outcome.message.isTrue = true := by
  obtain ⟨name, reports, _, rfl⟩ := exists_answer_of_evaluateRule evaluated
  rw [passed_outcomeOf] at failed
  have reported : reports ≠ [] := by simpa using failed
  rw [outcomeOf_of_ne_nil _ _ _ reported]
  exact isTrue_failureMessage prefixText descriptor name _

/-- The message of a failed rule that uses texts is a text, and it is not empty. -/
theorem exists_text_of_evaluateRule
    {prefixText : String} {descriptor : Descriptor} {outcome : Outcome}
    (texts : descriptor.UsesTexts surroundings registry fields key)
    (evaluated :
      evaluateRule surroundings registry prefixText fields key descriptor = .ok outcome)
    (failed : outcome.passed = false) :
    ∃ shown : String, shown ≠ "" ∧ outcome.message = .text shown := by
  have present := isTrue_message_of_evaluateRule evaluated failed
  obtain ⟨name, reports, answered, rfl⟩ := exists_answer_of_evaluateRule evaluated
  rw [passed_outcomeOf] at failed
  have reported : reports ≠ [] := by simpa using failed
  rw [outcomeOf_of_ne_nil _ _ _ reported] at present ⊢
  have message :=
    isMessage_failureMessage prefixText name texts.given
      (FailureCapture.isMessage_ofReports (texts.isMessage_of_mem_reports answered))
  exact Value.exists_text_of_isMessage message present

end Condition

end FormRules
