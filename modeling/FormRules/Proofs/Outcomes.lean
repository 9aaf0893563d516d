import FormRules.Proofs.Chain
import FormRules.Proofs.FullRun
import FormRules.Proofs.Resolution

/-!
# The outcomes of a chain

Where a chain is evaluated to its end, each of its rules has one outcome, at its own place. The
outcome has the name that the rule was resolved to, and it is that of a passed rule exactly if the
rule made no report. The message of a failed rule is the first that counts as present of the message
given with the rule, its reports from the last to the first, and a default. No other rule of the
chain has a part in it.
-/

namespace FormRules

section Answering

variable (surroundings : Surroundings) (registry : Registry) (fields : Fields) (key : String)

/-- A rule makes reports about a field, under a name. A rule by name is what the name stands for; a
class and a callback have their own names. -/
inductive Descriptor.MakesReports :
    Descriptor → String → Reports → Prop
  | named {own name source : String} {options : List String} {message : Value} {rule : Predicate}
      {reports : Reports}
      (standsFor : StandsFor surroundings registry own (.ok (name, rule)))
      (asked : rule ⟨fields, key, options⟩ = .ok reports) :
      MakesReports ⟨.named own, options, source, message⟩ name reports
  | ofClass {ruleClass : RuleClass} {source : String} {options : List String} {message : Value}
      {rule : Predicate} {reports : Reports}
      (gives : ruleClass.Gives ruleClass.qualifiedName (.ok rule))
      (asked : rule ⟨fields, key, options⟩ = .ok reports) :
      MakesReports ⟨.handler (.ofClass ruleClass), options, source, message⟩
        ruleClass.qualifiedName reports
  | ofCallback {callback : Callback} {source : String} {options : List String} {message : Value}
      {reports : Reports}
      (asked : callback.ask ⟨fields, key, options⟩ = .ok reports) :
      MakesReports ⟨.handler (.ofCallback callback), options, source, message⟩
        callback.displayName reports

end Answering

/-- The first message that counts as present of the one given with a rule, its reports from the last
to the first, and a default. -/
def firstPresent?
    (given : Value) (reports : Reports) (default : String) :
    Option Value :=
  (given :: (reports.reverse ++ [.text default])).find? Value.isTrue

/-- The outcome of a rule that made the given reports under a name. -/
inductive Outcome.IsOf
    (prefixText : String) :
    Descriptor → String → Reports → Outcome → Prop
  | passed (descriptor : Descriptor) (name : String) :
      IsOf prefixText descriptor name [] ⟨name, true, .null⟩
  | failedName {own name source : String} {options : List String} {given message : Value}
      {reports : Reports} (reported : reports ≠ [])
      (first : firstPresent? given reports (prefixText ++ "." ++ name) = some message) :
      IsOf prefixText ⟨.named own, options, source, given⟩ name reports ⟨name, false, message⟩
  | failedHandler {handler : Handler} {name source : String} {options : List String}
      {given message : Value} {reports : Reports} (reported : reports ≠ [])
      (first :
        firstPresent? given reports ("Failed validation for " ++ name ++ " rule") =
          some message) :
      IsOf prefixText ⟨.handler handler, options, source, given⟩ name reports
        ⟨name, false, message⟩

/-- The outcome is that of the rule, whatever the rest of the chain. -/
def Condition.HasOutcome
    (surroundings : Surroundings) (registry : Registry) (fields : Fields) (key : String)
    (prefixText : String) (descriptor : Descriptor) (outcome : Outcome) :
    Prop :=
  ∃ name reports,
    descriptor.MakesReports surroundings registry fields key name reports ∧
      outcome.IsOf prefixText descriptor name reports

/-! ## What a rule answers -/

section Answering

variable {surroundings : Surroundings} {registry : Registry} {fields : Fields} {key : String}

namespace Descriptor

/-- A rule that is resolved answers with its reports. -/
theorem answer_of_asked
    {descriptor : Descriptor} {name : String} {rule : Predicate} {reports : Reports}
    (resolved : descriptor.resolve surroundings registry = .ok (name, rule))
    (asked : rule ⟨fields, key, descriptor.options⟩ = .ok reports) :
    descriptor.answer surroundings registry fields key = .ok (name, reports) := by
  rw [answer_of_resolve resolved, asked]

theorem exists_rule_of_answer
    {descriptor : Descriptor} {name : String} {reports : Reports}
    (answered : descriptor.answer surroundings registry fields key = .ok (name, reports)) :
    ∃ rule, descriptor.resolve surroundings registry = .ok (name, rule) ∧
      rule ⟨fields, key, descriptor.options⟩ = .ok reports := by
  cases resolved : descriptor.resolve surroundings registry with
  | error refusal => simp [answer, resolved] at answered
  | ok found =>
      obtain ⟨reported, rule⟩ := found
      rw [answer_of_resolve resolved] at answered
      cases asked : rule ⟨fields, key, descriptor.options⟩ with
      | error fault => simp [asked] at answered
      | ok made =>
          simp only [asked, Except.ok.injEq, Prod.mk.injEq] at answered
          obtain ⟨rfl, rfl⟩ := answered
          exact ⟨rule, rfl, asked⟩

theorem makesReports_iff
    {descriptor : Descriptor} {name : String} {reports : Reports} :
    descriptor.MakesReports surroundings registry fields key name reports ↔
      descriptor.answer surroundings registry fields key = .ok (name, reports) := by
  constructor
  · intro makes
    cases makes with
    | named standsFor asked => exact answer_of_asked (standsFor_iff.mp standsFor) asked
    | ofClass gives asked =>
        refine answer_of_asked ?_ asked
        simp only [resolve, Handler.toPredicate, Handler.displayName,
          ← RuleClass.gives_iff.mp gives]
        rfl
    | ofCallback asked => exact answer_of_asked rfl asked
  · intro answered
    obtain ⟨rule, resolved, asked⟩ := exists_rule_of_answer answered
    obtain ⟨target, options, source, message⟩ := descriptor
    cases target with
    | named own => exact .named (standsFor_iff.mpr resolved) asked
    | handler handler =>
        cases handler with
        | ofCallback callback =>
            cases resolved
            exact .ofCallback asked
        | ofClass ruleClass =>
            simp only [resolve, Handler.toPredicate, Handler.displayName] at resolved
            cases built : ruleClass.instantiate ruleClass.qualifiedName with
            | error refusal =>
                simp only [built] at resolved
                cases resolved
            | ok own =>
                simp only [built] at resolved
                cases resolved
                exact .ofClass (RuleClass.gives_iff.mpr built.symm) asked

end Descriptor

end Answering

/-! ## The message of a failed rule -/

private theorem FailureCapture.message_foldl_report
    (reports : Reports) (capture : FailureCapture) :
    (reports.foldl report capture).message =
      (reports.reverse.find? Value.isTrue).getD capture.message := by
  induction reports generalizing capture with
  | nil => rfl
  | cons message reports inductionHypothesis =>
      rw [List.foldl_cons, inductionHypothesis, List.reverse_cons, List.find?_append]
      cases reports.reverse.find? Value.isTrue with
      | some later => rfl
      | none =>
          by_cases present : message.isTrue = true
          · simp [report, present]
          · simp [report, present]

/-- What is kept of the reports of a rule is the last message that counts as present. -/
theorem FailureCapture.message_ofReports
    (reports : Reports) :
    (ofReports reports).message = (reports.reverse.find? Value.isTrue).getD .null :=
  message_foldl_report reports initial

/-- A chain gives a failed rule the first of the messages that counts as present. -/
theorem firstPresent?_eq_failureMessage
    (prefixText : String) (descriptor : Descriptor) (name : String) (reports : Reports) :
    firstPresent? descriptor.message reports
        (Condition.defaultMessage prefixText descriptor name) =
      some (Condition.failureMessage prefixText descriptor name (.ofReports reports)) := by
  have defaultPresent :
      (Value.text (Condition.defaultMessage prefixText descriptor name)).isTrue = true := by
    simpa [Value.isTrue] using Condition.defaultMessage_ne_empty prefixText descriptor name
  rw [firstPresent?, Condition.failureMessage]
  by_cases given : descriptor.message.isTrue = true
  · rw [if_pos given, List.find?_cons_of_pos given]
  · rw [if_neg given, List.find?_cons_of_neg given, List.find?_append,
      FailureCapture.message_ofReports]
    cases reported : reports.reverse.find? Value.isTrue with
    | some message =>
        have present : message.isTrue = true := List.find?_some reported
        rw [Option.getD_some, if_pos present]
        rfl
    | none =>
        rw [Option.getD_none, if_neg (by decide), List.find?_cons_of_pos defaultPresent]
        rfl

namespace Outcome

/-- The outcome that a chain has for a rule with the given reports. -/
theorem isOf_outcomeOf
    (prefixText : String) (descriptor : Descriptor) (name : String) (reports : Reports) :
    IsOf prefixText descriptor name reports
      (Condition.outcomeOf prefixText descriptor name reports) := by
  by_cases silent : reports = []
  · rw [silent]
    exact .passed descriptor name
  · have first := firstPresent?_eq_failureMessage prefixText descriptor name reports
    rw [Condition.outcomeOf_of_ne_nil prefixText descriptor name silent]
    obtain ⟨target, options, source, message⟩ := descriptor
    cases target with
    | named own => exact .failedName silent first
    | handler handler => exact .failedHandler silent first

theorem outcomeOf_of_firstPresent
    {prefixText name : String} {reports : Reports} {message : Value} (descriptor : Descriptor)
    (reported : reports ≠ [])
    (first :
      firstPresent? descriptor.message reports
          (Condition.defaultMessage prefixText descriptor name) =
        some message) :
    Condition.outcomeOf prefixText descriptor name reports = ⟨name, false, message⟩ := by
  rw [firstPresent?_eq_failureMessage, Option.some.injEq] at first
  rw [Condition.outcomeOf_of_ne_nil prefixText descriptor name reported, first]

theorem isOf_iff
    {prefixText : String} {descriptor : Descriptor} {name : String} {reports : Reports}
    {outcome : Outcome} :
    IsOf prefixText descriptor name reports outcome ↔
      outcome = Condition.outcomeOf prefixText descriptor name reports := by
  constructor
  · intro isOf
    cases isOf with
    | passed => rfl
    | @failedName own _ source options given _ _ reported first =>
        exact (outcomeOf_of_firstPresent ⟨.named own, options, source, given⟩ reported first).symm
    | @failedHandler handler _ source options given _ _ reported first =>
        exact
          (outcomeOf_of_firstPresent ⟨.handler handler, options, source, given⟩ reported
            first).symm
  · rintro rfl
    exact isOf_outcomeOf prefixText descriptor name reports

end Outcome

/-! ## The outcomes of all rules -/

namespace Condition

section Evaluating

variable {surroundings : Surroundings} {registry : Registry} {fields : Fields} {key : String}

theorem hasOutcome_iff
    {prefixText : String} {descriptor : Descriptor} {outcome : Outcome} :
    HasOutcome surroundings registry fields key prefixText descriptor outcome ↔
      evaluateRule surroundings registry prefixText fields key descriptor = .ok outcome := by
  constructor
  · rintro ⟨name, reports, makes, isOf⟩
    rw [evaluateRule_eq, Descriptor.makesReports_iff.mp makes, Outcome.isOf_iff.mp isOf]
    rfl
  · intro evaluated
    obtain ⟨name, reports, answered, isOutcome⟩ := exists_answer_of_evaluateRule evaluated
    exact ⟨name, reports, Descriptor.makesReports_iff.mpr answered, Outcome.isOf_iff.mpr isOutcome⟩

theorem toExcept_evaluate_eq_ok_iff
    {condition : Condition} {outcomes : List Outcome} :
    (condition.evaluate surroundings registry fields key false).toExcept = .ok outcomes ↔
      List.Forall₂
        (HasOutcome surroundings registry fields key condition.prefixText)
        condition.rules outcomes := by
  have sameRelation :
      HasOutcome surroundings registry fields key condition.prefixText =
        fun descriptor outcome =>
          evaluateRule surroundings registry condition.prefixText fields key descriptor =
            .ok outcome := by
    funext descriptor outcome
    exact propext hasOutcome_iff
  rw [evaluate, toExcept_evaluateChain_false_eq_ok_iff, sameRelation]

/-- At the place of a rule stands its outcome. -/
theorem outcome_of_place
    {condition : Condition} {outcomes : List Outcome} {place : Nat} {descriptor : Descriptor}
    (returned :
      (condition.evaluate surroundings registry fields key false).toExcept = .ok outcomes)
    (stands : condition.rules[place]? = some descriptor) :
    ∃ outcome, outcomes[place]? = some outcome ∧
      HasOutcome surroundings registry fields key condition.prefixText descriptor outcome := by
  have all := toExcept_evaluate_eq_ok_iff.mp returned
  obtain ⟨inRules, isRule⟩ := List.getElem?_eq_some_iff.mp stands
  have inOutcomes : place < outcomes.length := by rwa [← all.length_eq]
  refine ⟨outcomes[place], List.getElem?_eq_getElem inOutcomes, ?_⟩
  rw [← isRule]
  exact all.get inRules inOutcomes

end Evaluating

/-- An evaluation without `bail` that does not break off has one outcome for each rule of the chain,
in their order, and each is that of its rule. So a rule has the same outcome in all chains of one
prefix, at whatever place it stands. -/
theorem evaluate_gives_outcome_of_each_rule
    (condition : Condition) (surroundings : Surroundings) (registry : Registry)
    (fields : Fields) (key : String) :
    (∀ outcomes,
        (condition.evaluate surroundings registry fields key false).toExcept = .ok outcomes ↔
          List.Forall₂
            (HasOutcome surroundings registry fields key condition.prefixText)
            condition.rules outcomes) ∧
      ∀ (other : Condition) (outcomes otherOutcomes : List Outcome) (place otherPlace : Nat)
          (descriptor : Descriptor),
        other.prefixText = condition.prefixText →
          (condition.evaluate surroundings registry fields key false).toExcept = .ok outcomes →
            (other.evaluate surroundings registry fields key false).toExcept =
                .ok otherOutcomes →
              condition.rules[place]? = some descriptor →
                other.rules[otherPlace]? = some descriptor →
                  otherOutcomes[otherPlace]? = outcomes[place]? := by
  refine ⟨fun outcomes => toExcept_evaluate_eq_ok_iff, ?_⟩
  intro other outcomes otherOutcomes place otherPlace descriptor samePrefix returned
    otherReturned stands otherStands
  obtain ⟨outcome, found, hasOutcome⟩ := outcome_of_place returned stands
  obtain ⟨otherOutcome, otherFound, otherHas⟩ := outcome_of_place otherReturned otherStands
  rw [samePrefix, hasOutcome_iff] at otherHas
  rw [hasOutcome_iff, otherHas, Except.ok.injEq] at hasOutcome
  rw [found, otherFound, hasOutcome]

end Condition

/-! ## A shop that checks a price -/

/-- The rules of this chain: a built-in rule in a spelling of its own, a class that makes reports
with and without a message, a callback with an empty message that makes an empty report, and one
that makes none. -/
def priceCondition :
    Condition :=
  ⟨"shop",
    [⟨.named "Re-Quired", [], "Re-Quired", .null⟩,
      ⟨.handler (.ofClass
        ((Stock.always [.text "too low", .text "too cheap", .text "", .null]).toClass "Price")),
        [], "", .null⟩,
      ⟨.handler (.ofCallback ⟨"in_stock", false, fun _ => .ok [.text ""]⟩), [], "", .text ""⟩,
      ⟨.handler (.ofCallback ⟨"anything", false, fun _ => .ok []⟩), [], "", .text "unused"⟩],
    []⟩

def reversedPriceCondition :
    Condition :=
  { priceCondition with rules := priceCondition.rules.reverse }

def priceOutcomes :
    List Outcome :=
  [⟨"required", false, .text "shop.required"⟩, ⟨"Price", false, .text "too cheap"⟩,
    ⟨"in_stock", false, .text "Failed validation for in_stock rule"⟩, ⟨"anything", true, .null⟩]

/-- Each rule of the chain has its own outcome, and in the reversed chain it has the same. -/
theorem price_outcome_of_each_rule :
    (priceCondition.evaluate quietSurroundings .empty [] "price" false).toExcept =
        .ok priceOutcomes ∧
      (reversedPriceCondition.evaluate quietSurroundings .empty [] "price" false).toExcept =
        .ok priceOutcomes.reverse ∧
      priceOutcomes.reverse[2]? = priceOutcomes[1]? := by
  obtain ⟨returns, sameOutcome⟩ :=
    Condition.evaluate_gives_outcome_of_each_rule priceCondition quietSurroundings .empty []
      "price"
  have named : Builtin.required.IsNamed "Re-Quired" := by
    rw [← Builtin.find?_eq_some_iff]
    decide +kernel
  have noPoint : quietSurroundings.catalog.HasNoClassAt "Re-Quired" := fun pointed =>
    absurd pointed (by decide)
  have each :
      List.Forall₂ (Condition.HasOutcome quietSurroundings .empty [] "price" "shop")
        priceCondition.rules priceOutcomes :=
    .cons ⟨_, [.null], .named (.builtin noPoint named) rfl, .failedName (by simp) rfl⟩ <|
      .cons ⟨_, _, .ofClass (.built rfl rfl) rfl, .failedHandler (by simp) rfl⟩ <|
        .cons ⟨_, _, .ofCallback rfl, .failedHandler (by simp) rfl⟩ <|
          .cons ⟨_, _, .ofCallback rfl, .passed _ _⟩ .nil
  have returned := (returns priceOutcomes).mpr each
  have reversedReturned :
      (reversedPriceCondition.evaluate quietSurroundings .empty [] "price" false).toExcept =
        .ok priceOutcomes.reverse :=
    Condition.toExcept_evaluate_eq_ok_iff.mpr (List.rel_reverse each)
  exact ⟨returned, reversedReturned,
    sameOutcome reversedPriceCondition _ _ 1 2 _ rfl returned reversedReturned rfl rfl⟩

end FormRules
