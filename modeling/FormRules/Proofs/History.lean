import FormRules.Proofs.FullRun
import FormRules.Proofs.Instances
import FormRules.Proofs.KeptConfiguration
import FormRules.Proofs.Resolution

/-!
# Runs after earlier use

A validation may have been run before, its conditions checked, evaluated and given outcomes to
record, and any number of instances may have been built and asked. A session holds both: the
validation and the instances. Each use changes no more than the messages that the conditions hold,
and adds instances behind those that are there. As runs read neither, a run answers the same after
every history.
-/

namespace FormRules

open Keeping

/-! ## What a rule of a class answers -/

/-- The rule of a descriptor is an instance of a class, reported under a name: the class is
attached itself, reached through a path, or registered. -/
inductive Descriptor.IsOfClass
    (surroundings : Surroundings) (registry : Registry) (descriptor : Descriptor) :
    String → RuleClass → Prop
  | attached {ruleClass : RuleClass}
      (target : descriptor.target = .handler (.ofClass ruleClass)) :
      IsOfClass surroundings registry descriptor ruleClass.qualifiedName ruleClass
  | path {name : String} {ruleClass : RuleClass}
      (target : descriptor.target = .named name)
      (hasClass : surroundings.catalog.HasClassAt name ruleClass) :
      IsOfClass surroundings registry descriptor name ruleClass
  | registered {name : String} {ruleClass : RuleClass}
      (target : descriptor.target = .named name)
      (noClass : surroundings.catalog.HasNoClassAt name)
      (noBuiltin : ∀ rule : Builtin, ¬ rule.IsNamed name)
      (found : registry.find? name = some (.ofClass ruleClass)) :
      IsOfClass surroundings registry descriptor name ruleClass

theorem Descriptor.IsOfClass.origin_eq
    {surroundings : Surroundings} {registry : Registry} {descriptor : Descriptor}
    {name : String} {ruleClass : RuleClass}
    (ofClass : descriptor.IsOfClass surroundings registry name ruleClass) :
    descriptor.origin surroundings registry = .ok (name, .ofClass ruleClass) := by
  unfold origin
  cases ofClass with
  | attached target =>
      rw [target]
      rfl
  | path target hasClass =>
      obtain ⟨pointed, atPath⟩ := hasClass
      have path := (classAtPath_of_pointed pointed surroundings.catalog).trans atPath
      simp [target, originOfName, path]
  | registered target noClass noBuiltin found =>
      have path := classAtPath_eq_none_iff.mpr noClass
      have unknown := Builtin.find?_eq_none_iff.mpr noBuiltin
      simp [target, originOfName, path, unknown, Registry.get, found, Except.map,
        Handler.origin]

namespace Evaluation

/-- The rule at a place of the chain, if the evaluation came to it, had this outcome or broke off
like this. -/
structure AnswersAt
    (evaluation : Evaluation) (place : Nat) (answer : Except Refusal Outcome) :
    Prop where
  outcome : ∀ outcome, evaluation.outcomes[place]? = some outcome → answer = .ok outcome
  refusal : ∀ refusal, evaluation.outcomes.length = place →
    evaluation.refusal = some refusal → answer = .error refusal

end Evaluation

namespace Condition

theorem answersAt_evaluateChain
    {evaluateOne : Descriptor → Except Refusal Outcome} {bail : Bool}
    {rules : List Descriptor} {place : Nat} {descriptor : Descriptor}
    (stands : rules[place]? = some descriptor) :
    (evaluateChain evaluateOne bail rules).AnswersAt place (evaluateOne descriptor) := by
  induction rules generalizing place with
  | nil => simp at stands
  | cons head rest inductionHypothesis =>
      unfold evaluateChain
      cases place with
      | zero =>
          simp only [List.getElem?_cons_zero, Option.some.injEq] at stands
          subst stands
          cases evaluateOne head with
          | error refusal => exact ⟨by simp, by simp⟩
          | ok outcome =>
              by_cases stops : (bail && !outcome.passed) = true
              · simp only [stops, if_true]
                exact ⟨by simp, by simp⟩
              · simp only [stops]
                exact ⟨by simp [Evaluation.precededBy], by simp [Evaluation.precededBy]⟩
      | succ place =>
          rw [List.getElem?_cons_succ] at stands
          obtain ⟨outcome, refusal⟩ := inductionHypothesis stands
          cases evaluateOne head with
          | error refusal => exact ⟨by simp, by simp⟩
          | ok first =>
              by_cases stops : (bail && !first.passed) = true
              · simp only [stops, if_true]
                exact ⟨by simp, by simp⟩
              · simp only [stops]
                refine ⟨fun found stood => ?_, fun found reached => ?_⟩
                · exact outcome found (by simpa [Evaluation.precededBy] using stood)
                · exact refusal found (by simpa [Evaluation.precededBy] using reached)

/-- Wherever a rule of a class stands in a chain, and whatever instances there are, it answers as
an instance does that is built where there are no others. -/
theorem answersAt_evaluateKeeping
    (condition : Condition) (surroundings : Surroundings) (registry : Registry)
    (fields : Fields) (key : String) (bail : Bool) (instances : Instances)
    {place : Nat} {descriptor : Descriptor} {name : String} {ruleClass : RuleClass}
    (stands : condition.rules[place]? = some descriptor)
    (ofClass : descriptor.IsOfClass surroundings registry name ruleClass) :
    ((condition.evaluateKeeping surroundings registry fields key bail).run instances).1.AnswersAt
      place
      (((Instances.askNew ruleClass name ⟨fields, key, descriptor.options⟩).run []).1.map
        (outcomeOf condition.prefixText descriptor name)) := by
  obtain ⟨_, evaluated⟩ :=
    condition.gives_evaluateKeeping surroundings registry fields key bail instances
  obtain ⟨_, alone⟩ :=
    gives_evaluateRuleKeeping surroundings registry condition.prefixText fields key descriptor []
  have asked :
      ((evaluateRuleKeeping surroundings registry condition.prefixText fields key
          descriptor).run []).1 =
        ((Instances.askNew ruleClass name ⟨fields, key, descriptor.options⟩).run []).1.map
          (outcomeOf condition.prefixText descriptor name) := by
    unfold evaluateRuleKeeping
    rw [ofClass.origin_eq]
    rfl
  rw [evaluated, ← asked, alone]
  exact answersAt_evaluateChain stands

end Condition

/-! ## Sessions -/

/-- A validation in use, and the instances built so far. -/
structure Session where
  validation : Validation
  instances : Instances

/-- What can be done with a validation and its conditions once it is configured. -/
inductive Use where
  | run (surroundings : Surroundings) (fields : Fields) (bail : Option Bool)
  | validate (surroundings : Surroundings) (fields : Fields) (bail : Option Bool)
  | check (field : String) (surroundings : Surroundings) (fields : Fields) (key : String)
      (bail : Bool)
  | evaluate (field : String) (surroundings : Surroundings) (fields : Fields) (key : String)
      (bail : Bool)
  | record (field : String) (key : String) (outcomes : List Outcome)

namespace Session

def run
    (session : Session) (surroundings : Surroundings) (fields : Fields) (bail : Option Bool) :
    Run × Session :=
  let ran := (session.validation.runKeeping surroundings fields bail).run session.instances
  (ran.1, ⟨ran.1.validation, ran.2⟩)

/-- Uses the condition of a field, which may change it. A field without a condition has none to
use. -/
def useCondition
    (session : Session) (field : String) (change : Condition → Keeping Condition) :
    Session :=
  match session.validation.condition? field with
  | none => session
  | some condition =>
      let changed := (change condition).run session.instances
      ⟨session.validation.setCondition field changed.1, changed.2⟩

/-- The session after one use. A verdict is asked for by a run. -/
def perform
    (session : Session) :
    Use → Session
  | .run surroundings fields bail => (session.run surroundings fields bail).2
  | .validate surroundings fields bail => (session.run surroundings fields bail).2
  | .check field surroundings fields key bail =>
      session.useCondition field fun condition =>
        return (← condition.checkKeeping surroundings session.validation.registry fields key
          bail).condition
  | .evaluate field surroundings fields key bail =>
      session.useCondition field fun condition => do
        let _ ← condition.evaluateKeeping surroundings session.validation.registry fields key bail
        return condition
  | .record field key outcomes =>
      session.useCondition field fun condition => return condition.record key outcomes

def after
    (session : Session) (history : List Use) :
    Session :=
  history.foldl perform session

/-- The session is the other one, used in some way since: its configuration is the same, and the
instances from before are as they were, with others behind them. -/
structure ComesFrom
    (session earlier : Session) :
    Prop where
  configuration : session.validation.configuration = earlier.validation.configuration
  instances : ∃ added, session.instances = earlier.instances ++ added

theorem ComesFrom.refl
    (session : Session) :
    session.ComesFrom session :=
  ⟨rfl, [], (List.append_nil _).symm⟩

theorem ComesFrom.trans
    {last between first : Session}
    (later : last.ComesFrom between) (sooner : between.ComesFrom first) :
    last.ComesFrom first := by
  obtain ⟨added, instances⟩ := sooner.instances
  obtain ⟨more, moreInstances⟩ := later.instances
  refine ⟨later.configuration.trans sooner.configuration, added ++ more, ?_⟩
  rw [moreInstances, instances, List.append_assoc]

theorem run_eq
    (session : Session) (surroundings : Surroundings) (fields : Fields) (bail : Option Bool) :
    (session.run surroundings fields bail).1 =
      session.validation.run surroundings fields bail := by
  obtain ⟨_, ran⟩ :=
    session.validation.gives_runKeeping surroundings fields bail session.instances
  exact congrArg Prod.fst ran

theorem comesFrom_run
    (session : Session) (surroundings : Surroundings) (fields : Fields) (bail : Option Bool) :
    (session.run surroundings fields bail).2.ComesFrom session := by
  obtain ⟨added, ran⟩ :=
    session.validation.gives_runKeeping surroundings fields bail session.instances
  refine ⟨?_, added, congrArg Prod.snd ran⟩
  have leftBehind :
      (session.run surroundings fields bail).2.validation =
        (session.run surroundings fields bail).1.validation :=
    rfl
  rw [leftBehind, run_eq]
  exact session.validation.configuration_run surroundings fields bail

theorem comesFrom_useCondition
    (session : Session) (field : String) {change : Condition → Keeping Condition}
    {changed : Condition → Condition}
    (gives : ∀ condition, Gives (change condition) (changed condition))
    (cleared : ∀ condition, (changed condition).cleared = condition.cleared) :
    (session.useCondition field change).ComesFrom session := by
  unfold useCondition
  cases found : session.validation.condition? field with
  | none => exact .refl session
  | some condition =>
      obtain ⟨added, ran⟩ := gives condition session.instances
      refine ⟨?_, added, by simp only [ran]⟩
      have kept :
          (session.validation.conditions.set field (changed condition)).mapValues
              Condition.cleared =
            session.validation.conditions.mapValues Condition.cleared := by
        rw [Roster.mapValues_set, cleared, ← Roster.mapValues_set, Roster.set_of_find? found]
      simp only [ran, Validation.configuration, Validation.setCondition, kept]

theorem comesFrom_perform
    (session : Session) (use : Use) :
    (session.perform use).ComesFrom session := by
  cases use with
  | run surroundings fields bail => exact session.comesFrom_run surroundings fields bail
  | validate surroundings fields bail => exact session.comesFrom_run surroundings fields bail
  | check field surroundings fields key bail =>
      have checked := fun condition : Condition =>
        condition.gives_checkKeeping surroundings session.validation.registry fields key bail
      exact session.comesFrom_useCondition field
        (fun condition => (checked condition).map Check.condition) fun condition =>
          condition.cleared_check surroundings session.validation.registry fields key bail
  | evaluate field surroundings fields key bail =>
      have evaluated := fun condition : Condition =>
        condition.gives_evaluateKeeping surroundings session.validation.registry fields key bail
      exact session.comesFrom_useCondition field
        (fun condition => (evaluated condition).map fun _ => condition) fun _ => rfl
  | record field key outcomes =>
      exact session.comesFrom_useCondition field
        (fun condition => gives_pure (condition.record key outcomes))
        fun condition => condition.cleared_record key outcomes

theorem comesFrom_after
    (session : Session) (history : List Use) :
    (session.after history).ComesFrom session := by
  induction history generalizing session with
  | nil => exact .refl session
  | cons use later inductionHypothesis =>
      exact (inductionHypothesis (session.perform use)).trans (session.comesFrom_perform use)

/-- Conditions keep the prefix of the settings through every history. -/
theorem sharesPrefix_after
    {session : Session} (shares : session.validation.SharesPrefix) (history : List Use) :
    (session.after history).validation.SharesPrefix :=
  shares.of_configuration_eq (session.comesFrom_after history).configuration

theorem ComesFrom.result_eq
    {session earlier : Session} (comesFrom : session.ComesFrom earlier)
    (surroundings : Surroundings) (fields : Fields) (bail : Option Bool) :
    (session.run surroundings fields bail).1.result =
      (earlier.validation.run surroundings fields bail).result := by
  rw [run_eq]
  exact Validation.result_run_of_configuration_eq comesFrom.configuration surroundings fields bail

/-- A run answers the same after every two histories of the same validation, and again after itself.
It asks no instance from before. Wherever it comes upon a rule of a class, the rule answers as an
instance that is built where there are no others. -/
theorem run_leaves_no_trace
    (validation : Validation) (leftInstances rightInstances : Instances)
    (leftHistory rightHistory : List Use)
    (surroundings : Surroundings) (fields : Fields) (bail : Option Bool) :
    let left := (Session.mk validation leftInstances).after leftHistory
    let right := (Session.mk validation rightInstances).after rightHistory
    let leftRun := left.run surroundings fields bail
    let rightRun := right.run surroundings fields bail
    let secondRun := leftRun.2.run surroundings fields bail
    (leftRun.1.result = rightRun.1.result ∧ leftRun.1.verdict = rightRun.1.verdict) ∧
      (secondRun.1.result = leftRun.1.result ∧ secondRun.1.verdict = leftRun.1.verdict) ∧
      leftRun.1 = left.validation.run surroundings fields bail ∧
      (∃ added, leftRun.2.instances = left.instances ++ added) ∧
      ∀ (condition : Condition) key stops instances place descriptor name ruleClass,
        condition.rules[place]? = some descriptor →
          descriptor.IsOfClass surroundings validation.registry name ruleClass →
            ((condition.evaluateKeeping surroundings left.validation.registry fields key
                stops).run instances).1.AnswersAt
              place
              (((Instances.askNew ruleClass name
                  ⟨fields, key, descriptor.options⟩).run []).1.map
                (Condition.outcomeOf condition.prefixText descriptor name)) := by
  intro left right leftRun rightRun secondRun
  have leftComes : left.ComesFrom ⟨validation, leftInstances⟩ :=
    comesFrom_after ⟨validation, leftInstances⟩ leftHistory
  have rightComes : right.ComesFrom ⟨validation, rightInstances⟩ :=
    comesFrom_after ⟨validation, rightInstances⟩ rightHistory
  have runComes : leftRun.2.ComesFrom left := left.comesFrom_run surroundings fields bail
  have leftResult : leftRun.1.result = (validation.run surroundings fields bail).result :=
    leftComes.result_eq surroundings fields bail
  have rightResult : rightRun.1.result = (validation.run surroundings fields bail).result :=
    rightComes.result_eq surroundings fields bail
  have secondResult : secondRun.1.result = (validation.run surroundings fields bail).result :=
    (runComes.trans leftComes).result_eq surroundings fields bail
  have sameRegistry : left.validation.registry = validation.registry := by
    have ofConfiguration := congrArg Validation.registry leftComes.configuration
    exact ofConfiguration
  have acrossHistories := leftResult.trans rightResult.symm
  have acrossRuns := secondResult.trans leftResult.symm
  refine ⟨⟨acrossHistories, Validation.verdict_eq_of_result_eq acrossHistories⟩,
    ⟨acrossRuns, Validation.verdict_eq_of_result_eq acrossRuns⟩,
    left.run_eq surroundings fields bail, runComes.instances, ?_⟩
  intro condition key stops instances place descriptor name ruleClass stands ofClass
  rw [sameRegistry]
  exact condition.answersAt_evaluateKeeping surroundings validation.registry fields key stops
    instances stands ofClass

end Session

/-! ## A form whose rules count -/

/-- A rule class of which each instance counts what it is asked. -/
def countingClass :
    RuleClass :=
  Stock.counting.toClass "shop.Counting"

def countingSurroundings :
    Surroundings :=
  { quietSurroundings with
    catalog := ⟨fun path => if path = "shop.Counting" then some countingClass else none⟩ }

/-- The class is attached twice, reached by its path, and registered. -/
def countingCondition :
    Condition :=
  ⟨"form",
    [⟨.handler (.ofClass countingClass), [], "", .null⟩,
      ⟨.handler (.ofClass countingClass), [], "", .null⟩,
      ⟨.named "shop.Counting", [], "shop.Counting", .null⟩,
      ⟨.named "counted", [], "counted", .null⟩],
    []⟩

def countingForm :
    Validation :=
  ⟨.initial, Registry.empty.set "counted" (.ofClass countingClass),
    ⟨[("total", countingCondition)], by decide⟩⟩

def countingSession :
    Session :=
  (Session.mk countingForm []).after
    [.run countingSurroundings [] none, .check "total" countingSurroundings [] "total" true,
      .record "total" "total" []]

/-- The next run is like one of the form as it was, and the rules report the first question each:
the one that is attached for the second time, the one at the path, and the registered one. -/
theorem countingForm_run_leaves_no_trace :
    let evaluation :=
      ((countingCondition.evaluateKeeping countingSurroundings
        countingSession.validation.registry [] "total" false).run countingSession.instances).1
    (countingSession.run countingSurroundings [] (some false)).1.result =
        ((Session.mk countingForm []).run countingSurroundings [] (some false)).1.result ∧
      evaluation.AnswersAt 1 (.ok ⟨"shop.Counting", false, .text "call 1"⟩) ∧
      evaluation.AnswersAt 2 (.ok ⟨"shop.Counting", false, .text "call 1"⟩) ∧
      evaluation.AnswersAt 3 (.ok ⟨"counted", false, .text "call 1"⟩) := by
  intro evaluation
  obtain ⟨⟨sameResult, _⟩, _, _, _, answers⟩ :=
    Session.run_leaves_no_trace countingForm [] []
      [.run countingSurroundings [] none, .check "total" countingSurroundings [] "total" true,
        .record "total" "total" []]
      [] countingSurroundings [] (some false)
  have answersHere :=
    answers countingCondition "total" false countingSession.instances
  have noClass : countingSurroundings.catalog.HasNoClassAt "counted" := fun pointed =>
    absurd pointed (by decide)
  have noBuiltin : ∀ rule : Builtin, ¬ rule.IsNamed "counted" := by
    rw [← Builtin.find?_eq_none_iff]
    decide +kernel
  refine ⟨sameResult, ?_, ?_, ?_⟩
  · exact answersHere 1 _ _ _ rfl (.attached rfl)
  · exact answersHere 2 _ _ _ rfl (.path rfl ⟨by decide, rfl⟩)
  · exact answersHere 3 _ _ _ rfl (.registered rfl noClass noBuiltin rfl)

end FormRules
