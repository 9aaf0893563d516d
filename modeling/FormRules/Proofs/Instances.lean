import FormRules.Proofs.Progress

/-!
# Instances of rule classes

Each question to a rule class is put to a new instance. Here the instances are kept: an instance
stays at the place where it was built, and remembers what it was asked. The statements say that this
cannot be told from outside. A run that keeps the instances comes as far as one that does not,
whatever the instances remember that were there before it, and it asks none of these.
-/

namespace FormRules

/-- What a rule is made from: a class, or a function that is asked itself. -/
inductive Origin where
  | ofClass (ruleClass : RuleClass)
  | ofFunction (ask : Predicate)

namespace Origin

def toPredicate
    (origin : Origin) (name : String) :
    Except Refusal Predicate :=
  match origin with
  | ofClass ruleClass => ruleClass.instantiate name
  | ofFunction ask => .ok ask

end Origin

namespace Handler

def origin :
    Handler → Origin
  | ofClass ruleClass => .ofClass ruleClass
  | ofCallback callback => .ofFunction callback.ask

theorem toPredicate_origin
    (handler : Handler) (name : String) :
    handler.origin.toPredicate name = handler.toPredicate name := by
  cases handler <;> rfl

end Handler

namespace Descriptor

variable (surroundings : Surroundings) (registry : Registry)

/-- What the rule of a name is made from, and the name under which its outcome is reported. -/
def originOfName
    (name : String) :
    Except Refusal (String × Origin) :=
  match classAtPath surroundings.catalog name with
  | .error fault => .error (.fault fault)
  | .ok (some ruleClass) => .ok (name, .ofClass ruleClass)
  | .ok none =>
      match Builtin.find? name with
      | some builtin => .ok (builtin.name, .ofFunction (builtin.toPredicate surroundings.present))
      | none => (registry.get name).map fun handler => (name, handler.origin)

def origin
    (descriptor : Descriptor) :
    Except Refusal (String × Origin) :=
  match descriptor.target with
  | .named name => originOfName surroundings registry name
  | .handler handler => .ok (handler.displayName, handler.origin)

theorem resolve_eq_origin
    (descriptor : Descriptor) :
    descriptor.resolve surroundings registry =
      (descriptor.origin surroundings registry).bind fun named =>
        (named.2.toPredicate named.1).map fun rule => (named.1, rule) := by
  unfold resolve origin
  cases descriptor.target with
  | handler handler =>
      simp only [Except.bind]
      rw [Handler.toPredicate_origin]
  | named name =>
      simp only [resolveName, originOfName]
      cases classAtPath surroundings.catalog name with
      | error fault => rfl
      | ok held =>
          cases held with
          | some ruleClass => rfl
          | none =>
              cases Builtin.find? name with
              | some builtin => rfl
              | none =>
                  cases found : registry.find? name with
                  | none => simp [Registry.has, Registry.get, found, Except.map, Except.bind]
                  | some handler =>
                      simp [Registry.has, Registry.resolve, Registry.get, found, Except.map,
                        Except.bind, Handler.toPredicate_origin]

end Descriptor

/-! ## Keeping instances -/

/-- An instance of a rule class, with what it remembers. -/
structure RuleInstance where
  ruleClass : RuleClass
  memory : Value

/-- The instances built so far. An instance is known by its place. -/
abbrev Instances :=
  List RuleInstance

/-- A computation that builds instances and asks them. -/
abbrev Keeping (answer : Type) :=
  StateM Instances answer

namespace Keeping

/-- The computation has this answer whatever instances there are, and all it does to them is to add
others behind. -/
def Gives {answer : Type}
    (computation : Keeping answer) (given : answer) :
    Prop :=
  ∀ instances, ∃ added, computation.run instances = (given, instances ++ added)

theorem run_bind {first second : Type}
    (computation : Keeping first) (next : first → Keeping second) (instances : Instances) :
    (computation >>= next).run instances =
      (next (computation.run instances).1).run (computation.run instances).2 :=
  rfl

theorem gives_pure {answer : Type}
    (given : answer) :
    Gives (pure given) given :=
  fun instances => ⟨[], by rw [List.append_nil]; rfl⟩

theorem Gives.bind {first second : Type}
    {computation : Keeping first} {given : first} {next : first → Keeping second}
    {result : second}
    (gives : Gives computation given) (nextGives : Gives (next given) result) :
    Gives (computation >>= next) result := by
  intro instances
  obtain ⟨added, ran⟩ := gives instances
  obtain ⟨more, ranToo⟩ := nextGives (instances ++ added)
  refine ⟨added ++ more, ?_⟩
  rw [run_bind, ran, ranToo, List.append_assoc]

theorem Gives.map {first second : Type}
    {computation : Keeping first} {given : first} (change : first → second)
    (gives : Gives computation given) :
    Gives (do return change (← computation)) (change given) :=
  gives.bind (gives_pure (change given))

end Keeping

open Keeping

namespace Instances

def build
    (ruleClass : RuleClass) (name : String) :
    Keeping (Except Refusal Nat) :=
  fun instances =>
    if ruleClass.isRule then
      match ruleClass.construct with
      | .ok memory => (.ok instances.length, instances ++ [⟨ruleClass, memory⟩])
      | .error fault => (.error (.fault fault), instances)
    else (.error (.notARuleClass name ruleClass.qualifiedName), instances)

/-- Asks the instance at a place, which remembers the question. At other places there is nothing to
ask. -/
def ask
    (place : Nat) (inquiry : Inquiry) :
    Keeping (Except Refusal Reports) :=
  fun instances =>
    match instances[place]? with
    | none => (.ok [], instances)
    | some held =>
        match held.ruleClass.ask held.memory inquiry with
        | .error fault => (.error (.fault fault), instances)
        | .ok (memory, reports) =>
            (.ok reports, instances.set place ⟨held.ruleClass, memory⟩)

def askNew
    (ruleClass : RuleClass) (name : String) (inquiry : Inquiry) :
    Keeping (Except Refusal Reports) := do
  match ← build ruleClass name with
  | .error refusal => return .error refusal
  | .ok place => ask place inquiry

/-- The instance that was built last is asked, and the older ones stay as they were. -/
theorem run_ask_last
    (instances : Instances) (ruleClass : RuleClass) (memory : Value) (inquiry : Inquiry) :
    ∃ added,
      (ask instances.length inquiry).run (instances ++ [⟨ruleClass, memory⟩]) =
        ((ruleClass.answer memory inquiry).mapError Refusal.fault, instances ++ added) := by
  have last : (instances ++ [(⟨ruleClass, memory⟩ : RuleInstance)])[instances.length]? =
      some ⟨ruleClass, memory⟩ := by
    simp
  cases answered : ruleClass.ask memory inquiry with
  | error fault =>
      refine ⟨[⟨ruleClass, memory⟩], ?_⟩
      simp [StateT.run, ask, answered, RuleClass.answer, Except.map, Except.mapError]
  | ok answer =>
      obtain ⟨memoryAfter, reports⟩ := answer
      refine ⟨[⟨ruleClass, memoryAfter⟩], ?_⟩
      simp [StateT.run, ask, answered, RuleClass.answer, Except.map, Except.mapError]

/-- A new instance answers as the rule that is built of its class. -/
theorem gives_askNew
    (ruleClass : RuleClass) (name : String) (inquiry : Inquiry) :
    Gives (askNew ruleClass name inquiry)
      ((ruleClass.instantiate name).bind fun rule =>
        (rule inquiry).mapError Refusal.fault) := by
  intro instances
  cases isRule : ruleClass.isRule with
  | false =>
      have refused :
          (build ruleClass name).run instances =
            (.error (.notARuleClass name ruleClass.qualifiedName), instances) := by
        simp [StateT.run, build, isRule]
      refine ⟨[], ?_⟩
      rw [askNew, run_bind, refused, RuleClass.instantiate, isRule, List.append_nil]
      rfl
  | true =>
      cases constructed : ruleClass.construct with
      | error fault =>
          have broken :
              (build ruleClass name).run instances = (.error (.fault fault), instances) := by
            simp [StateT.run, build, isRule, constructed]
          refine ⟨[], ?_⟩
          rw [askNew, run_bind, broken, RuleClass.instantiate, isRule, constructed,
            List.append_nil]
          rfl
      | ok memory =>
          have built :
              (build ruleClass name).run instances =
                (.ok instances.length, instances ++ [⟨ruleClass, memory⟩]) := by
            simp [StateT.run, build, isRule, constructed]
          obtain ⟨added, asked⟩ := run_ask_last instances ruleClass memory inquiry
          refine ⟨added, ?_⟩
          rw [askNew, run_bind, built, RuleClass.instantiate, isRule, constructed]
          exact asked

end Instances

/-!
## Runs that keep instances

Each function that evaluates rules stands here once more, with the instances kept, and gives what the
original one gives.
-/

/-- Asks the rule that is made from an origin. A function remembers nothing. -/
def Origin.askKeeping
    (origin : Origin) (name : String) (inquiry : Inquiry) :
    Keeping (Except Refusal Reports) :=
  match origin with
  | .ofClass ruleClass => Instances.askNew ruleClass name inquiry
  | .ofFunction ask => return (ask inquiry).mapError Refusal.fault

theorem Origin.gives_askKeeping
    (origin : Origin) (name : String) (inquiry : Inquiry) :
    Gives (origin.askKeeping name inquiry)
      ((origin.toPredicate name).bind fun rule => (rule inquiry).mapError Refusal.fault) := by
  cases origin with
  | ofClass ruleClass => exact Instances.gives_askNew ruleClass name inquiry
  | ofFunction ask => exact gives_pure _

namespace Condition

variable (surroundings : Surroundings) (registry : Registry)

/-- The outcome of one rule of the chain, which is made for this question and kept. -/
def evaluateRuleKeeping
    (prefixText : String) (fields : Fields) (key : String) (descriptor : Descriptor) :
    Keeping (Except Refusal Outcome) :=
  match descriptor.origin surroundings registry with
  | .error refusal => return .error refusal
  | .ok (name, origin) => do
      let reports ← origin.askKeeping name ⟨fields, key, descriptor.options⟩
      return reports.map (outcomeOf prefixText descriptor name)

theorem gives_evaluateRuleKeeping
    (prefixText : String) (fields : Fields) (key : String) (descriptor : Descriptor) :
    Gives (evaluateRuleKeeping surroundings registry prefixText fields key descriptor)
      (evaluateRule surroundings registry prefixText fields key descriptor) := by
  unfold evaluateRuleKeeping evaluateRule
  rw [Descriptor.resolve_eq_origin]
  cases descriptor.origin surroundings registry with
  | error refusal => exact gives_pure _
  | ok named =>
      obtain ⟨name, origin⟩ := named
      have asked := origin.gives_askKeeping name ⟨fields, key, descriptor.options⟩
      have outcome := asked.map (Except.map (outcomeOf prefixText descriptor name))
      cases made : origin.toPredicate name with
      | error refusal => simpa [made, Except.map, Except.bind] using outcome
      | ok rule =>
          cases answered : rule ⟨fields, key, descriptor.options⟩ <;>
            simpa [made, answered, Except.map, Except.bind, Except.mapError] using outcome

def evaluateChainKeeping
    (evaluateOne : Descriptor → Keeping (Except Refusal Outcome)) (bail : Bool) :
    List Descriptor → Keeping Evaluation
  | [] => return ⟨[], none⟩
  | descriptor :: rest => do
      match ← evaluateOne descriptor with
      | .error refusal => return ⟨[], some refusal⟩
      | .ok outcome =>
          if bail && !outcome.passed then return ⟨[outcome], none⟩
          else return (← evaluateChainKeeping evaluateOne bail rest).precededBy outcome

theorem gives_evaluateChainKeeping
    {evaluateOneKeeping : Descriptor → Keeping (Except Refusal Outcome)}
    {evaluateOne : Descriptor → Except Refusal Outcome}
    (gives : ∀ descriptor, Gives (evaluateOneKeeping descriptor) (evaluateOne descriptor))
    (bail : Bool) (rules : List Descriptor) :
    Gives (evaluateChainKeeping evaluateOneKeeping bail rules)
      (evaluateChain evaluateOne bail rules) := by
  -- The later rules start from the instances that the earlier ones have left behind, which is why
  -- an answer has to be given from all instances alike.
  induction rules with
  | nil => exact gives_pure _
  | cons descriptor rest inductionHypothesis =>
      unfold evaluateChainKeeping evaluateChain
      refine (gives descriptor).bind ?_
      cases evaluateOne descriptor with
      | error refusal => exact gives_pure _
      | ok outcome =>
          simp only
          split
          · exact gives_pure _
          · exact inductionHypothesis.map fun later => later.precededBy outcome

def evaluateKeeping
    (condition : Condition) (fields : Fields) (key : String) (bail : Bool) :
    Keeping Evaluation :=
  evaluateChainKeeping
    (evaluateRuleKeeping surroundings registry condition.prefixText fields key) bail
    condition.rules

theorem gives_evaluateKeeping
    (condition : Condition) (fields : Fields) (key : String) (bail : Bool) :
    Gives (condition.evaluateKeeping surroundings registry fields key bail)
      (condition.evaluate surroundings registry fields key bail) :=
  gives_evaluateChainKeeping
    (gives_evaluateRuleKeeping surroundings registry condition.prefixText fields key) bail
    condition.rules

def checkOf
    (condition : Condition) (key : String) (evaluation : Evaluation) :
    Check :=
  match evaluation.refusal with
  | some refusal => ⟨condition, evaluation.notes key, .error refusal⟩
  | none =>
      ⟨condition.record key evaluation.outcomes, evaluation.notes key,
        .ok (allPassed evaluation.outcomes)⟩

def checkKeeping
    (condition : Condition) (fields : Fields) (key : String) (bail : Bool) :
    Keeping Check := do
  return condition.checkOf key (← condition.evaluateKeeping surroundings registry fields key bail)

theorem gives_checkKeeping
    (condition : Condition) (fields : Fields) (key : String) (bail : Bool) :
    Gives (condition.checkKeeping surroundings registry fields key bail)
      (condition.check surroundings registry fields key bail) :=
  (condition.gives_evaluateKeeping surroundings registry fields key bail).map
    (condition.checkOf key)

end Condition

namespace Progress

def ofConditionsKeeping
    (evaluate : Condition → String → Keeping Evaluation) (bail : Bool) :
    (stopped : Bool) → List (String × Condition) → Keeping Progress
  | _, [] => return done
  | true, (key, condition) :: rest =>
      return (← ofConditionsKeeping evaluate bail true rest).afterSkipping key condition
  | false, (key, condition) :: rest => do
      let evaluation ← evaluate condition key
      let notes := evaluation.notes key
      match evaluation.refusal with
      | some refusal => return ⟨(key, condition) :: rest, [key], [], notes, some refusal⟩
      | none =>
          let stops := bail && !Condition.allPassed evaluation.outcomes
          return (← ofConditionsKeeping evaluate bail stops rest).afterChecking key condition
            evaluation.outcomes notes

theorem gives_ofConditionsKeeping
    {evaluateKeeping : Condition → String → Keeping Evaluation}
    {evaluate : Condition → String → Evaluation}
    (gives : ∀ condition key, Gives (evaluateKeeping condition key) (evaluate condition key))
    (bail stopped : Bool) (conditions : List (String × Condition)) :
    Gives (ofConditionsKeeping evaluateKeeping bail stopped conditions)
      (ofConditions evaluate bail stopped conditions) := by
  induction conditions generalizing stopped with
  | nil => cases stopped <;> exact gives_pure _
  | cons entry rest inductionHypothesis =>
      obtain ⟨key, condition⟩ := entry
      cases stopped with
      | true => exact (inductionHypothesis true).map fun later => later.afterSkipping key condition
      | false =>
          unfold ofConditionsKeeping ofConditions
          refine (gives condition key).bind ?_
          cases ended : (evaluate condition key).refusal with
          | some refusal => simpa [ended] using gives_pure _
          | none =>
              simp only [ended]
              exact (inductionHypothesis _).map fun later =>
                later.afterChecking key condition (evaluate condition key).outcomes
                  ((evaluate condition key).notes key)

end Progress

namespace Validation

def runOf
    (validation : Validation) (progress : Progress)
    (keys : progress.conditions.map Prod.fst = validation.conditions.entries.map Prod.fst) :
    Run :=
  let after :=
    { validation with conditions := validation.conditions.withEntries progress.conditions keys }
  match progress.refusal with
  | some refusal => ⟨after, progress.notes, .error refusal⟩
  | none =>
      let finished :=
        Note.runFinished progress.errors.isEmpty progress.checked.length progress.errors.length
      ⟨after, progress.notes ++ [finished],
        match ValidationResult.ofRun progress.errors progress.checked with
        | .ok result => .ok result
        | .error issues => .error (.unusableData issues)⟩

def progressKeeping
    (validation : Validation) (surroundings : Surroundings) (fields : Fields) (bail : Bool) :
    Keeping Progress :=
  Progress.ofConditionsKeeping
    (fun condition key =>
      condition.evaluateKeeping surroundings validation.registry fields key bail)
    bail false validation.conditions.entries

theorem gives_progressKeeping
    (validation : Validation) (surroundings : Surroundings) (fields : Fields) (bail : Bool) :
    Gives (validation.progressKeeping surroundings fields bail)
      (validation.progress surroundings fields bail) :=
  Progress.gives_ofConditionsKeeping
    (fun condition key =>
      condition.gives_evaluateKeeping surroundings validation.registry fields key bail)
    bail false validation.conditions.entries

theorem keys_progressKeeping
    (validation : Validation) (surroundings : Surroundings) (fields : Fields) (bail : Bool)
    (instances : Instances) :
    ((validation.progressKeeping surroundings fields bail).run instances).1.conditions.map
        Prod.fst =
      validation.conditions.entries.map Prod.fst := by
  obtain ⟨_, ran⟩ := validation.gives_progressKeeping surroundings fields bail instances
  rw [ran]
  exact Progress.keys_ofConditions _ _ _ _

def runKeeping
    (validation : Validation) (surroundings : Surroundings) (fields : Fields)
    (bail : Option Bool) :
    Keeping Run :=
  fun instances =>
    let wish := bail.getD validation.settings.bail
    let progressed := (validation.progressKeeping surroundings fields wish).run instances
    (validation.runOf progressed.1
      (validation.keys_progressKeeping surroundings fields wish instances), progressed.2)

theorem gives_runKeeping
    (validation : Validation) (surroundings : Surroundings) (fields : Fields)
    (bail : Option Bool) :
    Gives (validation.runKeeping surroundings fields bail)
      (validation.run surroundings fields bail) := by
  intro instances
  obtain ⟨added, ran⟩ :=
    validation.gives_progressKeeping surroundings fields (bail.getD validation.settings.bail)
      instances
  refine ⟨added, Prod.ext ?_ ?_⟩
  · simp only [StateT.run, runKeeping] at ran ⊢
    simp only [ran]
    rfl
  · have instancesAfter :
        ((validation.runKeeping surroundings fields bail).run instances).2 =
          ((validation.progressKeeping surroundings fields
            (bail.getD validation.settings.bail)).run instances).2 :=
      rfl
    exact instancesAfter.trans (congrArg Prod.snd ran)

end Validation

end FormRules
