import FormRules.Proofs.Gathering
import FormRules.Rule.Stock
import FormRules.Validation.Run
import Mathlib.Data.List.Basic

/-!
# Configurations

A validation is configured by calls that attach rules to a field or register a custom rule. A call
that is refused leaves everything as it was, for its argument is read to its end before anything is
changed. What a history of calls configures is therefore what its accepted calls give: to each field
the rules attached to it, and to each name the handler registered last.
-/

namespace FormRules

/-- A call that configures a validation. -/
inductive Call where
  | attach (field : String) (token : Token) (message : Value)
  | register (name : String) (source : HandlerSource)

namespace Call

def change
    (catalog : Catalog) :
    Call → Change
  | attach field token message => Validation.attaching field token message
  | register name source => Validation.registering catalog name source

/-- The field and the rules that a call attaches, if it is to attach and its token can be read. -/
def attached? :
    Call → Option (String × List Descriptor)
  | attach field token message =>
      (token.descriptors message).toOption.map fun descriptors => (field, descriptors)
  | register _ _ => none

/-- The name and the handler that a call registers, if it is to register and its source can be
read. -/
def registered?
    (catalog : Catalog) :
    Call → Option (String × Handler)
  | attach _ _ _ => none
  | register name source =>
      (Registry.handlerOf catalog name source).toOption.map fun handler => (name, handler)

def isAccepted
    (catalog : Catalog) (call : Call) :
    Bool :=
  call.attached?.isSome || (call.registered? catalog).isSome

end Call

/-- For a field a token is read as any token is, but for the refusal of what is no token at all. -/
theorem Token.descriptorsForField_eq_ok_iff
    {field : String} {message : Value} {token : Token} {descriptors : List Descriptor} :
    token.descriptorsForField field message = .ok descriptors ↔
      token.descriptors message = .ok descriptors := by
  unfold descriptorsForField
  split
  · simp [Token.descriptors, Descriptor.ofLeaf, Except.map]
  · rfl

namespace Call

variable {field : String} {token : Token} {message : Value}

theorem attached?_of_ok
    {descriptors : List Descriptor}
    (read : token.descriptorsForField field message = .ok descriptors) :
    (attach field token message).attached? = some (field, descriptors) := by
  rw [attached?, Token.descriptorsForField_eq_ok_iff.mp read]
  rfl

theorem attached?_of_error
    {refusal : Refusal}
    (unreadable : token.descriptorsForField field message = .error refusal) :
    (attach field token message).attached? = none := by
  cases all : token.descriptors message with
  | ok descriptors =>
      rw [Token.descriptorsForField_eq_ok_iff.mpr all] at unreadable
      cases unreadable
  | error _ =>
      rw [attached?, all]
      rfl

theorem registered?_of_ok
    {catalog : Catalog} {name : String} {source : HandlerSource} {handler : Handler}
    (read : Registry.handlerOf catalog name source = .ok handler) :
    (register name source).registered? catalog = some (name, handler) := by
  rw [registered?, read]
  rfl

theorem registered?_of_error
    {catalog : Catalog} {name : String} {source : HandlerSource} {refusal : Refusal}
    (unreadable : Registry.handlerOf catalog name source = .error refusal) :
    (register name source).registered? catalog = none := by
  rw [registered?, unreadable]
  rfl

end Call

namespace Validation

/-- The validation after calls, accepted or not. -/
def afterCalls
    (catalog : Catalog) (validation : Validation) (calls : List Call) :
    Validation :=
  calls.foldl (fun validation call => validation.leftBy (call.change catalog)) validation

/-- The calls that return, each made when the earlier ones are done. -/
def returnedCalls
    (catalog : Catalog) :
    Validation → List Call → List Call
  | _, [] => []
  | validation, call :: calls =>
      match validation.changedBy (call.change catalog) with
      | .ok after => call :: returnedCalls catalog after calls
      | .error _ => returnedCalls catalog (validation.leftBy (call.change catalog)) calls

/-- A field that is given an empty condition and then rules has a condition with these rules. -/
theorem extendCondition_ensureCondition
    (validation : Validation) (field : String) (descriptors : List Descriptor) :
    (validation.ensureCondition field).extendCondition field descriptors =
      validation.setCondition field ((validation.conditionOrNew field).extend descriptors) := by
  cases found : validation.condition? field with
  | some condition => simp [ensureCondition, extendCondition, conditionOrNew, found]
  | none =>
      have added :
          (validation.setCondition field
              (.empty validation.settings.messagePrefix)).condition? field =
            some (.empty validation.settings.messagePrefix) :=
        validation.conditions.find?_set_self field _
      simp only [ensureCondition, extendCondition, conditionOrNew, found, added,
        Option.getD_none]
      rw [setCondition, setCondition, setCondition, Roster.set_set]

/-- The validation with further rules attached to fields and further handlers registered under
names. -/
def extendedBy
    (validation : Validation) (rules : List (String × List Descriptor))
    (handlers : List (String × Handler)) :
    Validation :=
  { validation with
    registry := ⟨validation.registry.handlers.gather (fun _ handler => handler) handlers⟩
    conditions :=
      validation.conditions.gather
        (fun found descriptors =>
          (found.getD (.empty validation.settings.messagePrefix)).extend descriptors)
        rules }

theorem extendedBy_extendedBy
    (validation : Validation) (rules moreRules : List (String × List Descriptor))
    (handlers moreHandlers : List (String × Handler)) :
    (validation.extendedBy rules handlers).extendedBy moreRules moreHandlers =
      validation.extendedBy (rules ++ moreRules) (handlers ++ moreHandlers) := by
  simp only [extendedBy, Roster.gather, List.foldl_append]

theorem run_attaching_of_ok
    (validation : Validation) {field : String} {token : Token} {message : Value}
    {descriptors : List Descriptor}
    (read : token.descriptorsForField field message = .ok descriptors) :
    (attaching field token message).run.run validation =
      (.ok (), validation.extendedBy [(field, descriptors)] []) := by
  have extended :
      validation.setCondition field ((validation.conditionOrNew field).extend descriptors) =
        validation.extendedBy [(field, descriptors)] [] :=
    rfl
  rw [← extended, ← extendCondition_ensureCondition, attaching, read]
  rfl

theorem run_attaching_of_error
    (validation : Validation) {field : String} {token : Token} {message : Value}
    {refusal : Refusal} (unreadable : token.descriptorsForField field message = .error refusal) :
    (attaching field token message).run.run validation = (.error refusal, validation) := by
  rw [attaching, unreadable]
  rfl

theorem run_registering_of_ok
    (validation : Validation) {catalog : Catalog} {name : String} {source : HandlerSource}
    {handler : Handler} (read : Registry.handlerOf catalog name source = .ok handler) :
    (registering catalog name source).run.run validation =
      (.ok (), validation.extendedBy [] [(name, handler)]) := by
  rw [registering, read]
  rfl

theorem run_registering_of_error
    (validation : Validation) {catalog : Catalog} {name : String} {source : HandlerSource}
    {refusal : Refusal}
    (unreadable : Registry.handlerOf catalog name source = .error refusal) :
    (registering catalog name source).run.run validation = (.error refusal, validation) := by
  rw [registering, unreadable]
  rfl

/-- A call is either accepted, and then it adds what it attaches or registers, or it is refused and
changes nothing. Which of the two does not depend on the validation. -/
theorem run_change_cases
    (catalog : Catalog) (call : Call) (validation : Validation) :
    (call.isAccepted catalog = true ∧
        (call.change catalog).run.run validation =
          (.ok (),
            validation.extendedBy call.attached?.toList (call.registered? catalog).toList)) ∨
      (call.isAccepted catalog = false ∧ call.attached? = none ∧
        call.registered? catalog = none ∧
        ∃ refusal, (call.change catalog).run.run validation = (.error refusal, validation)) := by
  cases call with
  | attach field token message =>
      cases read : token.descriptorsForField field message with
      | ok descriptors =>
          have attached := Call.attached?_of_ok read
          refine Or.inl ⟨by rw [Call.isAccepted, attached]; rfl, ?_⟩
          rw [attached]
          exact run_attaching_of_ok validation read
      | error refusal =>
          have nothing := Call.attached?_of_error read
          exact Or.inr ⟨by rw [Call.isAccepted, nothing]; rfl, nothing, rfl, refusal,
            run_attaching_of_error validation read⟩
  | register name source =>
      cases read : Registry.handlerOf catalog name source with
      | ok handler =>
          have registered := Call.registered?_of_ok read
          refine Or.inl ⟨by rw [Call.isAccepted, registered]; rfl, ?_⟩
          rw [registered]
          exact run_registering_of_ok validation read
      | error refusal =>
          have nothing := Call.registered?_of_error read
          exact Or.inr ⟨by rw [Call.isAccepted, nothing]; rfl, rfl, nothing, refusal,
            run_registering_of_error validation read⟩

theorem leftBy_change
    (catalog : Catalog) (call : Call) (validation : Validation) :
    validation.leftBy (call.change catalog) =
      validation.extendedBy call.attached?.toList (call.registered? catalog).toList := by
  rcases run_change_cases catalog call validation with
    ⟨_, accepted⟩ | ⟨_, attachesNothing, registersNothing, _, refused⟩
  · rw [leftBy, accepted]
  · rw [leftBy, refused, attachesNothing, registersNothing]
    rfl

theorem leftBy_of_refused
    {catalog : Catalog} {call : Call} {validation : Validation} {refusal : Refusal}
    (refused : validation.changedBy (call.change catalog) = .error refusal) :
    validation.leftBy (call.change catalog) = validation := by
  rcases run_change_cases catalog call validation with ⟨_, accepted⟩ | ⟨_, _, _, _, unchanged⟩
  · rw [changedBy, accepted] at refused
    cases refused
  · rw [leftBy, unchanged]

/-- A call returns exactly if it is accepted, whatever the validation. -/
theorem changedBy_cases
    (catalog : Catalog) (call : Call) (validation : Validation) :
    (call.isAccepted catalog = true ∧
        validation.changedBy (call.change catalog) =
          .ok (validation.leftBy (call.change catalog))) ∨
      (call.isAccepted catalog = false ∧
        ∃ refusal, validation.changedBy (call.change catalog) = .error refusal) := by
  rcases run_change_cases catalog call validation with
    ⟨isAccepted, accepted⟩ | ⟨notAccepted, _, _, refusal, refused⟩
  · exact Or.inl ⟨isAccepted, by rw [changedBy, accepted]; rfl⟩
  · exact Or.inr ⟨notAccepted, refusal, by rw [changedBy, refused]; rfl⟩

theorem exists_attach_eq_ok_iff
    (validation : Validation) (field : String) (token : Token) (message : Value) :
    (∃ after, validation.attach field token message = .ok after) ↔
      ∃ descriptors, token.descriptors message = .ok descriptors := by
  cases read : token.descriptorsForField field message with
  | ok descriptors =>
      refine iff_of_true ⟨validation.extendedBy [(field, descriptors)] [], ?_⟩
        ⟨descriptors, Token.descriptorsForField_eq_ok_iff.mp read⟩
      rw [attach, changedBy, leftBy, run_attaching_of_ok validation read]
      rfl
  | error refusal =>
      refine iff_of_false ?_ ?_
      · rintro ⟨after, returned⟩
        rw [attach, changedBy, run_attaching_of_error validation read] at returned
        cases returned
      · rintro ⟨descriptors, readable⟩
        rw [Token.descriptorsForField_eq_ok_iff.mpr readable] at read
        cases read

theorem exists_register_eq_ok_iff
    (validation : Validation) (catalog : Catalog) (name : String) (source : HandlerSource) :
    (∃ after, validation.register catalog name source = .ok after) ↔
      ∃ handler, Registry.handlerOf catalog name source = .ok handler := by
  cases read : Registry.handlerOf catalog name source with
  | ok handler =>
      refine iff_of_true ⟨validation.extendedBy [] [(name, handler)], ?_⟩ ⟨handler, rfl⟩
      rw [register, changedBy, leftBy, run_registering_of_ok validation read]
      rfl
  | error refusal =>
      refine iff_of_false ?_ ?_
      · rintro ⟨after, returned⟩
        rw [register, changedBy, run_registering_of_error validation read] at returned
        cases returned
      · rintro ⟨handler, readable⟩
        cases readable

/-- What calls leave behind is what they give, one after the other. -/
theorem afterCalls_eq_extendedBy
    (catalog : Catalog) (validation : Validation) (calls : List Call) :
    validation.afterCalls catalog calls =
      validation.extendedBy (calls.filterMap Call.attached?)
        (calls.filterMap (Call.registered? catalog)) := by
  induction calls generalizing validation with
  | nil => rfl
  | cons call calls inductionHypothesis =>
      have step :
          validation.afterCalls catalog (call :: calls) =
            (validation.leftBy (call.change catalog)).afterCalls catalog calls :=
        rfl
      rw [step, inductionHypothesis, leftBy_change, extendedBy_extendedBy]
      simp only [List.filterMap_eq_flatMap_toList, List.flatMap_cons]

/-- Which calls return does not depend on the validation. -/
theorem returnedCalls_eq_filter
    (catalog : Catalog) (validation : Validation) (calls : List Call) :
    validation.returnedCalls catalog calls = calls.filter (Call.isAccepted catalog) := by
  induction calls generalizing validation with
  | nil => rfl
  | cons call calls inductionHypothesis =>
      rcases changedBy_cases catalog call validation with
        ⟨accepted, changed⟩ | ⟨notAccepted, refusal, refused⟩
      · rw [returnedCalls, changed]
        simp only
        rw [inductionHypothesis, List.filter_cons_of_pos accepted]
      · rw [returnedCalls, refused]
        simp only
        rw [inductionHypothesis, List.filter_cons_of_neg (by simp [notAccepted])]

/-- Refused calls give nothing. -/
theorem filterMap_attached?_filter
    (catalog : Catalog) (calls : List Call) :
    (calls.filter (Call.isAccepted catalog)).filterMap Call.attached? =
      calls.filterMap Call.attached? := by
  rw [List.filterMap_filter]
  congr 1
  funext call
  cases given : call.attached? <;> simp [Call.isAccepted, given]

theorem filterMap_registered?_filter
    (catalog : Catalog) (calls : List Call) :
    (calls.filter (Call.isAccepted catalog)).filterMap (Call.registered? catalog) =
      calls.filterMap (Call.registered? catalog) := by
  rw [List.filterMap_filter]
  congr 1
  funext call
  cases given : call.registered? catalog <;> simp [Call.isAccepted, given]

/-- The validation is configured by the given calls and nothing else. Its fields stand in the order
in which they were first attached to, each with the rules of its calls one after the other, and each
registered name has its latest handler at the place of its first one. -/
structure IsConfiguredBy
    (validation : Validation) (catalog : Catalog) (settings : Settings) (calls : List Call) :
    Prop where
  settings_eq : validation.settings = settings
  fields_eq : validation.fields = ((calls.filterMap Call.attached?).map Prod.fst).eraseDups
  condition_eq : ∀ field ∈ validation.fields,
    validation.condition? field =
      some ⟨settings.messagePrefix,
        (givenUnder field (calls.filterMap Call.attached?)).flatten, []⟩
  names_eq :
    validation.registry.names =
      ((calls.filterMap (Call.registered? catalog)).map Prod.fst).eraseDups
  handler_eq : ∀ name,
    validation.registry.find? name =
      (givenUnder name (calls.filterMap (Call.registered? catalog))).getLast?

/-- A condition extended several times has all the rules in their order. -/
theorem foldl_extend
    (fresh condition : Condition) (chains : List (List Descriptor)) :
    chains.foldl (fun found chain => some ((found.getD fresh).extend chain)) (some condition) =
      some (condition.extend chains.flatten) := by
  induction chains generalizing condition with
  | nil => simp [Condition.extend]
  | cons chain chains inductionHypothesis =>
      rw [List.foldl_cons, Option.getD_some, inductionHypothesis, List.flatten_cons]
      simp [Condition.extend]

/-- Of values that replace each other the last one stays. -/
theorem foldl_latest {value : Type}
    (values : List value) (found : Option value) :
    values.foldl (fun _ new => some new) found = values.getLast?.or found := by
  induction values generalizing found with
  | nil => rfl
  | cons first values inductionHypothesis =>
      rw [List.foldl_cons, inductionHypothesis]
      cases values <;> simp [List.getLast?_cons]

/-- A new validation is configured by the calls made on it. -/
theorem isConfiguredBy_afterCalls
    (catalog : Catalog) (settings : Settings) (calls : List Call) :
    ((empty settings).afterCalls catalog calls).IsConfiguredBy catalog settings calls := by
  rw [afterCalls_eq_extendedBy]
  have fieldsEq := Roster.names_gather_empty
    (fun (found : Option Condition) descriptors =>
      (found.getD (.empty settings.messagePrefix)).extend descriptors)
    (calls.filterMap Call.attached?)
  refine ⟨rfl, fieldsEq, fun field isField => ?_, ?_, fun name => ?_⟩
  · have attachedTo : givenUnder field (calls.filterMap Call.attached?) ≠ [] := by
      rw [givenUnder_ne_nil_iff, ← List.mem_eraseDups, ← fieldsEq]
      exact isField
    obtain ⟨chain, chains, split⟩ := List.exists_cons_of_ne_nil attachedTo
    refine (Roster.find?_gather _ _ _ field).trans ?_
    rw [split, List.foldl_cons, foldl_extend]
    simp [Condition.extend, Condition.empty, Roster.find?, Roster.empty, Validation.empty]
  · exact Roster.names_gather_empty _ _
  · refine (Roster.find?_gather _ _ _ name).trans ?_
    rw [foldl_latest]
    exact Option.or_none

/-- Made again on a new validation, the calls that returned give the same configuration. -/
theorem afterCalls_returnedCalls
    (catalog : Catalog) (validation : Validation) (calls : List Call) :
    validation.afterCalls catalog (validation.returnedCalls catalog calls) =
      validation.afterCalls catalog calls := by
  rw [afterCalls_eq_extendedBy, afterCalls_eq_extendedBy, returnedCalls_eq_filter,
    filterMap_attached?_filter, filterMap_registered?_filter]

/-- Attaching to a field and registering a rule commute, for a rule is looked up under its name when
it is evaluated and not when it is attached. -/
theorem leftBy_attaching_registering
    (validation : Validation) (catalog : Catalog) (field : String) (token : Token)
    (message : Value) (name : String) (source : HandlerSource) :
    (validation.leftBy (attaching field token message)).leftBy
        (registering catalog name source) =
      (validation.leftBy (registering catalog name source)).leftBy
        (attaching field token message) := by
  have attached := leftBy_change catalog (.attach field token message)
  have registered := leftBy_change catalog (.register name source)
  simp only [Call.change] at attached registered
  rw [attached, registered, registered, attached, extendedBy_extendedBy, extendedBy_extendedBy]
  simp [Call.attached?, Call.registered?]

/-- A history of calls on a new validation, refused ones among them. What it configures is what the
calls that returned configure, made alone. A call returns exactly if its token or its source can be
read, whatever the validation; a call that is refused leaves the validation as it was, and
neighbouring calls of the two kinds can be exchanged, so that no later run tells the difference. -/
theorem calls_configure
    (catalog : Catalog) (settings : Settings) (calls : List Call) :
    ((empty settings).afterCalls catalog calls).IsConfiguredBy catalog settings
        ((empty settings).returnedCalls catalog calls) ∧
      (empty settings).afterCalls catalog ((empty settings).returnedCalls catalog calls) =
        (empty settings).afterCalls catalog calls ∧
      (∀ (validation : Validation) field token message,
        (∃ after, validation.attach field token message = .ok after) ↔
          ∃ descriptors, token.descriptors message = .ok descriptors) ∧
      (∀ (validation : Validation) name source,
        (∃ after, validation.register catalog name source = .ok after) ↔
          ∃ handler, Registry.handlerOf catalog name source = .ok handler) ∧
      (∀ (validation : Validation) (call : Call) refusal,
        validation.changedBy (call.change catalog) = .error refusal →
          validation.leftBy (call.change catalog) = validation) ∧
      ∀ (validation : Validation) before field token message name source after,
        validation.afterCalls catalog
            (before ++ .attach field token message :: .register name source :: after) =
          validation.afterCalls catalog
            (before ++ .register name source :: .attach field token message :: after) := by
  refine ⟨?_, afterCalls_returnedCalls catalog _ calls, ?_, ?_, ?_, ?_⟩
  · rw [← afterCalls_returnedCalls]
    exact isConfiguredBy_afterCalls catalog settings _
  · intro validation field token message
    exact exists_attach_eq_ok_iff validation field token message
  · intro validation name source
    exact exists_register_eq_ok_iff validation catalog name source
  · intro validation call refusal refused
    exact leftBy_of_refused refused
  · intro validation before field token message name source after
    simp only [afterCalls, List.foldl_append, List.foldl_cons, Call.change]
    rw [leftBy_attaching_registering]

/-! ## The prefix of default messages -/

def SharesPrefix
    (validation : Validation) :
    Prop :=
  ∀ field condition, validation.condition? field = some condition →
    condition.prefixText = validation.settings.messagePrefix

theorem sharesPrefix_empty
    (settings : Settings) :
    (empty settings).SharesPrefix := by
  intro field condition found
  cases found

/-- A call, refused or not, leaves the prefix of each condition what it is, and a new condition gets
that of the settings. -/
theorem SharesPrefix.leftBy_change
    {validation : Validation} (shares : validation.SharesPrefix)
    (catalog : Catalog) (call : Call) :
    (validation.leftBy (call.change catalog)).SharesPrefix := by
  rw [Validation.leftBy_change]
  cases attached : call.attached? with
  | none => exact shares
  | some given =>
      obtain ⟨name, descriptors⟩ := given
      have fresh :
          (validation.conditionOrNew name).prefixText = validation.settings.messagePrefix := by
        unfold conditionOrNew
        cases found : validation.condition? name with
        | none => rfl
        | some condition => exact shares name condition found
      intro field condition found
      have held :
          (validation.conditions.set name
              ((validation.conditionOrNew name).extend descriptors)).find? field =
            some condition :=
        found
      by_cases same : field = name
      · rw [same, Roster.find?_set_self, Option.some.injEq] at held
        rw [← held]
        exact fresh
      · rw [Roster.find?_set_of_ne _ _ same] at held
        exact shares field condition held

theorem SharesPrefix.afterCalls
    {validation : Validation} (shares : validation.SharesPrefix)
    (catalog : Catalog) (calls : List Call) :
    (validation.afterCalls catalog calls).SharesPrefix := by
  induction calls generalizing validation with
  | nil => exact shares
  | cons call later inductionHypothesis =>
      exact inductionHypothesis (shares.leftBy_change catalog call)

end Validation

/-! ## A history with refused calls -/

def noClasses :
    Catalog :=
  ⟨fun _ => none⟩

def brokenToken :
    Token :=
  .group .list
    [.leaf (.handler (.ofClass ((Stock.always [.null]).toClass "Adult"))),
      .group .tuple [.leaf (.unusable "int")]]

/-- A history of which every other call is refused. -/
def mixedCalls :
    List Call :=
  [.attach "age" brokenToken .null,
    .attach "name" (.leaf (.handler (.ofClass ((Stock.always [.null]).toClass "Unique")))) .null,
    .register "even" (.path "numbers.Even"),
    .register "even" (.handler (.ofClass ((Stock.always []).toClass "Even"))),
    .attach "name" (.leaf (.unusable "NoneType")) .null,
    .attach "age" (.leaf (.handler (.ofClass ((Stock.always [.null]).toClass "Adult")))) .null,
    .register "even" (.unusable "int")]

/-- The refused calls leave no trace: the name is the first field, and the handler stays. -/
theorem mixedCalls_configure :
    ((Validation.empty .initial).afterCalls noClasses mixedCalls).fields = ["name", "age"] ∧
      ((Validation.empty .initial).afterCalls noClasses mixedCalls).registry.find? "even" =
        some (.ofClass ((Stock.always []).toClass "Even")) ∧
      (Validation.empty .initial).changedBy
          ((Call.attach "age" brokenToken .null).change noClasses) =
        .error (.unusableToken "int") ∧
      (Validation.empty .initial).leftBy
          ((Call.attach "age" brokenToken .null).change noClasses) =
        Validation.empty .initial := by
  obtain ⟨configured, _, _, _, unchanged, _⟩ :=
    Validation.calls_configure noClasses .initial mixedCalls
  refine ⟨configured.fields_eq.trans ?_, (configured.handler_eq "even").trans ?_, rfl,
    unchanged _ _ (.unusableToken "int") rfl⟩
  · rfl
  · rfl

end FormRules
