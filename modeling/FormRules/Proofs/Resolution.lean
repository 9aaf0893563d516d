import FormRules.Proofs.ExpressionRoundTrip
import FormRules.Rule.Registry
import FormRules.Rule.Stock

/-!
# What a name stands for

The name of an expression stands for the class at the dotted path that it is; else for the built-in
rule that it folds to; else for what is registered under exactly this name. A handler is therefore
reached by some expression exactly if its name can be the name of an expression, folds to no
built-in rule and is no path of a class. All other handlers are shadowed or cannot be written, and
registering one changes nothing.
-/

namespace FormRules

open FormRules.Text

/-- What comes of building a rule of a class: it is refused if the class is no rule class, and else
it is a new instance, if one can be built. -/
inductive RuleClass.Gives
    (ruleClass : RuleClass) (name : String) :
    Except Refusal Predicate → Prop
  | refused (noRule : ruleClass.isRule = false) :
      Gives ruleClass name (.error (.notARuleClass name ruleClass.qualifiedName))
  | built {memory : Value} (isRule : ruleClass.isRule = true)
      (constructed : ruleClass.construct = .ok memory) :
      Gives ruleClass name (.ok (ruleClass.answer memory))
  | broken {fault : Fault} (isRule : ruleClass.isRule = true)
      (unbuildable : ruleClass.construct = .error fault) :
      Gives ruleClass name (.error (.fault fault))

def Catalog.HasClassAt
    (catalog : Catalog) (name : String) (ruleClass : RuleClass) :
    Prop :=
  '.' ∈ name.toList ∧ catalog.find? name = .ok (some ruleClass)

/-- The name has no point, or there is no class at the path that it is. -/
def Catalog.HasNoClassAt
    (catalog : Catalog) (name : String) :
    Prop :=
  '.' ∈ name.toList → catalog.find? name = .ok none

/-- The name is that of the built-in rule, up to case and what separates words. -/
def Builtin.IsNamed
    (rule : Builtin) (name : String) :
    Prop :=
  String.ofList (foldName name.toList) = rule.name

/-- What a name stands for, with the name under which it is reported: what is at a path comes before
the built-in rules, and these before what is registered. -/
inductive StandsFor
    (surroundings : Surroundings) (registry : Registry) (name : String) :
    Except Refusal (String × Predicate) → Prop
  | path {ruleClass : RuleClass} {rule : Except Refusal Predicate}
      (hasClass : surroundings.catalog.HasClassAt name ruleClass)
      (gives : ruleClass.Gives name rule) :
      StandsFor surroundings registry name (rule.map fun rule => (name, rule))
  | brokenPath {fault : Fault} (pointed : '.' ∈ name.toList)
      (broken : surroundings.catalog.find? name = .error fault) :
      StandsFor surroundings registry name (.error (.fault fault))
  | builtin {rule : Builtin} (noClass : surroundings.catalog.HasNoClassAt name)
      (named : rule.IsNamed name) :
      StandsFor surroundings registry name
        (.ok (rule.name, rule.toPredicate surroundings.present))
  | callback {callback : Callback} (noClass : surroundings.catalog.HasNoClassAt name)
      (noBuiltin : ∀ rule : Builtin, ¬ rule.IsNamed name)
      (found : registry.find? name = some (.ofCallback callback)) :
      StandsFor surroundings registry name (.ok (name, callback.ask))
  | registeredClass {ruleClass : RuleClass} {rule : Except Refusal Predicate}
      (noClass : surroundings.catalog.HasNoClassAt name)
      (noBuiltin : ∀ rule : Builtin, ¬ rule.IsNamed name)
      (found : registry.find? name = some (.ofClass ruleClass))
      (gives : ruleClass.Gives name rule) :
      StandsFor surroundings registry name (rule.map fun rule => (name, rule))
  | unknown (noClass : surroundings.catalog.HasNoClassAt name)
      (noBuiltin : ∀ rule : Builtin, ¬ rule.IsNamed name)
      (absent : registry.find? name = none) :
      StandsFor surroundings registry name (.error (.unknownRule name))

/-! ## The places where a name is looked up -/

theorem RuleClass.gives_iff
    {ruleClass : RuleClass} {name : String} {rule : Except Refusal Predicate} :
    ruleClass.Gives name rule ↔ rule = ruleClass.instantiate name := by
  constructor
  · intro gives
    cases gives with
    | refused noRule => simp [instantiate, noRule]
    | built isRule constructed => simp [instantiate, isRule, constructed]
    | broken isRule unbuildable => simp [instantiate, isRule, unbuildable]
  · rintro rfl
    cases isRule : ruleClass.isRule with
    | false =>
        have refused : ruleClass.instantiate name =
            .error (.notARuleClass name ruleClass.qualifiedName) := by
          simp [instantiate, isRule]
        rw [refused]
        exact .refused isRule
    | true =>
        cases constructed : ruleClass.construct with
        | error fault =>
            have broken : ruleClass.instantiate name = .error (.fault fault) := by
              simp [instantiate, isRule, constructed]
            rw [broken]
            exact .broken isRule constructed
        | ok memory =>
            have built : ruleClass.instantiate name = .ok (ruleClass.answer memory) := by
              simp [instantiate, isRule, constructed]
            rw [built]
            exact .built isRule constructed

theorem classAtPath_of_pointed
    {name : String} (pointed : '.' ∈ name.toList) (catalog : Catalog) :
    classAtPath catalog name = catalog.find? name := by
  have contains : name.contains '.' = true := by
    rw [String.contains_char_eq]
    exact decide_eq_true pointed
  rw [classAtPath, if_pos contains]

theorem classAtPath_eq_none_iff
    {catalog : Catalog} {name : String} :
    classAtPath catalog name = .ok none ↔ catalog.HasNoClassAt name := by
  by_cases pointed : '.' ∈ name.toList
  · rw [classAtPath_of_pointed pointed, Catalog.HasNoClassAt]
    exact ⟨fun nothing _ => nothing, fun nothing => nothing pointed⟩
  · have noPath : name.contains '.' = false := by
      rw [String.contains_char_eq]
      exact decide_eq_false pointed
    rw [classAtPath, noPath, Catalog.HasNoClassAt]
    exact iff_of_true rfl fun pointedToo => absurd pointedToo pointed

theorem pointed_of_classAtPath_ne
    {catalog : Catalog} {name : String} (something : classAtPath catalog name ≠ .ok none) :
    '.' ∈ name.toList := by
  by_contra noPoint
  exact something (classAtPath_eq_none_iff.mpr fun pointed => absurd pointed noPoint)

theorem Builtin.mem_all
    (rule : Builtin) :
    rule ∈ all := by
  cases rule <;> decide

/-- No two built-in rules have the same name. -/
theorem Builtin.eq_of_name_eq
    {left right : Builtin} (same : left.name = right.name) :
    left = right := by
  have distinct : ∀ left ∈ all, ∀ right ∈ all, left.name = right.name → left = right := by
    decide +kernel
  exact distinct left left.mem_all right right.mem_all same

theorem Builtin.isNamed_of_find?
    {name : String} {rule : Builtin} (found : find? name = some rule) :
    rule.IsNamed name := by
  have named := List.find?_some found
  exact (beq_iff_eq.mp named).symm

theorem Builtin.find?_eq_some_iff
    {name : String} {rule : Builtin} :
    find? name = some rule ↔ rule.IsNamed name := by
  refine ⟨isNamed_of_find?, fun named => ?_⟩
  cases found : find? name with
  | none =>
      have unnamed := List.find?_eq_none.mp found rule rule.mem_all
      exact absurd (beq_iff_eq.mpr named.symm) unnamed
  | some other =>
      have otherNamed := isNamed_of_find? found
      have same : other.name = rule.name := otherNamed.symm.trans named
      rw [eq_of_name_eq same]

theorem Builtin.find?_eq_none_iff
    {name : String} :
    find? name = none ↔ ∀ rule : Builtin, ¬ rule.IsNamed name := by
  rw [Option.eq_none_iff_forall_ne_some]
  exact forall_congr' fun rule => not_congr find?_eq_some_iff

/-! ## Resolving a name -/

section Resolving

variable {surroundings : Surroundings} {registry : Registry} {name : String}

namespace Descriptor

theorem resolveName_of_class
    {ruleClass : RuleClass}
    (atPath : classAtPath surroundings.catalog name = .ok (some ruleClass)) :
    resolveName surroundings registry name =
      (ruleClass.instantiate name).map fun rule => (name, rule) := by
  rw [resolveName, atPath]

theorem resolveName_of_builtin
    {rule : Builtin} (noClass : classAtPath surroundings.catalog name = .ok none)
    (found : Builtin.find? name = some rule) :
    resolveName surroundings registry name =
      .ok (rule.name, rule.toPredicate surroundings.present) := by
  rw [resolveName, noClass, found]

/-- A name that is neither a path nor that of a built-in rule is looked up in the registry. -/
theorem resolveName_of_free
    (noClass : classAtPath surroundings.catalog name = .ok none)
    (noBuiltin : Builtin.find? name = none) :
    resolveName surroundings registry name =
      match registry.find? name with
      | some handler => (handler.toPredicate name).map fun rule => (name, rule)
      | none => .error (.unknownRule name) := by
  rw [resolveName, noClass, noBuiltin]
  cases found : registry.find? name with
  | none => simp [Registry.has, found]
  | some handler => simp [Registry.has, Registry.resolve, Registry.get, found]

end Descriptor

open Descriptor

theorem standsFor_resolveName
    (surroundings : Surroundings) (registry : Registry) (name : String) :
    StandsFor surroundings registry name (resolveName surroundings registry name) := by
  cases atPath : classAtPath surroundings.catalog name with
  | error fault =>
      have pointed : '.' ∈ name.toList := pointed_of_classAtPath_ne (by rw [atPath]; simp)
      have resolved : resolveName surroundings registry name = .error (.fault fault) := by
        rw [resolveName, atPath]
      rw [classAtPath_of_pointed pointed] at atPath
      rw [resolved]
      exact .brokenPath pointed atPath
  | ok held =>
      cases held with
      | some ruleClass =>
          have pointed : '.' ∈ name.toList := pointed_of_classAtPath_ne (by rw [atPath]; simp)
          rw [resolveName_of_class atPath]
          rw [classAtPath_of_pointed pointed] at atPath
          exact .path ⟨pointed, atPath⟩ (RuleClass.gives_iff.mpr rfl)
      | none =>
          have noClass := classAtPath_eq_none_iff.mp atPath
          cases known : Builtin.find? name with
          | some rule =>
              rw [resolveName_of_builtin atPath known]
              exact .builtin noClass (Builtin.find?_eq_some_iff.mp known)
          | none =>
              have noBuiltin := Builtin.find?_eq_none_iff.mp known
              rw [resolveName_of_free atPath known]
              cases found : registry.find? name with
              | none => exact .unknown noClass noBuiltin found
              | some handler =>
                  cases handler with
                  | ofCallback callback => exact .callback noClass noBuiltin found
                  | ofClass ruleClass =>
                      exact .registeredClass noClass noBuiltin found
                        (RuleClass.gives_iff.mpr rfl)

/-- Resolving a name gives what it stands for, and nothing else. -/
theorem standsFor_iff
    {result : Except Refusal (String × Predicate)} :
    StandsFor surroundings registry name result ↔
      resolveName surroundings registry name = result := by
  constructor
  · intro stands
    cases stands with
    | path hasClass gives =>
        have atPath := (classAtPath_of_pointed hasClass.1 surroundings.catalog).trans hasClass.2
        rw [resolveName_of_class atPath, RuleClass.gives_iff.mp gives]
    | brokenPath pointed broken =>
        have atPath := (classAtPath_of_pointed pointed surroundings.catalog).trans broken
        rw [resolveName, atPath]
    | builtin noClass named =>
        exact resolveName_of_builtin (classAtPath_eq_none_iff.mpr noClass)
          (Builtin.find?_eq_some_iff.mpr named)
    | callback noClass noBuiltin found =>
        rw [resolveName_of_free (classAtPath_eq_none_iff.mpr noClass)
          (Builtin.find?_eq_none_iff.mpr noBuiltin), found]
        rfl
    | registeredClass noClass noBuiltin found gives =>
        rw [resolveName_of_free (classAtPath_eq_none_iff.mpr noClass)
          (Builtin.find?_eq_none_iff.mpr noBuiltin), found, RuleClass.gives_iff.mp gives]
        rfl
    | unknown noClass noBuiltin absent =>
        rw [resolveName_of_free (classAtPath_eq_none_iff.mpr noClass)
          (Builtin.find?_eq_none_iff.mpr noBuiltin), absent]
  · rintro rfl
    exact standsFor_resolveName surroundings registry name

end Resolving

/-! ## Handlers that expressions reach -/

/-- The name can be that of an expression, folds to no built-in rule, and is no path of a class. -/
structure Catalog.LeavesToRegistry
    (catalog : Catalog) (name : String) :
    Prop where
  isName : Expression.IsName name.toList
  noBuiltin : ∀ rule : Builtin, ¬ rule.IsNamed name
  noClass : catalog.HasNoClassAt name

/-- The text is an expression that stands for whatever handler is registered under the name. -/
def Registry.Reaches
    (surroundings : Surroundings) (message : Value) (text name : String) :
    Prop :=
  ∃ descriptor, Descriptor.ofText text message = .ok descriptor ∧
    ∀ (registry : Registry) (handler : Handler),
      descriptor.resolve surroundings (registry.set name handler) =
        (handler.toPredicate name).map fun rule => (name, rule)

namespace Registry

variable {surroundings : Surroundings} {registry : Registry} {name : String}

theorem find?_set_self
    (registry : Registry) (name : String) (handler : Handler) :
    (registry.set name handler).find? name = some handler :=
  registry.handlers.find?_set_self name handler

theorem find?_set_of_ne
    (registry : Registry) {name tested : String} (handler : Handler) (different : tested ≠ name) :
    (registry.set name handler).find? tested = registry.find? tested :=
  registry.handlers.find?_set_of_ne handler different

end Registry

namespace Descriptor

variable {surroundings : Surroundings} {registry : Registry} {name : String}

/-- Two registries with the same handler under a name give the name the same meaning. -/
theorem resolveName_congr
    {other : Registry} (same : registry.find? name = other.find? name) :
    resolveName surroundings registry name = resolveName surroundings other name := by
  unfold resolveName Registry.has Registry.resolve Registry.get
  rw [same]

/-- The name of a path of a class, or of a built-in rule, has the same meaning in all registries. -/
theorem resolveName_of_shadowed
    (shadowed : ¬ (surroundings.catalog.HasNoClassAt name ∧ ∀ rule : Builtin, ¬ rule.IsNamed name))
    (registry other : Registry) :
    resolveName surroundings registry name = resolveName surroundings other name := by
  rw [← classAtPath_eq_none_iff, ← Builtin.find?_eq_none_iff] at shadowed
  cases atPath : classAtPath surroundings.catalog name with
  | error fault => rw [resolveName, resolveName, atPath]
  | ok held =>
      cases held with
      | some ruleClass => rw [resolveName_of_class atPath, resolveName_of_class atPath]
      | none =>
          cases known : Builtin.find? name with
          | some rule =>
              rw [resolveName_of_builtin atPath known, resolveName_of_builtin atPath known]
          | none => exact absurd ⟨atPath, known⟩ shadowed

theorem exists_name_of_ofText
    {text : String} {message : Value} {descriptor : Descriptor}
    (read : ofText text message = .ok descriptor) :
    ∃ name, descriptor.target = .named name ∧ Expression.IsName name.toList := by
  have cut := Expression.cutAtColon_parts text.toList
  rw [ofText_of_cut cut] at read
  cases blank : allBlank (Expression.beforeColon text.toList) with
  | true =>
      rw [blank, if_pos rfl] at read
      cases read
  | false =>
      rw [blank, if_neg Bool.false_ne_true, Except.ok.injEq] at read
      subst read
      refine ⟨_, rfl, ?_⟩
      rw [String.toList_ofList]
      exact Expression.isName_trim cut.colon_not_mem blank

theorem ofText_of_isName
    (isName : Expression.IsName name.toList) (message : Value) :
    ofText name message = .ok ⟨.named name, [], name, message⟩ := by
  rw [ofText_of_cut (.uncut isName.colonFree), isName.not_allBlank, isName.trim_eq,
    String.ofList_toList]
  rfl

/-- A handler under another name, or under one that is not left to the registry, has no part in what
an expression stands for. -/
theorem resolve_set
    {text : String} {message : Value} {descriptor : Descriptor}
    (read : ofText text message = .ok descriptor)
    (apart : descriptor.target ≠ .named name ∨ ¬ surroundings.catalog.LeavesToRegistry name)
    (registry : Registry) (handler : Handler) :
    descriptor.resolve surroundings (registry.set name handler) =
      descriptor.resolve surroundings registry := by
  obtain ⟨own, target, isName⟩ := exists_name_of_ofText read
  unfold resolve
  rw [target]
  by_cases same : own = name
  · -- The name of an expression can be a name, so that it is shadowed if it is not left.
    subst same
    have shadowed : ¬ (surroundings.catalog.HasNoClassAt own ∧
        ∀ rule : Builtin, ¬ rule.IsNamed own) := by
      rintro ⟨noClass, noBuiltin⟩
      rcases apart with otherTarget | notLeft
      · exact otherTarget target
      · exact notLeft ⟨isName, noBuiltin, noClass⟩
    exact resolveName_of_shadowed shadowed _ _
  · exact resolveName_congr (registry.find?_set_of_ne handler same)

/-- A name that is left to the registry is itself an expression for what is registered under it. -/
theorem reaches_of_leaves
    (left : surroundings.catalog.LeavesToRegistry name) (message : Value) :
    Registry.Reaches surroundings message name name := by
  refine ⟨_, ofText_of_isName left.isName message, fun registry handler => ?_⟩
  have noClass := classAtPath_eq_none_iff.mpr left.noClass
  have noBuiltin := Builtin.find?_eq_none_iff.mpr left.noBuiltin
  have resolved :
      resolveName surroundings (registry.set name handler) name =
        (handler.toPredicate name).map fun rule => (name, rule) := by
    rw [resolveName_of_free noClass noBuiltin, registry.find?_set_self]
  exact resolved

/-- A name that an expression reaches is left to the registry. -/
theorem leaves_of_reaches
    {message : Value} {text : String}
    (reaches : Registry.Reaches surroundings message text name) :
    surroundings.catalog.LeavesToRegistry name := by
  obtain ⟨descriptor, read, standsFor⟩ := reaches
  by_contra notLeft
  -- Else the expression would stand for the same whatever is registered under the name: for a
  -- callback, which is accepted, and for a class that is no rule class, which is refused.
  have ignored := resolve_set read (Or.inr notLeft) Registry.empty
  have asCallback := standsFor Registry.empty (.ofCallback ⟨"", false, fun _ => .ok []⟩)
  have asClass :=
    standsFor Registry.empty (.ofClass ⟨"", false, .ok .null, fun _ _ => .ok (.null, [])⟩)
  rw [ignored] at asCallback asClass
  rw [asCallback] at asClass
  cases asClass

/-- What an expression stands for, in every registry: what is at the dotted path that its name is,
else the built-in rule that the name folds to, else what is registered under exactly this name, and
else nothing. So a handler is reached by an expression exactly if its name is left to the registry,
and to register one changes the meaning of an expression of its own name only, and of this one only
if the name is left to the registry. -/
theorem resolution_order
    (surroundings : Surroundings) (message : Value) :
    (∀ registry text descriptor, ofText text message = .ok descriptor →
        ∃ name,
          descriptor.target = .named name ∧
            ∀ result,
              descriptor.resolve surroundings registry = result ↔
                StandsFor surroundings registry name result) ∧
      (∀ name,
        (∃ text, Registry.Reaches surroundings message text name) ↔
          surroundings.catalog.LeavesToRegistry name) ∧
      ∀ registry name source after text descriptor,
        Registry.register registry surroundings.catalog name source = .ok after →
          ofText text message = .ok descriptor →
            descriptor.target ≠ .named name ∨ ¬ surroundings.catalog.LeavesToRegistry name →
              descriptor.resolve surroundings after =
                descriptor.resolve surroundings registry := by
  refine ⟨?_, ?_, ?_⟩
  · intro registry text descriptor read
    obtain ⟨name, target, _⟩ := exists_name_of_ofText read
    refine ⟨name, target, fun result => ?_⟩
    rw [standsFor_iff, resolve, target]
  · intro name
    constructor
    · rintro ⟨text, reaches⟩
      exact leaves_of_reaches reaches
    · intro left
      exact ⟨name, reaches_of_leaves left message⟩
  · intro registry name source after text descriptor registered read apart
    unfold Registry.register at registered
    cases accepted : Registry.handlerOf surroundings.catalog name source with
    | error refusal =>
        rw [accepted] at registered
        cases registered
    | ok handler =>
        rw [accepted, Except.map, Except.ok.injEq] at registered
        rw [← registered]
        exact resolve_set read apart registry handler

end Descriptor

/-! ## A shop with a class, and handlers in its way -/

def priceClass :
    RuleClass :=
  (Stock.always [.text "too cheap"]).toClass "Price"

def shopCallback :
    Callback :=
  ⟨"anything", false, fun _ => .ok []⟩

def shopSurroundings :
    Surroundings :=
  ⟨⟨730120, 43200000000, none, by decide, by decide, by decide⟩,
    ⟨fun path => if path = "shop.Price" then some priceClass else none⟩⟩

/-- Of the names with a handler one is a path and one that of a built-in rule. -/
def shopRegistry :
    Registry :=
  ((Registry.empty.set "shop.Price" (.ofCallback shopCallback)).set "Al_Pha"
    (.ofCallback shopCallback)).set "in stock" (.ofCallback shopCallback)

/-- The path and the built-in rule come first, whatever is registered under their names, and to
register something there changes nothing; the third name is left to the registry. -/
theorem shop_resolution_order :
    (Descriptor.mk (.named "shop.Price") [" 5", "5"] " shop.Price : 5" .null).resolve
        shopSurroundings shopRegistry = .ok ("shop.Price", priceClass.answer .null) ∧
      (Descriptor.mk (.named "Al_Pha") [] "Al_Pha" .null).resolve shopSurroundings shopRegistry =
        .ok ("alpha", Builtin.alpha.toPredicate shopSurroundings.present) ∧
      (∃ text, Registry.Reaches shopSurroundings .null text "in stock") ∧
      (¬ ∃ text, Registry.Reaches shopSurroundings .null text "shop.Price") ∧
      (Descriptor.mk (.named "shop.Price") [" 5", "5"] " shop.Price : 5" .null).resolve
          shopSurroundings Registry.empty =
        (Descriptor.mk (.named "shop.Price") [" 5", "5"] " shop.Price : 5" .null).resolve
          shopSurroundings (Registry.empty.set "shop.Price" (.ofCallback shopCallback)) := by
  obtain ⟨order, reached, apart⟩ := Descriptor.resolution_order shopSurroundings .null
  have isClass : shopSurroundings.catalog.HasClassAt "shop.Price" priceClass :=
    ⟨by decide, rfl⟩
  have taken : ¬ shopSurroundings.catalog.LeavesToRegistry "shop.Price" := by
    intro left
    have none := left.noClass isClass.1
    rw [isClass.2] at none
    cases none
  have read :
      Descriptor.ofText " shop.Price : 5" .null =
        .ok ⟨.named "shop.Price", [" 5", "5"], " shop.Price : 5", .null⟩ := by
    rfl
  refine ⟨?_, ?_, ?_, ?_, ?_⟩
  · obtain ⟨name, target, resolved⟩ := order shopRegistry _ _ read
    cases target
    exact (resolved _).mpr (.path isClass (.built rfl rfl))
  · obtain ⟨name, target, resolved⟩ := order shopRegistry "Al_Pha" _ rfl
    cases target
    have named : Builtin.alpha.IsNamed "Al_Pha" := by
      rw [← Builtin.find?_eq_some_iff]
      decide +kernel
    have noPoint : shopSurroundings.catalog.HasNoClassAt "Al_Pha" := fun pointed =>
      absurd pointed (by decide)
    exact (resolved _).mpr (.builtin noPoint named)
  · refine (reached "in stock").mpr ⟨⟨by decide, by decide, by decide, by decide⟩, ?_, ?_⟩
    · rw [← Builtin.find?_eq_none_iff]
      decide +kernel
    · exact fun pointed => absurd pointed (by decide)
  · exact fun someText => taken ((reached "shop.Price").mp someText)
  · exact (apart Registry.empty "shop.Price" (.handler (.ofCallback shopCallback)) _ _ _ rfl read
      (Or.inr taken)).symm

end FormRules
