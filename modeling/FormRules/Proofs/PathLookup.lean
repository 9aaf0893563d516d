import FormRules.Proofs.RefusedRun
import FormRules.Proofs.Resolution

/-!
# Paths that name no class

A dotted path names a class or none, however its points stand, but for the relative ones: a path
whose module begins with a point breaks the lookup off. This is all that can go wrong with a path.
So a path without a class is refused for registration as the path of no handler, and a name that
nothing matches is refused as that of no rule, unless it is a relative path; and what is refused has
changed nothing.
-/

namespace FormRules

/-- The path is relative: it has a module and a name with the last point between them, and the
module begins with a point. -/
inductive Catalog.IsRelativePath :
    (path modulePart : List Char) → Prop
  | intro (rest : List Char) {name : List Char} (named : name ≠ []) (isLast : '.' ∉ name) :
      IsRelativePath ('.' :: rest ++ '.' :: name) ('.' :: rest)

/-- Why a path is refused that names no class: the lookup breaks off if the path is relative, and
else the refusal is the given one, an error of the given kind. -/
inductive Refusal.IsOfPath
    (path : String) (reason : Refusal) (kind : ErrorKind) :
    Refusal → Prop
  | unknown (absolute : ∀ modulePart, ¬ Catalog.IsRelativePath path.toList modulePart)
      (reported : reason.report?.map ErrorReport.kind = some kind) :
      IsOfPath path reason kind reason
  | relative {modulePart : List Char}
      (isRelative : Catalog.IsRelativePath path.toList modulePart) :
      IsOfPath path reason kind (.fault (.relativePath (String.ofList modulePart)))

/-! ## The last point of a path -/

theorem splitAtLastPoint_of_not_mem
    {text : List Char} (noPoint : '.' ∉ text) :
    splitAtLastPoint text = ([], text) := by
  cases text with
  | nil => rfl
  | cons character rest =>
      rw [List.mem_cons, not_or] at noPoint
      obtain ⟨isOther, restNoPoint⟩ := noPoint
      have noneAhead : rest.contains '.' = false := by
        simpa using restNoPoint
      rw [splitAtLastPoint, noneAhead, if_neg Bool.false_ne_true, if_neg (Ne.symm isOther)]

theorem splitAtLastPoint_append
    (front : List Char) {name : List Char} (isLast : '.' ∉ name) :
    splitAtLastPoint (front ++ '.' :: name) = (front, name) := by
  induction front with
  | nil =>
      have noneAhead : name.contains '.' = false := by
        simpa using isLast
      rw [List.nil_append, splitAtLastPoint, noneAhead, if_neg Bool.false_ne_true, if_pos rfl]
  | cons character front inductionHypothesis =>
      have pointAhead : (front ++ '.' :: name).contains '.' = true := by
        simp
      rw [List.cons_append, splitAtLastPoint, if_pos pointAhead, inductionHypothesis]

/-- A text has no point, or a last one. -/
theorem lastPoint_cases
    (text : List Char) :
    '.' ∉ text ∨ ∃ front name, text = front ++ '.' :: name ∧ '.' ∉ name := by
  induction text with
  | nil => exact Or.inl List.not_mem_nil
  | cons character rest inductionHypothesis =>
      rcases inductionHypothesis with noPoint | ⟨front, name, isSplit, isLast⟩
      · by_cases isPoint : character = '.'
        · exact Or.inr ⟨[], rest, by rw [isPoint]; rfl, noPoint⟩
        · refine Or.inl fun member => ?_
          rcases List.mem_cons.mp member with same | later
          · exact isPoint same.symm
          · exact noPoint later
      · exact Or.inr ⟨character :: front, name, by rw [isSplit]; rfl, isLast⟩

namespace Catalog

variable {catalog : Catalog} {path : String}

theorem IsRelativePath.find?_eq
    {modulePart : List Char} (isRelative : IsRelativePath path.toList modulePart)
    (catalog : Catalog) :
    catalog.find? path = .error (.relativePath (String.ofList modulePart)) := by
  generalize written : path.toList = characters at isRelative
  cases isRelative with
  | intro rest named isLast =>
      have given : List.isEmpty _ = false := List.isEmpty_eq_false_iff.mpr named
      rw [find?, written, splitAtLastPoint_append _ isLast]
      simp [given]

theorem IsRelativePath.point_mem
    {modulePart : List Char} (isRelative : IsRelativePath path.toList modulePart) :
    '.' ∈ path.toList := by
  generalize path.toList = characters at isRelative
  cases isRelative with
  | intro rest named isLast => exact List.mem_cons_self

/-- A path that is not relative names a class or none. -/
theorem exists_find?_of_absolute
    (absolute : ∀ modulePart, ¬ IsRelativePath path.toList modulePart) (catalog : Catalog) :
    ∃ class?, catalog.find? path = .ok class? := by
  rcases lastPoint_cases path.toList with noPoint | ⟨front, name, isSplit, isLast⟩
  · exact ⟨none, by simp [find?, splitAtLastPoint_of_not_mem noPoint]⟩
  · rw [find?, isSplit, splitAtLastPoint_append front isLast]
    cases front with
    | nil => exact ⟨none, by simp⟩
    | cons first rest =>
        by_cases named : name = []
        · exact ⟨none, by simp [named]⟩
        · have notPoint : first ≠ '.' := by
            rintro rfl
            rw [isSplit] at absolute
            exact absolute _ (.intro rest named isLast)
          exact ⟨catalog.lookup path, by simp [named, notPoint]⟩

theorem find?_eq_error_iff
    {fault : Fault} :
    catalog.find? path = .error fault ↔
      ∃ modulePart, IsRelativePath path.toList modulePart ∧
        fault = .relativePath (String.ofList modulePart) := by
  constructor
  · intro broken
    by_contra notRelative
    have absolute : ∀ modulePart, ¬ IsRelativePath path.toList modulePart := by
      intro modulePart isRelative
      rw [isRelative.find?_eq catalog, Except.error.injEq] at broken
      exact notRelative ⟨modulePart, isRelative, broken.symm⟩
    obtain ⟨class?, found⟩ := exists_find?_of_absolute absolute catalog
    rw [broken] at found
    cases found
  · rintro ⟨modulePart, isRelative, rfl⟩
    exact isRelative.find?_eq catalog

theorem exists_find?_iff :
    (∃ class?, catalog.find? path = .ok class?) ↔
      ∀ modulePart, ¬ IsRelativePath path.toList modulePart := by
  refine ⟨?_, fun absolute => exists_find?_of_absolute absolute catalog⟩
  rintro ⟨class?, found⟩ modulePart isRelative
  rw [isRelative.find?_eq catalog] at found
  cases found

end Catalog

/-! ## Refusals of paths -/

section Refusing

variable {surroundings : Surroundings} {path name : String}

/-- A path without a class has no handler. -/
theorem Registry.exists_handlerOf_refused
    {catalog : Catalog} (noClass : ∀ ruleClass, catalog.find? path ≠ .ok (some ruleClass))
    (name : String) :
    ∃ refusal,
      Refusal.IsOfPath path (.unknownHandlerPath name path) .invalidHandlerType refusal ∧
        handlerOf catalog name (.path path) = .error refusal := by
  cases found : catalog.find? path with
  | error fault =>
      obtain ⟨modulePart, isRelative, rfl⟩ := Catalog.find?_eq_error_iff.mp found
      exact ⟨_, .relative isRelative, by rw [handlerOf, found]⟩
  | ok class? =>
      cases class? with
      | some ruleClass => exact absurd found (noClass ruleClass)
      | none =>
          have absolute := Catalog.exists_find?_iff.mp ⟨none, found⟩
          exact ⟨_, .unknown absolute rfl, by rw [handlerOf, found]⟩

/-- The name is neither the path of a class nor that of a built-in rule, and nothing is registered
under it. -/
structure Registry.LacksRule
    (registry : Registry) (surroundings : Surroundings) (name : String) :
    Prop where
  noClass : ∀ ruleClass, ¬ surroundings.catalog.HasClassAt name ruleClass
  noBuiltin : ∀ rule : Builtin, ¬ rule.IsNamed name
  absent : registry.find? name = none

/-- A name that nothing matches is refused. -/
theorem Registry.LacksRule.exists_resolveName_refused
    {registry : Registry} (lacks : registry.LacksRule surroundings name) :
    ∃ refusal,
      Refusal.IsOfPath name (.unknownRule name) .unknownRule refusal ∧
        Descriptor.resolveName surroundings registry name = .error refusal := by
  by_cases isRelative : ∃ modulePart, Catalog.IsRelativePath name.toList modulePart
  · obtain ⟨modulePart, isRelative⟩ := isRelative
    refine ⟨_, .relative isRelative, ?_⟩
    exact standsFor_iff.mp (.brokenPath isRelative.point_mem (isRelative.find?_eq _))
  · have absolute : ∀ modulePart, ¬ Catalog.IsRelativePath name.toList modulePart :=
      fun modulePart isRelativeToo => isRelative ⟨modulePart, isRelativeToo⟩
    have noClass : surroundings.catalog.HasNoClassAt name := by
      intro pointed
      obtain ⟨class?, found⟩ := Catalog.exists_find?_of_absolute absolute surroundings.catalog
      cases class? with
      | none => exact found
      | some ruleClass => exact absurd ⟨pointed, found⟩ (lacks.noClass ruleClass)
    refine ⟨_, .unknown absolute rfl, ?_⟩
    exact standsFor_iff.mp (.unknown noClass lacks.noBuiltin lacks.absent)

/-- A chain that comes to a rule that is refused breaks off there. -/
theorem Condition.verdict_check_of_refused
    {condition : Condition} {registry : Registry} {fields : Fields} {key : String} {bail : Bool}
    {before after : List Descriptor} {descriptor : Descriptor} {refusal : Refusal}
    (split : condition.rules = before ++ descriptor :: after)
    (goesOn :
      { condition with rules := before }.LetsGoOn surroundings registry fields key bail)
    (refused :
      evaluateRule surroundings registry condition.prefixText fields key descriptor =
        .error refusal) :
    (condition.evaluate surroundings registry fields key bail).refusal = some refusal ∧
      (condition.check surroundings registry fields key bail).verdict = .error refusal := by
  have ended : (condition.evaluate surroundings registry fields key bail).refusal =
      some refusal := by
    rw [evaluate, split,
      evaluateChain_append_of_unbroken (descriptor :: after) goesOn.unbroken goesOn.passing,
      evaluateChain_cons_of_error bail after refused]
  refine ⟨ended, ?_⟩
  simp [check, ended]

end Refusing

/-- The lookup of a path breaks off exactly if the path is relative, and else gives a class or none.
A path without a class is refused for registration, whatever is registered, and nothing is
registered then. A rule by a name that nothing matches is refused, and a chain that comes to it
breaks off. Both are refused as unknown, unless the path is relative. -/
theorem Catalog.paths_looked_up_unless_relative
    (surroundings : Surroundings) :
    (∀ path : String,
        ((∃ class?, surroundings.catalog.find? path = .ok class?) ↔
            ∀ modulePart, ¬ IsRelativePath path.toList modulePart) ∧
          ∀ fault, surroundings.catalog.find? path = .error fault ↔
            ∃ modulePart, IsRelativePath path.toList modulePart ∧
              fault = .relativePath (String.ofList modulePart)) ∧
      (∀ (validation : Validation) (name path : String),
        (∀ ruleClass, surroundings.catalog.find? path ≠ .ok (some ruleClass)) →
          ∃ refusal,
            Refusal.IsOfPath path (.unknownHandlerPath name path) .invalidHandlerType refusal ∧
              validation.registry.register surroundings.catalog name (.path path) =
                .error refusal ∧
              validation.register surroundings.catalog name (.path path) = .error refusal ∧
              validation.leftBy
                  (Validation.registering surroundings.catalog name (.path path)) =
                validation) ∧
      ∀ (registry : Registry) (fields : Fields) (key name : String) (descriptor : Descriptor),
        descriptor.target = .named name → registry.LacksRule surroundings name →
          ∃ refusal,
            Refusal.IsOfPath name (.unknownRule name) .unknownRule refusal ∧
              (∀ prefixText, Condition.evaluateRule surroundings registry prefixText fields key
                descriptor = .error refusal) ∧
              ∀ (condition : Condition) (bail : Bool) (before after : List Descriptor),
                condition.rules = before ++ descriptor :: after →
                  { condition with rules := before }.LetsGoOn surroundings registry fields key
                      bail →
                    (condition.evaluate surroundings registry fields key bail).refusal =
                        some refusal ∧
                      (condition.check surroundings registry fields key bail).verdict =
                        .error refusal := by
  refine ⟨fun path => ⟨exists_find?_iff, fun fault => find?_eq_error_iff⟩, ?_, ?_⟩
  · intro validation name path noClass
    obtain ⟨refusal, ofPath, refused⟩ := Registry.exists_handlerOf_refused noClass name
    have ran := validation.run_registering_of_error refused
    refine ⟨refusal, ofPath, ?_, ?_, ?_⟩
    · rw [Registry.register, refused]
      rfl
    · rw [Validation.register, Validation.changedBy, ran]
      rfl
    · rw [Validation.leftBy, ran]
  · intro registry fields key name descriptor named lacks
    obtain ⟨refusal, ofPath, refused⟩ := lacks.exists_resolveName_refused
    have evaluated : ∀ prefixText,
        Condition.evaluateRule surroundings registry prefixText fields key descriptor =
          .error refusal := by
      intro prefixText
      have resolved : descriptor.resolve surroundings registry = .error refusal := by
        rw [Descriptor.resolve, named]
        exact refused
      rw [Condition.evaluateRule, resolved]
    refine ⟨refusal, ofPath, evaluated, ?_⟩
    intro condition bail before after split goesOn
    exact Condition.verdict_check_of_refused split goesOn (evaluated condition.prefixText)

/-! ## Paths into a shop -/

def byName
    (name : String) :
    Descriptor :=
  ⟨.named name, [], name, .null⟩

/-- A condition with a rule that fails, and a rule by the given name behind it. -/
def pricedCondition
    (name : String) :
    Condition :=
  ⟨"shop", [complaining "Cheap" "too cheap", byName name], []⟩

theorem shop_lacksRule
    {name : String} (notPrice : name ≠ "shop.Price") (noBuiltin : Builtin.find? name = none) :
    Registry.empty.LacksRule shopSurroundings name where
  noClass ruleClass := by
    rintro ⟨_, found⟩
    have nothing : shopSurroundings.catalog.lookup name = none := if_neg notPrice
    rw [Catalog.find?, nothing] at found
    dsimp only at found
    split at found
    · cases found
    · split at found <;> cases found
  noBuiltin := Builtin.find?_eq_none_iff.mp noBuiltin
  absent := rfl

/-- With two points together a path names nothing. With a point in front it breaks off, and the
class behind it is not found. -/
theorem shop_paths_looked_up :
    shopSurroundings.catalog.find? "shop..Price" = .ok none ∧
      Registry.register shopRegistry shopSurroundings.catalog "Price" (.path "shop..Price") =
        .error (.unknownHandlerPath "Price" "shop..Price") ∧
      Registry.empty.LacksRule shopSurroundings ".shop.Price" ∧
      ((pricedCondition ".shop.Price").check shopSurroundings .empty [] "price" false).verdict =
        .error (.fault (.relativePath ".shop")) := by
  obtain ⟨lookups, registers, evaluates⟩ :=
    Catalog.paths_looked_up_unless_relative shopSurroundings
  have noClass : shopSurroundings.catalog.find? "shop..Price" = .ok none := rfl
  have lacks : Registry.empty.LacksRule shopSurroundings ".shop.Price" :=
    shop_lacksRule (by decide) (by decide +kernel)
  refine ⟨noClass, ?_, lacks, ?_⟩
  · obtain ⟨refusal, ofPath, refused, _⟩ :=
      registers ⟨.initial, shopRegistry, .empty⟩ "Price" "shop..Price"
        (fun ruleClass found => by rw [noClass] at found; cases found)
    cases ofPath with
    | unknown => exact refused
    | relative isRelative => exact absurd isRelative ((lookups _).1.mp ⟨none, noClass⟩ _)
  · obtain ⟨refusal, ofPath, _, breaksOff⟩ :=
      evaluates Registry.empty [] "price" ".shop.Price" (byName ".shop.Price") rfl lacks
    have broken := (breaksOff (pricedCondition ".shop.Price") false
      [complaining "Cheap" "too cheap"] [] rfl ⟨rfl, fun bails => by cases bails⟩).2
    cases ofPath with
    | unknown absolute =>
        exact absurd (.intro "shop".toList (by decide) (by decide)) (absolute ".shop".toList)
    | relative isRelative =>
        have same := ((lookups ".shop.Price").2 _).mpr ⟨_, isRelative, rfl⟩
        rw [broken]
        have found : shopSurroundings.catalog.find? ".shop.Price" =
            .error (.relativePath ".shop") := rfl
        rw [found, Except.error.injEq] at same
        rw [← same]

/-- The lookup does not give a class or none for every path, and a relative path is refused neither
for registration nor as a rule as others are. -/
theorem not_every_path_is_looked_up :
    (¬ ∀ (catalog : Catalog) (path : String), ∃ class?, catalog.find? path = .ok class?) ∧
      (¬ ∀ (registry : Registry) (catalog : Catalog) (name path : String),
        (∀ ruleClass, catalog.find? path ≠ .ok (some ruleClass)) →
          registry.register catalog name (.path path) =
            .error (.unknownHandlerPath name path)) ∧
      ¬ ∀ (surroundings : Surroundings) (registry : Registry) (prefixText : String)
        (fields : Fields) (key name : String) (descriptor : Descriptor),
          descriptor.target = .named name → registry.LacksRule surroundings name →
            Condition.evaluateRule surroundings registry prefixText fields key descriptor =
              .error (.unknownRule name) := by
  have broken : shopSurroundings.catalog.find? ".shop.Price" = .error (.relativePath ".shop") :=
    rfl
  refine ⟨fun everyFound => ?_, fun everyUnknown => ?_, fun everyUnknown => ?_⟩
  · obtain ⟨class?, found⟩ := everyFound shopSurroundings.catalog ".shop.Price"
    rw [broken] at found
    cases found
  · have refused := everyUnknown .empty shopSurroundings.catalog "Price" ".shop.Price"
      (fun ruleClass found => by rw [broken] at found; cases found)
    rw [Registry.register, Registry.handlerOf, broken] at refused
    cases refused
  · have lacks : Registry.empty.LacksRule shopSurroundings ".shop.Price" :=
      shop_lacksRule (by decide) (by decide +kernel)
    have refused := everyUnknown shopSurroundings .empty "shop" [] "price" ".shop.Price"
      (byName ".shop.Price") rfl lacks
    have relative : (byName ".shop.Price").resolve shopSurroundings .empty =
        .error (.fault (.relativePath ".shop")) :=
      standsFor_iff.mp (.brokenPath (by decide) broken)
    rw [Condition.evaluateRule, relative] at refused
    cases refused

end FormRules
