import FormRules.Roster
import FormRules.Rule.Builtin
import FormRules.Rule.Token

/-!
Custom rules by name, and how the name of a rule is resolved.

A registry keeps its names in the order in which they were first registered. A name in an
expression stands for the class at the dotted path that it is, else for a built-in rule, else for
what is registered under it.
-/

namespace FormRules

open FormRules.Time

/-- Custom rules by name. -/
structure Registry where
  handlers : Roster Handler

/-- What stands for a rule when it is registered: a handler, the dotted path of a class, or
anything else, known by the name of its kind. -/
inductive HandlerSource where
  | handler (handler : Handler)
  | path (path : String)
  | unusable (kindName : String)

/-- What rules depend on besides their questions: the present moment and the classes that can be
reached by a path. -/
structure Surroundings where
  present : Moment
  catalog : Catalog

namespace Registry

def empty :
    Registry :=
  ⟨.empty⟩

def names
    (registry : Registry) :
    List String :=
  registry.handlers.names

def find?
    (registry : Registry) (name : String) :
    Option Handler :=
  registry.handlers.find? name

def has
    (registry : Registry) (name : String) :
    Bool :=
  (registry.find? name).isSome

/-- The handler registered under a name, which has to be there. -/
def get
    (registry : Registry) (name : String) :
    Except Refusal Handler :=
  match registry.find? name with
  | some handler => .ok handler
  | none => .error (.unknownRule name)

def handlerOf
    (catalog : Catalog) (name : String) :
    HandlerSource → Except Refusal Handler
  | .handler handler => .ok handler
  | .path path =>
      match catalog.find? path with
      | .ok (some ruleClass) => .ok (.ofClass ruleClass)
      | .ok none => .error (.unknownHandlerPath name path)
      | .error fault => .error (.fault fault)
  | .unusable kindName => .error (.unusableHandler name kindName)

/-- The registry with a handler under a name, in the place of an earlier one. -/
def set
    (registry : Registry) (name : String) (handler : Handler) :
    Registry :=
  ⟨registry.handlers.set name handler⟩

def register
    (registry : Registry) (catalog : Catalog) (name : String) (source : HandlerSource) :
    Except Refusal Registry :=
  (handlerOf catalog name source).map (registry.set name)

def resolve
    (registry : Registry) (name : String) :
    Except Refusal Predicate :=
  match registry.get name with
  | .ok handler => handler.toPredicate name
  | .error refusal => .error refusal

end Registry

/-- The class at the dotted path that a name is; a name without a point is no path. -/
def classAtPath
    (catalog : Catalog) (name : String) :
    Except Fault (Option RuleClass) :=
  if name.contains '.' then catalog.find? name else .ok none

namespace Descriptor

/-- The rule that a name stands for, and the name under which its outcome is reported. -/
def resolveName
    (surroundings : Surroundings) (registry : Registry) (name : String) :
    Except Refusal (String × Predicate) :=
  match classAtPath surroundings.catalog name with
  | .error fault => .error (.fault fault)
  | .ok (some ruleClass) => (ruleClass.instantiate name).map fun rule => (name, rule)
  | .ok none =>
      match Builtin.find? name with
      | some builtin => .ok (builtin.name, builtin.toPredicate surroundings.present)
      | none =>
          if registry.has name then (registry.resolve name).map fun rule => (name, rule)
          else .error (.unknownRule name)

def resolve
    (surroundings : Surroundings) (registry : Registry) (descriptor : Descriptor) :
    Except Refusal (String × Predicate) :=
  match descriptor.target with
  | .named name => resolveName surroundings registry name
  | .handler handler =>
      (handler.toPredicate handler.displayName).map fun rule => (handler.displayName, rule)

end Descriptor

end FormRules
