import FormRules.Rule.Predicate

/-!
Ready-made custom rules.

`Stock` holds what such a rule does when asked: always the same reports, an echo of its question, a
report on an absent field, or a count of the questions asked so far. `Script` puts some of these
together for a callback.
-/

namespace FormRules

/-- What ready-made rules do when asked, given what they remember. -/
abbrev Stock :=
  Value → Inquiry → Except Fault (Value × Reports)

namespace Stock

def always
    (reports : Reports) :
    Stock :=
  fun memory _ => .ok (memory, reports)

/-- The name of the field and the options, with bars between them. -/
def echoText
    (inquiry : Inquiry) :
    String :=
  "|".intercalate (inquiry.key :: inquiry.options)

/-- A report that repeats the question. -/
def echo :
    Stock :=
  fun memory inquiry => .ok (memory, [.text (echoText inquiry)])

/-- A report on a field that the input does not have. -/
def presence :
    Stock :=
  fun memory inquiry =>
    if (inquiry.fields.lookup inquiry.key).isSome then .ok (memory, [])
    else .ok (memory, [.text ("missing " ++ inquiry.key)])

/-- A report with the number of the question. -/
def counting :
    Stock
  | .integer asked, _ =>
      .ok (.integer (asked + 1), [.text ("call " ++ toString (asked + 1))])
  | _, _ => .ok (.integer 1, [.text "call 1"])

def toClass
    (stock : Stock) (qualifiedName : String) :
    RuleClass :=
  ⟨qualifiedName, true, .ok .null, stock⟩

end Stock

namespace RuleClass

/-- A class that is no rule class. -/
def plain
    (qualifiedName : String) :
    RuleClass :=
  ⟨qualifiedName, false, .ok .null, Stock.always []⟩

/-- A rule class of which no instance can be built, for the given reason. -/
def unbuildable
    (qualifiedName reason : String) :
    RuleClass :=
  ⟨qualifiedName, true, .error (.raised .argument reason), Stock.always []⟩

end RuleClass

/-- What a callback does: raise a text, pass a field that is present, make reports, and repeat the
question. -/
structure Script where
  raises : Option String
  passesPresent : Bool
  reports : Reports
  echoes : Bool

namespace Script

def ask
    (script : Script) :
    Predicate :=
  fun inquiry =>
    match script.raises with
    | some text => .error (.raised .runtime text)
    | none =>
        if script.passesPresent && (inquiry.fields.lookup inquiry.key).isSome then .ok []
        else
          .ok (script.reports ++
            if script.echoes then [.text (Stock.echoText inquiry)] else [])

end Script

end FormRules
