import FormRules.Rule.Predicate
import FormRules.Text.Case
import FormRules.Time.IsoText

/-!
Moments as rules read them: a date, a date with a time, or a word for a day near the present.
-/

namespace FormRules

open FormRules.Text
open FormRules.Time

def daysAhead?
    (word : String) :
    Option Int :=
  match word with
  | "yesterday" => some (-1)
  | "today" => some 0
  | "tomorrow" => some 1
  | _ => none

def momentOfText
    (present : Moment) (text : String) :
    Except Fault (Option Moment) :=
  let trimmed := trim text.toList
  let word := String.ofList (lowerText trimmed)
  if word = "now" then .ok (some present)
  else
    match daysAhead? word with
    | some ahead => (present.startOfDay ahead).map some
    | none => .ok (Moment.ofIsoText? trimmed)

def Value.toMoment
    (present : Moment) :
    Value → Except Fault (Option Moment)
  | .moment value => .ok (some value)
  | .text value => momentOfText present value
  | _ => .ok none

end FormRules
