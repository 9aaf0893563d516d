import FormRules.Text.Blank

/-!
Rule expressions: a name, or a name, a colon and options.

The first option is everything after the first colon as it is written. The others are the parts of
it between commas, blanks before each part and around the whole left out. Nothing but blanks after
the colon means no options.
-/

namespace FormRules

open FormRules.Text

/-- A rule expression as read, with the text it was read from. -/
structure Expression where
  name : String
  options : List String
  source : String
  deriving DecidableEq, Repr

def splitAtCommas :
    List Char → List (List Char)
  | [] => [[]]
  | character :: rest =>
      if character = ',' then [] :: splitAtCommas rest
      else
        match splitAtCommas rest with
        | [] => [[character]]
        | part :: parts => (character :: part) :: parts

def joinWithCommas :
    List (List Char) → List Char
  | [] => []
  | [part] => part
  | part :: next :: parts => part ++ ',' :: joinWithCommas (next :: parts)

namespace Expression

def beforeColon
    (text : List Char) :
    List Char :=
  text.takeWhile (· != ':')

def afterColon
    (text : List Char) :
    List Char :=
  (text.dropWhile (· != ':')).drop 1

/-- The values between the commas of a text, blanks before each and around the whole left out. -/
def valuesOf
    (text : List Char) :
    List (List Char) :=
  (splitAtCommas (trim text)).map trimStart

def optionsOf
    (text : List Char) :
    List (List Char) :=
  if allBlank text then [] else text :: valuesOf text

/-- Reads an expression. A name of blanks only is refused. -/
def ofText?
    (text : String) :
    Option Expression :=
  let name := trim (beforeColon text.toList)
  if name.isEmpty then none
  else
    some ⟨String.ofList name, (optionsOf (afterColon text.toList)).map String.ofList, text⟩

def render
    (name : List Char) (values : List (List Char)) :
    List Char :=
  name ++ ':' :: joinWithCommas values

end Expression

theorem splitAtCommas_ne_nil
    (text : List Char) :
    splitAtCommas text ≠ [] := by
  cases text with
  | nil => simp [splitAtCommas]
  | cons character rest =>
      unfold splitAtCommas
      split
      · simp
      · split <;> simp

/-- Parts of a text, joined again, are the text. -/
theorem joinWithCommas_splitAtCommas
    (text : List Char) :
    joinWithCommas (splitAtCommas text) = text := by
  induction text with
  | nil => rfl
  | cons character rest inductionHypothesis =>
      have someParts := splitAtCommas_ne_nil rest
      cases parts : splitAtCommas rest with
      | nil => exact absurd parts someParts
      | cons part others =>
          rw [parts] at inductionHypothesis
          unfold splitAtCommas
          by_cases isComma : character = ','
          · simp [isComma, parts, joinWithCommas, inductionHypothesis]
          · simp only [isComma, if_false, parts]
            cases others with
            | nil =>
                simp only [joinWithCommas] at inductionHypothesis ⊢
                rw [inductionHypothesis]
            | cons next more =>
                simp only [joinWithCommas, List.cons_append] at inductionHypothesis ⊢
                rw [inductionHypothesis]

end FormRules
