import FormRules.Proofs.ExpressionPattern
import FormRules.Proofs.Trimming
import FormRules.Rule.Token
import Mathlib.Data.List.Forall2

/-!
# The grammar of rule expressions

A text is an expression unless there are only blanks before its first colon. The name is the core of
what is before the colon. What is behind it, if not blank, is the first option as it stands, and its
values are the other options: the parts of its core between the commas, each without the blanks at
its beginning.
-/

namespace FormRules

open FormRules.Text

/-- The values that an option text gives: the parts of its core between the commas, each without
the blanks at its beginning. -/
inductive AreValuesOf :
    (values : List (List Char)) → (text : List Char) → Prop
  | intro {values parts : List (List Char)} {core text : List Char}
      (isCore : IsCoreOf core text) (cut : CutAtCommas core parts)
      (tails : List.Forall₂ IsTailOf values parts) :
      AreValuesOf values text

namespace Expression

theorem forall₂_isTailOf_iff
    {values parts : List (List Char)} :
    List.Forall₂ IsTailOf values parts ↔ values = parts.map trimStart := by
  constructor
  · intro tails
    induction tails with
    | nil => rfl
    | cons first _ inductionHypothesis =>
        rw [List.map_cons, isTailOf_iff.mp first, inductionHypothesis]
  · rintro rfl
    rw [List.forall₂_map_left_iff, List.forall₂_same]
    exact fun part _ => isTailOf_trimStart part

/-- Reading finds the values of an option text. -/
theorem areValuesOf_iff
    {values : List (List Char)} {text : List Char} :
    AreValuesOf values text ↔ values = valuesOf text := by
  constructor
  · rintro ⟨isCore, cut, tails⟩
    rw [valuesOf, ← isCoreOf_iff.mp isCore, ← cutAtCommas_iff.mp cut]
    exact forall₂_isTailOf_iff.mp tails
  · rintro rfl
    exact .intro (isCoreOf_trim text) (cutAtCommas_iff.mpr rfl) (forall₂_isTailOf_iff.mpr rfl)

theorem length_valuesOf
    (text : List Char) :
    (valuesOf text).length = (trim text).count ',' + 1 := by
  rw [valuesOf, List.length_map, length_splitAtCommas]

theorem comma_not_mem_of_mem_valuesOf
    (text : List Char) :
    ∀ value ∈ valuesOf text, ',' ∉ value := by
  intro value member inValue
  obtain ⟨part, isPart, rfl⟩ := List.mem_map.mp member
  have suffix : trimStart part <:+ part := List.dropWhile_suffix isBlank
  exact comma_not_mem_of_mem_splitAtCommas (trim text) part isPart (suffix.mem inValue)

/-- The first value is the whole text only if nothing was cut from it. -/
theorem head?_valuesOf_eq_iff
    {text : List Char} :
    (valuesOf text).head? = some text ↔
      ',' ∉ text ∧ BeginsFilled text ∧ EndsFilled text := by
  constructor
  · intro first
    obtain ⟨part, parts, split⟩ :=
      List.exists_cons_of_ne_nil (splitAtCommas_ne_nil (trim text))
    have tail : trimStart part = text := by
      rw [valuesOf, split, List.map_cons, List.head?_cons, Option.some.injEq] at first
      exact first
    have inPart : text <:+ part := by
      rw [← tail]
      exact List.dropWhile_suffix isBlank
    have inCore : part <+: trim text := by
      rw [← joinWithCommas_splitAtCommas (trim text), split]
      exact prefix_joinWithCommas part parts
    have partLength : text.length ≤ part.length := inPart.length_le
    have coreLength : part.length ≤ (trim text).length := inCore.length_le
    have textLength : (trim text).length ≤ text.length := length_trim_le text
    have samePart : text = part := inPart.eq_of_length (by omega)
    have sameCore : part = trim text := inCore.eq_of_length (by omega)
    have commaFree : ',' ∉ part := by
      apply comma_not_mem_of_mem_splitAtCommas (trim text)
      rw [split]
      exact List.mem_cons_self
    refine ⟨samePart ▸ commaFree, ?_⟩
    rw [← trim_eq_self_iff, ← sameCore, ← samePart]
  · rintro ⟨commaFree, begins, ends⟩
    have core : trim text = text := trim_eq_self_iff.mpr ⟨begins, ends⟩
    rw [valuesOf, core, splitAtCommas_of_not_mem commaFree, List.map_singleton,
      trimStart_of_beginsFilled begins]
    rfl

/-- Reading, said by the parts before and behind the first colon. -/
theorem ofText?_of_cut
    {text : String} {before after : List Char} (cut : CutAtColon text.toList before after) :
    ofText? text =
      if allBlank before then none
      else
        some ⟨String.ofList (trim before), (optionsOf after).map String.ofList, text⟩ := by
  obtain ⟨rfl, rfl⟩ := cutAtColon_iff.mp cut
  unfold ofText?
  by_cases blank : allBlank (beforeColon text.toList) = true
  · have empty : (trim (beforeColon text.toList)).isEmpty = true := by
      rw [trim_eq_nil_iff.mpr blank]
      rfl
    simp only [empty, if_true, if_pos blank]
  · have filled : (trim (beforeColon text.toList)).isEmpty = false := by
      rw [List.isEmpty_eq_false_iff]
      exact fun empty => blank (trim_eq_nil_iff.mp empty)
    simp only [filled, Bool.false_eq_true, if_false, if_neg blank]

/-- The options are none if there are only blanks, and else the text itself and its values. -/
theorem optionsOf_cases
    (text : List Char) :
    (allBlank text = true ∧ optionsOf text = []) ∨
      (allBlank text = false ∧ optionsOf text = text :: valuesOf text) := by
  cases blank : allBlank text with
  | true => exact Or.inl ⟨rfl, by rw [optionsOf, if_pos blank]⟩
  | false => exact Or.inr ⟨rfl, by rw [optionsOf, blank]; rfl⟩

end Expression

namespace Descriptor

theorem ofText_of_cut
    {text : String} {before after : List Char} (cut : CutAtColon text.toList before after)
    (message : Value) :
    ofText text message =
      if allBlank before then .error (.invalidExpression text)
      else
        .ok ⟨.named (String.ofList (trim before)),
          (Expression.optionsOf after).map String.ofList, text, message⟩ := by
  rw [ofText, Expression.ofText?_of_cut cut]
  by_cases blank : allBlank before = true
  · rw [if_pos blank, if_pos blank]
  · rw [if_neg blank, if_neg blank]
    rfl

theorem options_getElem?_eq_iff
    {first : List Char} {values : List (List Char)} :
    ((first :: values).map String.ofList)[0]? = ((first :: values).map String.ofList)[1]? ↔
      values.head? = some first := by
  cases values with
  | nil => simp
  | cons value others =>
      simp only [List.map_cons, List.getElem?_cons_zero, List.getElem?_cons_succ,
        List.head?_cons, Option.some.injEq, String.ofList_inj]
      exact eq_comm

/-- What the part behind the first colon says of the options: none if it is blank. Else the first
one is the part as it stands, and the others are its values: one more than there are commas in its
core, and none with a comma. The first value is the whole part only if nothing is cut from it. -/
structure HasOptionsOf
    (descriptor : Descriptor) (after : List Char) :
    Prop where
  options_eq_nil_iff : descriptor.options = [] ↔ allBlank after = true
  options_eq : allBlank after = false →
    ∃ core values,
      IsCoreOf core after ∧ AreValuesOf values after ∧
        descriptor.options = (after :: values).map String.ofList ∧
        values.length = core.count ',' + 1 ∧
        ∀ value ∈ values, ',' ∉ value
  options_same_iff : allBlank after = false →
    (descriptor.options[0]? = descriptor.options[1]? ↔
      ',' ∉ after ∧ BeginsFilled after ∧ EndsFilled after)

theorem hasOptionsOf_optionsOf
    (target : Target) (after : List Char) (source : String) (message : Value) :
    HasOptionsOf ⟨target, (Expression.optionsOf after).map String.ofList, source, message⟩
      after := by
  rcases Expression.optionsOf_cases after with ⟨blank, none⟩ | ⟨filled, some⟩
  · rw [none]
    refine ⟨iff_of_true rfl blank, ?_, ?_⟩
    · intro filled
      rw [blank] at filled
      cases filled
    · intro filled
      rw [blank] at filled
      cases filled
  · rw [some]
    refine ⟨?_, fun _ => ?_, fun _ => ?_⟩
    · rw [filled]
      simp
    · exact ⟨trim after, Expression.valuesOf after, isCoreOf_trim after,
        Expression.areValuesOf_iff.mpr rfl, rfl, Expression.length_valuesOf after,
        Expression.comma_not_mem_of_mem_valuesOf after⟩
    · rw [options_getElem?_eq_iff]
      exact Expression.head?_valuesOf_eq_iff

/-- Reading decides the grammar of expressions. Every text is cut at its first colon, as the pattern
of expressions cuts it. It is refused exactly if there are only blanks before the colon, and else it
is read as the name that is the core of what is before the colon, with the options that what is
behind the colon gives. -/
theorem ofText_decides_grammar
    (text : String) (message : Value) :
    ∃ before after,
      CutAtColon text.toList before after ∧
        Expression.CapturesParts text.toList before after ∧
        (ofText text message = .error (.invalidExpression text) ↔ allBlank before = true) ∧
        (allBlank before = false →
          ∃ name options,
            ofText text message = .ok ⟨.named (String.ofList name), options, text, message⟩ ∧
              IsCoreOf name before ∧
              HasOptionsOf ⟨.named (String.ofList name), options, text, message⟩ after) := by
  have cut := Expression.cutAtColon_parts text.toList
  refine ⟨Expression.beforeColon text.toList, Expression.afterColon text.toList, cut,
    Expression.capturesParts cut, ?_, ?_⟩
  · rw [ofText_of_cut cut]
    cases blank : allBlank (Expression.beforeColon text.toList) <;> simp
  · intro filled
    refine ⟨trim (Expression.beforeColon text.toList), _, ?_, isCoreOf_trim _,
      hasOptionsOf_optionsOf _ _ _ _⟩
    rw [ofText_of_cut cut, filled]
    rfl

end Descriptor

example :
    (Expression.ofText? "between: 5, 10").map (·.options) = some [" 5, 10", "5", "10"] := by
  decide +kernel

end FormRules
