import FormRules.Proofs.ExpressionGrammar

/-!
# Writing and reading expressions

An expression is written as its name, a colon and its values with commas between them. Where the
name could be read as a name and the values as values, reading gives them back, whatever blanks
follow. What has been read always could, so that an expression written again is read as before.
-/

namespace FormRules

open FormRules.Text

namespace Expression

/-- The text can be the name of an expression. -/
structure IsName
    (name : List Char) :
    Prop where
  notEmpty : name ≠ []
  colonFree : ':' ∉ name
  begins : BeginsFilled name
  ends : EndsFilled name

/-- The texts can be the values of an expression. A single empty value cannot be told from no
options. -/
structure AreValues
    (values : List (List Char)) :
    Prop where
  someValues : values ≠ []
  notSingleEmpty : values ≠ [[]]
  commaFree : ∀ value ∈ values, ',' ∉ value
  begins : ∀ value ∈ values, BeginsFilled value
  ends : ∀ last ∈ values.getLast?, EndsFilled last

end Expression

/-! ## Both ends of joined parts -/

/-- Joined parts begin with what the first part begins with, or with a comma. -/
theorem beginsFilled_joinWithCommas
    {parts : List (List Char)} (begins : ∀ part ∈ parts, BeginsFilled part) :
    BeginsFilled (joinWithCommas parts) := by
  cases parts with
  | nil => exact beginsFilled_nil
  | cons part others =>
      have first : BeginsFilled part := begins part List.mem_cons_self
      cases others with
      | nil => exact first
      | cons next more =>
          rw [joinWithCommas]
          cases part with
          | nil =>
              intro character isComma
              obtain rfl : ',' = character := Option.some.inj isComma
              decide
          | cons character rest => exact first

/-- Joined parts end with the last part, behind a comma if there are others. -/
theorem exists_joinWithCommas_eq_append
    {parts : List (List Char)} {last : List Char} (isLast : parts.getLast? = some last) :
    ∃ before, joinWithCommas parts = before ++ last ∧
      (before = [] ∨ ∃ others, before = others ++ [',']) := by
  induction parts with
  | nil => cases isLast
  | cons part others inductionHypothesis =>
      cases others with
      | nil =>
          obtain rfl : part = last := Option.some.inj isLast
          exact ⟨[], rfl, Or.inl rfl⟩
      | cons next more =>
          rw [List.getLast?_cons_cons] at isLast
          obtain ⟨before, joined, ending⟩ := inductionHypothesis isLast
          refine ⟨part ++ ',' :: before, ?_, Or.inr ?_⟩
          · rw [joinWithCommas, joined, List.append_assoc, List.cons_append]
          · rcases ending with rfl | ⟨others, rfl⟩
            · exact ⟨part, rfl⟩
            · exact ⟨part ++ ',' :: others, by simp⟩

/-- Joined parts end filled exactly if the last part does. -/
theorem endsFilled_joinWithCommas_iff
    {parts : List (List Char)} {last : List Char} (isLast : parts.getLast? = some last) :
    EndsFilled (joinWithCommas parts) ↔ EndsFilled last := by
  obtain ⟨before, joined, ending⟩ := exists_joinWithCommas_eq_append isLast
  rw [joined, EndsFilled, EndsFilled, List.getLast?_append]
  cases last with
  | nil =>
      rcases ending with rfl | ⟨others, rfl⟩
      · simp
      · simp [isBlank]
  | cons character rest => simp [List.getLast?_cons]

theorem joinWithCommas_ne_nil
    {parts : List (List Char)} (someParts : parts ≠ []) (notSingleEmpty : parts ≠ [[]]) :
    joinWithCommas parts ≠ [] := by
  intro empty
  cases parts with
  | nil => exact someParts rfl
  | cons part others =>
      cases others with
      | nil =>
          rw [joinWithCommas] at empty
          exact notSingleEmpty (by rw [empty])
      | cons next more => simp [joinWithCommas] at empty

namespace Expression

/-! ## Reading what was written -/

theorem IsName.trim_eq
    {name : List Char} (isName : IsName name) :
    trim name = name :=
  trim_eq_self_iff.mpr ⟨isName.begins, isName.ends⟩

theorem IsName.not_allBlank
    {name : List Char} (isName : IsName name) :
    allBlank name = false := by
  rw [← Bool.not_eq_true]
  exact fun blank => isName.notEmpty (eq_nil_of_allBlank isName.begins blank)

theorem AreValues.endsFilled
    {values : List (List Char)} (areValues : AreValues values) :
    EndsFilled (joinWithCommas values) := by
  have someLast : values.getLast?.isSome = true := List.getLast?_isSome.mpr areValues.someValues
  obtain ⟨last, isLast⟩ := Option.isSome_iff_exists.mp someLast
  exact (endsFilled_joinWithCommas_iff isLast).mpr (areValues.ends last isLast)

/-- Values with commas between them are found again, whatever blanks follow. -/
theorem AreValues.valuesOf_eq
    {values : List (List Char)} (areValues : AreValues values)
    {blanks : List Char} (blank : allBlank blanks = true) :
    valuesOf (joinWithCommas values ++ blanks) = values := by
  have isCore : IsCoreOf (joinWithCommas values) (joinWithCommas values ++ blanks) :=
    ⟨beginsFilled_joinWithCommas areValues.begins, areValues.endsFilled, [], blanks, rfl, blank,
      rfl⟩
  have cut : CutAtCommas (joinWithCommas values) values :=
    ⟨areValues.someValues, areValues.commaFree, rfl⟩
  have tails : List.Forall₂ IsTailOf values values :=
    List.forall₂_same.mpr fun value member => ⟨areValues.begins value member, [], rfl, rfl⟩
  exact (areValuesOf_iff.mp (.intro isCore cut tails)).symm

theorem AreValues.optionsOf_eq
    {values : List (List Char)} (areValues : AreValues values)
    {blanks : List Char} (blank : allBlank blanks = true) :
    optionsOf (joinWithCommas values ++ blanks) =
      (joinWithCommas values ++ blanks) :: values := by
  have notBlank : allBlank (joinWithCommas values ++ blanks) = false := by
    have filled : allBlank (joinWithCommas values) = false := by
      rw [← Bool.not_eq_true]
      intro allOfThem
      exact joinWithCommas_ne_nil areValues.someValues areValues.notSingleEmpty
        (eq_nil_of_allBlank (beginsFilled_joinWithCommas areValues.begins) allOfThem)
    rw [allBlank_append, filled, Bool.false_and]
  rw [optionsOf, notBlank, areValues.valuesOf_eq blank]
  rfl

/-! ## What was read can be written -/

theorem isName_trim
    {before : List Char} (colonFree : ':' ∉ before) (filled : allBlank before = false) :
    IsName (trim before) := by
  have core := isCoreOf_trim before
  refine ⟨?_, ?_, core.begins, core.ends⟩
  · intro empty
    rw [trim_eq_nil_iff.mp empty] at filled
    cases filled
  · obtain ⟨_, _, leading, trailing, _, _, split⟩ := core
    intro member
    apply colonFree
    rw [split]
    exact List.mem_append_left trailing (List.mem_append_right leading member)

theorem areValues_valuesOf
    {after : List Char} (filled : allBlank after = false) :
    AreValues (valuesOf after) := by
  have core := isCoreOf_trim after
  have someCore : trim after ≠ [] := by
    intro empty
    rw [trim_eq_nil_iff.mp empty] at filled
    cases filled
  have joined := joinWithCommas_splitAtCommas (trim after)
  refine ⟨?_, ?_, comma_not_mem_of_mem_valuesOf after, ?_, ?_⟩
  · rw [valuesOf, Ne, List.map_eq_nil_iff]
    exact splitAtCommas_ne_nil (trim after)
  · intro singleEmpty
    obtain ⟨part, split, empty⟩ := List.map_eq_singleton_iff.mp singleEmpty
    rw [split, joinWithCommas] at joined
    rw [joined, trimStart_of_beginsFilled core.begins] at empty
    exact someCore empty
  · intro value member
    obtain ⟨part, _, rfl⟩ := List.mem_map.mp member
    exact beginsFilled_trimStart part
  · intro last isLast
    rw [valuesOf, List.getLast?_map, Option.mem_def, Option.map_eq_some_iff] at isLast
    obtain ⟨part, isLastPart, rfl⟩ := isLast
    have ends : EndsFilled part := by
      rw [← endsFilled_joinWithCommas_iff isLastPart, joined]
      exact core.ends
    exact endsFilled_of_suffix (List.dropWhile_suffix isBlank) ends

end Expression

namespace Descriptor

open Expression

/-- A written expression is read as it was written. -/
theorem ofText_render
    {name : List Char} {values : List (List Char)} {blanks : List Char}
    (isName : IsName name) (areValues : AreValues values) (blank : allBlank blanks = true)
    (message : Value) :
    ofText (String.ofList (render name values ++ blanks)) message =
      .ok ⟨.named (String.ofList name),
        ((joinWithCommas values ++ blanks) :: values).map String.ofList,
        String.ofList (render name values ++ blanks), message⟩ := by
  have cut :
      CutAtColon (String.ofList (render name values ++ blanks)).toList name
        (joinWithCommas values ++ blanks) := by
    have written := CutAtColon.cut isName.colonFree (joinWithCommas values ++ blanks)
    rw [String.toList_ofList, render, List.append_assoc, List.cons_append]
    exact written
  rw [ofText_of_cut cut, isName.not_allBlank, isName.trim_eq, areValues.optionsOf_eq blank]
  rfl

/-- What is read with options has a name and values that can be written. -/
theorem exists_name_and_values
    {text : String} {message : Value} {descriptor : Descriptor}
    (read : ofText text message = .ok descriptor) (someOptions : descriptor.options ≠ []) :
    ∃ name values,
      IsName name ∧ AreValues values ∧ descriptor.target = .named (String.ofList name) ∧
        descriptor.options.tail = values.map String.ofList := by
  have cut := cutAtColon_parts text.toList
  rw [ofText_of_cut cut] at read
  cases blank : allBlank (beforeColon text.toList) with
  | true =>
      rw [blank, if_pos rfl] at read
      cases read
  | false =>
      rw [blank, if_neg Bool.false_ne_true, Except.ok.injEq] at read
      subst read
      rcases optionsOf_cases (afterColon text.toList) with ⟨_, none⟩ | ⟨filled, some⟩
      · simp only [none, List.map_nil] at someOptions
        exact absurd rfl someOptions
      · refine ⟨_, _, isName_trim cut.colon_not_mem blank, areValues_valuesOf filled, rfl, ?_⟩
        simp only [some, List.map_cons, List.tail_cons]

/-- A name and values that can be written are read again from what was written, whatever blanks
follow. Every expression read with options has such a name and such values, and if it is written
again it is read with the same name and the same values. -/
theorem ofText_render_round_trip
    (message : Value) :
    (∀ name values blanks, IsName name → AreValues values → allBlank blanks = true →
        ∃ descriptor,
          ofText (String.ofList (render name values ++ blanks)) message = .ok descriptor ∧
            descriptor.target = .named (String.ofList name) ∧
            descriptor.options.tail = values.map String.ofList) ∧
      ∀ text descriptor, ofText text message = .ok descriptor → descriptor.options ≠ [] →
        ∃ name values,
          IsName name ∧ AreValues values ∧ descriptor.target = .named (String.ofList name) ∧
            descriptor.options.tail = values.map String.ofList ∧
            ∃ again,
              ofText (String.ofList (render name values)) message = .ok again ∧
                again.target = descriptor.target ∧
                again.options.tail = descriptor.options.tail := by
  constructor
  · intro name values blanks isName areValues blank
    exact ⟨_, ofText_render isName areValues blank message, rfl, rfl⟩
  · intro text descriptor read someOptions
    obtain ⟨name, values, isName, areValues, target, options⟩ :=
      exists_name_and_values read someOptions
    have noBlanks : allBlank [] = true := rfl
    have written := ofText_render isName areValues noBlanks message
    rw [List.append_nil] at written
    exact ⟨name, values, isName, areValues, target, options, _, written, target.symm,
      options.symm⟩

/-- Values with blanks at their ends, empty values and values with colons come back, and so does
what is read where there are blanks in every place. -/
theorem between_round_trip :
    (∃ descriptor,
        ofText "between:a ,,b:c\n " .null = .ok descriptor ∧
          descriptor.target = .named "between" ∧ descriptor.options.tail = ["a ", "", "b:c"]) ∧
      ofText " between\t: 5 , 10 " .null =
          .ok ⟨.named "between", [" 5 , 10 ", "5 ", "10"], " between\t: 5 , 10 ", .null⟩ ∧
        ∃ name values,
          IsName name ∧ AreValues values ∧
            Target.named "between" = .named (String.ofList name) ∧
            ["5 ", "10"] = values.map String.ofList ∧
            ∃ again,
              ofText (String.ofList (render name values)) .null = .ok again ∧
                again.target = .named "between" ∧ again.options.tail = ["5 ", "10"] := by
  obtain ⟨writtenIsRead, readIsWritten⟩ := ofText_render_round_trip .null
  have read :
      ofText " between\t: 5 , 10 " .null =
        .ok ⟨.named "between", [" 5 , 10 ", "5 ", "10"], " between\t: 5 , 10 ", .null⟩ := by
    rfl
  refine ⟨?_, read, readIsWritten _ _ read (List.cons_ne_nil _ _)⟩
  exact writtenIsRead "between".toList ["a ".toList, [], "b:c".toList] "\n ".toList
    ⟨by decide, by decide, by decide, by decide⟩
    ⟨by decide, by decide, by decide, by decide, by decide⟩ rfl

end Descriptor

end FormRules
