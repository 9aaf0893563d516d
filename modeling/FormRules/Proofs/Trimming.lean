import FormRules.Text.Blank

/-!
# Trimming

The core of a text is what is left without the blanks at its two ends: it neither begins nor ends
with a blank. Every text has exactly one core, and trimming finds it; the core is empty exactly if
the text consists of blanks.
-/

namespace FormRules.Text

def BeginsFilled
    (text : List Char) :
    Prop :=
  ∀ character ∈ text.head?, isBlank character = false

def EndsFilled
    (text : List Char) :
    Prop :=
  ∀ character ∈ text.getLast?, isBlank character = false

instance (text : List Char) :
    Decidable (BeginsFilled text) :=
  decidable_of_iff (text.head?.all (fun character => !isBlank character) = true) (by
    simp [BeginsFilled, Option.all_eq_true])

instance (text : List Char) :
    Decidable (EndsFilled text) :=
  decidable_of_iff (text.getLast?.all (fun character => !isBlank character) = true) (by
    simp [EndsFilled, Option.all_eq_true])

/-- What is left of a text without the blanks at its beginning. -/
structure IsTailOf
    (rest text : List Char) :
    Prop where
  begins : BeginsFilled rest
  behind : ∃ leading, allBlank leading = true ∧ text = leading ++ rest

/-- What is left of a text without the blanks at its two ends. -/
structure IsCoreOf
    (core text : List Char) :
    Prop where
  begins : BeginsFilled core
  ends : EndsFilled core
  between : ∃ leading trailing,
    allBlank leading = true ∧ allBlank trailing = true ∧ text = leading ++ core ++ trailing

theorem allBlank_iff
    {text : List Char} :
    allBlank text = true ↔ ∀ character ∈ text, isBlank character = true :=
  List.all_eq_true

theorem allBlank_append
    (first second : List Char) :
    allBlank (first ++ second) = (allBlank first && allBlank second) :=
  List.all_append

theorem allBlank_reverse
    (text : List Char) :
    allBlank text.reverse = allBlank text :=
  List.all_reverse

theorem beginsFilled_reverse_iff
    {text : List Char} :
    BeginsFilled text.reverse ↔ EndsFilled text := by
  rw [BeginsFilled, EndsFilled, List.head?_reverse]

/-- A text that does not begin with a blank is empty or not all blank. -/
theorem eq_nil_of_allBlank
    {text : List Char} (begins : BeginsFilled text) (blank : allBlank text = true) :
    text = [] := by
  cases text with
  | nil => rfl
  | cons first rest =>
      have filled : isBlank first = false := begins first rfl
      have alsoBlank : isBlank first = true := allBlank_iff.mp blank first List.mem_cons_self
      rw [filled] at alsoBlank
      cases alsoBlank

theorem beginsFilled_nil :
    BeginsFilled [] := by
  intro character none
  cases none

theorem beginsFilled_append
    {first second : List Char} (begins : BeginsFilled (first ++ second)) :
    BeginsFilled first := by
  cases first with
  | nil => exact beginsFilled_nil
  | cons character rest => exact begins

theorem endsFilled_of_suffix
    {text ending : List Char} (suffix : ending <:+ text) (ends : EndsFilled text) :
    EndsFilled ending := by
  obtain ⟨before, rfl⟩ := suffix
  rw [← beginsFilled_reverse_iff, List.reverse_append] at ends
  exact beginsFilled_reverse_iff.mp (beginsFilled_append ends)

/-! ## Blanks at the beginning -/

theorem trimStart_append_of_allBlank
    {leading : List Char} (blank : allBlank leading = true) (rest : List Char) :
    trimStart (leading ++ rest) = trimStart rest :=
  List.dropWhile_append_of_pos (allBlank_iff.mp blank)

theorem trimStart_of_beginsFilled
    {text : List Char} (begins : BeginsFilled text) :
    trimStart text = text := by
  cases text with
  | nil => rfl
  | cons first rest =>
      have filled : isBlank first = false := begins first rfl
      rw [trimStart, List.dropWhile_cons_of_neg]
      simp [filled]

theorem beginsFilled_trimStart
    (text : List Char) :
    BeginsFilled (trimStart text) := by
  intro character first
  have stopped := List.head?_dropWhile_not isBlank text
  rw [trimStart, Option.mem_def] at first
  rw [first] at stopped
  simpa using stopped

theorem isTailOf_trimStart
    (text : List Char) :
    IsTailOf (trimStart text) text := by
  refine ⟨beginsFilled_trimStart text, text.takeWhile isBlank, ?_, ?_⟩
  · exact List.all_takeWhile
  · exact List.takeWhile_append_dropWhile.symm

theorem isTailOf_iff
    {rest text : List Char} :
    IsTailOf rest text ↔ rest = trimStart text := by
  constructor
  · rintro ⟨begins, leading, blank, rfl⟩
    rw [trimStart_append_of_allBlank blank, trimStart_of_beginsFilled begins]
  · rintro rfl
    exact isTailOf_trimStart text

theorem trimStart_eq_nil_iff
    {text : List Char} :
    trimStart text = [] ↔ allBlank text = true := by
  constructor
  · intro empty
    obtain ⟨_, leading, blank, split⟩ := isTailOf_trimStart text
    rw [empty, List.append_nil] at split
    rw [split]
    exact blank
  · intro blank
    have dropped := trimStart_append_of_allBlank blank []
    rw [List.append_nil] at dropped
    exact dropped

/-! ## Blanks at both ends -/

theorem trimEnd_append_of_allBlank
    {core trailing : List Char} (ends : EndsFilled core) (blank : allBlank trailing = true) :
    trimEnd (core ++ trailing) = core := by
  have blankReversed : allBlank trailing.reverse = true := by
    rw [allBlank_reverse]
    exact blank
  have begins : BeginsFilled core.reverse := beginsFilled_reverse_iff.mpr ends
  rw [trimEnd, List.reverse_append, trimStart_append_of_allBlank blankReversed,
    trimStart_of_beginsFilled begins, List.reverse_reverse]

theorem isCoreOf_trim
    (text : List Char) :
    IsCoreOf (trim text) text := by
  obtain ⟨begins, leading, leadingBlank, split⟩ := isTailOf_trimStart text
  obtain ⟨ends, trailing, trailingBlank, splitAgain⟩ :=
    isTailOf_trimStart (trimStart text).reverse
  have reversed : trimStart text = trim text ++ trailing.reverse := by
    rw [trim, trimEnd, ← List.reverse_append, ← splitAgain, List.reverse_reverse]
  refine ⟨?_, ?_, leading, trailing.reverse, leadingBlank, ?_, ?_⟩
  · rw [reversed] at begins
    exact beginsFilled_append begins
  · rw [trim, trimEnd, ← beginsFilled_reverse_iff, List.reverse_reverse]
    exact ends
  · rw [allBlank_reverse]
    exact trailingBlank
  · rw [List.append_assoc, ← reversed]
    exact split

theorem isCoreOf_iff
    {core text : List Char} :
    IsCoreOf core text ↔ core = trim text := by
  constructor
  · rintro ⟨begins, ends, leading, trailing, leadingBlank, trailingBlank, rfl⟩
    rw [List.append_assoc, trim, trimStart_append_of_allBlank leadingBlank]
    cases core with
    | nil =>
        have nothing : trimStart trailing = [] := trimStart_eq_nil_iff.mpr trailingBlank
        rw [List.nil_append, nothing]
        rfl
    | cons first rest =>
        have beginsToo : BeginsFilled (first :: rest ++ trailing) := begins
        rw [trimStart_of_beginsFilled beginsToo, trimEnd_append_of_allBlank ends trailingBlank]
  · rintro rfl
    exact isCoreOf_trim text

theorem trim_eq_nil_iff
    {text : List Char} :
    trim text = [] ↔ allBlank text = true := by
  obtain ⟨_, _, leading, trailing, leadingBlank, trailingBlank, split⟩ := isCoreOf_trim text
  constructor
  · intro empty
    rw [split, empty, List.append_nil, allBlank_append, leadingBlank, trailingBlank]
    rfl
  · intro blank
    have nothing : trimStart text = [] := trimStart_eq_nil_iff.mpr blank
    rw [trim, nothing]
    rfl

theorem length_trim_le
    (text : List Char) :
    (trim text).length ≤ text.length := by
  obtain ⟨_, _, leading, trailing, _, _, split⟩ := isCoreOf_trim text
  have lengths := congrArg List.length split
  simp only [List.length_append] at lengths
  omega

/-- A text with blanks at neither end is its own core. -/
theorem trim_eq_self_iff
    {text : List Char} :
    trim text = text ↔ BeginsFilled text ∧ EndsFilled text := by
  constructor
  · intro same
    have core := isCoreOf_trim text
    rw [same] at core
    exact ⟨core.begins, core.ends⟩
  · rintro ⟨begins, ends⟩
    have core : IsCoreOf text text := ⟨begins, ends, [], [], rfl, rfl, by simp⟩
    exact (isCoreOf_iff.mp core).symm

end FormRules.Text
