import FormRules.Rule.Expression
import Mathlib.Data.List.TakeWhile

/-!
# The parts of an expression

An expression is cut at its first colon, and what is behind the colon is cut at every comma. Each
way of cutting is determined by its parts: none of them has the character at which was cut, and put
together again with this character between them they are the text.
-/

namespace FormRules

/-- A text, what is before its first colon and what is behind it. A text without a colon has nothing
behind it. -/
inductive CutAtColon :
    (text before after : List Char) → Prop
  | uncut {text : List Char} (colonFree : ':' ∉ text) : CutAtColon text text []
  | cut {before : List Char} (colonFree : ':' ∉ before) (after : List Char) :
      CutAtColon (before ++ ':' :: after) before after

/-- A text and its parts between the commas. -/
structure CutAtCommas
    (text : List Char) (parts : List (List Char)) :
    Prop where
  someParts : parts ≠ []
  commaFree : ∀ part ∈ parts, ',' ∉ part
  joined : joinWithCommas parts = text

namespace CutAtColon

variable {text before after : List Char}

theorem colon_not_mem
    (cut : CutAtColon text before after) :
    ':' ∉ before := by
  cases cut with
  | uncut colonFree => exact colonFree
  | cut colonFree => exact colonFree

/-- The part behind the colon begins one place behind the part before it, or at the end. -/
theorem lengths
    (cut : CutAtColon text before after) :
    (before = text ∧ after = []) ∨
      (text[before.length]? = some ':' ∧ text.length = before.length + 1 + after.length) := by
  cases cut with
  | uncut => exact Or.inl ⟨rfl, rfl⟩
  | cut =>
      refine Or.inr ⟨?_, ?_⟩
      · simp
      · simp only [List.length_append, List.length_cons]
        omega

theorem length_before_le
    (cut : CutAtColon text before after) :
    before.length ≤ text.length := by
  rcases cut.lengths with ⟨rfl, _⟩ | ⟨_, length⟩
  · exact Nat.le_refl before.length
  · omega

/-- The two parts, in their places in the text. -/
theorem take_and_drop
    (cut : CutAtColon text before after) :
    text.take before.length = before ∧ text.drop (text.length - after.length) = after := by
  cases cut with
  | uncut => simp
  | cut colonFree after =>
      refine ⟨by simp, ?_⟩
      have whole : before ++ ':' :: after = (before ++ [':']) ++ after := by simp
      have split : (before ++ ':' :: after).length - after.length =
          (before ++ [':']).length := by
        simp only [List.length_append, List.length_cons, List.length_nil]
        omega
      rw [split, whole, List.drop_left]

end CutAtColon

namespace Expression

/-- Reading cuts at the first colon. -/
theorem cutAtColon_iff
    {text before after : List Char} :
    CutAtColon text before after ↔ before = beforeColon text ∧ after = afterColon text := by
  constructor
  · intro cut
    cases cut with
    | uncut colonFree =>
        have allOther : ∀ character ∈ text, (character != ':') = true := by
          intro character member
          simpa using fun (same : character = ':') => colonFree (same ▸ member)
        constructor
        · exact (List.takeWhile_eq_self_iff.mpr allOther).symm
        · have nothing : text.dropWhile (· != ':') = [] := List.dropWhile_eq_nil_iff.mpr allOther
          rw [afterColon, nothing]
          rfl
    | cut colonFree after =>
        have allOther : ∀ character ∈ before, (character != ':') = true := by
          intro character member
          simpa using fun (same : character = ':') => colonFree (same ▸ member)
        constructor
        · rw [beforeColon, List.takeWhile_append_of_pos allOther]
          simp
        · rw [afterColon, List.dropWhile_append_of_pos allOther]
          simp
  · rintro ⟨rfl, rfl⟩
    have colonFree : ':' ∉ beforeColon text := by
      intro member
      have other := List.all_eq_true.mp List.all_takeWhile ':' member
      simp at other
    have together : beforeColon text ++ text.dropWhile (· != ':') = text :=
      List.takeWhile_append_dropWhile
    have stopped := List.head?_dropWhile_not (· != ':') text
    cases rest : text.dropWhile (· != ':') with
    | nil =>
        have uncut : beforeColon text = text := by
          rw [rest, List.append_nil] at together
          exact together
        rw [afterColon, rest, uncut]
        rw [uncut] at colonFree
        exact .uncut colonFree
    | cons colon after =>
        obtain rfl : colon = ':' := by simpa [rest] using stopped
        have cut := CutAtColon.cut colonFree after
        rw [← rest, together] at cut
        rw [afterColon, rest]
        exact cut

theorem cutAtColon_parts
    (text : List Char) :
    CutAtColon text (beforeColon text) (afterColon text) :=
  cutAtColon_iff.mpr ⟨rfl, rfl⟩

end Expression

/-! ## Parts between commas -/

theorem splitAtCommas_cons_comma
    (rest : List Char) :
    splitAtCommas (',' :: rest) = [] :: splitAtCommas rest := by
  rw [splitAtCommas, if_pos rfl]

/-- A character that is no comma belongs to the first part. -/
theorem splitAtCommas_cons_of_ne
    {character : Char} {rest part : List Char} {parts : List (List Char)}
    (other : character ≠ ',') (split : splitAtCommas rest = part :: parts) :
    splitAtCommas (character :: rest) = (character :: part) :: parts := by
  rw [splitAtCommas, if_neg other, split]

theorem comma_not_mem_of_mem_splitAtCommas
    (text : List Char) :
    ∀ part ∈ splitAtCommas text, ',' ∉ part := by
  induction text with
  | nil => simp [splitAtCommas]
  | cons character rest inductionHypothesis =>
      by_cases isComma : character = ','
      · rw [isComma, splitAtCommas_cons_comma, List.forall_mem_cons]
        exact ⟨List.not_mem_nil, inductionHypothesis⟩
      · obtain ⟨part, parts, split⟩ := List.exists_cons_of_ne_nil (splitAtCommas_ne_nil rest)
        rw [split, List.forall_mem_cons] at inductionHypothesis
        rw [splitAtCommas_cons_of_ne isComma split, List.forall_mem_cons]
        refine ⟨?_, inductionHypothesis.2⟩
        rw [List.mem_cons, not_or]
        exact ⟨fun same => isComma same.symm, inductionHypothesis.1⟩

/-- There is one part more than there are commas. -/
theorem length_splitAtCommas
    (text : List Char) :
    (splitAtCommas text).length = text.count ',' + 1 := by
  induction text with
  | nil => rfl
  | cons character rest inductionHypothesis =>
      by_cases isComma : character = ','
      · rw [isComma, splitAtCommas_cons_comma, List.length_cons, inductionHypothesis,
          List.count_cons_self]
      · obtain ⟨part, parts, split⟩ := List.exists_cons_of_ne_nil (splitAtCommas_ne_nil rest)
        rw [split] at inductionHypothesis
        rw [splitAtCommas_cons_of_ne isComma split, List.count_cons_of_ne isComma]
        exact inductionHypothesis

theorem splitAtCommas_of_not_mem
    {text : List Char} (commaFree : ',' ∉ text) :
    splitAtCommas text = [text] := by
  induction text with
  | nil => rfl
  | cons character rest inductionHypothesis =>
      rw [List.mem_cons, not_or] at commaFree
      obtain ⟨other, restFree⟩ := commaFree
      exact splitAtCommas_cons_of_ne (Ne.symm other) (inductionHypothesis restFree)

theorem splitAtCommas_append_comma
    {part : List Char} (commaFree : ',' ∉ part) (rest : List Char) :
    splitAtCommas (part ++ ',' :: rest) = part :: splitAtCommas rest := by
  induction part with
  | nil => exact splitAtCommas_cons_comma rest
  | cons character others inductionHypothesis =>
      rw [List.mem_cons, not_or] at commaFree
      obtain ⟨other, othersFree⟩ := commaFree
      exact splitAtCommas_cons_of_ne (Ne.symm other) (inductionHypothesis othersFree)

/-- Parts without commas are found again in the text that they are joined to. -/
theorem splitAtCommas_joinWithCommas
    {parts : List (List Char)} (someParts : parts ≠ [])
    (commaFree : ∀ part ∈ parts, ',' ∉ part) :
    splitAtCommas (joinWithCommas parts) = parts := by
  induction parts with
  | nil => exact absurd rfl someParts
  | cons part others inductionHypothesis =>
      rw [List.forall_mem_cons] at commaFree
      obtain ⟨partFree, othersFree⟩ := commaFree
      cases others with
      | nil => exact splitAtCommas_of_not_mem partFree
      | cons next more =>
          have again := inductionHypothesis (List.cons_ne_nil next more) othersFree
          rw [joinWithCommas, splitAtCommas_append_comma partFree, again]

theorem prefix_joinWithCommas
    (part : List Char) (others : List (List Char)) :
    part <+: joinWithCommas (part :: others) := by
  cases others with
  | nil => exact List.prefix_refl part
  | cons next more => exact List.prefix_append part _

/-- Splitting cuts at the commas. -/
theorem cutAtCommas_iff
    {text : List Char} {parts : List (List Char)} :
    CutAtCommas text parts ↔ parts = splitAtCommas text := by
  constructor
  · rintro ⟨someParts, commaFree, rfl⟩
    exact (splitAtCommas_joinWithCommas someParts commaFree).symm
  · rintro rfl
    exact ⟨splitAtCommas_ne_nil text, comma_not_mem_of_mem_splitAtCommas text,
      joinWithCommas_splitAtCommas text⟩

end FormRules
