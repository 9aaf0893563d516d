import FormRules.Proofs.LowerCase
import FormRules.Proofs.Resolution

/-!
# Names of built-in rules

Names are compared in lower case and without what separates words. Lower case knows the letters of
all scripts, and yet a name stands for a built-in rule only if it is written with ASCII letters:
what becomes an ASCII letter without being one is no letter of the name of a built-in rule, or it
leaves a mark behind. So it does not matter for the search how words are separated and which
letters are capitals.
-/

namespace FormRules

open FormRules.Text
open Builtin

/-! ## Folding -/

theorem separatesWords_iff
    {character : Char} :
    separatesWords character = true ↔
      isBlank character = true ∨ character = '_' ∨ character = '-' := by
  simp [separatesWords, or_assoc]

/-- Nothing becomes a separator that is none already. -/
theorem separatesWords_of_lowersTo
    {character lowered : Char} (lowers : LowersTo character lowered)
    (separates : separatesWords lowered = true) :
    separatesWords character = true := by
  have same : lowered = character := by
    rcases separatesWords_iff.mp separates with blank | rfl | rfl
    · exact eq_of_lowersTo_of_isBlank lowers blank
    · exact eq_of_lowersTo_of_lt lowers (by decide)
    · exact eq_of_lowersTo_of_lt lowers (by decide)
  rwa [same] at separates

def withoutSeparators
    (text : List Char) :
    List Char :=
  text.filter fun character => !separatesWords character

theorem mem_withoutSeparators
    {text : List Char} {character : Char} :
    character ∈ withoutSeparators text ↔
      character ∈ text ∧ separatesWords character = false := by
  rw [withoutSeparators, List.mem_filter, Bool.not_eq_true']

theorem foldName_eq
    (text : List Char) :
    foldName text = lowerText (withoutSeparators text) :=
  rfl

/-- A folded name is the same when it is folded again. -/
theorem foldName_foldName
    (text : List Char) :
    foldName (foldName text) = foldName text := by
  have noSeparator : withoutSeparators (foldName text) = foldName text := by
    rw [withoutSeparators, List.filter_eq_self]
    intro lowered member
    obtain ⟨character, inName, lowers⟩ := lowersTo_of_mem_lowerAfter member
    have noneBefore := (mem_withoutSeparators.mp inName).2
    rw [Bool.not_eq_true', ← Bool.not_eq_true]
    intro separates
    rw [separatesWords_of_lowersTo lowers separates] at noneBefore
    cases noneBefore
  rw [foldName_eq (foldName text), noSeparator, foldName_eq text]
  exact lowerText_lowerText _

/-! ## Names -/

theorem isLetter_iff
    {character : Char} :
    isLetter character = true ↔
      (97 ≤ character.toNat ∧ character.toNat ≤ 122) ∨
        (65 ≤ character.toNat ∧ character.toNat ≤ 90) := by
  rw [isLetter, Bool.or_eq_true, Bool.and_eq_true, Bool.and_eq_true, decide_eq_true_eq,
    decide_eq_true_eq, decide_eq_true_eq, decide_eq_true_eq]
  rfl

/-- The names of the built-in rules are written with small letters, and without the one that is also
the lower case of a sign. -/
theorem letters_of_name
    {rule : Builtin} :
    ∀ letter ∈ rule.name.toList, 97 ≤ letter.toNat ∧ letter.toNat ≤ 122 ∧ letter ≠ 'k' := by
  have small : rule.name.toList.all
      (fun letter => 97 ≤ letter.toNat && letter.toNat ≤ 122 && letter != 'k') = true := by
    cases rule <;> rfl
  intro letter member
  have isSmall := List.all_eq_true.mp small letter member
  simpa [and_assoc] using isSmall

/-- What is in lower case like the name of a built-in rule is ASCII. -/
theorem ascii_of_lowerAfter
    {before text : List Char}
    (letters : ∀ letter ∈ lowerAfter before text, letter.toNat ≤ 122 ∧ letter ≠ 'k') :
    ∀ character ∈ text, character.toNat < 128 := by
  induction text generalizing before with
  | nil => simp
  | cons character after inductionHypothesis =>
      rw [lowerAfter, List.forall_mem_append] at letters
      rw [List.forall_mem_cons]
      refine ⟨?_, inductionHypothesis letters.2⟩
      by_contra beyond
      obtain ⟨lowered, member, isBeyond⟩ := exists_beyond_of_beyond (Nat.le_of_not_lt beyond)
      have letter := letters.1 lowered member
      rcases isBeyond with isBeyond | isKelvin
      · omega
      · exact letter.2 isKelvin

/-- A name is written with letters that are those of the rule, whatever their case. -/
structure IsWrittenLike
    (rule : Builtin) (text : List Char) :
    Prop where
  letters : ∀ character ∈ text, separatesWords character = false → isLetter character = true
  spelling : (withoutSeparators text).map Char.toLower = rule.name.toList

/-- A name stands for the rule that it is written like. -/
theorem isNamed_iff
    {rule : Builtin} {name : String} :
    rule.IsNamed name ↔ IsWrittenLike rule name.toList := by
  have folded : rule.IsNamed name ↔
      lowerText (withoutSeparators name.toList) = rule.name.toList := by
    rw [IsNamed, foldName_eq, ← String.toList_inj, String.toList_ofList]
  rw [folded]
  constructor
  · intro lowered
    have ascii : ∀ character ∈ withoutSeparators name.toList, character.toNat < 128 := by
      apply ascii_of_lowerAfter
      intro letter member
      have inName : letter ∈ rule.name.toList := by
        rwa [← lowered]
      exact (letters_of_name letter inName).2
    have spelling : (withoutSeparators name.toList).map Char.toLower = rule.name.toList := by
      rw [← lowered]
      exact (lowerAfter_of_ascii ascii).symm
    refine ⟨fun character member noSeparator => ?_, spelling⟩
    have inName : character.toLower ∈ rule.name.toList := by
      rw [← spelling]
      exact List.mem_map_of_mem (mem_withoutSeparators.mpr ⟨member, noSeparator⟩)
    have letter := letters_of_name _ inName
    have moved := toNat_toLower character
    rw [isLetter_iff]
    split at moved <;> omega
  · rintro ⟨letters, spelling⟩
    have ascii : ∀ character ∈ withoutSeparators name.toList, character.toNat < 128 := by
      intro character member
      obtain ⟨inName, noSeparator⟩ := mem_withoutSeparators.mp member
      have letter := isLetter_iff.mp (letters character inName noSeparator)
      omega
    rw [← spelling]
    exact lowerAfter_of_ascii ascii

/-! ## Respelling -/

/-- The one name is the other with separators put in or left out and ASCII letters in another
case. -/
inductive IsRespelled :
    List Char → List Char → Prop
  | nil : IsRespelled [] []
  | cons {character other : Char} {text respelled : List Char}
      (same : character.toLower = other.toLower) (later : IsRespelled text respelled) :
      IsRespelled (character :: text) (other :: respelled)
  | leftOut {separator : Char} {text respelled : List Char}
      (separates : separatesWords separator = true) (later : IsRespelled text respelled) :
      IsRespelled (separator :: text) respelled
  | putIn {separator : Char} {text respelled : List Char}
      (separates : separatesWords separator = true) (later : IsRespelled text respelled) :
      IsRespelled text (separator :: respelled)

theorem IsRespelled.symm
    {text respelled : List Char} (isRespelled : IsRespelled text respelled) :
    IsRespelled respelled text := by
  induction isRespelled with
  | nil => exact .nil
  | cons same later inductionHypothesis => exact .cons same.symm inductionHypothesis
  | leftOut separates later inductionHypothesis => exact .putIn separates inductionHypothesis
  | putIn separates later inductionHypothesis => exact .leftOut separates inductionHypothesis

/-- Characters of the same lower case are the same, or both are letters. -/
theorem eq_or_letters_of_toLower_eq
    {character other : Char} (same : character.toLower = other.toLower) :
    character = other ∨ isLetter character = true ∧ isLetter other = true := by
  have moved := toNat_toLower character
  have otherMoved := toNat_toLower other
  rw [same] at moved
  rw [← Char.toNat_inj, isLetter_iff, isLetter_iff]
  split at moved <;> split at otherMoved <;> omega

theorem separatesWords_of_isLetter
    {character : Char} (letter : isLetter character = true) :
    separatesWords character = false := by
  have span := isLetter_iff.mp letter
  rw [← Bool.not_eq_true, separatesWords_iff]
  rintro (blank | rfl | rfl)
  · simp only [isBlank, Bool.or_eq_true, Bool.and_eq_true, decide_eq_true_eq, beq_iff_eq] at blank
    omega
  · revert letter
    decide
  · revert letter
    decide

theorem IsRespelled.spelling_eq
    {text respelled : List Char} (isRespelled : IsRespelled text respelled) :
    (withoutSeparators respelled).map Char.toLower = (withoutSeparators text).map Char.toLower := by
  induction isRespelled with
  | nil => rfl
  | @cons character other text respelled sameCase later inductionHypothesis =>
      have separators : separatesWords other = separatesWords character := by
        rcases eq_or_letters_of_toLower_eq sameCase with rfl | ⟨letter, otherLetter⟩
        · rfl
        · rw [separatesWords_of_isLetter letter, separatesWords_of_isLetter otherLetter]
      unfold withoutSeparators at *
      rw [List.filter_cons, List.filter_cons, separators]
      split
      · rw [List.map_cons, List.map_cons, sameCase, inductionHypothesis]
      · exact inductionHypothesis
  | leftOut separates later inductionHypothesis =>
      simpa [withoutSeparators, separates] using inductionHypothesis
  | putIn separates later inductionHypothesis =>
      simpa [withoutSeparators, separates] using inductionHypothesis

theorem IsRespelled.letters
    {text respelled : List Char} (isRespelled : IsRespelled text respelled)
    (letters : ∀ character ∈ text, separatesWords character = false →
      isLetter character = true) :
    ∀ character ∈ respelled, separatesWords character = false → isLetter character = true := by
  induction isRespelled with
  | nil => exact letters
  | cons sameCase later inductionHypothesis =>
      rw [List.forall_mem_cons] at letters ⊢
      refine ⟨?_, inductionHypothesis letters.2⟩
      rcases eq_or_letters_of_toLower_eq sameCase with rfl | ⟨-, otherLetter⟩
      · exact letters.1
      · exact fun _ => otherLetter
  | leftOut separates later inductionHypothesis =>
      rw [List.forall_mem_cons] at letters
      exact inductionHypothesis letters.2
  | putIn separates later inductionHypothesis =>
      rw [List.forall_mem_cons]
      refine ⟨fun noSeparator => ?_, inductionHypothesis letters⟩
      rw [separates] at noSeparator
      cases noSeparator

/-- A respelled name is written like the same rule. -/
theorem IsWrittenLike.respelled
    {rule : Builtin} {text respelled : List Char} (isRespelled : IsRespelled text respelled)
    (written : IsWrittenLike rule text) :
    IsWrittenLike rule respelled :=
  ⟨isRespelled.letters written.letters, isRespelled.spelling_eq.trans written.spelling⟩

/-- A built-in rule is found exactly under the names that are written like it: with ASCII letters
between separators, in whatever case. So a respelled name stands for the same, a name with anything
else in it that is not ASCII and no blank stands for none, and a folded name is the same when it is
folded again. -/
theorem builtins_found_by_letters
    (name : String) :
    (∀ rule : Builtin, find? name = some rule ↔
        (∀ character ∈ name.toList, separatesWords character = false →
            isLetter character = true) ∧
          (name.toList.filter fun character => !separatesWords character).map Char.toLower =
            rule.name.toList) ∧
      (∀ other : String, IsRespelled name.toList other.toList → find? other = find? name) ∧
      (∀ character ∈ name.toList, 128 ≤ character.toNat → isBlank character = false →
        find? name = none) ∧
      foldName (foldName name.toList) = foldName name.toList := by
  refine ⟨fun rule => ?_, fun other isRespelled => ?_, fun character member beyond filled => ?_,
    foldName_foldName name.toList⟩
  · rw [find?_eq_some_iff, isNamed_iff]
    exact ⟨fun written => ⟨written.letters, written.spelling⟩,
      fun ⟨letters, spelling⟩ => ⟨letters, spelling⟩⟩
  · apply Option.ext
    intro rule
    rw [find?_eq_some_iff, find?_eq_some_iff, isNamed_iff, isNamed_iff]
    exact ⟨IsWrittenLike.respelled isRespelled.symm, IsWrittenLike.respelled isRespelled⟩
  · rw [find?_eq_none_iff]
    intro rule named
    have noSeparator : separatesWords character = false := by
      rw [← Bool.not_eq_true, separatesWords_iff]
      rintro (blank | rfl | rfl)
      · rw [filled] at blank
        cases blank
      · exact absurd beyond (by decide)
      · exact absurd beyond (by decide)
    have letter := isLetter_iff.mp ((isNamed_iff.mp named).letters character member noSeparator)
    omega

end FormRules
