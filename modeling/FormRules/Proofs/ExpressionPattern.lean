import FormRules.Proofs.ExpressionParts
import FormRules.Proofs.MachineSteps
import Mathlib

/-!
# The pattern of expressions

Expressions have a pattern: at least one character that is no colon, perhaps a colon, and anything
behind it, up to the end. A search for this pattern fails exactly if nothing is before the first
colon, and otherwise its two groups are what is before the first colon and what is behind it. The
machine never has to go back: the first way that it tries leads to the end of the text.
-/

namespace FormRules

open FormRules.Pattern

namespace Expression

def patternText :
    String :=
  "^([^:]+):?(.*)$"

/-- In the pattern of expressions the point stands for line feeds, too. -/
def patternOptions :
    Options :=
  { Options.none with dotAll := true }

/-- What follows the name and the colon: anything up to the end. -/
def remainderProgram :
    Program :=
  .mark 2 (.run .greedy 0 none (.any true) (.mark 3 (.anchor .lastLineEnd .done)))

/-- What follows the name: a colon, perhaps, and anything up to the end. -/
def colonProgram :
    Program :=
  .mark 1 (.run .greedy 0 (some 1) (.letter 58 false .exact) remainderProgram)

def patternProgram :
    Program :=
  .anchor .textStart (.mark 0 (.run .greedy 1 none (.letter 58 true .exact) colonProgram))

def pattern :
    Compiled :=
  ⟨patternProgram, 2, .anywhere, 1⟩

theorem ofBody_patternText :
    Compiled.ofBody patternOptions patternText.toList = .ok pattern := by
  cbv

/-! ## Characters of an expression -/

theorem accepts_noColon
    (character : Char) :
    (CharacterTest.letter 58 true .exact).accepts character.toNat = (character != ':') := by
  have sameCode : (character.toNat == 58) = (character == ':') := toNat_beq_toNat character ':'
  simp only [CharacterTest.accepts, Folding.matchesLetter, sameCode, bne]
  cases character == ':' <;> rfl

theorem accepts_colon
    (character : Char) :
    (CharacterTest.letter 58 false .exact).accepts character.toNat = (character == ':') := by
  have sameCode : (character.toNat == 58) = (character == ':') := toNat_beq_toNat character ':'
  simp [CharacterTest.accepts, Folding.matchesLetter, sameCode]

end Expression

namespace CutAtColon

variable {text before after : List Char}

/-- As many characters as there are before the first colon are passed as the name. -/
theorem countFrom_noColon
    (cut : CutAtColon text before after) :
    (CharacterTest.letter 58 true .exact).countFrom (codesOf text) text.length 0 =
      before.length := by
  apply CharacterTest.countFrom_eq 0 _ cut.length_before_le
  · rcases cut.lengths with ⟨rfl, _⟩ | ⟨colon, _⟩
    · exact Or.inl rfl
    · right
      rw [CharacterTest.acceptsAt_codesOf, Nat.zero_add, colon, Option.any_some,
        Expression.accepts_noColon]
      rfl
  · intro index below
    have inText : text[index]? = before[index]? := by
      rw [← cut.take_and_drop.1, List.getElem?_take_of_lt below]
    have other : before[index] ≠ ':' := by
      intro same
      exact cut.colon_not_mem (same ▸ List.getElem_mem below)
    rw [CharacterTest.acceptsAt_codesOf, Nat.zero_add, inText,
      List.getElem?_eq_getElem below, Option.any_some, Expression.accepts_noColon]
    simpa using other

/-- The colon is passed if there is one. -/
theorem countFrom_colon
    (cut : CutAtColon text before after) :
    (CharacterTest.letter 58 false .exact).countFrom (codesOf text)
        (min 1 (text.length - before.length)) before.length =
      text.length - after.length - before.length := by
  rcases cut.lengths with ⟨rfl, rfl⟩ | ⟨colon, length⟩
  · simp [CharacterTest.countFrom, CharacterTest.endFrom]
  · have onlyColon : text.length - after.length - before.length = 1 := by omega
    have most : min 1 (text.length - before.length) = 1 := by omega
    rw [onlyColon, most]
    apply CharacterTest.countFrom_eq before.length _ (Nat.le_refl 1) (Or.inl rfl)
    intro index below
    obtain rfl : index = 0 := by omega
    rw [CharacterTest.acceptsAt_codesOf, Nat.add_zero, colon, Option.any_some,
      Expression.accepts_colon]
    rfl

end CutAtColon

namespace Expression

variable {text before after : List Char}

theorem countFrom_anything
    (text : List Char) {place : Nat} :
    (CharacterTest.any true).countFrom (codesOf text) (text.length - place) place =
      text.length - place := by
  apply CharacterTest.countFrom_eq place _ (Nat.le_refl _) (Or.inl rfl)
  intro index below
  have inside : place + index < text.length := by omega
  rw [CharacterTest.acceptsAt_codesOf, List.getElem?_eq_getElem inside]
  rfl

/-! ## The way to the end

The name, the colon and the remainder are passed one after the other. Each run leaves behind that it
can become shorter, and none of them has to. The marks are noted before and behind the groups.
-/

def nameMarks :
    Marks :=
  ⟨#[some 0, none, none, none], 1⟩

def waitingName
    (before : List Char) :
    Waiting :=
  .shorterRun ⟨1, none, .letter 58 true .exact, colonProgram⟩ 0 before.length [] nameMarks

def behindName
    (before : List Char) :
    Machine :=
  ⟨.attempt colonProgram before.length [], [waitingName before], before.length, nameMarks⟩

theorem steps_name
    (cut : CutAtColon text before after) (named : before ≠ []) :
    Machine.Steps (codesOf text) 3 ⟨.attempt patternProgram 0 [], [], 0, .ofGroups 2⟩
      (behindName before) := by
  have someName : 1 ≤ before.length := List.length_pos_iff.mpr named
  have inText : before.length ≤ text.length := cut.length_before_le
  have room : 0 + 1 ≤ (codesOf text).size := by
    rw [size_codesOf]
    omega
  have counted :
      (CharacterTest.letter 58 true .exact).countFrom (codesOf text)
          (min ((none : Option Nat).getD (codesOf text).size) ((codesOf text).size - 0)) 0 =
        before.length := by
    rw [size_codesOf, Option.getD_none, Nat.sub_zero, Nat.min_self]
    exact cut.countFrom_noColon
  exact .next rfl (.next rfl (.next
    (Machine.step_longRun room counted someName (Nat.zero_add _) rfl) (.none _)))

def colonMarks
    (before : List Char) :
    Marks :=
  ⟨#[some 0, some before.length, none, none], 2⟩

def waitingColon
    (text before after : List Char) :
    Waiting :=
  .shorterRun ⟨0, some 1, .letter 58 false .exact, remainderProgram⟩ before.length
    (text.length - after.length - before.length) [] (colonMarks before)

/-- Where there is no colon this is behind the name, too. -/
def behindColon
    (text before after : List Char) :
    Machine :=
  ⟨.attempt remainderProgram (text.length - after.length) [],
    [waitingColon text before after, waitingName before], text.length - after.length,
    colonMarks before⟩

/-- The colon is passed, if there is one. -/
theorem steps_colon
    (cut : CutAtColon text before after) :
    Machine.Steps (codesOf text) 2 (behindName before) (behindColon text before after) := by
  have inText : before.length ≤ text.length := cut.length_before_le
  have room : before.length + 0 ≤ (codesOf text).size := by
    rw [size_codesOf]
    exact inText
  have counted :
      (CharacterTest.letter 58 false .exact).countFrom (codesOf text)
          (min ((some 1).getD (codesOf text).size) ((codesOf text).size - before.length))
          before.length =
        text.length - after.length - before.length := by
    rw [size_codesOf, Option.getD_some]
    exact cut.countFrom_colon
  have arrived : before.length + (text.length - after.length - before.length) =
      text.length - after.length := by
    rcases cut.lengths with ⟨rfl, rfl⟩ | ⟨_, length⟩
    · simp
    · omega
  exact .next rfl (.next (Machine.step_longRun room counted (Nat.zero_le _) arrived rfl)
    (.none _))

def allMarks
    (text before after : List Char) :
    Marks :=
  ⟨#[some 0, some before.length, some (text.length - after.length), some text.length], 4⟩

def waitingRemainder
    (text before after : List Char) :
    Waiting :=
  .shorterRun ⟨0, none, .any true, .mark 3 (.anchor .lastLineEnd .done)⟩
    (text.length - after.length) (text.length - (text.length - after.length)) []
    ⟨#[some 0, some before.length, some (text.length - after.length), none], 3⟩

theorem steps_remainder
    (text before after : List Char) :
    Machine.Steps (codesOf text) 8 (behindColon text before after)
      ⟨.succeeded, [], text.length, allMarks text before after⟩ := by
  have room : text.length - after.length + 0 ≤ (codesOf text).size := by
    rw [size_codesOf]
    exact Nat.sub_le _ _
  have counted :
      (CharacterTest.any true).countFrom (codesOf text)
          (min ((none : Option Nat).getD (codesOf text).size)
            ((codesOf text).size - (text.length - after.length)))
          (text.length - after.length) =
        text.length - (text.length - after.length) := by
    rw [size_codesOf, Option.getD_none, Nat.min_eq_right (Nat.sub_le _ _)]
    exact countFrom_anything text
  have arrived : text.length - after.length + (text.length - (text.length - after.length)) =
      text.length := by
    omega
  have anchored :
      (Machine.mk (.attempt (.anchor .lastLineEnd .done) text.length [])
          [waitingRemainder text before after, waitingColon text before after,
            waitingName before] text.length (allMarks text before after)).step? (codesOf text) =
        some ⟨.attempt .done text.length [],
          [waitingRemainder text before after, waitingColon text before after,
            waitingName before], text.length, allMarks text before after⟩ := by
    have atEnd : Place.lastLineEnd.holdsAt (codesOf text) text.length = true := by
      simp [Place.holdsAt, size_codesOf]
    simp only [Machine.step?, Machine.attempt, if_pos atEnd, Machine.go]
  have passed :
      Machine.Steps (codesOf text) 5 (behindColon text before after)
        ⟨.succeeded, [waitingRemainder text before after, waitingColon text before after,
          waitingName before], text.length, allMarks text before after⟩ :=
    .next rfl (.next (Machine.step_longRun room counted (Nat.zero_le _) arrived rfl)
      (.next rfl (.next anchored (.next rfl (.none _)))))
  have onlyRuns :
      Machine.AwaitsOnlyFailure [waitingRemainder text before after,
        waitingColon text before after, waitingName before] := by
    simp [Machine.AwaitsOnlyFailure, waitingRemainder, waitingColon, waitingName]
  exact passed.trans (Machine.steps_of_succeeded onlyRuns text.length
    (allMarks text before after))

/-- The first way that the machine tries takes it to the end. -/
theorem machineAt_pattern
    (cut : CutAtColon text before after) (named : before ≠ []) :
    pattern.machineAt (codesOf text) 0 =
      ⟨.succeeded, [], text.length, allMarks text before after⟩ := by
  have steps :=
    ((steps_name cut named).trans (steps_colon cut)).trans (steps_remainder text before after)
  exact Machine.run_of_steps steps rfl (by decide)

/-- Where nothing is before the first colon no way leads anywhere. -/
theorem hasSucceeded_machineAt_of_nameless
    (cut : CutAtColon text [] after) (place : Nat) :
    (pattern.machineAt (codesOf text) place).hasSucceeded = false := by
  have failing : ∃ count left marks, count ≤ 3 ∧
      Machine.Steps (codesOf text) count
        ⟨.attempt patternProgram place [], [], place, .ofGroups 2⟩
        ⟨.failed, [], left, marks⟩ := by
    cases place with
    | zero =>
        have few :
            (CharacterTest.letter 58 true .exact).countFrom (codesOf text)
                (min ((none : Option Nat).getD (codesOf text).size) ((codesOf text).size - 0)) 0 <
              1 := by
          rw [size_codesOf, Option.getD_none, Nat.sub_zero, Nat.min_self, cut.countFrom_noColon]
          exact Nat.zero_lt_one
        obtain ⟨left, step⟩ :=
          Machine.step_longRun_of_few few colonProgram [] [] 0 nameMarks
        exact ⟨3, left, nameMarks, Nat.le_refl 3, .next rfl (.next rfl (.next step (.none _)))⟩
    | succ place =>
        exact ⟨1, place + 1, .ofGroups 2, by decide, .next rfl (.none _)⟩
  obtain ⟨count, left, marks, short, steps⟩ := failing
  have enough : count ≤ Machine.stepLimit := Nat.le_trans short (by decide)
  have ended : pattern.machineAt (codesOf text) place = ⟨.failed, [], left, marks⟩ :=
    Machine.run_of_steps steps rfl enough
  rw [ended]
  rfl

/-- The pattern of expressions can be read, and a search for it in the text captures the part before
the colon and the part behind it; it finds nothing if nothing is before the colon. -/
structure CapturesParts
    (text before after : List Char) :
    Prop where
  readable : Compiled.ofBody patternOptions patternText.toList = .ok pattern
  nothing : before = [] → pattern.search text = .ok none
  parts : before ≠ [] →
    ∃ found, pattern.search text = .ok (some found) ∧
      found.captured text 1 = some before ∧ found.captured text 2 = some after

/-- What the pattern of expressions captures are the parts before and behind the first colon. -/
theorem capturesParts
    (cut : CutAtColon text before after) :
    CapturesParts text before after := by
  refine ⟨ofBody_patternText, ?_, ?_⟩
  · rintro rfl
    exact Compiled.searchFrom_of_failing _ 0 fun later _ =>
      hasSucceeded_machineAt_of_nameless cut later
  · intro named
    have someName : 1 ≤ before.length := List.length_pos_iff.mpr named
    have inText : before.length ≤ text.length := cut.length_before_le
    have places : pattern.places (codesOf text) = text.length + 1 := by
      have notShort : ¬ text.length < 1 := by omega
      simp only [Compiled.places, size_codesOf, pattern, if_neg notShort, Nat.sub_self,
        Nat.sub_zero]
    have machine := machineAt_pattern cut named
    have succeeded : (pattern.machineAt (codesOf text) 0).hasSucceeded = true := by
      rw [machine]
      rfl
    have ordered : ¬ text.length < text.length - after.length :=
      Nat.not_lt.mpr (Nat.sub_le text.length after.length)
    have found :
        pattern.foundBy (pattern.machineAt (codesOf text) 0) 0 =
          .ok ⟨0, text.length, [some (0, before.length),
            some (text.length - after.length, text.length)]⟩ := by
      rw [machine]
      simp [Compiled.foundBy, pattern, allMarks, Marks.places?, List.range_succ, ordered]
    refine ⟨⟨0, text.length, [some (0, before.length),
      some (text.length - after.length, text.length)]⟩, ?_, ?_, ?_⟩
    · show pattern.searchFrom (codesOf text) (pattern.places (codesOf text)) 0 = _
      rw [places, Compiled.searchFrom_of_succeeded rfl succeeded, found]
      rfl
    · simp [Found.captured, cut.take_and_drop.1]
    · simp [Found.captured, cut.take_and_drop.2]

end Expression

end FormRules
