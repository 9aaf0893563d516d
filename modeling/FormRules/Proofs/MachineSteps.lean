import FormRules.Pattern.Compiled

/-!
# Following a machine

A machine is followed by counted steps. Where the steps come to a machine that has no more to do,
every run with at least so many steps ends there. Beside the steps stand what a long run of
characters does, and what a search finds when every machine but the first fails.
-/

namespace FormRules.Pattern

/-- The code points of a text, as machines see them. -/
def codesOf
    (text : List Char) :
    Array Nat :=
  (text.map Char.toNat).toArray

theorem size_codesOf
    (text : List Char) :
    (codesOf text).size = text.length := by
  simp [codesOf]

theorem getElem?_codesOf
    (text : List Char) (place : Nat) :
    (codesOf text)[place]? = text[place]?.map Char.toNat := by
  simp [codesOf]

/-- Characters are compared by their code points. -/
theorem toNat_beq_toNat
    (character other : Char) :
    (character.toNat == other.toNat) = (character == other) := by
  rw [Bool.eq_iff_iff, beq_iff_eq, beq_iff_eq]
  exact Char.toNat_inj

/-! ## Runs of characters -/

namespace CharacterTest

theorem acceptsAt_eq
    (test : CharacterTest) (text : Array Nat) (place : Nat) :
    test.acceptsAt text place = (text[place]?).any test.accepts := by
  unfold acceptsAt
  by_cases inside : place < text.size
  · rw [dif_pos inside, Array.getElem?_eq_getElem inside]
    rfl
  · rw [dif_neg inside, Array.getElem?_eq_none (Nat.not_lt.mp inside)]
    rfl

theorem acceptsAt_codesOf
    (test : CharacterTest) (text : List Char) (place : Nat) :
    test.acceptsAt (codesOf text) place =
      (text[place]?).any fun character => test.accepts character.toNat := by
  rw [acceptsAt_eq, getElem?_codesOf]
  cases text[place]? <;> rfl

/-- A run ends after the characters that pass the test: at the most that are allowed, or before one
that does not pass. -/
theorem endFrom_eq
    {test : CharacterTest} {text : Array Nat} {most count : Nat} (place : Nat)
    (passing : ∀ index < count, test.acceptsAt text (place + index) = true)
    (within : count ≤ most)
    (stops : count = most ∨ test.acceptsAt text (place + count) = false) :
    test.endFrom text most place = place + count := by
  induction count generalizing most place with
  | zero =>
      rcases stops with rfl | refused
      · rfl
      · rw [Nat.add_zero] at refused
        cases most with
        | zero => rfl
        | succ most =>
            rw [endFrom, refused]
            rfl
  | succ count inductionHypothesis =>
      obtain ⟨fewer, rfl⟩ : ∃ fewer, most = fewer + 1 := ⟨most - 1, by omega⟩
      have first : test.acceptsAt text place = true := passing 0 (Nat.succ_pos count)
      have shift : ∀ index, place + 1 + index = place + (index + 1) := by omega
      rw [endFrom, if_pos first, inductionHypothesis (place + 1)]
      · exact shift count
      · intro index below
        rw [shift]
        exact passing (index + 1) (by omega)
      · omega
      · rw [shift]
        rcases stops with same | refused
        · exact Or.inl (by omega)
        · exact Or.inr refused

theorem countFrom_eq
    {test : CharacterTest} {text : Array Nat} {most count : Nat} (place : Nat)
    (passing : ∀ index < count, test.acceptsAt text (place + index) = true)
    (within : count ≤ most)
    (stops : count = most ∨ test.acceptsAt text (place + count) = false) :
    test.countFrom text most place = count := by
  rw [countFrom, endFrom_eq place passing within stops, Nat.add_sub_cancel_left]

end CharacterTest

namespace Machine

variable {text : Array Nat}

/-- A run as long as possible, where what follows may begin with any character: the run takes all
it can, and waits to become shorter. -/
theorem step_longRun
    {least : Nat} {greatest : Option Nat} {test : CharacterTest} {next : Program}
    {place count stop left : Nat} {around : List Repetition} {pile : List Waiting} {marks : Marks}
    (room : place + least ≤ text.size)
    (counted :
      test.countFrom text (min (greatest.getD text.size) (text.size - place)) place = count)
    (enough : least ≤ count) (arrived : place + count = stop)
    (free : next.exactLetter? = none) :
    (Machine.mk (.attempt (.run .greedy least greatest test next) place around) pile left
        marks).step? text =
      some ⟨.attempt next stop around,
        .shorterRun ⟨least, greatest, test, next⟩ place count around marks :: pile, stop,
        marks⟩ := by
  have notShort : ¬ text.size < place + least := Nat.not_lt.mpr room
  have notFew : ¬ count < least := Nat.not_lt.mpr enough
  simp only [step?, attempt, beginLongRun, if_neg notShort, counted, if_neg notFew, shortenRun,
    free, if_pos enough, goBefore, arrived]

/-- A run for which there are too few characters fails. -/
theorem step_longRun_of_few
    {least : Nat} {greatest : Option Nat} {test : CharacterTest} {place : Nat}
    (few : test.countFrom text (min (greatest.getD text.size) (text.size - place)) place < least)
    (next : Program) (around : List Repetition) (pile : List Waiting) (left : Nat)
    (marks : Marks) :
    ∃ leftThen,
      (Machine.mk (.attempt (.run .greedy least greatest test next) place around) pile left
          marks).step? text =
        some ⟨.failed, pile, leftThen, marks⟩ := by
  by_cases short : text.size < place + least
  · exact ⟨left, by simp only [step?, attempt, beginLongRun, if_pos short, fail]⟩
  · refine ⟨test.leftAfter place
      (test.countFrom text (min (greatest.getD text.size) (text.size - place)) place), ?_⟩
    simp only [step?, attempt, beginLongRun, if_neg short, if_pos few, fail]

/-! ## Steps -/

/-- So many steps lead from one machine to another. -/
inductive Steps
    (text : Array Nat) :
    Nat → Machine → Machine → Prop
  | none (machine : Machine) : Steps text 0 machine machine
  | next {count : Nat} {machine middle last : Machine}
      (step : machine.step? text = some middle) (others : Steps text count middle last) :
      Steps text (count + 1) machine last

theorem Steps.trans
    {first second : Nat} {machine middle last : Machine}
    (before : Steps text first machine middle) (after : Steps text second middle last) :
    Steps text (second + first) machine last := by
  induction before with
  | none => exact after
  | next step _ inductionHypothesis => exact .next step (inductionHypothesis after)

/-- A run with enough steps ends where a machine has no more to do. -/
theorem run_of_steps
    {count : Nat} {machine last : Machine} (steps : Steps text count machine last)
    (halted : last.step? text = none) {most : Nat} (enough : count ≤ most) :
    run text most machine = last := by
  induction steps generalizing most with
  | none machine =>
      cases most with
      | zero => rfl
      | succ most =>
          rw [run, halted]
  | next step _ inductionHypothesis =>
      obtain ⟨fewer, rfl⟩ : ∃ fewer, most = fewer + 1 := ⟨most - 1, by omega⟩
      rw [run, step]
      exact inductionHypothesis halted (by omega)

def AwaitsOnlyFailure
    (pile : List Waiting) :
    Prop :=
  ∀ waiting ∈ pile, ∃ stretch start count around saved,
    waiting = .shorterRun stretch start count around saved

/-- A success passes by the runs that wait to become shorter. -/
theorem steps_of_succeeded
    {pile : List Waiting} (only : AwaitsOnlyFailure pile) (left : Nat) (marks : Marks) :
    Steps text pile.length ⟨.succeeded, pile, left, marks⟩ ⟨.succeeded, [], left, marks⟩ := by
  induction pile with
  | nil => exact .none _
  | cons waiting pile inductionHypothesis =>
      rw [AwaitsOnlyFailure, List.forall_mem_cons] at only
      obtain ⟨⟨stretch, start, count, around, saved, rfl⟩, others⟩ := only
      exact .next rfl (inductionHypothesis others)

end Machine

/-! ## Searches -/

def Found.captured
    (found : Found) (text : List Char) (group : Nat) :
    Option (List Char) :=
  (found.groups[group - 1]?.join).map fun bounds => (text.take bounds.2).drop bounds.1

theorem Found.captured_eq
    {found : Found} {text before part after : List Char} {group start stop : Nat}
    (split : text = before ++ part ++ after)
    (bounds : found.groups[group - 1]? = some (some (start, stop)))
    (starts : before.length = start) (stops : start + part.length = stop) :
    found.captured text group = some part := by
  subst split starts stops
  rw [captured, bounds, Option.join_some, Option.map_some, List.take_left' List.length_append,
    List.drop_left]

namespace Compiled

variable {compiled : Compiled} {text : Array Nat}

/-- A search finds the first match where the machine for its beginning succeeds. -/
theorem searchFrom_of_succeeded
    {count place : Nat} (mayBegin : compiled.mayBeginAt text place = true)
    (succeeded : (compiled.machineAt text place).hasSucceeded = true) :
    compiled.searchFrom text (count + 1) place =
      (compiled.foundBy (compiled.machineAt text place) place).map some := by
  rw [searchFrom]
  simp only [if_pos mayBegin, if_pos succeeded]

/-- A search finds nothing where no machine succeeds. -/
theorem searchFrom_of_failing
    (count place : Nat)
    (failing : ∀ later, place ≤ later →
      (compiled.machineAt text later).hasSucceeded = false) :
    compiled.searchFrom text count place = .ok none := by
  induction count generalizing place with
  | zero => rfl
  | succ count inductionHypothesis =>
      have others := inductionHypothesis (place + 1) fun later beyond => failing later (by omega)
      have fails := failing place (Nat.le_refl place)
      rw [searchFrom]
      simp only [fails, others, Bool.false_eq_true, if_false, ite_self]

end Compiled

end FormRules.Pattern
