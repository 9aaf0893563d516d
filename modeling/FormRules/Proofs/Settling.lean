import FormRules.Proofs.MachineSteps
import Mathlib.Data.List.Basic

/-!
# Coming to an end

An attempt settles a condition if it comes to an end whatever waits for its failure, and ends with a
success exactly if the condition holds. Then an attempt with alternatives settles that one of them
succeeds, and a run of characters that the rest succeeds behind one of its parts: what the machine
leaves out, because the next character is not there, would have failed.

This is about programs without groups. Marks are noted and taken back, but nothing depends on them.
-/

namespace FormRules.Pattern

open FormRules.Text

namespace Machine

/-- A success passes by what waits. -/
def GivesWay
    (waiting : Waiting) :
    Prop :=
  ∀ machine : Machine, machine.afterSuccess waiting = { machine with task := .succeeded }

/-- The machine has ended as the condition says: with a success and nothing waiting, or with a
failure of which the pile is told. -/
inductive HasEnded
    (condition : Prop) (pile : List Waiting) :
    Machine → Prop
  | success {left : Nat} {marks : Marks} (holds : condition) :
      HasEnded condition pile ⟨.succeeded, [], left, marks⟩
  | failure {left : Nat} {marks : Marks} (fails : ¬ condition) :
      HasEnded condition pile ⟨.failed, pile, left, marks⟩

/-- The machine comes to an end, and ends as the condition says. -/
def Ends
    (text : Array Nat) (machine : Machine) (pile : List Waiting) (condition : Prop) :
    Prop :=
  ∃ count last, Steps text count machine last ∧ HasEnded condition pile last

/-- The attempt comes to an end whatever waits for its failure, and succeeds exactly if the
condition holds. -/
def Settles
    (text : Array Nat) (program : Program) (place : Nat) (around : List Repetition)
    (condition : Prop) :
    Prop :=
  ∀ machine : Machine, (∀ waiting ∈ machine.pile, GivesWay waiting) →
    Ends text (machine.go program place around) machine.pile condition

variable {text : Array Nat} {machine next : Machine} {pile : List Waiting}
  {condition other : Prop} {program : Program} {place : Nat} {around : List Repetition}

/-! ## Coming to an end -/

theorem Ends.of_step
    (step : machine.step? text = some next) (ends : Ends text next pile condition) :
    Ends text machine pile condition := by
  obtain ⟨count, last, others, ended⟩ := ends
  exact ⟨count + 1, last, .next step others, ended⟩

theorem Ends.congr
    (ends : Ends text machine pile condition) (same : condition ↔ other) :
    Ends text machine pile other := by
  rwa [← propext same]

theorem Settles.congr
    (settles : Settles text program place around condition) (same : condition ↔ other) :
    Settles text program place around other := by
  rwa [← propext same]

/-- The news of a failure is the end. -/
theorem ends_fail
    (machine : Machine) (fails : ¬ condition) :
    Ends text machine.fail machine.pile condition :=
  ⟨0, _, .none _, .failure fails⟩

theorem ends_succeeded
    (givesWay : ∀ waiting ∈ pile, GivesWay waiting) (holds : condition) (left : Nat)
    (marks : Marks) :
    Ends text ⟨.succeeded, pile, left, marks⟩ pile condition := by
  refine ⟨pile.length, ⟨.succeeded, [], left, marks⟩, ?_, .success holds⟩
  induction pile with
  | nil => exact .none _
  | cons waiting pile inductionHypothesis =>
      rw [List.forall_mem_cons] at givesWay
      have step : (Machine.mk .succeeded (waiting :: pile) left marks).step? text =
          some ⟨.succeeded, pile, left, marks⟩ :=
        congrArg some (givesWay.1 _)
      exact .next step (inductionHypothesis givesWay.2)

/-- An attempt for whose failure something waits: it succeeds, or else what waits does. -/
theorem ends_goBefore
    {waiting : Waiting} (givesWay : ∀ waiting ∈ machine.pile, GivesWay waiting)
    (givesWayToo : GivesWay waiting)
    (settles : Settles text program place around condition)
    (otherwise : ∀ left marks,
      Ends text ⟨.failed, waiting :: machine.pile, left, marks⟩ machine.pile other) :
    Ends text (machine.goBefore waiting program place around) machine.pile (condition ∨ other) := by
  have allGiveWay : ∀ entry ∈ waiting :: machine.pile, GivesWay entry :=
    List.forall_mem_cons.mpr ⟨givesWayToo, givesWay⟩
  obtain ⟨count, last, steps, ended⟩ :=
    settles { machine with pile := waiting :: machine.pile, left := place } allGiveWay
  cases ended with
  | success holds => exact ⟨count, _, steps, .success (Or.inl holds)⟩
  | failure fails =>
      obtain ⟨more, last, stepsLater, ended⟩ := otherwise _ _
      refine ⟨more + count, last, steps.trans stepsLater, ?_⟩
      cases ended with
      | success holds => exact .success (Or.inr holds)
      | failure failsToo => exact .failure (by simp [fails, failsToo])

/-- Two conditions that an attempt settles are the same. -/
theorem Settles.unique
    (settles : Settles text program place around condition)
    (settlesToo : Settles text program place around other) :
    condition ↔ other := by
  have nothing : ∀ waiting ∈ ([] : List Waiting), GivesWay waiting := by simp
  obtain ⟨count, last, steps, ended⟩ := settles ⟨.failed, [], 0, .ofGroups 0⟩ nothing
  obtain ⟨more, lastToo, stepsToo, endedToo⟩ := settlesToo ⟨.failed, [], 0, .ofGroups 0⟩ nothing
  have halted : last.step? text = none := by
    cases ended <;> rfl
  have haltedToo : lastToo.step? text = none := by
    cases endedToo <;> rfl
  have same : last = lastToo := by
    rw [← run_of_steps steps halted (Nat.le_max_left count more),
      run_of_steps stepsToo haltedToo (Nat.le_max_right count more)]
  subst same
  cases ended with
  | success holds => cases endedToo with | success holdsToo => exact iff_of_true holds holdsToo
  | failure fails => cases endedToo with | failure failsToo => exact iff_of_false fails failsToo

/-! ## Single steps -/

theorem settles_done
    (holds : condition) :
    Settles text .done place around condition := by
  intro machine givesWay
  exact .of_step rfl (ends_succeeded givesWay holds place machine.marks)

theorem settles_textEnd
    {next : Program} (settles : Settles text next place around condition) :
    Settles text (.anchor .textEnd next) place around (place = text.size ∧ condition) := by
  intro machine givesWay
  by_cases atEnd : place = text.size
  · have step : (machine.go (.anchor .textEnd next) place around).step? text =
        some (machine.go next place around) := by
      simp [step?, attempt, go, Place.holdsAt, atEnd]
    exact .of_step step ((settles machine givesWay).congr (by simp [atEnd]))
  · have step : (machine.go (.anchor .textEnd next) place around).step? text =
        some machine.fail := by
      simp [step?, attempt, go, fail, Place.holdsAt, atEnd]
    exact .of_step step (ends_fail machine (by simp [atEnd]))

theorem settles_character
    {test : CharacterTest} {next : Program}
    (settles : test.acceptsAt text place = true → Settles text next (place + 1) around condition) :
    Settles text (.character test next) place around
      (test.acceptsAt text place = true ∧ condition) := by
  intro machine givesWay
  cases accepted : test.acceptsAt text place with
  | true =>
      have step : (machine.go (.character test next) place around).step? text =
          some (machine.go next (place + 1) around) := by
        simp [step?, attempt, go, accepted]
      exact .of_step step ((settles accepted machine givesWay).congr (by simp))
  | false =>
      have step : (machine.go (.character test next) place around).step? text =
          some machine.fail := by
        simp [step?, attempt, go, fail, accepted]
      exact .of_step step (ends_fail machine (by simp))

/-- Where its first character is not there, a program fails. -/
theorem Settles.not_of_refused
    {test : CharacterTest} {next : Program}
    (settles : Settles text (.character test next) place around condition)
    (refused : test.acceptsAt text place = false) :
    ¬ condition := by
  have fails : Settles text (.character test next) place around
      (test.acceptsAt text place = true ∧ False) := by
    refine settles_character fun accepted => ?_
    rw [refused] at accepted
    cases accepted
  exact fun holds => ((settles.unique fails).mp holds).2

/-! ## Alternatives -/

section Alternatives

variable {Index : Type} {programs : Index → Program} {conditions : Index → Prop}

theorem not_of_isRuledOut
    (settles : Settles text program place around condition)
    (ruledOut : program.isRuledOut text place = true) :
    ¬ condition := by
  cases program with
  | character test next =>
      simp only [Program.isRuledOut, Bool.and_eq_true, Bool.not_eq_true'] at ruledOut
      exact settles.not_of_refused ruledOut.2
  | _ => cases ruledOut

/-- Of the alternatives one succeeds, or all of them fail. -/
theorem ends_tryAlternatives
    {alternatives : List Index}
    (settles : ∀ index ∈ alternatives,
      Settles text (programs index) place around (conditions index))
    (machine : Machine) (givesWay : ∀ waiting ∈ machine.pile, GivesWay waiting) (saved : Marks) :
    Ends text (machine.tryAlternatives text (alternatives.map programs) place around saved)
      machine.pile (∃ index ∈ alternatives, conditions index) := by
  induction alternatives generalizing machine with
  | nil => exact ends_fail machine (by simp)
  | cons index others inductionHypothesis =>
      rw [List.forall_mem_cons] at settles
      rw [List.exists_mem_cons_iff]
      cases ruledOut : (programs index).isRuledOut text place with
      | true =>
          have fails := not_of_isRuledOut settles.1 ruledOut
          have skipped : machine.tryAlternatives text ((index :: others).map programs) place around
              saved = machine.tryAlternatives text (others.map programs) place around saved := by
            simp [tryAlternatives, ruledOut]
          rw [skipped]
          exact (inductionHypothesis settles.2 machine givesWay).congr (by simp [fails])
      | false =>
          have tried : machine.tryAlternatives text ((index :: others).map programs) place around
              saved = machine.goBefore (.alternatives (others.map programs) place around saved)
                (programs index) place around := by
            simp [tryAlternatives, ruledOut]
          rw [tried]
          refine ends_goBefore givesWay (fun _ => rfl) settles.1 fun left marks => ?_
          exact .of_step rfl (inductionHypothesis settles.2 _ givesWay)

theorem settles_choice
    {alternatives : List Index}
    (settles : ∀ index ∈ alternatives,
      Settles text (programs index) place around (conditions index)) :
    Settles text (.choice (alternatives.map programs)) place around
      (∃ index ∈ alternatives, conditions index) := by
  intro machine givesWay
  exact .of_step rfl
    (ends_tryAlternatives settles (machine.go (.choice (alternatives.map programs)) place around)
      givesWay machine.marks)

end Alternatives

/-! ## Runs -/

section Runs

variable {least : Nat} {greatest : Option Nat} {test : CharacterTest} {start : Nat}
  {conditions : Nat → Prop}

theorem accepts_of_exactLetter?
    {code : Nat} (isLetter : test.exactLetter? = some code) (character : Nat) :
    test.accepts character = (character == code) := by
  unfold CharacterTest.exactLetter? at isLetter
  split at isLetter
  · rename_i letter folding
    cases caseless : hasCase folding letter with
    | true => simp [caseless] at isLetter
    | false =>
        obtain rfl : letter = code := by simpa [caseless] using isLetter
        cases folding with
        | exact => simp [CharacterTest.accepts, Folding.matchesLetter]
        | unicode =>
            have oneForm : isCasedCode letter = false := caseless
            simp [CharacterTest.accepts, Folding.matchesLetter, oneForm]
        | ascii =>
            have noLetter : isAsciiLetter letter = false := caseless
            simp only [isAsciiLetter, Bool.or_eq_false_iff, Bool.and_eq_false_iff,
              decide_eq_false_iff_not] at noLetter
            have lowered : asciiLower character = asciiLower letter ↔ character = letter := by
              simp only [asciiLower, Bool.and_eq_true, decide_eq_true_eq]
              split <;> split <;> omega
            rw [Bool.eq_iff_iff]
            simp [CharacterTest.accepts, Folding.matchesLetter, lowered]
  · cases isLetter

theorem not_of_letterless
    {code : Nat} (settles : Settles text program place around condition)
    (begins : program.exactLetter? = some code) (missing : letterStandsAt text code place = false) :
    ¬ condition := by
  cases program with
  | character test next =>
      refine settles.not_of_refused ?_
      unfold CharacterTest.acceptsAt
      unfold letterStandsAt at missing
      by_cases inside : place < text.size
      · rw [dif_pos inside] at missing ⊢
        rw [accepts_of_exactLetter? begins, missing]
      · rw [dif_neg inside]
  | _ => cases begins

/-- Of the places up to a count, the last one is found where the letter stands. -/
theorem lastPlaceOf?_cases
    (text : Array Nat) (code start least count : Nat) :
    (∃ found, lastPlaceOf? text code start least count = some found ∧ least ≤ found ∧
        found ≤ count ∧
        ∀ more, found < more → more ≤ count → letterStandsAt text code (start + more) = false) ∨
      lastPlaceOf? text code start least count = none ∧
        ∀ more, least ≤ more → more ≤ count → letterStandsAt text code (start + more) = false := by
  induction count with
  | zero =>
      unfold lastPlaceOf?
      cases stands : letterStandsAt text code start with
      | true =>
          by_cases isZero : least = 0
          · exact Or.inl ⟨0, by simp [isZero], by omega, Nat.le_refl 0, by omega⟩
          · exact Or.inr ⟨by simp [isZero], by omega⟩
      | false =>
          refine Or.inr ⟨by simp, fun more _ few => ?_⟩
          rw [Nat.le_zero.mp few]
          exact stands
  | succ count inductionHypothesis =>
      unfold lastPlaceOf?
      by_cases short : count + 1 < least
      · rw [if_pos short]
        exact Or.inr ⟨rfl, by omega⟩
      · rw [if_neg short]
        cases stands : letterStandsAt text code (start + (count + 1)) with
        | true =>
            rw [if_pos rfl]
            exact Or.inl ⟨count + 1, rfl, by omega, Nat.le_refl _, by omega⟩
        | false =>
            rw [if_neg Bool.false_ne_true]
            have lastOne : ∀ more, count < more → more ≤ count + 1 →
                letterStandsAt text code (start + more) = false := by
              intro more many few
              obtain rfl : more = count + 1 := by omega
              exact stands
            rcases inductionHypothesis with ⟨found, isFound, enough, few, later⟩ | ⟨none, later⟩
            · refine Or.inl ⟨found, isFound, enough, by omega, fun more behind within => ?_⟩
              by_cases before : more ≤ count
              · exact later more behind before
              · exact lastOne more (by omega) within
            · refine Or.inr ⟨none, fun more enough within => ?_⟩
              by_cases before : more ≤ count
              · exact later more enough before
              · exact lastOne more (by omega) within

variable {next : Program} {count : Nat}

/-- A run is first tried with so many characters that the rest fails behind more of them, or it
fails, and then the rest fails behind every part of it. -/
theorem shortenRun_cases
    (greatest : Option Nat) (test : CharacterTest)
    (settles : ∀ more, least ≤ more → more ≤ count →
      Settles text next (start + more) around (conditions (start + more)))
    (machine : Machine) (saved : Marks) :
    (∃ found, least ≤ found ∧ found ≤ count ∧
        machine.shortenRun text ⟨least, greatest, test, next⟩ start count around saved =
          machine.goBefore (.shorterRun ⟨least, greatest, test, next⟩ start found around saved)
            next (start + found) around ∧
        ∀ more, found < more → more ≤ count → ¬ conditions (start + more)) ∨
      machine.shortenRun text ⟨least, greatest, test, next⟩ start count around saved =
          machine.fail ∧
        ∀ more, least ≤ more → more ≤ count → ¬ conditions (start + more) := by
  cases begins : next.exactLetter? with
  | none =>
      by_cases enough : least ≤ count
      · exact Or.inl ⟨count, enough, Nat.le_refl _, by simp [shortenRun, begins, enough], by omega⟩
      · exact Or.inr ⟨by simp [shortenRun, begins, enough], by omega⟩
  | some code =>
      rcases lastPlaceOf?_cases text code start least count with
        ⟨found, isFound, enough, few, letterless⟩ | ⟨none, letterless⟩
      · refine Or.inl ⟨found, enough, few, by simp [shortenRun, begins, isFound], ?_⟩
        intro more behind within
        exact not_of_letterless (settles more (by omega) within) begins
          (letterless more behind within)
      · refine Or.inr ⟨by simp [shortenRun, begins, none], fun more enough within => ?_⟩
        exact not_of_letterless (settles more enough within) begins (letterless more enough within)

/-- The parts of a run are tried from the longest on, until the rest succeeds behind one. -/
theorem ends_shortenRun
    (greatest : Option Nat) (test : CharacterTest)
    (settles : ∀ more, least ≤ more → more ≤ count →
      Settles text next (start + more) around (conditions (start + more)))
    (machine : Machine) (givesWay : ∀ waiting ∈ machine.pile, GivesWay waiting) (saved : Marks) :
    Ends text
      (machine.shortenRun text ⟨least, greatest, test, next⟩ start count around saved)
      machine.pile (∃ more, least ≤ more ∧ more ≤ count ∧ conditions (start + more)) := by
  induction count using Nat.strongRecOn generalizing machine with
  | ind count inductionHypothesis =>
      rcases shortenRun_cases greatest test settles machine saved with
        ⟨found, enough, few, tried, longerFail⟩ | ⟨failed, allFail⟩
      · rw [tried]
        have shorter : ∀ left marks,
            Ends text
              ⟨.failed, .shorterRun ⟨least, greatest, test, next⟩ start found around saved ::
                machine.pile, left, marks⟩ machine.pile
              (∃ more, least ≤ more ∧ more < found ∧ conditions (start + more)) := by
          intro left marks
          refine .of_step rfl ?_
          by_cases isLeast : found ≤ least
          · simp only [afterFailure, if_pos isLeast]
            exact ends_fail _ (by omega)
          · simp only [afterFailure, if_neg isLeast]
            have later := inductionHypothesis (found - 1) (by omega)
              (fun more enough within => settles more enough (by omega))
              ((Machine.mk .failed machine.pile left marks).takeBack saved around) givesWay
            have positive : 0 < found := Nat.zero_lt_of_lt (Nat.not_le.mp isLeast)
            simp only [Nat.le_sub_one_iff_lt positive] at later
            exact later
        refine (ends_goBefore givesWay (fun _ => rfl) (settles found enough few) shorter).congr ?_
        constructor
        · rintro (here | ⟨more, least, fewer, there⟩)
          · exact ⟨found, enough, few, here⟩
          · exact ⟨more, least, by omega, there⟩
        · rintro ⟨more, least, within, holds⟩
          rcases Nat.lt_trichotomy more found with fewer | rfl | longer
          · exact Or.inr ⟨more, least, fewer, holds⟩
          · exact Or.inl holds
          · exact absurd holds (longerFail more longer within)
      · rw [failed]
        refine ends_fail machine ?_
        rintro ⟨more, enough, within, holds⟩
        exact allFail more enough within holds

/-- A run leads to what one of its parts leads to that is long enough. -/
theorem settles_run
    (fits : start + count ≤ text.size)
    (counted :
      test.countFrom text (min (greatest.getD text.size) (text.size - start)) start = count)
    (settles : ∀ more, least ≤ more → more ≤ count →
      Settles text next (start + more) around (conditions (start + more))) :
    Settles text (.run .greedy least greatest test next) start around
      (∃ more, least ≤ more ∧ more ≤ count ∧ conditions (start + more)) := by
  intro machine givesWay
  by_cases few : count < least
  · rw [← counted] at few
    obtain ⟨left, step⟩ :=
      step_longRun_of_few few next around machine.pile machine.left machine.marks
    rw [counted] at few
    exact .of_step step (ends_fail ⟨.failed, machine.pile, left, machine.marks⟩ (by omega))
  · have notShort : ¬ text.size < start + least := by omega
    have tried := ends_shortenRun greatest test settles
      ⟨.attempt (.run .greedy least greatest test next) start around, machine.pile,
        test.leftAfter start count, machine.marks⟩ givesWay machine.marks
    refine .of_step ?_ tried
    simp only [go, step?, attempt, beginLongRun, if_neg notShort, counted, if_neg few]

end Runs

end Machine

end FormRules.Pattern
