import FormRules.Proofs.MachineSteps

/-!
# Going back

What an attempt leads to does not depend on what waits for its failure: it fails and keeps the marks
noted before it, or it succeeds with further marks. A long run leads to what its longest part leads
to from which the rest succeeds, and it fails if there is no such part.

The statements are about marks that are noted one after the other, outside of all rounds.
-/

namespace FormRules.Pattern

namespace Marks

/-- The places are those of the first marks, whichever are in use. -/
structure Keep
    (marks : Marks) (groups : Nat) (noted : List Nat) :
    Prop where
  size_eq : marks.places.size = 2 * groups
  getElem?_eq : ∀ index place : Nat, noted[index]? = some place →
    marks.places[index]? = some (some place)

/-- The places are those of the marks in use. -/
structure Hold
    (marks : Marks) (groups : Nat) (noted : List Nat) : Prop
    extends marks.Keep groups noted where
  used_eq : marks.used = noted.length

variable {marks : Marks} {groups : Nat} {noted more : List Nat}

theorem Keep.of_prefix
    (keep : marks.Keep groups more) (isPrefix : noted <+: more) :
    marks.Keep groups noted := by
  obtain ⟨others, rfl⟩ := isPrefix
  refine ⟨keep.size_eq, fun index place inNoted => keep.getElem?_eq index place ?_⟩
  rw [List.getElem?_append_left (List.getElem?_eq_some_iff.mp inNoted).1]
  exact inNoted

/-- Taking marks back leaves those in use that were before. -/
theorem Keep.takeBack
    {saved : Marks} (keep : marks.Keep groups noted) (used : saved.used = noted.length) :
    (saved.takeBack marks false).Hold groups noted :=
  ⟨⟨keep.size_eq, keep.getElem?_eq⟩, used⟩

theorem hold_ofGroups
    (groups : Nat) :
    (ofGroups groups).Hold groups [] := by
  refine ⟨⟨by simp [ofGroups], ?_⟩, rfl⟩
  intro index place noted
  cases noted

theorem Hold.note
    (hold : marks.Hold groups noted) (room : noted.length < 2 * groups) (place : Nat) :
    (marks.note noted.length place).Hold groups (noted ++ [place]) := by
  have fresh : ¬ noted.length < marks.used := by
    rw [hold.used_eq]
    exact Nat.lt_irrefl _
  have none : noted.length - marks.used = 0 := by
    rw [hold.used_eq, Nat.sub_self]
  rw [Marks.note, if_neg fresh, none]
  refine ⟨⟨?_, ?_⟩, by simp⟩
  · simp [hold.size_eq]
  · intro index found isFound
    rw [List.getElem?_append] at isFound
    by_cases before : index < noted.length
    · rw [if_pos before] at isFound
      have other : noted.length ≠ index := by omega
      simp [other, hold.getElem?_eq index found isFound]
    · rw [if_neg before, List.getElem?_singleton] at isFound
      have sizeEq := hold.size_eq
      split at isFound
      · obtain rfl : index = noted.length := by omega
        obtain rfl : place = found := Option.some.inj isFound
        simp [room, sizeEq]
      · cases isFound

/-- The bounds of a group are its two marks. -/
theorem Hold.places?_eq
    {group start stop : Nat} (hold : marks.Hold groups noted)
    (first : noted[2 * group - 2]? = some start) (second : noted[2 * group - 1]? = some stop)
    (isGroup : 0 < group) :
    marks.places? group = some (start, stop) := by
  have inUse : 2 * group ≤ marks.used := by
    have below := (List.getElem?_eq_some_iff.mp second).1
    rw [hold.used_eq]
    omega
  rw [places?, if_pos inUse, hold.getElem?_eq _ _ first, hold.getElem?_eq _ _ second]
  rfl

theorem Hold.group?_eq
    {group start stop : Nat} (hold : marks.Hold groups noted)
    (first : noted[2 * group - 2]? = some start) (second : noted[2 * group - 1]? = some stop)
    (isGroup : 0 < group) (ordered : start ≤ stop) :
    marks.group? group = some (start, stop) := by
  rw [group?, hold.places?_eq first second isGroup, Option.filter_some, if_pos]
  exact decide_eq_true ordered

end Marks

namespace Machine

/-- What an attempt comes to. -/
inductive Outcome where
  | failure
  | success (stop : Nat) (noted : List Nat)

/-- The machine has the news of the outcome. After a failure the marks from before are kept, and
the news goes to what waits; a success goes by. -/
inductive Outcome.IsNews
    (groups : Nat) (noted : List Nat) (pile : List Waiting) :
    Outcome → Machine → Prop
  | failure {left : Nat} {marks : Marks} (keep : marks.Keep groups noted) :
      IsNews groups noted pile .failure ⟨.failed, pile, left, marks⟩
  | success {stop : Nat} {all : List Nat} {marks : Marks} (hold : marks.Hold groups all) :
      IsNews groups noted pile (.success stop all) ⟨.succeeded, [], stop, marks⟩

/-- The attempt leads to the outcome, whatever waits for its failure. -/
def LeadsTo
    (text : Array Nat) (groups : Nat) (program : Program) (place : Nat) (noted : List Nat)
    (outcome : Outcome) :
    Prop :=
  ∀ pile left marks, AwaitsOnlyFailure pile → marks.Hold groups noted →
    ∃ count last, Steps text count ⟨.attempt program place [], pile, left, marks⟩ last ∧
      outcome.IsNews groups noted pile last

variable {text : Array Nat} {groups place : Nat} {next : Program} {noted : List Nat}
  {outcome : Outcome}

/-! ## One step -/

/-- An attempt leads to what the attempt one step later leads to. -/
theorem LeadsTo.of_step
    {program : Program} {later : Nat} {more : List Nat} (isPrefix : noted <+: more)
    (step : ∀ pile left marks, marks.Hold groups noted →
      ∃ marksLater, marksLater.Hold groups more ∧
        (Machine.mk (.attempt program place []) pile left marks).step? text =
          some ⟨.attempt next later [], pile, left, marksLater⟩)
    (leads : LeadsTo text groups next later more outcome) :
    LeadsTo text groups program place noted outcome := by
  intro pile left marks only hold
  obtain ⟨marksLater, holdLater, first⟩ := step pile left marks hold
  obtain ⟨count, last, others, news⟩ := leads pile left marksLater only holdLater
  refine ⟨count + 1, last, .next first others, ?_⟩
  cases news with
  | failure keep => exact .failure (keep.of_prefix isPrefix)
  | success holdAll => exact .success holdAll

theorem LeadsTo.of_step_failed
    {program : Program}
    (step : ∀ pile left marks, marks.Hold groups noted →
      (Machine.mk (.attempt program place []) pile left marks).step? text =
        some ⟨.failed, pile, left, marks⟩) :
    LeadsTo text groups program place noted .failure := by
  intro pile left marks _ hold
  exact ⟨1, _, .next (step pile left marks hold) (.none _), .failure hold.toKeep⟩

theorem leadsTo_done :
    LeadsTo text groups .done place noted (.success place noted) := by
  intro pile left marks only hold
  exact ⟨pile.length + 1, _, .next rfl (steps_of_succeeded only place marks), .success hold⟩

theorem leadsTo_anchor
    {kind : Place} (holds : kind.holdsAt text place = true)
    (leads : LeadsTo text groups next place noted outcome) :
    LeadsTo text groups (.anchor kind next) place noted outcome := by
  refine .of_step (List.prefix_refl noted) (fun pile left marks hold => ⟨marks, hold, ?_⟩) leads
  simp only [step?, attempt, if_pos holds, go]

theorem leadsTo_anchor_failure
    {kind : Place} (missed : kind.holdsAt text place = false) :
    LeadsTo text groups (.anchor kind next) place noted .failure := by
  refine .of_step_failed fun pile left marks _ => ?_
  simp only [step?, attempt, missed, Bool.false_eq_true, if_false, fail]

theorem leadsTo_character
    {test : CharacterTest} (accepted : test.acceptsAt text place = true)
    (leads : LeadsTo text groups next (place + 1) noted outcome) :
    LeadsTo text groups (.character test next) place noted outcome := by
  refine .of_step (List.prefix_refl noted) (fun pile left marks hold => ⟨marks, hold, ?_⟩) leads
  simp only [step?, attempt, if_pos accepted, go]

theorem leadsTo_character_failure
    {test : CharacterTest} (refused : test.acceptsAt text place = false) :
    LeadsTo text groups (.character test next) place noted .failure := by
  refine .of_step_failed fun pile left marks _ => ?_
  simp only [step?, attempt, refused, Bool.false_eq_true, if_false, fail]

/-- The next mark is noted. -/
theorem leadsTo_mark
    {index : Nat} (isNext : noted.length = index) (room : index < 2 * groups)
    (leads : LeadsTo text groups next place (noted ++ [place]) outcome) :
    LeadsTo text groups (.mark index next) place noted outcome := by
  subst isNext
  exact .of_step (List.prefix_append noted [place])
    (fun pile left marks hold => ⟨_, hold.note room place, rfl⟩) leads

section Groups

variable {group start stop : Nat} {folding : Folding}

/-- The text of a group occurs again. -/
theorem leadsTo_backreference
    (first : noted[2 * group - 2]? = some start) (second : noted[2 * group - 1]? = some stop)
    (isGroup : 0 < group) (ordered : start ≤ stop)
    (occurs : occursAt text folding start stop place = true)
    (leads : LeadsTo text groups next (place + (stop - start)) noted outcome) :
    LeadsTo text groups (.backreference group folding next) place noted outcome := by
  refine .of_step (List.prefix_refl noted) (fun pile left marks hold => ⟨marks, hold, ?_⟩) leads
  have bounds := hold.group?_eq first second isGroup ordered
  simp only [step?, attempt, bounds, if_pos occurs, go]

theorem leadsTo_backreference_failure
    (first : noted[2 * group - 2]? = some start) (second : noted[2 * group - 1]? = some stop)
    (isGroup : 0 < group) (ordered : start ≤ stop)
    (missing : occursAt text folding start stop place = false) :
    LeadsTo text groups (.backreference group folding next) place noted .failure := by
  refine .of_step_failed fun pile left marks hold => ?_
  have bounds := hold.group?_eq first second isGroup ordered
  simp only [step?, attempt, bounds, missing, Bool.false_eq_true, if_false, fail]

end Groups

/-! ## Long runs -/

section LongRuns

variable {greatest : Option Nat} {test : CharacterTest} {length count : Nat}

/-- A run that can become no shorter fails, too. -/
theorem step_shorterRun_zero
    (stretch : Stretch) (saved : Marks) (pile : List Waiting) (left : Nat) (marks : Marks) :
    (Machine.mk .failed (.shorterRun stretch place 0 [] saved :: pile) left marks).step? text =
      some ⟨.failed, pile, left, saved.takeBack marks false⟩ := by
  simp only [step?, afterFailure, if_pos (Nat.zero_le stretch.least)]
  rfl

/-- A run goes back by one character. -/
theorem step_shorterRun_succ
    (free : next.exactLetter? = none) (taken : Nat) (saved : Marks) (pile : List Waiting)
    (left : Nat) (marks : Marks) :
    (Machine.mk .failed
        (.shorterRun ⟨0, greatest, test, next⟩ place (taken + 1) [] saved :: pile) left
        marks).step? text =
      some ⟨.attempt next (place + taken) [],
        .shorterRun ⟨0, greatest, test, next⟩ place taken [] saved :: pile, place + taken,
        saved.takeBack marks false⟩ := by
  have notLeast : ¬ taken + 1 ≤ 0 := Nat.not_succ_le_zero taken
  simp only [step?, afterFailure, if_neg notLeast, shortenRun, free, Nat.zero_le, if_true,
    Nat.add_sub_cancel]
  rfl

theorem leadsTo_of_shorterRun
    {saved : Marks} (used : saved.used = noted.length) (free : next.exactLetter? = none)
    (leads : LeadsTo text groups next (place + length) noted outcome)
    (shortest : outcome = .failure → length = 0) (taken : Nat) (within : length ≤ taken)
    (longer : ∀ more, length < more → more ≤ taken →
      LeadsTo text groups next (place + more) noted .failure)
    (pile : List Waiting) (left : Nat) (marks : Marks) (only : AwaitsOnlyFailure pile)
    (hold : marks.Hold groups noted) :
    ∃ count last,
      Steps text count
        ⟨.attempt next (place + taken) [],
          .shorterRun ⟨0, greatest, test, next⟩ place taken [] saved :: pile, left, marks⟩ last ∧
        outcome.IsNews groups noted pile last := by
  have onlyToo : ∀ taken, AwaitsOnlyFailure
      (.shorterRun ⟨0, greatest, test, next⟩ place taken [] saved :: pile) := by
    intro taken
    rw [AwaitsOnlyFailure, List.forall_mem_cons]
    exact ⟨⟨_, _, _, _, _, rfl⟩, only⟩
  -- The induction is on what the run has taken. Each failure keeps the marks from before the run,
  -- so that the next attempt, one character shorter, starts from the same ones.
  induction taken generalizing left marks with
  | zero =>
      obtain rfl : length = 0 := by omega
      obtain ⟨count, last, steps, news⟩ := leads _ left marks (onlyToo 0) hold
      cases news with
      | success holdAll => exact ⟨count, _, steps, .success holdAll⟩
      | failure keep =>
          exact ⟨_, _, steps.trans (.next (step_shorterRun_zero _ saved pile _ _) (.none _)),
            .failure (keep.takeBack used).toKeep⟩
  | succ taken inductionHypothesis =>
      by_cases same : length = taken + 1
      · subst same
        obtain ⟨count, last, steps, news⟩ := leads _ left marks (onlyToo (taken + 1)) hold
        cases news with
        | success holdAll => exact ⟨count, _, steps, .success holdAll⟩
        | failure keep =>
            cases shortest rfl
      · obtain ⟨count, last, steps, news⟩ :=
          longer (taken + 1) (by omega) (Nat.le_refl _) _ left marks (onlyToo (taken + 1)) hold
        cases news with
        | failure keep =>
            have back := steps.trans
              (.next (step_shorterRun_succ free taken saved pile _ _) (.none _))
            obtain ⟨others, last, stepsLater, news⟩ :=
              inductionHypothesis (by omega)
                (fun more longerThan within => longer more longerThan (by omega)) _ _
                (keep.takeBack used)
            exact ⟨_, last, back.trans stepsLater, news⟩

theorem leadsTo_longRun
    (room : place ≤ text.size) (free : next.exactLetter? = none)
    (counted :
      test.countFrom text (min (greatest.getD text.size) (text.size - place)) place = count)
    (within : length ≤ count)
    (leads : LeadsTo text groups next (place + length) noted outcome)
    (shortest : outcome = .failure → length = 0)
    (longer : ∀ more, length < more → more ≤ count →
      LeadsTo text groups next (place + more) noted .failure) :
    LeadsTo text groups (.run .greedy 0 greatest test next) place noted outcome := by
  intro pile left marks only hold
  have first :
      (Machine.mk (.attempt (.run .greedy 0 greatest test next) place []) pile left
          marks).step? text =
        some ⟨.attempt next (place + count) [],
          .shorterRun ⟨0, greatest, test, next⟩ place count [] marks :: pile, place + count,
          marks⟩ :=
    step_longRun room counted (Nat.zero_le count) rfl free
  obtain ⟨others, last, steps, news⟩ :=
    leadsTo_of_shorterRun hold.used_eq free leads shortest count within longer pile (place + count)
      marks only hold
  exact ⟨others + 1, last, .next first steps, news⟩

end LongRuns

end Machine

end FormRules.Pattern
