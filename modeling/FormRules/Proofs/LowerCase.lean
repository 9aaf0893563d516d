import FormRules.Text.Blank
import FormRules.Text.Case

/-!
# Lower case

Lower case goes by ASCII, by runs of pairs, and by two exceptions: a capital I with dot gives a
letter and a mark, and a capital sigma ends a word in a form of its own. No run leads into a run,
and none of them leads to a capital letter or to a blank. So a text in lower case stays as it is
when it is lowered again, whatever stands around it, and of what is not ASCII only the sign of
kelvin becomes nothing but an ASCII letter.
-/

namespace FormRules.Text

/-! ## ASCII letters -/

theorem toNat_toLower
    (character : Char) :
    character.toLower.toNat =
      if 65 ≤ character.toNat ∧ character.toNat ≤ 90 then character.toNat + 32
      else character.toNat := by
  unfold Char.toLower
  split
  · rename_i capital
    have least : 65 ≤ character.toNat := UInt32.le_iff_toNat_le.mp capital.1
    have greatest : character.toNat ≤ 90 := UInt32.le_iff_toNat_le.mp capital.2
    have distance : ('a'.val - 'A'.val).toNat = 32 := rfl
    have code : character.val.toNat = character.toNat := rfl
    have moved : (character.val + ('a'.val - 'A'.val)).toNat = character.toNat + 32 := by
      rw [UInt32.toNat_add, distance, code]
      omega
    rw [if_pos ⟨least, greatest⟩]
    exact moved
  · rename_i other
    have noCapital : ¬ (65 ≤ character.toNat ∧ character.toNat ≤ 90) :=
      fun ⟨least, greatest⟩ =>
        other ⟨UInt32.le_iff_toNat_le.mpr least, UInt32.le_iff_toNat_le.mpr greatest⟩
    rw [if_neg noCapital]

/-- The lower case of an ASCII character is that of its code. -/
theorem lowerCode_eq_toLower
    {character : Char} (ascii : character.toNat < 128) :
    lowerCode character.toNat = character.toLower.toNat := by
  rw [lowerCode_ascii ascii, toNat_toLower]
  simp only [Bool.and_eq_true, decide_eq_true_eq]

/-- A letter is the lower case of itself and of the capital letter. -/
theorem toLower_eq_iff
    {letter character : Char} (small : 97 ≤ letter.toNat ∧ letter.toNat ≤ 122) :
    character.toLower = letter ↔
      character.toNat = letter.toNat ∨ character.toNat + 32 = letter.toNat := by
  rw [← Char.toNat_inj, toNat_toLower]
  split <;> omega

/-! ## Runs -/

def CaseRun.lastTarget
    (run : CaseRun) :
    Nat :=
  run.target + (run.last - run.first)

/-- No counterpart of a code point of the one run belongs to the other: the counterparts lie before
it or behind it, or they fall between its code points. -/
def CaseRun.leadsPast
    (run other : CaseRun) :
    Bool :=
  Nat.blt other.last run.target || Nat.blt run.lastTarget other.first ||
    (other.step == 2 && (run.step == 2 || run.first == run.last) &&
      (run.target + other.first) % 2 == 1)

theorem lowerRuns_leadPast :
    lowerRuns.all (fun run => lowerRuns.all run.leadsPast) = true := by
  decide +kernel

theorem covers_iff
    {run : CaseRun} {code : Nat} :
    run.covers code = true ↔
      run.first ≤ code ∧ code ≤ run.last ∧ (code - run.first) % run.step = 0 := by
  simp [CaseRun.covers, and_assoc]

/-- What a run leads to belongs to no run. -/
theorem covers_apply
    {run other : CaseRun} (isRun : run ∈ lowerRuns) (isOther : other ∈ lowerRuns) {code : Nat}
    (covers : run.covers code = true) :
    other.covers (run.apply code) = false := by
  have past := List.all_eq_true.mp (List.all_eq_true.mp lowerRuns_leadPast run isRun) other isOther
  obtain ⟨behindFirst, beforeLast, inStep⟩ := covers_iff.mp covers
  rw [← Bool.not_eq_true, covers_iff, CaseRun.apply]
  rintro ⟨otherFirst, otherLast, otherStep⟩
  simp only [CaseRun.leadsPast, CaseRun.lastTarget, Bool.or_eq_true, Bool.and_eq_true,
    beq_iff_eq, Nat.blt_eq] at past
  -- Where the two overlap, both count every other code point, one the even and one the odd ones.
  rcases past with (before | behind) | ⟨⟨twoSteps, apart⟩, odd⟩
  · omega
  · omega
  · rw [twoSteps] at otherStep
    rcases apart with twoStepsToo | single
    · rw [twoStepsToo] at inStep
      omega
    · omega

def IsUncovered
    (code : Nat) :
    Prop :=
  ∀ run ∈ lowerRuns, run.covers code = false

instance (code : Nat) : Decidable (IsUncovered code) :=
  inferInstanceAs (Decidable (∀ run ∈ lowerRuns, run.covers code = false))

/-- Where runs begin and where they lead: beyond ASCII, with two exceptions, and neither to capital
letters nor to blanks, but to code points that are characters. -/
theorem lowerRuns_bounds :
    ∀ run ∈ lowerRuns,
      128 ≤ run.first ∧
        (128 ≤ run.target ∨ run.first = 304 ∧ run.last = 304 ∧ run.target = 105 ∨
          run.lastTarget = 107 ∧ run.target = 107) ∧
        (run.lastTarget < 133 ∨ 160 < run.target) ∧ (run.lastTarget < 5760 ∨ 5760 < run.target) ∧
        (run.lastTarget < 8192 ∨ 8287 < run.target) ∧
        (run.lastTarget < 12288 ∨ 12288 < run.target) ∧
        (run.lastTarget < 55296 ∨ 57343 < run.target ∧ run.lastTarget < 1114112) := by
  decide +kernel

theorem apply_bounds
    {run : CaseRun} {code : Nat} (covers : run.covers code = true) :
    run.target ≤ run.apply code ∧ run.apply code ≤ run.lastTarget := by
  obtain ⟨behindFirst, beforeLast, -⟩ := covers_iff.mp covers
  rw [CaseRun.apply, CaseRun.lastTarget]
  omega

theorem mapThroughRuns_cases
    (code : Nat) :
    (∃ run ∈ lowerRuns, run.covers code = true ∧ mapThroughRuns lowerRuns code = run.apply code) ∨
      IsUncovered code ∧ mapThroughRuns lowerRuns code = code := by
  unfold mapThroughRuns
  cases found : lowerRuns.find? (·.covers code) with
  | some run =>
      have covers := List.find?_some found
      exact Or.inl ⟨run, List.mem_of_find?_eq_some found, covers, rfl⟩
  | none =>
      refine Or.inr ⟨fun run isRun => ?_, rfl⟩
      rw [← Bool.not_eq_true]
      exact List.find?_eq_none.mp found run isRun

/-! ## Characters -/

/-- What a character becomes in lower case. -/
inductive LowersTo :
    Char → Char → Prop
  | ascii {character : Char} (isAscii : character.toNat < 128) :
      LowersTo character character.toLower
  | itself {character : Char} (beyond : 128 ≤ character.toNat)
      (uncovered : IsUncovered character.toNat) :
      LowersTo character character
  | counterpart {character lowered : Char} {run : CaseRun} (isRun : run ∈ lowerRuns)
      (covers : run.covers character.toNat = true)
      (leads : lowered.toNat = run.apply character.toNat) :
      LowersTo character lowered
  | dotAbove : LowersTo (Char.ofNat 304) (Char.ofNat 775)
  | finalSigma : LowersTo (Char.ofNat 931) (Char.ofNat 962)

theorem toNat_ofNat_apply
    {run : CaseRun} (isRun : run ∈ lowerRuns) {code : Nat} (covers : run.covers code = true) :
    (Char.ofNat (run.apply code)).toNat = run.apply code := by
  obtain ⟨least, greatest⟩ := apply_bounds covers
  obtain ⟨-, -, -, -, -, -, characters⟩ := lowerRuns_bounds run isRun
  have valid : (run.apply code).isValidChar := by
    rcases characters with below | ⟨above, within⟩
    · exact Or.inl (by omega)
    · exact Or.inr ⟨by omega, by omega⟩
  rw [Char.ofNat, dif_pos valid]
  rfl

theorem lowersTo_lowerCode
    (character : Char) :
    LowersTo character (Char.ofNat (lowerCode character.toNat)) := by
  by_cases isAscii : character.toNat < 128
  · rw [lowerCode_eq_toLower isAscii, Char.ofNat_toNat]
    exact .ascii isAscii
  · rw [lowerCode, if_neg isAscii]
    rcases mapThroughRuns_cases character.toNat with ⟨run, isRun, covers, leads⟩ |
      ⟨uncovered, stays⟩
    · rw [leads]
      exact .counterpart isRun covers (toNat_ofNat_apply isRun covers)
    · rw [stays, Char.ofNat_toNat]
      exact .itself (by omega) uncovered

/-- In every context a character becomes what it can become. -/
theorem lowersTo_of_mem
    {before after : List Char} {character lowered : Char}
    (member : lowered ∈ lowerInContext before character after) :
    LowersTo character lowered := by
  unfold lowerInContext at member
  split at member
  · rename_i isDotted
    obtain rfl : character = Char.ofNat 304 := by
      rw [← beq_iff_eq.mp isDotted, Char.ofNat_toNat]
    have lowered : lowerCode (Char.ofNat 304).toNat = 105 := by
      decide +kernel
    have letter := lowersTo_lowerCode (Char.ofNat 304)
    rw [lowered] at letter
    simp only [List.mem_cons, List.not_mem_nil, or_false] at member
    rcases member with rfl | rfl
    · exact letter
    · exact .dotAbove
  · split at member
    · rename_i isSigma
      obtain rfl : character = Char.ofNat 931 := by
        rw [← beq_iff_eq.mp isSigma, Char.ofNat_toNat]
      have lowered : lowerCode (Char.ofNat 931).toNat = 963 := by
        decide +kernel
      have letter := lowersTo_lowerCode (Char.ofNat 931)
      rw [lowered] at letter
      split at member
      · obtain rfl := List.mem_singleton.mp member
        exact .finalSigma
      · obtain rfl := List.mem_singleton.mp member
        exact letter
    · obtain rfl := List.mem_singleton.mp member
      exact lowersTo_lowerCode character

theorem toNat_of_counterpart
    {character lowered : Char} {run : CaseRun} (isRun : run ∈ lowerRuns)
    (covers : run.covers character.toNat = true)
    (leads : lowered.toNat = run.apply character.toNat) :
    105 ≤ lowered.toNat ∧ run.target ≤ lowered.toNat ∧ lowered.toNat ≤ run.lastTarget := by
  obtain ⟨least, greatest⟩ := apply_bounds covers
  obtain ⟨-, targets, -⟩ := lowerRuns_bounds run isRun
  omega

/-- Below the small letters only what is the same already becomes a character. -/
theorem eq_of_lowersTo_of_lt
    {character lowered : Char} (lowers : LowersTo character lowered) (small : lowered.toNat < 97) :
    lowered = character := by
  cases lowers with
  | ascii isAscii =>
      have moved := toNat_toLower character
      rw [← Char.toNat_inj]
      split at moved <;> omega
  | itself beyond uncovered => rfl
  | counterpart isRun covers leads =>
      have least := (toNat_of_counterpart isRun covers leads).1
      omega
  | dotAbove => exact absurd small (by decide)
  | finalSigma => exact absurd small (by decide)

/-- Only a blank becomes a blank. -/
theorem eq_of_lowersTo_of_isBlank
    {character lowered : Char} (lowers : LowersTo character lowered)
    (blank : isBlank lowered = true) :
    lowered = character := by
  by_cases small : lowered.toNat < 97
  · exact eq_of_lowersTo_of_lt lowers small
  · simp only [isBlank, Bool.or_eq_true, Bool.and_eq_true, decide_eq_true_eq, beq_iff_eq] at blank
    cases lowers with
    | ascii isAscii =>
        have moved := toNat_toLower character
        split at moved <;> omega
    | itself beyond uncovered => rfl
    | counterpart isRun covers leads =>
        obtain ⟨-, least, greatest⟩ := toNat_of_counterpart isRun covers leads
        have bounds := lowerRuns_bounds _ isRun
        omega
    | dotAbove => exact absurd blank (by decide)
    | finalSigma => exact absurd blank (by decide)

/-! ## What lower case leaves -/

/-- Lower case leaves the character as it is, in whatever context. -/
def StaysLow
    (character : Char) :
    Prop :=
  ∀ before after, lowerInContext before character after = [character]

theorem staysLow_of_uncovered
    {character : Char} (uncovered : IsUncovered character.toNat)
    (noCapital : ¬ (65 ≤ character.toNat ∧ character.toNat ≤ 90)) :
    StaysLow character := by
  have covered : ∀ code, lowerRuns.any (·.covers code) = true → character.toNat ≠ code := by
    rintro code someRun rfl
    obtain ⟨run, isRun, covers⟩ := List.any_eq_true.mp someRun
    rw [uncovered run isRun] at covers
    cases covers
  have stays : lowerCode character.toNat = character.toNat := by
    by_cases isAscii : character.toNat < 128
    · rw [lowerCode_eq_toLower isAscii, toNat_toLower, if_neg noCapital]
    · have noRun : lowerRuns.find? (·.covers character.toNat) = none := by
        rw [List.find?_eq_none]
        intro run isRun
        rw [uncovered run isRun]
        decide
      rw [lowerCode, if_neg isAscii, mapThroughRuns, noRun]
  intro before after
  have noDot := covered 304 (by decide +kernel)
  have noSigma := covered 931 (by decide +kernel)
  simp [lowerInContext, noDot, noSigma, stays, Char.ofNat_toNat]

/-- What is in lower case stays. -/
theorem staysLow_of_lowersTo
    {character lowered : Char} (lowers : LowersTo character lowered) :
    StaysLow lowered := by
  have uncoveredAscii : ∀ code < 128, IsUncovered code := by
    intro code isAscii run isRun
    have beyond := (lowerRuns_bounds run isRun).1
    rw [← Bool.not_eq_true, covers_iff]
    omega
  cases lowers with
  | ascii isAscii =>
      have lowered := toNat_toLower character
      refine staysLow_of_uncovered (uncoveredAscii _ ?_) ?_
      · split at lowered <;> omega
      · split at lowered <;> omega
  | itself beyond uncovered => exact staysLow_of_uncovered uncovered (by omega)
  | counterpart isRun covers leads =>
      have least := (toNat_of_counterpart isRun covers leads).1
      refine staysLow_of_uncovered (fun other isOther => ?_) (by omega)
      rw [leads]
      exact covers_apply isRun isOther covers
  | dotAbove => exact staysLow_of_uncovered (by decide +kernel) (by decide)
  | finalSigma => exact staysLow_of_uncovered (by decide +kernel) (by decide)

theorem lowersTo_of_mem_lowerAfter
    {before text : List Char} {lowered : Char} (member : lowered ∈ lowerAfter before text) :
    ∃ character ∈ text, LowersTo character lowered := by
  induction text generalizing before with
  | nil => cases member
  | cons character after inductionHypothesis =>
      rcases List.mem_append.mp member with here | behind
      · exact ⟨character, List.mem_cons_self, lowersTo_of_mem here⟩
      · obtain ⟨other, inText, lowers⟩ := inductionHypothesis behind
        exact ⟨other, List.mem_cons_of_mem character inText, lowers⟩

theorem lowerAfter_of_staysLow
    {before text : List Char} (stay : ∀ character ∈ text, StaysLow character) :
    lowerAfter before text = text := by
  induction text generalizing before with
  | nil => rfl
  | cons character after inductionHypothesis =>
      rw [List.forall_mem_cons] at stay
      rw [lowerAfter, stay.1, inductionHypothesis stay.2, List.singleton_append]

/-- A text in lower case stays as it is. -/
theorem lowerText_lowerText
    (text : List Char) :
    lowerText (lowerText text) = lowerText text := by
  apply lowerAfter_of_staysLow
  intro lowered member
  obtain ⟨character, -, lowers⟩ := lowersTo_of_mem_lowerAfter member
  exact staysLow_of_lowersTo lowers

/-! ## What becomes ASCII -/

theorem lowerAfter_of_ascii
    {before text : List Char} (ascii : ∀ character ∈ text, character.toNat < 128) :
    lowerAfter before text = text.map Char.toLower := by
  induction text generalizing before with
  | nil => rfl
  | cons character after inductionHypothesis =>
      rw [List.forall_mem_cons] at ascii
      have noDot : character.toNat ≠ 304 := by
        omega
      have noSigma : character.toNat ≠ 931 := by
        omega
      have lowered : lowerInContext before character after = [character.toLower] := by
        simp [lowerInContext, noDot, noSigma, lowerCode_eq_toLower ascii.1, Char.ofNat_toNat]
      rw [lowerAfter, lowered, inductionHypothesis ascii.2, List.map_cons, List.singleton_append]

/-- Where a character is not ASCII, its lower case is not either, or it is the sign of kelvin. -/
theorem exists_beyond_of_beyond
    {before after : List Char} {character : Char} (beyond : 128 ≤ character.toNat) :
    ∃ lowered ∈ lowerInContext before character after, 128 ≤ lowered.toNat ∨ lowered = 'k' := by
  by_cases isDotted : character.toNat = 304
  · refine ⟨Char.ofNat 775, ?_, Or.inl (by decide)⟩
    simp [lowerInContext, isDotted]
  · by_cases isSigma : character.toNat = 931
    · cases wordEnds : facesCasedLetter before && !facesCasedLetter after with
      | true =>
          refine ⟨Char.ofNat 962, ?_, Or.inl (by decide)⟩
          simp [lowerInContext, isSigma, wordEnds]
      | false =>
          refine ⟨Char.ofNat 963, ?_, Or.inl (by decide)⟩
          simp [lowerInContext, isSigma, wordEnds]
    · refine ⟨Char.ofNat (lowerCode character.toNat), ?_, ?_⟩
      · simp [lowerInContext, isDotted, isSigma]
      · generalize lowers : Char.ofNat (lowerCode character.toNat) = lowered
        have lowersTo := lowersTo_lowerCode character
        rw [lowers] at lowersTo
        cases lowersTo with
        | ascii isAscii => omega
        | itself beyond uncovered => exact Or.inl beyond
        | counterpart isRun covers leads =>
            obtain ⟨-, least, greatest⟩ := toNat_of_counterpart isRun covers leads
            obtain ⟨begins, targets, -⟩ := lowerRuns_bounds _ isRun
            obtain ⟨behindFirst, beforeLast, -⟩ := covers_iff.mp covers
            rw [← Char.toNat_inj]
            have kelvin : 'k'.toNat = 107 := rfl
            omega
        | dotAbove => exact absurd rfl isDotted
        | finalSigma => exact absurd rfl isSigma

end FormRules.Text
