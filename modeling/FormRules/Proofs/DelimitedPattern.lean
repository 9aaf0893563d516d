import FormRules.Proofs.Backtracking
import FormRules.Proofs.DelimitedText
import Mathlib

/-!
# The pattern of delimited texts

Delimited texts have a pattern: a delimiter, anything, the same delimiter again, letters, and the
end, perhaps before a line feed. The machine tries the last delimiter first and goes back from one
to the next. Only behind the last one can there be nothing but letters, so that it is the last one
that the pattern captures, or none.
-/

namespace FormRules.Pattern.Delimited

open Machine

def patternText :
    String :=
  "^([/#~!@%|+])(.*)\\1([a-zA-Z]*)$"

/-- In the pattern of delimited texts the point stands for line feeds, too. -/
def patternOptions :
    Options :=
  { Options.none with dotAll := true }

def delimiterTest :
    CharacterTest :=
  .oneOf
    ⟨false, ['/', '#', '~', '!', '@', '%', '|', '+'].map fun delimiter => .single delimiter.toNat⟩
    .unicode .exact

def letterTest :
    CharacterTest :=
  .oneOf ⟨false, [.span 97 122, .span 65 90]⟩ .unicode .exact

/-- What follows the letters. -/
def endProgram :
    Program :=
  .mark 5 (.anchor .lastLineEnd .done)

/-- What follows the second delimiter. -/
def lettersProgram :
    Program :=
  .mark 4 (.run .greedy 0 none letterTest endProgram)

/-- What follows the body. -/
def closingProgram :
    Program :=
  .mark 3 (.backreference 1 .exact lettersProgram)

def patternProgram :
    Program :=
  .anchor .textStart
    (.mark 0 (.character delimiterTest
      (.mark 1 (.mark 2 (.run .greedy 0 none (.any true) closingProgram)))))

def pattern :
    Compiled :=
  ⟨patternProgram, 3, .anywhere, 2⟩

set_option maxRecDepth 10000 in
theorem ofBody_patternText :
    Compiled.ofBody patternOptions patternText.toList = .ok pattern := by
  cbv

theorem accepts_delimiterTest
    (character : Char) :
    delimiterTest.accepts character.toNat = isDelimiter character := by
  simp only [delimiterTest, CharacterTest.accepts, CharClass.contains, List.any_map,
    Function.comp_def, ClassItem.contains, toNat_beq_toNat, Bool.bne_false, isDelimiter,
    List.contains_eq_any_beq]

theorem accepts_letterTest
    (character : Char) :
    letterTest.accepts character.toNat = isPatternLetter character := by
  simp [letterTest, isPatternLetter, CharacterTest.accepts, CharClass.contains,
    ClassItem.contains, isAsciiLetter, Bool.or_comm]

/-! ## What is ahead -/

section Ahead

variable {text rest : List Char} {place : Nat}

theorem getElem?_of_drop
    (ahead : text.drop place = rest) (index : Nat) :
    text[place + index]? = rest[index]? := by
  rw [← ahead, List.getElem?_drop]

theorem lastLineEnd_holdsAt_iff
    (inside : place ≤ text.length) :
    Place.lastLineEnd.holdsAt (codesOf text) place = true ↔
      text.drop place = [] ∨ text.drop place = ['\n'] := by
  rw [Place.holdsAt, size_codesOf, getElem?_codesOf]
  cases ahead : text.drop place with
  | nil =>
      have atEnd : place = text.length := by
        have beyond := List.drop_eq_nil_iff.mp ahead
        omega
      simp [atEnd]
  | cons character others =>
      have lengths := congrArg List.length ahead
      rw [List.length_drop, List.length_cons] at lengths
      have notEnd : (place == text.length) = false := by
        rw [beq_eq_false_iff_ne]
        omega
      have nextEnd : place + 1 = text.length ↔ others = [] := by
        rw [← List.length_eq_zero_iff]
        omega
      have first : text[place]? = some character := getElem?_of_drop ahead 0
      have isLineFeed : character.toNat = lineFeed ↔ character = '\n' := Char.toNat_inj (d := '\n')
      simp [notEnd, first, nextEnd, isLineFeed, and_comm]

/-- A run takes the characters that pass the test, and leads to what the longest part of it leads to
from which the rest does not fail. -/
theorem leadsTo_run
    {test : CharacterTest} {next : Program} {groups length : Nat} {noted : List Nat}
    {outcome : Outcome} {passing : List Char} (inside : place ≤ text.length)
    (ahead : text.drop place = passing ++ rest)
    (accepted : ∀ character ∈ passing, test.accepts character.toNat = true)
    (stops : ∀ character ∈ rest.head?, test.accepts character.toNat = false)
    (free : next.exactLetter? = none) (within : length ≤ passing.length)
    (leads : LeadsTo (codesOf text) groups next (place + length) noted outcome)
    (shortest : outcome = .failure → length = 0)
    (longer : ∀ more, length < more → more ≤ passing.length →
      LeadsTo (codesOf text) groups next (place + more) noted .failure) :
    LeadsTo (codesOf text) groups (.run .greedy 0 none test next) place noted outcome := by
  have lengths := congrArg List.length ahead
  rw [List.length_drop, List.length_append] at lengths
  have room : place ≤ (codesOf text).size := by
    rw [size_codesOf]
    exact inside
  have counted :
      test.countFrom (codesOf text)
          (min ((none : Option Nat).getD (codesOf text).size) ((codesOf text).size - place)) place =
        passing.length := by
    rw [size_codesOf, Option.getD_none, Nat.min_eq_right (Nat.sub_le _ _)]
    apply CharacterTest.countFrom_eq
    · intro index below
      have inPassing : text[place + index]? = some passing[index] := by
        rw [getElem?_of_drop ahead, List.getElem?_append_left below,
          List.getElem?_eq_getElem below]
      rw [CharacterTest.acceptsAt_codesOf, inPassing, Option.any_some]
      exact accepted _ (List.getElem_mem below)
    · omega
    · -- The run stops before another character, or where the text ends.
      right
      have behind : text[place + passing.length]? = rest.head? := by
        rw [getElem?_of_drop ahead, List.getElem?_append_right (Nat.le_refl _), Nat.sub_self,
          List.head?_eq_getElem?]
      rw [CharacterTest.acceptsAt_codesOf, behind]
      cases rest with
      | nil => rfl
      | cons character others => exact stops character rfl
  exact leadsTo_longRun room free counted within leads shortest longer

end Ahead

/-! ## From the end to the beginning -/

section Attempts

variable {text : List Char} {place : Nat} {noted : List Nat}

theorem leadsTo_end
    (inside : place ≤ text.length) (isNext : noted.length = 5)
    (ends : text.drop place = [] ∨ text.drop place = ['\n']) :
    LeadsTo (codesOf text) 3 endProgram place noted (.success place (noted ++ [place])) :=
  leadsTo_mark isNext (by decide)
    (leadsTo_anchor ((lastLineEnd_holdsAt_iff inside).mpr ends) leadsTo_done)

theorem leadsTo_end_failure
    (inside : place ≤ text.length) (isNext : noted.length = 5)
    (goesOn : ¬ (text.drop place = [] ∨ text.drop place = ['\n'])) :
    LeadsTo (codesOf text) 3 endProgram place noted .failure := by
  rw [← lastLineEnd_holdsAt_iff inside, Bool.not_eq_true] at goesOn
  exact leadsTo_mark isNext (by decide) (leadsTo_anchor_failure goesOn)

/-- All the letters are taken, and the end is there. -/
theorem leadsTo_letters
    {letters : List Char} (inside : place ≤ text.length) (isNext : noted.length = 4)
    (isEnding : IsEnding isPatternLetter (text.drop place) letters) :
    LeadsTo (codesOf text) 3 lettersProgram place noted
      (.success (place + letters.length) (noted ++ [place] ++ [place + letters.length])) := by
  obtain ⟨rest, ahead, ends⟩ := isEnding.exists_append
  have behind : text.drop (place + letters.length) = rest := by
    rw [← List.drop_drop, ahead, List.drop_left]
  have within : place + letters.length ≤ text.length := by
    have lengths := congrArg List.length ahead
    rw [List.length_drop, List.length_append] at lengths
    omega
  have accepted : ∀ letter ∈ letters, letterTest.accepts letter.toNat = true := by
    intro letter member
    rw [accepts_letterTest]
    exact List.all_eq_true.mp isEnding.known letter member
  have stops : ∀ character ∈ rest.head?, letterTest.accepts character.toNat = false := by
    rcases ends with rfl | rfl
    · intro character none
      cases none
    · intro character isLineFeed
      obtain rfl : '\n' = character := Option.some.inj isLineFeed
      decide
  refine leadsTo_mark isNext (by decide)
    (leadsTo_run inside ahead accepted stops rfl (Nat.le_refl _) ?_ nofun ?_)
  · rw [← behind] at ends
    exact leadsTo_end within (by simp [isNext]) ends
  · intro more longer within
    omega

/-- However many letters are taken, the end is not there. -/
theorem leadsTo_letters_failure
    (inside : place ≤ text.length) (isNext : noted.length = 4)
    (noEnding : ∀ letters, ¬ IsEnding isPatternLetter (text.drop place) letters) :
    LeadsTo (codesOf text) 3 lettersProgram place noted .failure := by
  have ahead : text.drop place = (text.drop place).takeWhile isPatternLetter ++
      (text.drop place).dropWhile isPatternLetter :=
    List.takeWhile_append_dropWhile.symm
  have allLetters : ∀ letter ∈ (text.drop place).takeWhile isPatternLetter,
      isPatternLetter letter = true :=
    List.all_eq_true.mp List.all_takeWhile
  have accepted : ∀ letter ∈ (text.drop place).takeWhile isPatternLetter,
      letterTest.accepts letter.toNat = true := by
    intro letter member
    rw [accepts_letterTest]
    exact allLetters letter member
  have stops : ∀ character ∈ ((text.drop place).dropWhile isPatternLetter).head?,
      letterTest.accepts character.toNat = false := by
    intro character first
    have stopped := List.head?_dropWhile_not isPatternLetter (text.drop place)
    rw [first] at stopped
    rw [accepts_letterTest]
    simpa using stopped
  have fails : ∀ more, more ≤ ((text.drop place).takeWhile isPatternLetter).length →
      LeadsTo (codesOf text) 3 endProgram (place + more) (noted ++ [place]) .failure := by
    intro more within
    have split : (text.drop place).take more ++ text.drop (place + more) = text.drop place := by
      rw [← List.drop_drop, List.take_append_drop]
    have known : ((text.drop place).take more).all isPatternLetter = true := by
      rw [ahead, List.take_append_of_le_length within, List.all_eq_true]
      exact fun letter member => allLetters letter (List.mem_of_mem_take member)
    have insideLater : place + more ≤ text.length := by
      have inText := Nat.le_trans within (List.takeWhile_prefix isPatternLetter).length_le
      rw [List.length_drop] at inText
      omega
    refine leadsTo_end_failure insideLater (by simp [isNext]) fun ends => ?_
    have isEnding := isEnding_append known ends
    rw [split] at isEnding
    exact noEnding _ isEnding
  exact leadsTo_mark isNext (by decide)
    (leadsTo_run inside ahead accepted stops rfl (Nat.zero_le _) (fails 0 (Nat.zero_le _))
      (fun _ => rfl) fun more _ within => fails more within)

theorem occursAt_first_iff
    {first : Char} {rest : List Char} :
    occursAt (codesOf (first :: rest)) .exact 0 1 place = true ↔
      (first :: rest)[place]? = some first := by
  simp only [occursAt, Nat.sub_zero, List.range_one, List.all_cons, List.all_nil, Bool.and_true,
    Nat.add_zero, getElem?_codesOf, List.getElem?_cons_zero, Option.map_some]
  cases (first :: rest)[place]? with
  | none => simp
  | some character =>
      simp only [Option.map_some, Folding.apply, beq_iff_eq, Option.some.injEq]
      rw [eq_comm]
      exact Char.toNat_inj

theorem leadsTo_closing
    {delimiter : Char} {rest ending letters : List Char}
    (ahead : (delimiter :: rest).drop place = delimiter :: ending)
    (isEnding : IsEnding isPatternLetter ending letters) :
    LeadsTo (codesOf (delimiter :: rest)) 3 closingProgram place [0, 1, 1]
      (.success (place + 1 + letters.length)
        [0, 1, 1, place, place + 1, place + 1 + letters.length]) := by
  have occurs : occursAt (codesOf (delimiter :: rest)) .exact 0 1 place = true := by
    rw [occursAt_first_iff]
    exact getElem?_of_drop ahead 0
  have behind : (delimiter :: rest).drop (place + 1) = ending := by
    rw [← List.drop_drop, ahead]
    rfl
  have inside : place + 1 ≤ (delimiter :: rest).length := by
    have lengths := congrArg List.length ahead
    simp only [List.length_drop, List.length_cons] at lengths ⊢
    omega
  rw [← behind] at isEnding
  exact leadsTo_mark rfl (by decide)
    (leadsTo_backreference rfl rfl Nat.one_pos (Nat.zero_le 1) occurs
      (leadsTo_letters inside rfl isEnding))

theorem leadsTo_closing_failure
    {delimiter : Char} {rest : List Char}
    (unclosed : ∀ ending letters, (delimiter :: rest).drop place = delimiter :: ending →
      ¬ IsEnding isPatternLetter ending letters) :
    LeadsTo (codesOf (delimiter :: rest)) 3 closingProgram place [0, 1, 1] .failure := by
  refine leadsTo_mark rfl (by decide) ?_
  by_cases occurs : (delimiter :: rest)[place]? = some delimiter
  · obtain ⟨below, same⟩ := List.getElem?_eq_some_iff.mp occurs
    have ahead := List.drop_eq_getElem_cons below
    rw [same] at ahead
    exact leadsTo_backreference rfl rfl Nat.one_pos (Nat.zero_le 1) (occursAt_first_iff.mpr occurs)
      (leadsTo_letters_failure below rfl fun letters => unclosed _ letters ahead)
  · have missing : occursAt (codesOf (delimiter :: rest)) .exact 0 1 place = false := by
      rw [← Bool.not_eq_true, occursAt_first_iff]
      exact occurs
    exact leadsTo_backreference_failure rfl rfl Nat.one_pos (Nat.zero_le 1) missing

/-- Behind the first delimiter the body is tried as long as possible. -/
theorem leadsTo_patternProgram
    {delimiter : Char} {rest : List Char} {length : Nat} {outcome : Outcome}
    (delimits : isDelimiter delimiter = true) (within : length ≤ rest.length)
    (leads : LeadsTo (codesOf (delimiter :: rest)) 3 closingProgram (1 + length) [0, 1, 1] outcome)
    (shortest : outcome = .failure → length = 0)
    (longer : ∀ more, length < more → more ≤ rest.length →
      LeadsTo (codesOf (delimiter :: rest)) 3 closingProgram (1 + more) [0, 1, 1] .failure) :
    LeadsTo (codesOf (delimiter :: rest)) 3 patternProgram 0 [] outcome := by
  have accepted : delimiterTest.acceptsAt (codesOf (delimiter :: rest)) 0 = true := by
    rw [CharacterTest.acceptsAt_codesOf, List.getElem?_cons_zero, Option.any_some,
      accepts_delimiterTest, delimits]
  have ahead : (delimiter :: rest).drop 1 = rest ++ [] := by simp
  refine leadsTo_anchor rfl (leadsTo_mark rfl (by decide) (leadsTo_character accepted
    (leadsTo_mark rfl (by decide) (leadsTo_mark rfl (by decide) ?_))))
  exact leadsTo_run (by simp) ahead (fun _ _ => rfl) (fun _ none => nomatch none) rfl within leads
    shortest longer

/-- A delimited text is matched, with its body and its letters as groups. -/
theorem leadsTo_of_isDelimited
    {body letters : List Char} (isDelimited : IsDelimited isPatternLetter text body letters) :
    LeadsTo (codesOf text) 3 patternProgram 0 []
      (.success (1 + body.length + 1 + letters.length)
        [0, 1, 1, 1 + body.length, 1 + body.length + 1, 1 + body.length + 1 + letters.length]) := by
  obtain @⟨delimiter, ending, _, delimits, body, isEnding⟩ := isDelimited
  have ahead : ∀ more, (delimiter :: (body ++ delimiter :: ending)).drop (1 + more) =
      (body ++ delimiter :: ending).drop more := by
    intro more
    rw [Nat.add_comm, List.drop_succ_cons]
  refine leadsTo_patternProgram delimits (by simp) (leadsTo_closing ?_ isEnding) nofun ?_
  · rw [ahead, List.drop_left]
  · intro more longer _
    obtain ⟨beyond, rfl⟩ : ∃ beyond, more = body.length + (beyond + 1) :=
      ⟨more - body.length - 1, by omega⟩
    refine leadsTo_closing_failure fun otherEnding otherLetters aheadToo _ => ?_
    rw [ahead, ← List.drop_drop, List.drop_left, List.drop_succ_cons] at aheadToo
    have member : delimiter ∈ ending.drop beyond := by
      rw [aheadToo]
      exact List.mem_cons_self
    exact isEnding.delimiter_not_mem delimits (List.mem_of_mem_drop member)

/-- Any other text is not matched. -/
theorem leadsTo_failure
    (notDelimited : ∀ body letters, ¬ IsDelimited isPatternLetter text body letters) :
    LeadsTo (codesOf text) 3 patternProgram 0 [] .failure := by
  cases text with
  | nil => exact leadsTo_anchor rfl (leadsTo_mark rfl (by decide) (leadsTo_character_failure rfl))
  | cons first rest =>
      cases delimits : isDelimiter first with
      | false =>
          have refused : delimiterTest.acceptsAt (codesOf (first :: rest)) 0 = false := by
            rw [CharacterTest.acceptsAt_codesOf, List.getElem?_cons_zero, Option.any_some,
              accepts_delimiterTest, delimits]
          exact leadsTo_anchor rfl
            (leadsTo_mark rfl (by decide) (leadsTo_character_failure refused))
      | true =>
          have fails : ∀ more,
              LeadsTo (codesOf (first :: rest)) 3 closingProgram (1 + more) [0, 1, 1] .failure := by
            intro more
            refine leadsTo_closing_failure fun ending letters ahead isEnding => ?_
            rw [Nat.add_comm, List.drop_succ_cons] at ahead
            have split := List.take_append_drop more rest
            rw [ahead] at split
            rw [← split] at notDelimited
            exact notDelimited _ letters (.intro delimits _ isEnding)
          exact leadsTo_patternProgram delimits (Nat.zero_le _) (fails 0) (fun _ => rfl)
            fun more _ _ => fails more

end Attempts

/-! ## What is captured -/

/-- The machine for a match at the beginning of the text, after so many steps. -/
def machineAfter
    (compiled : Compiled) (text : List Char) (most : Nat) :
    Machine :=
  Machine.run (codesOf text) most
    ⟨.attempt compiled.program 0 [], [], 0, .ofGroups compiled.groups⟩

/-- The pattern of delimited texts can be read. A match at the beginning of the text succeeds, if
there are enough steps, and captures the body and the letters. -/
def Captures
    (text body letters : List Char) :
    Prop :=
  ∃ compiled enough, Compiled.ofBody patternOptions patternText.toList = .ok compiled ∧
    ∀ most, enough ≤ most →
      (machineAfter compiled text most).hasSucceeded = true ∧
        ∃ found, compiled.foundBy (machineAfter compiled text most) 0 = .ok found ∧
          found.captured text 2 = some body ∧ found.captured text 3 = some letters

/-- What an attempt leads to is what a run with enough steps ends with. -/
theorem exists_machineAfter
    {text : List Char} {outcome : Outcome}
    (leads : LeadsTo (codesOf text) 3 patternProgram 0 [] outcome) :
    ∃ last, outcome.IsNews 3 [] [] last ∧
      ∃ enough, ∀ most, enough ≤ most → machineAfter pattern text most = last := by
  have nothingWaits : AwaitsOnlyFailure [] := by
    simp [AwaitsOnlyFailure]
  obtain ⟨count, last, steps, news⟩ :=
    leads [] 0 (.ofGroups 3) nothingWaits (Marks.hold_ofGroups 3)
  have halted : last.step? (codesOf text) = none := by
    cases news <;> rfl
  exact ⟨last, news, count, fun most enough => run_of_steps steps halted enough⟩

theorem captures_of_isDelimited
    {text body letters : List Char} (isDelimited : IsDelimited isPatternLetter text body letters) :
    Captures text body letters := by
  obtain ⟨last, news, enough, ended⟩ := exists_machineAfter (leadsTo_of_isDelimited isDelimited)
  refine ⟨pattern, enough, ofBody_patternText, fun most isEnough => ?_⟩
  rw [ended most isEnough]
  cases news with
  | @success _ _ marks hold =>
      have first : marks.places? 1 = some (0, 1) := hold.places?_eq rfl rfl (by decide)
      have second : marks.places? 2 = some (1, 1 + body.length) :=
        hold.places?_eq rfl rfl (by decide)
      have third : marks.places? 3 =
          some (1 + body.length + 1, 1 + body.length + 1 + letters.length) :=
        hold.places?_eq rfl rfl (by decide)
      have ordered : ¬ 1 + body.length + 1 + letters.length < 1 + body.length + 1 := by
        omega
      obtain @⟨delimiter, ending, _, delimits, body, isEnding⟩ := isDelimited
      obtain ⟨rest, rfl, _⟩ := isEnding.exists_append
      refine ⟨rfl, ⟨0, 1 + body.length + 1 + letters.length, [some (0, 1),
        some (1, 1 + body.length),
        some (1 + body.length + 1, 1 + body.length + 1 + letters.length)]⟩, ?_, ?_, ?_⟩
      · simp [Compiled.foundBy, pattern, List.range_succ, first, second, third, ordered]
      · have split : delimiter :: (body ++ delimiter :: (letters ++ rest)) =
            [delimiter] ++ body ++ delimiter :: (letters ++ rest) := by
          simp
        exact Found.captured_eq split rfl rfl rfl
      · have split : delimiter :: (body ++ delimiter :: (letters ++ rest)) =
            (delimiter :: body ++ [delimiter]) ++ letters ++ rest := by
          simp
        have starts : (delimiter :: body ++ [delimiter]).length = 1 + body.length + 1 := by
          simp [Nat.add_comm]
        exact Found.captured_eq split rfl starts rfl

/-- The pattern captures the body and the letters of delimited texts, and nothing else. -/
theorem captures_iff
    {text body letters : List Char} :
    Captures text body letters ↔ IsDelimited isPatternLetter text body letters := by
  refine ⟨fun captures => ?_, captures_of_isDelimited⟩
  obtain ⟨compiled, enough, read, captured⟩ := captures
  obtain rfl : pattern = compiled := Except.ok.inj (ofBody_patternText.symm.trans read)
  by_cases delimited : ∃ otherBody otherLetters,
      IsDelimited isPatternLetter text otherBody otherLetters
  · obtain ⟨otherBody, otherLetters, isDelimited⟩ := delimited
    obtain ⟨_, otherEnough, otherRead, otherCaptured⟩ := captures_of_isDelimited isDelimited
    cases ofBody_patternText.symm.trans otherRead
    -- A run that is long enough for both captures one body and one list of letters.
    obtain ⟨_, found, isFound, bodyFound, lettersFound⟩ :=
      captured (max enough otherEnough) (Nat.le_max_left _ _)
    obtain ⟨_, otherFound, isOtherFound, otherBodyFound, otherLettersFound⟩ :=
      otherCaptured (max enough otherEnough) (Nat.le_max_right _ _)
    obtain rfl : found = otherFound := Except.ok.inj (isFound.symm.trans isOtherFound)
    obtain rfl : body = otherBody := Option.some.inj (bodyFound.symm.trans otherBodyFound)
    obtain rfl : letters = otherLetters :=
      Option.some.inj (lettersFound.symm.trans otherLettersFound)
    exact isDelimited
  · obtain ⟨last, news, otherEnough, ended⟩ := exists_machineAfter
      (leadsTo_failure fun otherBody otherLetters isDelimited =>
        delimited ⟨otherBody, otherLetters, isDelimited⟩)
    have succeeded := (captured (max enough otherEnough) (Nat.le_max_left _ _)).1
    rw [ended _ (Nat.le_max_right _ _)] at succeeded
    cases news with
    | failure => cases succeeded

end FormRules.Pattern.Delimited
