import FormRules.Proofs.DelimitedPattern
import FormRules.Proofs.PatternLanguage
import FormRules.Proofs.Settling

/-!
# Machines for plain patterns

The program of a plain pattern matches the texts that the pattern describes. One part of a program
is followed by another, so what is said of a part is said for whatever follows it: if that settles
a condition at every place, then the part settles that the condition holds behind a text that it
describes. This is shown for single characters, runs, alternatives and rounds, and put together
along the pattern.

So a plain pattern with the end of the text behind it answers for a whole text whether it describes
the text.
-/

namespace FormRules.Pattern

open Machine

/-- What is ahead begins with a text of a kind, and the condition holds behind it. -/
def Leads
    (text : List Char) (kind : List Char → Prop) (conditions : Nat → Prop) (place : Nat) :
    Prop :=
  ∃ word, word <+: text.drop place ∧ kind word ∧ conditions (place + word.length)

/-- A part of a program matches the texts of a kind: an attempt with it comes to an end if what
follows does, and it succeeds exactly if what follows succeeds behind a text of that kind. -/
def Matches
    (text : List Char) (part : Program → Program) (kind : List Char → Prop) :
    Prop :=
  ∀ next around conditions place, place ≤ text.length →
    (∀ stop, place ≤ stop → stop ≤ text.length →
      Settles (codesOf text) next stop around (conditions stop)) →
    Settles (codesOf text) (part next) place around (Leads text kind conditions place)

section Parts

variable {text : List Char}

theorem length_le_of_ahead
    {word : List Char} {place : Nat} (inside : place ≤ text.length)
    (ahead : word <+: text.drop place) :
    place + word.length ≤ text.length := by
  have within := ahead.length_le
  rw [List.length_drop] at within
  omega

theorem append_ahead_iff
    {first second ahead : List Char} :
    first ++ second <+: ahead ↔ first <+: ahead ∧ second <+: ahead.drop first.length := by
  constructor
  · rintro ⟨rest, rfl⟩
    exact ⟨⟨second ++ rest, by simp⟩, ⟨rest, by simp⟩⟩
  · rintro ⟨⟨between, rfl⟩, rest, split⟩
    rw [List.drop_left] at split
    exact ⟨rest, by rw [← split, List.append_assoc]⟩

theorem matches_nothing :
    Matches text (fun next => next) (· = []) := by
  intro next around conditions place inside settles
  refine (settles place (Nat.le_refl _) inside).congr ?_
  simp [Leads]

/-- One part of a program behind another. -/
theorem Matches.append
    {first second : Program → Program} {kind other : List Char → Prop}
    (matchesFirst : Matches text first kind) (matchesSecond : Matches text second other) :
    Matches text (fun next => first (second next))
      (fun word => ∃ before after, word = before ++ after ∧ kind before ∧ other after) := by
  intro next around conditions place inside settles
  have later := matchesFirst (second next) around (Leads text other conditions) place inside
    fun stop beyond within => matchesSecond next around conditions stop within
      fun last behind inText => settles last (Nat.le_trans beyond behind) inText
  refine later.congr ?_
  constructor
  · rintro ⟨before, ahead, isKind, after, aheadLater, isOther, holds⟩
    refine ⟨before ++ after, ?_, ⟨before, after, rfl, isKind, isOther⟩, ?_⟩
    · rw [append_ahead_iff, List.drop_drop]
      exact ⟨ahead, aheadLater⟩
    · rw [List.length_append, ← Nat.add_assoc]
      exact holds
  · rintro ⟨_, ahead, ⟨before, after, rfl, isKind, isOther⟩, holds⟩
    rw [append_ahead_iff, List.drop_drop] at ahead
    rw [List.length_append, ← Nat.add_assoc] at holds
    exact ⟨before, ahead.1, isKind, after, ahead.2, isOther, holds⟩

theorem matches_character
    (test : CharacterTest) :
    Matches text (.character test) test.Describes := by
  intro next around conditions place inside settles
  have settled : Settles (codesOf text) (.character test next) place around
      (test.acceptsAt (codesOf text) place = true ∧ conditions (place + 1)) := by
    refine settles_character fun accepted => settles (place + 1) (Nat.le_succ place) ?_
    rw [CharacterTest.acceptsAt_codesOf, Option.any_eq_true] at accepted
    obtain ⟨character, found, -⟩ := accepted
    exact (List.getElem?_eq_some_iff.mp found).1
  refine settled.congr ?_
  rw [CharacterTest.acceptsAt_codesOf, ← List.head?_drop, Leads]
  cases text.drop place with
  | nil => simp [CharacterTest.Describes]
  | cons character rest =>
      constructor
      · rintro ⟨accepted, holds⟩
        exact ⟨[character], ⟨rest, rfl⟩, ⟨character, rfl, accepted⟩, holds⟩
      · rintro ⟨_, ahead, ⟨other, rfl, accepted⟩, holds⟩
        obtain rfl : other = character := (List.cons_prefix_cons.mp ahead).1
        exact ⟨accepted, holds⟩

/-- The characters that a run passes are those up to the first one that the test does not accept,
and no more than are allowed. -/
theorem exists_count
    (test : CharacterTest) (codes : Array Nat) (most place : Nat) :
    ∃ count ≤ most, (∀ index < count, test.acceptsAt codes (place + index) = true) ∧
      (count = most ∨ test.acceptsAt codes (place + count) = false) := by
  induction most with
  | zero => exact ⟨0, Nat.le_refl 0, by omega, Or.inl rfl⟩
  | succ most inductionHypothesis =>
      obtain ⟨count, few, passing, rfl | stops⟩ := inductionHypothesis
      · cases accepted : test.acceptsAt codes (place + count) with
        | false => exact ⟨count, by omega, passing, Or.inr accepted⟩
        | true =>
            refine ⟨count + 1, Nat.le_refl _, fun index below => ?_, Or.inl rfl⟩
            rcases Nat.lt_succ_iff_lt_or_eq.mp below with before | rfl
            · exact passing index before
            · exact accepted
      · exact ⟨count, by omega, passing, Or.inr stops⟩

theorem acceptsAt_of_ahead
    {word : List Char} {place index : Nat} (test : CharacterTest) (ahead : word <+: text.drop place)
    (below : index < word.length) :
    test.acceptsAt (codesOf text) (place + index) = test.accepts word[index].toNat := by
  rw [CharacterTest.acceptsAt_codesOf, ← List.getElem?_drop,
    List.prefix_iff_getElem?.mp ahead index below, Option.any_some]

/-- What a run can pass is what is ahead and consists of characters that the test accepts. -/
theorem isMadeOf_ahead_iff
    {test : CharacterTest} {least count place : Nat} {greatest : Option Nat} {word : List Char}
    (few : count ≤ min (greatest.getD (codesOf text).size) ((codesOf text).size - place))
    (passing : ∀ index < count, test.acceptsAt (codesOf text) (place + index) = true)
    (stops : count = min (greatest.getD (codesOf text).size) ((codesOf text).size - place) ∨
      test.acceptsAt (codesOf text) (place + count) = false)
    (inside : place ≤ text.length) (ahead : word <+: text.drop place) :
    IsMadeOf test.Describes least greatest word ↔ least ≤ word.length ∧ word.length ≤ count := by
  have size := size_codesOf text
  have within := length_le_of_ahead inside ahead
  rw [isMadeOf_test_iff]
  constructor
  · rintro ⟨enough, bounded, accepted⟩
    refine ⟨enough, ?_⟩
    by_contra longer
    have shorter : count < word.length := Nat.not_le.mp longer
    rcases stops with isMost | refused
    · cases greatest with
      | none => rw [Option.getD_none] at isMost; omega
      | some most =>
          have atMost := bounded most rfl
          rw [Option.getD_some] at isMost
          omega
    · rw [acceptsAt_of_ahead test ahead shorter, accepted _ (List.getElem_mem shorter)] at refused
      cases refused
  · rintro ⟨enough, short⟩
    refine ⟨enough, ?_, ?_⟩
    · rintro most isGreatest
      rw [Option.mem_def.mp isGreatest, Option.getD_some] at few
      omega
    · intro character member
      obtain ⟨index, below, rfl⟩ := List.getElem_of_mem member
      rw [← acceptsAt_of_ahead test ahead below]
      exact passing index (by omega)

/-- A run of characters. -/
theorem matches_run
    (test : CharacterTest) (least : Nat) (greatest : Option Nat) :
    Matches text (.run .greedy least greatest test) (IsMadeOf test.Describes least greatest) := by
  intro next around conditions place inside settles
  obtain ⟨count, few, passing, stops⟩ := exists_count test (codesOf text)
    (min (greatest.getD (codesOf text).size) ((codesOf text).size - place)) place
  have counted := CharacterTest.countFrom_eq place passing few stops
  have size := size_codesOf text
  have fits : place + count ≤ (codesOf text).size := by
    omega
  have settled : Settles (codesOf text) (.run .greedy least greatest test next) place around
      (∃ more, least ≤ more ∧ more ≤ count ∧ conditions (place + more)) :=
    settles_run fits counted fun more _ within => settles (place + more) (by omega) (by omega)
  refine settled.congr ⟨?_, ?_⟩
  · rintro ⟨more, enough, within, holds⟩
    have length : ((text.drop place).take more).length = more := by
      rw [List.length_take, List.length_drop]
      omega
    have ahead : (text.drop place).take more <+: text.drop place := List.take_prefix more _
    refine ⟨_, ahead, ?_, by rwa [length]⟩
    rw [isMadeOf_ahead_iff few passing stops inside ahead, length]
    exact ⟨enough, within⟩
  · rintro ⟨word, ahead, isRun, holds⟩
    obtain ⟨enough, within⟩ :=
      (isMadeOf_ahead_iff few passing stops inside ahead).mp isRun
    exact ⟨word.length, enough, within, holds⟩

theorem matches_choice
    {alternatives : List (List Node)}
    (parts : ∀ alternative ∈ alternatives,
      Matches text (Node.programOfAll alternative) (Node.DescribesAll alternative)) :
    Matches text (fun next => .choice (Node.programsOfChoice alternatives next))
      (Node.DescribesSome alternatives) := by
  intro next around conditions place inside settles
  have programs : Node.programsOfChoice alternatives next =
      alternatives.map fun alternative => Node.programOfAll alternative next := by
    induction alternatives with
    | nil => rfl
    | cons alternative others inductionHypothesis =>
        rw [List.forall_mem_cons] at parts
        rw [Node.programsOfChoice, inductionHypothesis parts.2, List.map_cons]
  dsimp only
  rw [programs]
  have settled := settles_choice fun alternative member =>
    parts alternative member next around conditions place inside settles
  refine settled.congr ?_
  simp only [Leads, Node.describesSome_iff]
  constructor
  · rintro ⟨alternative, member, word, ahead, described, holds⟩
    exact ⟨word, ahead, ⟨alternative, member, described⟩, holds⟩
  · rintro ⟨word, ahead, ⟨alternative, member, described⟩, holds⟩
    exact ⟨alternative, member, word, ahead, described, holds⟩

end Parts

/-! ## Rounds -/

section Rounds

variable {text : List Char} {part : Program → Program} {kind : List Char → Prop} {least : Nat}
  {greatest : Option Nat} {next : Program} {around : List Repetition} {conditions : Nat → Prop}

/-- What waits behind the last round. -/
theorem ends_leave
    {condition : Prop} {codes : Array Nat} {place : Nat}
    (settles : Settles codes next place around condition) (machine : Machine)
    (givesWay : ∀ waiting ∈ machine.pile, GivesWay waiting) :
    Ends codes (machine.goBefore (.back place) next place around) machine.pile condition := by
  have backFails : ∀ left marks,
      Ends codes ⟨.failed, .back place :: machine.pile, left, marks⟩ machine.pile False :=
    fun left marks => .of_step rfl (ends_fail ⟨.failed, machine.pile, place, marks⟩ id)
  exact (ends_goBefore givesWay (fun _ => rfl) settles backFails).congr (or_iff_left id)

/-- Rounds that follow those that have been begun lead from the place to where the condition holds.
-/
def RoundsLead
    (text : List Char) (kind : List Char → Prop) (least : Nat) (greatest : Option Nat)
    (conditions : Nat → Prop) (begun place : Nat) :
    Prop :=
  ∃ parts : List (List Char), parts.flatten <+: text.drop place ∧ least ≤ begun + parts.length ∧
    (∀ most ∈ greatest, begun + parts.length ≤ most) ∧ (∀ part ∈ parts, kind part) ∧
    conditions (place + parts.flatten.length)

theorem allowsMore_iff
    {greatest : Option Nat} {count : Nat} :
    allowsMore greatest count = true ↔ ∀ most ∈ greatest, count < most := by
  cases greatest <;> simp [allowsMore]

/-- A round that is due begins, and the rounds behind it lead on. -/
theorem leads_roundsLead_iff
    {begun place : Nat} (due : begun < least) :
    Leads text kind (RoundsLead text kind least greatest conditions (begun + 1)) place ↔
      RoundsLead text kind least greatest conditions begun place := by
  constructor
  · rintro ⟨word, ahead, isKind, parts, aheadLater, enough, few, areKind, holds⟩
    refine ⟨word :: parts, ?_, ?_, ?_, List.forall_mem_cons.mpr ⟨isKind, areKind⟩, ?_⟩
    · rw [List.flatten_cons, append_ahead_iff, List.drop_drop]
      exact ⟨ahead, aheadLater⟩
    · rw [List.length_cons]
      omega
    · intro most isGreatest
      have within := few most isGreatest
      rw [List.length_cons]
      omega
    · rw [List.flatten_cons, List.length_append, ← Nat.add_assoc]
      exact holds
  · rintro ⟨parts, ahead, enough, few, areKind, holds⟩
    cases parts with
    | nil =>
        rw [List.length_nil] at enough
        omega
    | cons word parts =>
        rw [List.forall_mem_cons] at areKind
        rw [List.flatten_cons, append_ahead_iff, List.drop_drop] at ahead
        rw [List.flatten_cons, List.length_append, ← Nat.add_assoc] at holds
        rw [List.length_cons] at enough few
        refine ⟨word, ahead.1, areKind.1, parts, ahead.2, by omega, ?_, areKind.2, holds⟩
        intro most isGreatest
        have within := few most isGreatest
        omega

/-- Rounds in which nothing is taken can be left out if no round is due. -/
theorem roundsLead_of_enough
    {begun place : Nat} (enough : least ≤ begun)
    (leads : RoundsLead text kind least greatest conditions begun place) :
    RoundsLead text (fun part => part ≠ [] ∧ kind part) least greatest conditions begun place := by
  obtain ⟨parts, ahead, -, few, areKind, holds⟩ := leads
  have same : (parts.filter (! ·.isEmpty)).flatten = parts.flatten :=
    List.flatten_filter_not_isEmpty
  refine ⟨parts.filter (! ·.isEmpty), ?_, by omega, ?_, ?_, ?_⟩
  · rwa [same]
  · intro most isGreatest
    have within := few most isGreatest
    have fewer := List.length_filter_le (! ·.isEmpty) parts
    omega
  · intro part member
    rw [List.mem_filter] at member
    exact ⟨by simpa using member.2, areKind part member.1⟩
  · rwa [same]

/-- Where no round is due, one more round that takes something leads on, or none has to. -/
theorem roundsLead_iff_of_enough
    {begun place : Nat} (enough : least ≤ begun) (room : ∀ most ∈ greatest, begun < most) :
    RoundsLead text kind least greatest conditions begun place ↔
      Leads text kind
          (fun stop => stop = place ∧ conditions place ∨
            place < stop ∧ RoundsLead text kind least greatest conditions (begun + 1) stop)
          place ∨
        conditions place := by
  constructor
  · intro leads
    obtain ⟨parts, ahead, -, few, areKind, holds⟩ := roundsLead_of_enough enough leads
    cases parts with
    | nil => exact Or.inr (by simpa using holds)
    | cons word parts =>
        rw [List.forall_mem_cons] at areKind
        obtain ⟨⟨notEmpty, isKind⟩, others⟩ := areKind
        rw [List.flatten_cons, append_ahead_iff, List.drop_drop] at ahead
        rw [List.flatten_cons, List.length_append, ← Nat.add_assoc] at holds
        rw [List.length_cons] at few
        have further : place < place + word.length :=
          Nat.lt_add_of_pos_right (List.length_pos_iff.mpr notEmpty)
        refine Or.inl ⟨word, ahead.1, isKind, Or.inr ⟨further, parts, ahead.2, by omega, ?_,
          fun part member => (others part member).2, holds⟩⟩
        intro most isGreatest
        have within := few most isGreatest
        omega
  · have leaves : conditions place →
        RoundsLead text kind least greatest conditions begun place := by
      intro holds
      refine ⟨[], List.nil_prefix, by simpa using enough, ?_, by simp, by simpa using holds⟩
      intro most isGreatest
      exact Nat.le_of_lt (room most isGreatest)
    rintro (⟨word, ahead, isKind, ⟨-, holds⟩ | ⟨further, leads⟩⟩ | holds)
    · exact leaves holds
    · obtain ⟨parts, aheadLater, -, few, areKind, holds⟩ := leads
      refine ⟨word :: parts, ?_, by omega, ?_, List.forall_mem_cons.mpr ⟨isKind, areKind⟩, ?_⟩
      · rw [List.flatten_cons, append_ahead_iff, List.drop_drop]
        exact ⟨ahead, aheadLater⟩
      · intro most isGreatest
        have within := few most isGreatest
        rw [List.length_cons]
        omega
      · rw [List.flatten_cons, List.length_append, ← Nat.add_assoc]
        exact holds
    · exact leaves holds

/-- Where no further round is allowed, none leads on. -/
theorem roundsLead_iff_of_full
    {begun place : Nat} (enough : least ≤ begun) (fits : ∀ most ∈ greatest, begun ≤ most)
    (full : allowsMore greatest begun = false) :
    RoundsLead text kind least greatest conditions begun place ↔ conditions place := by
  constructor
  · rintro ⟨parts, -, -, few, -, holds⟩
    have none : parts = [] := by
      rw [← Bool.not_eq_true, allowsMore_iff] at full
      push Not at full
      obtain ⟨most, isGreatest, atMost⟩ := full
      have within := few most isGreatest
      exact List.length_eq_zero_iff.mp (by omega)
    simpa [none] using holds
  · intro holds
    exact ⟨[], List.nil_prefix, by simpa using enough, by simpa using fits, by simp,
      by simpa using holds⟩

/-- No further round is tried: what follows the rounds decides. -/
theorem settles_again_closed
    {codes : Array Nat} {body : Program} {begun place : Nat} {last : Option Nat} {condition : Prop}
    (enough : least ≤ begun) (closed : (allowsMore greatest begun && last != some place) = false)
    (settles : Settles codes next place around condition) :
    Settles codes (.again false next) place (⟨least, greatest, body, begun, last⟩ :: around)
      condition := by
  intro machine givesWay
  have step : (machine.go (.again false next) place
        (⟨least, greatest, body, begun, last⟩ :: around)).step? codes =
      some (machine.goBefore (.back place) next place around) := by
    simp [step?, attempt, go, betweenRounds, goBefore, Nat.not_lt.mpr enough, closed]
  exact .of_step step (ends_leave settles machine givesWay)

/-- Where no round is due, further rounds are tried until the rest succeeds behind one. The rounds
that take something come to an end with the text, and behind a round that takes nothing none is
tried. -/
theorem settles_again_of_enough
    (matchesPart : Matches text part kind) {begun place : Nat} {last : Option Nat}
    (inside : place ≤ text.length) (enough : least ≤ begun) (fits : ∀ most ∈ greatest, begun ≤ most)
    (fresh : last ≠ some place)
    (settles : ∀ stop, place ≤ stop → stop ≤ text.length →
      Settles (codesOf text) next stop around (conditions stop)) :
    Settles (codesOf text) (.again false next) place
      (⟨least, greatest, part (.again false next), begun, last⟩ :: around)
      (RoundsLead text kind least greatest conditions begun place) := by
  induction ahead : text.length - place using Nat.strongRecOn generalizing begun place last with
  | ind remaining inductionHypothesis =>
      cases more : allowsMore greatest begun with
      | false =>
          refine (settles_again_closed enough (by simp [more])
            (settles place (Nat.le_refl place) inside)).congr ?_
          exact (roundsLead_iff_of_full enough fits more).symm
      | true =>
          have room := allowsMore_iff.mp more
          have settledPart := matchesPart (.again false next)
            (⟨least, greatest, part (.again false next), begun + 1, some place⟩ :: around)
            (fun stop => stop = place ∧ conditions place ∨
              place < stop ∧ RoundsLead text kind least greatest conditions (begun + 1) stop)
            place inside fun stop beyond within => by
              rcases Nat.eq_or_lt_of_le beyond with rfl | further
              · refine (settles_again_closed (by omega) (by simp)
                  (settles place (Nat.le_refl place) inside)).congr ?_
                simp
              · refine (inductionHypothesis (text.length - stop) (by omega) within (by omega)
                  room (by simp; omega)
                  (fun last behind inText => settles last (Nat.le_trans beyond behind) inText)
                  rfl).congr ?_
                have other : stop ≠ place := by omega
                simp [other, further]
          intro machine givesWay
          have elsewhere : (last != some place) = true := by
            simpa using fresh
          have step : (machine.go (.again false next) place
                (⟨least, greatest, part (.again false next), begun, last⟩ :: around)).step?
                (codesOf text) =
              some (machine.goBefore (.afterRounds next place around machine.marks)
                (part (.again false next)) place
                (⟨least, greatest, part (.again false next), begun + 1, some place⟩ ::
                  around)) := by
            simp [step?, attempt, go, betweenRounds, goBefore, Nat.not_lt.mpr enough, more,
              elsewhere, Repetition.nextAt, Repetition.next]
          have leave : ∀ left marks,
              Ends (codesOf text)
                ⟨.failed, .afterRounds next place around machine.marks :: machine.pile, left, marks⟩
                machine.pile (conditions place) :=
            fun left marks => .of_step rfl
              (ends_leave (settles place (Nat.le_refl place) inside)
                ⟨.failed, machine.pile, left, machine.marks⟩ givesWay)
          exact .of_step step ((ends_goBefore givesWay (fun _ => rfl) settledPart leave).congr
            (roundsLead_iff_of_enough enough room).symm)

/-- Rounds that are due are tried one after the other, and then further ones. -/
theorem settles_again
    (matchesPart : Matches text part kind) {begun place : Nat} (inside : place ≤ text.length)
    (fits : ∀ most ∈ greatest, begun ≤ most) (room : ∀ most ∈ greatest, least ≤ most)
    (settles : ∀ stop, place ≤ stop → stop ≤ text.length →
      Settles (codesOf text) next stop around (conditions stop)) :
    Settles (codesOf text) (.again false next) place
      (⟨least, greatest, part (.again false next), begun, none⟩ :: around)
      (RoundsLead text kind least greatest conditions begun place) := by
  induction due : least - begun generalizing begun place with
  | zero => exact settles_again_of_enough matchesPart inside (by omega) fits (by simp) settles
  | succ others inductionHypothesis =>
      have isDue : begun < least := by omega
      have fitsNext : ∀ most ∈ greatest, begun + 1 ≤ most :=
        fun most isGreatest => Nat.le_trans isDue (room most isGreatest)
      have settledPart := matchesPart (.again false next)
        (⟨least, greatest, part (.again false next), begun + 1, none⟩ :: around)
        (RoundsLead text kind least greatest conditions (begun + 1)) place inside
        fun stop beyond within => inductionHypothesis within fitsNext
          (fun last behind inText => settles last (Nat.le_trans beyond behind) inText) (by omega)
      intro machine givesWay
      have step : (machine.go (.again false next) place
            (⟨least, greatest, part (.again false next), begun, none⟩ :: around)).step?
            (codesOf text) =
          some (machine.goBefore (.back place) (part (.again false next)) place
            (⟨least, greatest, part (.again false next), begun + 1, none⟩ :: around)) := by
        simp [step?, attempt, go, betweenRounds, goBefore, isDue, Repetition.next]
      exact .of_step step ((ends_leave settledPart machine givesWay).congr
        (leads_roundsLead_iff isDue))

/-- A repetition that is not one run of characters. -/
theorem Matches.rounds
    (matchesPart : Matches text part kind) (room : ∀ most ∈ greatest, least ≤ most) :
    Matches text
      (fun next => .rounds least greatest (part (.again false next)) (.again false next))
      (IsMadeOf kind least greatest) := by
  intro next around conditions place inside settles machine givesWay
  have settled := settles_again matchesPart inside (fun most _ => Nat.zero_le most) room settles
  refine .of_step rfl
    ((settled { machine with left := place } givesWay).congr ?_)
  simp only [RoundsLead, Leads, Nat.zero_add]
  constructor
  · rintro ⟨parts, ahead, enough, few, areKind, holds⟩
    exact ⟨_, ahead, ⟨parts, rfl, enough, few, areKind⟩, holds⟩
  · rintro ⟨_, ahead, ⟨parts, rfl, enough, few, areKind⟩, holds⟩
    exact ⟨parts, ahead, enough, few, areKind, holds⟩

end Rounds

/-! ## Plain patterns -/

namespace Node

variable (text : List Char)

mutual

/-- The program of a plain node matches what the node describes. -/
theorem matches_program
    (node : Node) (plain : node.every isPlain = true) :
    Matches text node.program node.Describes := by
  cases node with
  | letter code negated folding => exact matches_character _
  | oneOf members alphabet folding => exact matches_character _
  | anyCharacter lineFeedToo => exact matches_character _
  | choice alternatives =>
      simp only [every, Bool.and_eq_true] at plain
      exact matches_choice (matches_programsOfChoice alternatives plain.2)
  | enclosed body =>
      simp only [every, Bool.and_eq_true] at plain
      exact matches_programOfAll body plain.2
  | underOptions body =>
      simp only [every, Bool.and_eq_true] at plain
      exact matches_programOfAll body plain.2
  | repeated eagerness least greatest body =>
      simp only [every, Bool.and_eq_true] at plain
      obtain ⟨plainHere, plainBody⟩ := plain
      cases eagerness with
      | greedy =>
          have room : ∀ most ∈ greatest, least ≤ most := by
            simpa [isPlain, Option.all_eq_true] using plainHere
          cases isTest : singleTest? body with
          | some test =>
              have run : (repeated .greedy least greatest body).program =
                  .run .greedy least greatest test := by
                funext next
                simp [program, isTest]
              have described : (repeated .greedy least greatest body).Describes =
                  IsMadeOf test.Describes least greatest := by
                funext word
                rw [Describes, describesAll_of_singleTest? isTest]
              rw [run, described]
              exact matches_run test least greatest
          | none =>
              have rounds : (repeated .greedy least greatest body).program =
                  fun next => .rounds least greatest (programOfAll body (.again false next))
                    (.again false next) := by
                funext next
                simp [program, isTest]
              rw [rounds]
              exact (matches_programOfAll body plainBody).rounds room
      | lazy => cases plainHere
      | possessive => cases plainHere
  | anchor place => cases plain
  | capture group body => simp [every, isPlain] at plain
  | atomic body => simp [every, isPlain] at plain
  | look negated behind body => simp [every, isPlain] at plain
  | backreference group folding width => cases plain
  | conditional group present absent => simp [every, isPlain] at plain

theorem matches_programOfAll
    (nodes : List Node) (plain : everyOfAll isPlain nodes = true) :
    Matches text (programOfAll nodes) (DescribesAll nodes) := by
  cases nodes with
  | nil => exact matches_nothing
  | cons node nodes =>
      simp only [everyOfAll, Bool.and_eq_true] at plain
      exact (matches_program node plain.1).append (matches_programOfAll nodes plain.2)

theorem matches_programsOfChoice
    (alternatives : List (List Node)) (plain : everyOfChoice isPlain alternatives = true) :
    ∀ alternative ∈ alternatives,
      Matches text (programOfAll alternative) (DescribesAll alternative) := by
  cases alternatives with
  | nil => simp
  | cons alternative others =>
      simp only [everyOfChoice, Bool.and_eq_true] at plain
      exact List.forall_mem_cons.mpr
        ⟨matches_programOfAll alternative plain.1, matches_programsOfChoice others plain.2⟩

end

end Node

/-! ## Whole texts -/

/-- The pattern is read, with the end of the text behind it. The machine for a match at the
beginning of the text comes to an end, if there are enough steps, and this is its answer. -/
def AnswersWhole
    (source text : List Char) (answer : Bool) :
    Prop :=
  ∃ compiled enough, Compiled.ofBody Options.none (source ++ ['\\', 'Z']) = .ok compiled ∧
    ∀ most, enough ≤ most →
      (Delimited.machineAfter compiled text most).step? (codesOf text) = none ∧
        (Delimited.machineAfter compiled text most).hasSucceeded = answer

/-- The nodes are those of the pattern, and the pattern is plain. -/
structure IsReadAs
    (source : List Char) (nodes : List Node) :
    Prop where
  plain : Node.everyOfAll Node.isPlain nodes = true
  read : ∃ beginning least, Compiled.ofBody Options.none (source ++ ['\\', 'Z']) =
    .ok ⟨Node.programOfAll nodes (.anchor .textEnd .done), 0, beginning, least⟩

theorem settles_wholeText
    {nodes : List Node} (plain : Node.everyOfAll Node.isPlain nodes = true) (text : List Char) :
    Settles (codesOf text) (Node.programOfAll nodes (.anchor .textEnd .done)) 0 []
      (Node.DescribesAll nodes text) := by
  have ends : ∀ stop, Settles (codesOf text) (.anchor .textEnd .done) stop []
      (stop = (codesOf text).size ∧ True) :=
    fun stop => settles_textEnd (settles_done trivial)
  have settled := Node.matches_programOfAll text nodes plain (.anchor .textEnd .done) []
    (fun stop => stop = (codesOf text).size ∧ True) 0 (Nat.zero_le _) fun stop _ _ => ends stop
  refine settled.congr ?_
  simp only [Leads, List.drop_zero, Nat.zero_add, size_codesOf, and_true]
  constructor
  · rintro ⟨word, ahead, described, whole⟩
    rwa [← ahead.eq_of_length whole]
  · intro described
    exact ⟨text, List.prefix_refl text, described, rfl⟩

/-- A plain pattern answers for a whole text whether it describes the text. -/
theorem IsReadAs.answersWhole_iff
    {source text : List Char} {nodes : List Node} (isRead : IsReadAs source nodes)
    {answer : Bool} :
    AnswersWhole source text answer ↔ (answer = true ↔ Node.DescribesAll nodes text) := by
  obtain ⟨plain, beginning, least, read⟩ := isRead
  have nothing : ∀ waiting ∈ ([] : List Waiting), GivesWay waiting := by
    simp
  obtain ⟨count, last, steps, ended⟩ :=
    settles_wholeText plain text ⟨.failed, [], 0, .ofGroups 0⟩ nothing
  have halted : last.step? (codesOf text) = none := by
    cases ended <;> rfl
  have answered : last.hasSucceeded = true ↔ Node.DescribesAll nodes text := by
    cases ended with
    | success described => exact iff_of_true rfl described
    | failure undescribed => exact iff_of_false (by simp [hasSucceeded]) undescribed
  have arrives : ∀ most, count ≤ most →
      Delimited.machineAfter
          ⟨Node.programOfAll nodes (.anchor .textEnd .done), 0, beginning, least⟩ text most =
        last :=
    fun most enough => run_of_steps steps halted enough
  constructor
  · rintro ⟨compiled, enough, readToo, answers⟩
    cases read.symm.trans readToo
    obtain ⟨-, same⟩ := answers (max count enough) (Nat.le_max_right count enough)
    rw [arrives _ (Nat.le_max_left count enough)] at same
    rw [← same]
    exact answered
  · intro same
    refine ⟨_, count, read, fun most enough => ?_⟩
    rw [arrives most enough]
    refine ⟨halted, ?_⟩
    rw [Bool.eq_iff_iff, answered, same]

end FormRules.Pattern
