import FormRules.Proofs.TextKinds

/-!
# The grammar of mail addresses

A mail address is said by a grammar: one at sign, a local part before it, and behind it labels with
points between them. A domain is read character by character, with no more kept of a label than how
long it is so far and whether it ends with a hyphen; that this is enough is shown along the text,
for whatever has been read of the first label. The pattern of addresses describes the same texts,
and it does so label by label.
-/

namespace FormRules

open FormRules.Pattern
open FormRules.Time
open Builtin

/-! ## The grammar -/

/-- A label of a domain: at most 63 letters, digits and hyphens, with no hyphen at its ends. -/
structure IsLabel
    (label : List Char) :
    Prop where
  notNone : label ≠ []
  fits : label.length ≤ 63
  allowed : ∀ character ∈ label, isLetterOrDigit character = true ∨ character = '-'
  noHyphenFirst : label.head? ≠ some '-'
  noHyphenLast : label.getLast? ≠ some '-'

/-- What stands before the at sign. -/
structure IsLocalPart
    (localPart : List Char) :
    Prop where
  notNone : localPart ≠ []
  allowed : ∀ character ∈ localPart, isLetterOrDigit character = true ∨
    character ∈ ".!#$%&'*+/=?^_\x60\x7b|\x7d~-".toList

/-- Labels with points between them. -/
def IsDomain
    (domain : List Char) :
    Prop :=
  ∀ label ∈ domain.splitOn '.', IsLabel label

structure IsAddress
    (text : List Char) :
    Prop where
  oneAtSign : text.count '@' = 1
  parts : ∃ localPart domain, text = localPart ++ '@' :: domain ∧ IsLocalPart localPart ∧
    IsDomain domain

/-! ## Domains -/

theorem isDomain_iff_of_noPoint
    {label : List Char} (noPoint : '.' ∉ label) :
    IsDomain label ↔ IsLabel label := by
  rw [IsDomain, List.splitOn_eq_singleton noPoint]
  simp

theorem isDomain_append_iff
    {label rest : List Char} (noPoint : '.' ∉ label) :
    IsDomain (label ++ '.' :: rest) ↔ IsLabel label ∧ IsDomain rest := by
  rw [IsDomain, List.splitOn_append_cons_self_of_not_mem noPoint, List.forall_mem_cons, IsDomain]

/-- The texts that are made of labels with a point before each. -/
def AreFurtherLabels
    (parts : List (List Char)) :
    Prop :=
  ∀ part ∈ parts, ∃ label, part = '.' :: label ∧ IsLabel label

/-- What a domain begins with, up to a point, begins a label, and behind the label there are further
ones. -/
theorem exists_labels_of_isDomain
    {begun rest : List Char} (noPoint : '.' ∉ begun) (isDomain : IsDomain (begun ++ rest)) :
    ∃ ending parts, rest = ending ++ List.flatten parts ∧ IsLabel (begun ++ ending) ∧
      AreFurtherLabels parts := by
  induction rest generalizing begun with
  | nil =>
      rw [List.append_nil, isDomain_iff_of_noPoint noPoint] at isDomain
      exact ⟨[], [], rfl, by rwa [List.append_nil], by simp [AreFurtherLabels]⟩
  | cons character others inductionHypothesis =>
      by_cases point : character = '.'
      · subst point
        rw [isDomain_append_iff noPoint] at isDomain
        obtain ⟨isLabel, isDomainBehind⟩ := isDomain
        obtain ⟨label, parts, split, isLabelBehind, areLabels⟩ :=
          inductionHypothesis List.not_mem_nil isDomainBehind
        refine ⟨[], ('.' :: label) :: parts, by simp [split], by rwa [List.append_nil], ?_⟩
        exact List.forall_mem_cons.mpr ⟨⟨label, rfl, isLabelBehind⟩, areLabels⟩
      · rw [List.append_cons] at isDomain
        have noPointYet : '.' ∉ begun ++ [character] := by
          simp [noPoint, Ne.symm point]
        obtain ⟨ending, parts, split, isLabel, areLabels⟩ :=
          inductionHypothesis noPointYet isDomain
        rw [← List.append_cons] at isLabel
        exact ⟨character :: ending, parts, by simp [split], isLabel, areLabels⟩

theorem not_point_of_allowed
    {characters : List Char}
    (allowed : ∀ character ∈ characters, isLetterOrDigit character = true ∨ character = '-') :
    '.' ∉ characters := by
  intro point
  have allowedPoint := allowed '.' point
  revert allowedPoint
  decide

theorem IsLabel.noPoint
    {label : List Char} (isLabel : IsLabel label) :
    '.' ∉ label :=
  not_point_of_allowed isLabel.allowed

/-- A domain is a label with further ones behind it. -/
theorem isDomain_iff
    {domain : List Char} :
    IsDomain domain ↔
      ∃ label parts, domain = label ++ List.flatten parts ∧ IsLabel label ∧
        AreFurtherLabels parts := by
  constructor
  · intro isDomain
    have noPoint : '.' ∉ ([] : List Char) := List.not_mem_nil
    exact exists_labels_of_isDomain noPoint isDomain
  · rintro ⟨label, parts, rfl, isLabel, areLabels⟩
    induction parts generalizing label with
    | nil =>
        rw [List.flatten_nil, List.append_nil, isDomain_iff_of_noPoint isLabel.noPoint]
        exact isLabel
    | cons part parts inductionHypothesis =>
        rw [AreFurtherLabels, List.forall_mem_cons] at areLabels
        obtain ⟨⟨other, rfl, isOther⟩, areOthers⟩ := areLabels
        rw [List.flatten_cons, List.cons_append, isDomain_append_iff isLabel.noPoint]
        exact ⟨isLabel, inductionHypothesis other isOther areOthers⟩

/-- What has been read of a label that can still become one. -/
structure IsBegun
    (begun : List Char) :
    Prop where
  fits : begun.length ≤ 63
  allowed : ∀ character ∈ begun, isLetterOrDigit character = true ∨ character = '-'
  noHyphenFirst : begun.head? ≠ some '-'

theorem isBegun_nil :
    IsBegun [] :=
  ⟨Nat.zero_le 63, by simp, by simp⟩

theorem IsBegun.noPoint
    {begun : List Char} (isBegun : IsBegun begun) :
    '.' ∉ begun :=
  not_point_of_allowed isBegun.allowed

/-- A label comes to its end where it has a length and no hyphen at the end. -/
theorem IsBegun.isLabel_iff
    {begun : List Char} (isBegun : IsBegun begun) :
    IsLabel begun ↔ (begun.length != 0 && !(begun.getLast? == some '-')) = true := by
  have ends : (begun.length != 0 && !(begun.getLast? == some '-')) = true ↔
      begun ≠ [] ∧ begun.getLast? ≠ some '-' := by
    simp
  rw [ends]
  constructor
  · intro isLabel
    exact ⟨isLabel.notNone, isLabel.noHyphenLast⟩
  · rintro ⟨notNone, noHyphenLast⟩
    exact ⟨notNone, isBegun.fits, isBegun.allowed, isBegun.noHyphenFirst, noHyphenLast⟩

/-- A label of which so many characters have been read can go on with the character. -/
structure CanFollow
    (length : Nat) (character : Char) :
    Prop where
  room : length < 63
  allowed : isLetterOrDigit character = true ∨ character = '-' ∧ length ≠ 0

theorem IsBegun.append
    {begun : List Char} (isBegun : IsBegun begun) {character : Char}
    (canFollow : CanFollow begun.length character) :
    IsBegun (begun ++ [character]) := by
  obtain ⟨room, allowed⟩ := canFollow
  refine ⟨?_, ?_, ?_⟩
  · rw [List.length_append, List.length_singleton]
    omega
  · intro other member
    rcases List.mem_append.mp member with before | here
    · exact isBegun.allowed other before
    · rw [List.mem_singleton.mp here]
      exact allowed.imp_right And.left
  · cases begun with
    | cons first others => exact isBegun.noHyphenFirst
    | nil =>
        rcases allowed with letterOrDigit | ⟨-, someLength⟩
        · intro isHyphen
          obtain rfl := Option.some.inj isHyphen
          revert letterOrDigit
          decide
        · exact absurd rfl someLength

/-- In a domain every character that is no point can follow what has been read of its label. -/
theorem canFollow_of_isDomain
    {begun rest : List Char} {character : Char} (noPoint : '.' ∉ begun ++ [character])
    (isDomain : IsDomain (begun ++ character :: rest)) :
    CanFollow begun.length character := by
  rw [List.append_cons] at isDomain
  obtain ⟨ending, -, -, isLabel, -⟩ := exists_labels_of_isDomain noPoint isDomain
  have fits := isLabel.fits
  simp only [List.length_append, List.length_singleton] at fits
  have room : begun.length < 63 := by
    omega
  refine ⟨room, ?_⟩
  rcases isLabel.allowed character (by simp) with letterOrDigit | isHyphen
  · exact Or.inl letterOrDigit
  · refine Or.inr ⟨isHyphen, ?_⟩
    intro noLength
    obtain rfl := List.length_eq_zero_iff.mp noLength
    subst isHyphen
    exact isLabel.noHyphenFirst rfl

/-- What the reader asks of a character that is no point, and what it keeps of it. -/
theorem continuesDomain_cons_iff
    {length : Nat} {afterHyphen : Bool} {character : Char} {rest : List Char}
    (noPoint : character ≠ '.') :
    continuesDomain length afterHyphen (character :: rest) = true ↔
      CanFollow length character ∧
        continuesDomain (length + 1) (character == '-') rest = true := by
  rw [continuesDomain, if_neg noPoint]
  by_cases letterOrDigit : isLetterOrDigit character = true
  · have noHyphen : (character == '-') = false := by
      rw [beq_eq_false_iff_ne]
      rintro rfl
      revert letterOrDigit
      decide
    rw [if_pos letterOrDigit, Bool.and_eq_true, decide_eq_true_eq, noHyphen]
    constructor
    · rintro ⟨room, continues⟩
      exact ⟨⟨room, Or.inl letterOrDigit⟩, continues⟩
    · rintro ⟨⟨room, -⟩, continues⟩
      exact ⟨room, continues⟩
  · rw [if_neg letterOrDigit]
    by_cases hyphen : character = '-'
    · subst hyphen
      rw [if_pos rfl, Bool.and_eq_true, Bool.and_eq_true, decide_eq_true_eq, bne_iff_ne]
      constructor
      · rintro ⟨⟨someLength, room⟩, continues⟩
        exact ⟨⟨room, Or.inr ⟨rfl, someLength⟩⟩, continues⟩
      · rintro ⟨⟨room, allowed⟩, continues⟩
        exact ⟨⟨(allowed.resolve_left letterOrDigit).2, room⟩, continues⟩
    · rw [if_neg hyphen]
      refine iff_of_false (by simp) ?_
      rintro ⟨⟨-, allowed | ⟨allowed, -⟩⟩, -⟩
      · exact letterOrDigit allowed
      · exact hyphen allowed

/-- Behind what has been read of a label, the text goes on as a domain exactly if the two together
are one. -/
theorem continuesDomain_iff
    {begun text : List Char} (isBegun : IsBegun begun) :
    continuesDomain begun.length (begun.getLast? == some '-') text = true ↔
      IsDomain (begun ++ text) := by
  -- What has been read grows while the text does not change: a point makes it begin anew.
  induction text generalizing begun with
  | nil =>
      rw [continuesDomain, List.append_nil, isDomain_iff_of_noPoint isBegun.noPoint,
        isBegun.isLabel_iff]
  | cons character rest inductionHypothesis =>
      by_cases point : character = '.'
      · subst point
        have behind := inductionHypothesis isBegun_nil
        rw [continuesDomain, if_pos rfl, Bool.and_eq_true, isDomain_append_iff isBegun.noPoint,
          isBegun.isLabel_iff]
        exact and_congr_right fun _ => behind
      · have noPoint : '.' ∉ begun ++ [character] := by
          simp [isBegun.noPoint, Ne.symm point]
        have goesOn : CanFollow begun.length character →
            (continuesDomain (begun.length + 1) (character == '-') rest = true ↔
              IsDomain (begun ++ character :: rest)) := by
          intro canFollow
          have later := inductionHypothesis (isBegun.append canFollow)
          rw [← List.append_cons, List.length_append, List.length_singleton,
            List.getLast?_concat] at later
          exact later
        rw [continuesDomain_cons_iff point]
        constructor
        · rintro ⟨canFollow, continues⟩
          exact (goesOn canFollow).mp continues
        · intro isDomain
          have canFollow := canFollow_of_isDomain noPoint isDomain
          exact ⟨canFollow, (goesOn canFollow).mpr isDomain⟩

/-! ## Addresses -/

theorem isLocalCharacter_iff
    {character : Char} :
    isLocalCharacter character = true ↔ isLetterOrDigit character = true ∨
      character ∈ ".!#$%&'*+/=?^_\x60\x7b|\x7d~-".toList := by
  rw [isLocalCharacter, Bool.or_eq_true, List.contains_iff_mem]

theorem isLocalPart_iff
    {localPart : List Char} :
    IsLocalPart localPart ↔
      localPart ≠ [] ∧ ∀ character ∈ localPart, isLocalCharacter character = true := by
  simp only [isLocalCharacter_iff]
  exact ⟨fun isLocalPart => ⟨isLocalPart.notNone, isLocalPart.allowed⟩,
    fun ⟨notNone, allowed⟩ => ⟨notNone, allowed⟩⟩

theorem IsLocalPart.noAtSign
    {localPart : List Char} (isLocalPart : IsLocalPart localPart) :
    '@' ∉ localPart := by
  intro member
  have allowed := (isLocalPart_iff.mp isLocalPart).2 '@' member
  revert allowed
  decide

theorem IsLabel.noAtSign
    {label : List Char} (isLabel : IsLabel label) :
    '@' ∉ label := by
  intro member
  have allowed := isLabel.allowed '@' member
  revert allowed
  decide

theorem IsDomain.noAtSign
    {domain : List Char} (isDomain : IsDomain domain) :
    '@' ∉ domain := by
  obtain ⟨label, parts, rfl, isLabel, areLabels⟩ := isDomain_iff.mp isDomain
  rw [List.mem_append, List.mem_flatten]
  rintro (inLabel | ⟨part, member, inPart⟩)
  · exact isLabel.noAtSign inLabel
  · obtain ⟨other, rfl, isOther⟩ := areLabels part member
    rcases List.mem_cons.mp inPart with isPoint | inOther
    · revert isPoint
      decide
    · exact isOther.noAtSign inOther

/-- In an address the at sign between the two parts is the only one. -/
theorem isAddress_iff
    {text : List Char} :
    IsAddress text ↔ ∃ localPart domain, text = localPart ++ '@' :: domain ∧
      IsLocalPart localPart ∧ IsDomain domain := by
  constructor
  · exact fun isAddress => isAddress.parts
  · rintro ⟨localPart, domain, rfl, isLocalPart, isDomain⟩
    have noneBefore := List.count_eq_zero.mpr isLocalPart.noAtSign
    have noneBehind := List.count_eq_zero.mpr isDomain.noAtSign
    refine ⟨?_, localPart, domain, rfl, isLocalPart, isDomain⟩
    rw [List.count_append, List.count_cons_self, noneBefore, noneBehind]

/-- The reader of mail addresses accepts exactly the texts of the grammar. -/
theorem isMailAddress_iff
    {text : List Char} :
    isMailAddress text = true ↔ IsAddress text := by
  have domains : ∀ domain, continuesDomain 0 false domain = true ↔ IsDomain domain :=
    fun domain => continuesDomain_iff isBegun_nil
  rw [isAddress_iff]
  unfold isMailAddress
  dsimp only
  constructor
  · intro isMail
    split at isMail
    · rename_i domain behind
      rw [Bool.and_eq_true, Bool.not_eq_true', domains] at isMail
      obtain ⟨notNone, isDomain⟩ := isMail
      have whole : text = text.takeWhile isLocalCharacter ++ '@' :: domain := by
        rw [← behind]
        exact (List.prefix_iff_eq_append.mp (List.takeWhile_prefix isLocalCharacter)).symm
      refine ⟨_, domain, whole, isLocalPart_iff.mpr ⟨?_, List.all_eq_true.mp List.all_takeWhile⟩,
        isDomain⟩
      simpa using notNone
    · cases isMail
  · rintro ⟨localPart, domain, rfl, isLocalPart, isDomain⟩
    obtain ⟨notNone, allLocal⟩ := isLocalPart_iff.mp isLocalPart
    have atSign : isLocalCharacter '@' = false := by
      decide
    have front : (localPart ++ '@' :: domain).takeWhile isLocalCharacter = localPart := by
      rw [List.takeWhile_append_of_pos allLocal, List.takeWhile_cons_of_neg (by simp [atSign]),
        List.append_nil]
    have accepted : (!localPart.isEmpty && continuesDomain 0 false domain) = true := by
      rw [Bool.and_eq_true, domains]
      exact ⟨by simpa using notNone, isDomain⟩
    rw [front, List.drop_left]
    exact accepted

/-! ## The pattern of addresses -/

def mailPattern :
    String :=
  "[a-zA-Z0-9.!#$%&'*+/=?^_\x60\x7b|\x7d~-]+@[a-zA-Z0-9](?:[a-zA-Z0-9-]{0,61}[a-zA-Z0-9])?"
    ++ "(?:\\.[a-zA-Z0-9](?:[a-zA-Z0-9-]{0,61}[a-zA-Z0-9])?)*"

def letterOrDigitItems :
    List ClassItem :=
  [.span 'a'.toNat 'z'.toNat, .span 'A'.toNat 'Z'.toNat, .span '0'.toNat '9'.toNat]

def classWith
    (others : List Char) :
    Node :=
  .oneOf ⟨false, letterOrDigitItems ++ others.map fun other => .single other.toNat⟩ .unicode .exact

def labelNodes :
    List Node :=
  [classWith [],
    .repeated .greedy 0 (some 1)
      [.repeated .greedy 0 (some 61) [classWith ['-']], classWith []]]

def mailNodes :
    List Node :=
  .repeated .greedy 1 none [classWith ".!#$%&'*+/=?^_\x60\x7b|\x7d~-".toList] ::
    .letter '@'.toNat false .exact ::
    (labelNodes ++ [.repeated .greedy 0 none (.letter '.'.toNat false .exact :: labelNodes)])

set_option maxRecDepth 10000 in
theorem isReadAs_mailPattern :
    IsReadAs mailPattern.toList mailNodes :=
  ⟨by decide, .anywhere, 3, by cbv⟩

theorem asks_classWith
    (others : List Char) (character : Char) :
    CharClass.contains .unicode .exact
        ⟨false, letterOrDigitItems ++ others.map fun other => .single other.toNat⟩
        character.toNat =
      (isLetterOrDigit character || others.contains character) := by
  have listed : (others.map fun other => ClassItem.single other.toNat).any
      (ClassItem.contains .unicode character.toNat) = others.contains character := by
    induction others with
    | nil => rfl
    | cons other others inductionHypothesis =>
        rw [List.map_cons, List.any_cons, inductionHypothesis, ClassItem.contains_single,
          List.contains_cons]
  rw [CharClass.contains_listed, List.any_append, listed]
  simp only [letterOrDigitItems, List.any_cons, List.any_nil, ClassItem.contains_span,
    isLetterOrDigit, isLetter, isNumeralDigit, Bool.or_false, Bool.or_assoc]

theorem describes_letterOrDigit_iff
    {text : List Char} :
    (classWith []).Describes text ↔
      ∃ character, text = [character] ∧ isLetterOrDigit character = true := by
  have asks := asks_classWith []
  simp only [List.contains_nil, Bool.or_false] at asks
  rw [classWith, Node.describes_oneOf_iff asks]

theorem describes_middle_iff
    {text : List Char} :
    (Node.repeated .greedy 0 (some 61) [classWith ['-']]).Describes text ↔
      text.length ≤ 61 ∧
        ∀ character ∈ text, isLetterOrDigit character = true ∨ character = '-' := by
  rw [classWith, Node.describes_repeated_oneOf_iff (asks_classWith ['-'])]
  simp

/-- A label is one letter or digit, or two of them with up to 61 characters between them. -/
theorem isLabel_iff
    {label : List Char} :
    IsLabel label ↔
      ∃ first ending, label = first :: ending ∧ isLetterOrDigit first = true ∧
        (ending = [] ∨ ∃ middle last, ending = middle ++ [last] ∧ middle.length ≤ 61 ∧
          (∀ character ∈ middle, isLetterOrDigit character = true ∨ character = '-') ∧
          isLetterOrDigit last = true) := by
  constructor
  · rintro ⟨notNone, fits, allowed, noHyphenFirst, noHyphenLast⟩
    obtain ⟨first, ending, rfl⟩ := List.exists_cons_of_ne_nil notNone
    rw [List.forall_mem_cons] at allowed
    have firstFits : first ≠ '-' := fun isHyphen => noHyphenFirst (congrArg some isHyphen)
    refine ⟨first, ending, rfl, allowed.1.resolve_right firstFits, ?_⟩
    rcases List.eq_nil_or_concat ending with rfl | ⟨middle, last, rfl⟩
    · exact Or.inl rfl
    · rw [List.concat_eq_append] at *
      rw [← List.cons_append, List.getLast?_concat] at noHyphenLast
      have lastFits : last ≠ '-' := fun isHyphen => noHyphenLast (congrArg some isHyphen)
      have lastAllowed := allowed.2 last (by simp)
      rw [List.length_cons, List.length_append, List.length_singleton] at fits
      refine Or.inr ⟨middle, last, rfl, by omega, fun character member => ?_,
        lastAllowed.resolve_right lastFits⟩
      exact allowed.2 character (List.mem_append_left _ member)
  · have noHyphen : ∀ character, isLetterOrDigit character = true →
        some character ≠ some '-' := by
      rintro character letterOrDigit isHyphen
      obtain rfl := Option.some.inj isHyphen
      revert letterOrDigit
      decide
    rintro ⟨first, ending, rfl, firstAllowed, rfl | ⟨middle, last, rfl, few, allowed, lastAllowed⟩⟩
    · exact ⟨by simp, by simp, by simp [firstAllowed], noHyphen first firstAllowed,
        noHyphen first firstAllowed⟩
    · refine ⟨by simp, ?_, ?_, noHyphen first firstAllowed, ?_⟩
      · rw [List.length_cons, List.length_append, List.length_singleton]
        omega
      · intro character member
        simp only [List.mem_cons, List.mem_append, List.not_mem_nil, or_false] at member
        rcases member with rfl | inMiddle | rfl
        · exact Or.inl firstAllowed
        · exact allowed character inMiddle
        · exact Or.inl lastAllowed
      · rw [← List.cons_append, List.getLast?_concat]
        exact noHyphen last lastAllowed

theorem describesAll_labelNodes_iff
    {text : List Char} :
    Node.DescribesAll labelNodes text ↔ IsLabel text := by
  have ending : ∀ part,
      (Node.repeated .greedy 0 (some 1)
          [.repeated .greedy 0 (some 61) [classWith ['-']], classWith []]).Describes part ↔
        part = [] ∨ ∃ middle last, part = middle ++ [last] ∧ middle.length ≤ 61 ∧
          (∀ character ∈ middle, isLetterOrDigit character = true ∨ character = '-') ∧
          isLetterOrDigit last = true := by
    intro part
    rw [Node.Describes, isMadeOf_optional_iff]
    simp only [Node.DescribesAll, describes_middle_iff, describes_letterOrDigit_iff]
    refine or_congr_right ⟨?_, ?_⟩
    · rintro ⟨middle, _, rfl, ⟨few, allowed⟩, _, _, rfl, ⟨last, rfl, lastAllowed⟩, rfl⟩
      exact ⟨middle, last, by simp, few, allowed, lastAllowed⟩
    · rintro ⟨middle, last, rfl, few, allowed, lastAllowed⟩
      exact ⟨middle, [last], rfl, ⟨few, allowed⟩, [last], [], rfl, ⟨last, rfl, lastAllowed⟩, rfl⟩
  simp only [labelNodes, Node.DescribesAll, describes_letterOrDigit_iff, ending, isLabel_iff]
  constructor
  · rintro ⟨_, _, rfl, ⟨first, rfl, firstAllowed⟩, part, _, rfl, described, rfl⟩
    exact ⟨first, part, by simp, firstAllowed, described⟩
  · rintro ⟨first, part, rfl, firstAllowed, described⟩
    exact ⟨[first], part, rfl, ⟨first, rfl, firstAllowed⟩, part, [], (List.append_nil part).symm,
      described, rfl⟩

theorem describes_localPart_iff
    {text : List Char} :
    (Node.repeated .greedy 1 none
        [classWith ".!#$%&'*+/=?^_\x60\x7b|\x7d~-".toList]).Describes text ↔
      IsLocalPart text := by
  rw [classWith, Node.describes_repeated_oneOf_iff (asks_classWith _), isLocalPart_iff,
    Nat.succ_le_iff, List.length_pos_iff]
  simp [isLocalCharacter]

theorem describes_furtherLabels_iff
    {text : List Char} :
    (Node.repeated .greedy 0 none (.letter '.'.toNat false .exact :: labelNodes)).Describes text ↔
      ∃ parts, text = List.flatten parts ∧ AreFurtherLabels parts := by
  have part : ∀ part,
      Node.DescribesAll (.letter '.'.toNat false .exact :: labelNodes) part ↔
        ∃ label, part = '.' :: label ∧ IsLabel label := by
    intro part
    rw [Node.DescribesAll]
    simp only [Node.describes_letter_iff, describesAll_labelNodes_iff]
    constructor
    · rintro ⟨_, label, rfl, rfl, isLabel⟩
      exact ⟨label, rfl, isLabel⟩
    · rintro ⟨label, rfl, isLabel⟩
      exact ⟨['.'], label, rfl, rfl, isLabel⟩
  have bounds : ∀ parts : List (List Char), 0 ≤ parts.length ∧
      ∀ most ∈ (none : Option Nat), parts.length ≤ most := by
    simp
  rw [Node.Describes, IsMadeOf]
  simp only [part]
  constructor
  · rintro ⟨parts, rfl, -, -, areLabels⟩
    exact ⟨parts, rfl, areLabels⟩
  · rintro ⟨parts, rfl, areLabels⟩
    exact ⟨parts, rfl, (bounds parts).1, (bounds parts).2, areLabels⟩

theorem describesAll_mailNodes_iff
    {text : List Char} :
    Node.DescribesAll mailNodes text ↔ IsAddress text := by
  rw [mailNodes, Node.DescribesAll]
  simp only [Node.DescribesAll, Node.describesAll_append, describes_localPart_iff,
    Node.describes_letter_iff, describesAll_labelNodes_iff, describes_furtherLabels_iff,
    isAddress_iff, isDomain_iff]
  constructor
  · rintro ⟨localPart, _, rfl, isLocalPart, _, _, rfl, rfl, label, _, rfl, isLabel, _, _, rfl,
      ⟨parts, rfl, areLabels⟩, rfl⟩
    exact ⟨localPart, label ++ parts.flatten, by simp, isLocalPart, label, parts, rfl, isLabel,
      areLabels⟩
  · rintro ⟨localPart, _, rfl, isLocalPart, label, parts, rfl, isLabel, areLabels⟩
    exact ⟨localPart, '@' :: (label ++ parts.flatten), rfl, isLocalPart, ['@'],
      label ++ parts.flatten, rfl, rfl, label, parts.flatten, rfl, isLabel, parts.flatten, [],
      (List.append_nil _).symm, ⟨parts, rfl, areLabels⟩, rfl⟩

/-! ## The rule -/

/-- About a text the rule for mail addresses answers. It passes exactly if the text is an address,
and this is what the pattern of addresses answers about the whole text. -/
theorem mail_addresses_recognized
    (present : Moment) (inquiry : Inquiry) (shown : String)
    (isText : inquiry.value = .text shown) :
    (email.passes present inquiry = .ok true ↔ IsAddress shown.toList) ∧
      (email.passes present inquiry = .ok false ↔ ¬ IsAddress shown.toList) ∧
      ∀ passed,
        email.passes present inquiry = .ok passed ↔
          AnswersWhole mailPattern.toList shown.toList passed := by
  have answer : email.passes present inquiry = .ok (isMailAddress shown.toList) :=
    textPasses_of_text isText rfl
  rw [answer]
  simp only [Except.ok.injEq]
  refine ⟨isMailAddress_iff, ?_, fun passed => ?_⟩
  · rw [← isMailAddress_iff, Bool.not_eq_true]
  · rw [isReadAs_mailPattern.answersWhole_iff, describesAll_mailNodes_iff, ← isMailAddress_iff,
      ← Bool.eq_iff_iff, eq_comm]

def addressInquiry
    (address : String) :
    Inquiry :=
  ⟨[("contact", .text address)], "contact", []⟩

/-- A label that ends with a hyphen is none, so that there is no address with it. -/
theorem label_before_hyphen_refused :
    (addressInquiry "a@b-.c").value = .text "a@b-.c" ∧
      email.passes shopSurroundings.present (addressInquiry "a@b-.c") = .ok false := by
  have isText : (addressInquiry "a@b-.c").value = .text "a@b-.c" := rfl
  obtain ⟨-, refused, -⟩ :=
    mail_addresses_recognized shopSurroundings.present (addressInquiry "a@b-.c") "a@b-.c" isText
  refine ⟨isText, refused.mpr ?_⟩
  rw [← isMailAddress_iff]
  decide

end FormRules
