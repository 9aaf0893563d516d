import FormRules.Proofs.DelimitedText
import FormRules.Proofs.PatternScanning

/-!
# Why patterns are refused

A pattern is refused as malformed, for a repetition count of too many digits or too great a value that
stands in it, or for asking for two alphabets, of which only the one of ASCII has to be asked for in
the pattern itself.
-/

namespace FormRules.Pattern

def Holds
    (pieces : List Piece) (text : List Char) :
    Prop :=
  text.map .plain <:+: pieces

/-- The text between braces bounds a repetition, and one of its bounds is written with the digits. -/
inductive IsBounds :
    (inside digits : List Char) → Prop
  | only {digits : List Char} (decimal : ∀ digit ∈ digits, isDecimal digit = true) :
      IsBounds digits digits
  | least {digits high : List Char} (decimal : ∀ digit ∈ digits, isDecimal digit = true)
      (decimalToo : ∀ digit ∈ high, isDecimal digit = true) :
      IsBounds (digits ++ ',' :: high) digits
  | greatest {low digits : List Char} (decimal : ∀ digit ∈ low, isDecimal digit = true)
      (decimalToo : ∀ digit ∈ digits, isDecimal digit = true) :
      IsBounds (low ++ ',' :: digits) digits

/-- Bounds of a repetition stand in the pieces, one of them written with the digits. -/
def HoldsCount
    (pieces : List Piece) (digits : List Char) :
    Prop :=
  ∃ inside, IsBounds inside digits ∧ Holds pieces ('\x7b' :: inside ++ ['\x7d'])

/-- Letters of options stand in the pieces, for the whole pattern, and the given one is among
them. -/
def TurnsOn
    (pieces : List Piece) (letter : Char) :
    Prop :=
  ∃ letters, (∀ other ∈ letters, (Options.ofLetter? other).isSome = true) ∧ letter ∈ letters ∧
    Holds pieces ('(' :: '?' :: letters ++ [')'])

/-- The reader refuses for something that stands in the pieces. -/
inductive IsDueTo
    (pieces : List Piece) :
    PatternRefusal → Prop
  | malformed : IsDueTo pieces .malformed
  | tooLarge {digits : List Char} (holds : HoldsCount pieces digits)
      (few : digits.length ≤ Number.integerDigitLimit)
      (large : repetitionLimit ≤ valueInBase 10 digits) :
      IsDueTo pieces .repetitionTooLarge
  | tooLong {digits : List Char} (holds : HoldsCount pieces digits)
      (many : Number.integerDigitLimit < digits.length) :
      IsDueTo pieces (.repetitionTooLong digits.length)

theorem holds_of_passed
    {pieces : List Piece} {text : List Char} (rest : List Piece)
    (passed : text.map .plain ++ rest <:+ pieces) :
    Holds pieces text := by
  obtain ⟨before, isWhole⟩ := passed
  exact ⟨before, rest, by rw [List.append_assoc, isWhole]⟩

section Reading

variable (pieces : List Piece) (options : Options)

/-- What is ahead is the end of the pieces, and the alphabets of the whole pattern are among the
given options or are turned on in the pieces. -/
structure IsWithin
    (state : ReaderState) :
    Prop where
  suffix : state.rest <:+ pieces
  ascii : state.whole.ascii = true → options.ascii = true ∨ TurnsOn pieces 'a'
  unicode : state.whole.unicode = true → options.unicode = true ∨ TurnsOn pieces 'u'

/-- The reader, started in the state, stays within the pieces and refuses for what stands in them. -/
structure StaysFrom
    {result : Type} (state : ReaderState) (reader : Reader result) :
    Prop where
  of_ok : ∀ {read : result} {after : ReaderState}, reader.run state = .ok (read, after) →
    IsWithin pieces options after
  of_error : ∀ {refusal : PatternRefusal}, reader.run state = .error refusal →
    IsDueTo pieces refusal

/-- The reader stays within the pieces, wherever in them it is started. -/
def Stays
    {result : Type} (reader : Reader result) :
    Prop :=
  ∀ state, IsWithin pieces options state → StaysFrom pieces options state reader

variable {pieces options} {first second : Type} {reader : Reader first}
  {next : first → Reader second} {state : ReaderState} {shape : first → List Piece → Prop}

theorem IsWithin.after
    {after : ReaderState} (taken : List Piece) (within : IsWithin pieces options state)
    (isRest : state.rest = taken ++ after.rest) (same : after.whole = state.whole) :
    IsWithin pieces options after := by
  refine ⟨?_, ?_, ?_⟩
  · have isSuffix : after.rest <:+ state.rest := ⟨taken, isRest.symm⟩
    exact isSuffix.trans within.suffix
  · rw [same]
    exact within.ascii
  · rw [same]
    exact within.unicode

namespace StaysFrom

theorem of_scansFrom
    (within : IsWithin pieces options state) (scans : ScansFrom state reader shape) :
    StaysFrom pieces options state reader := by
  constructor
  · intro read after given
    obtain ⟨same, taken, isRest, _⟩ := scans.of_ok given
    exact within.after taken isRest same
  · intro refusal given
    rw [scans.of_error given]
    exact .malformed

/-- After a reader that takes pieces off the front, it is known what these are. -/
theorem scans_bind
    (within : IsWithin pieces options state) (scans : ScansFrom state reader shape)
    (staysNext : ∀ middle taken between, shape middle taken →
      state.rest = taken ++ between.rest → IsWithin pieces options between →
        StaysFrom pieces options between (next middle)) :
    StaysFrom pieces options state (reader >>= next) := by
  constructor
  · intro read after given
    obtain ⟨middle, between, first, second⟩ := run_bind_eq_ok_iff.mp given
    obtain ⟨same, taken, isRest, ofShape⟩ := scans.of_ok first
    exact (staysNext middle taken between ofShape isRest (within.after taken isRest same)).of_ok second
  · intro refusal given
    rcases run_bind_eq_error_iff.mp given with refused | ⟨middle, between, first, refused⟩
    · rw [scans.of_error refused]
      exact .malformed
    · obtain ⟨same, taken, isRest, ofShape⟩ := scans.of_ok first
      exact (staysNext middle taken between ofShape isRest (within.after taken isRest same)).of_error
        refused

theorem bind
    (stays : StaysFrom pieces options state reader)
    (staysNext : ∀ middle, Stays pieces options (next middle)) :
    StaysFrom pieces options state (reader >>= next) := by
  constructor
  · intro read after given
    obtain ⟨middle, between, first, second⟩ := run_bind_eq_ok_iff.mp given
    exact (staysNext middle between (stays.of_ok first)).of_ok second
  · intro refusal given
    rcases run_bind_eq_error_iff.mp given with refused | ⟨middle, between, first, refused⟩
    · exact stays.of_error refused
    · exact (staysNext middle between (stays.of_ok first)).of_error refused

theorem get_bind
    {next : ReaderState → Reader first}
    (staysNext : StaysFrom pieces options state (next state)) :
    StaysFrom pieces options state (get >>= next) :=
  ⟨fun given => staysNext.of_ok given, fun given => staysNext.of_error given⟩

theorem peekPiece_bind
    {next : Option Piece → Reader first}
    (staysNext : StaysFrom pieces options state (next state.rest.head?)) :
    StaysFrom pieces options state (peekPiece >>= next) :=
  ⟨fun given => staysNext.of_ok given, fun given => staysNext.of_error given⟩

theorem modify_bind
    {change : ReaderState → ReaderState} {next : PUnit → Reader first}
    (staysNext : StaysFrom pieces options (change state) (next ⟨⟩)) :
    StaysFrom pieces options state (modify change >>= next) :=
  ⟨fun given => staysNext.of_ok given, fun given => staysNext.of_error given⟩

end StaysFrom

theorem Scans.stays
    (scans : Scans reader shape) :
    Stays pieces options reader :=
  fun state within => .of_scansFrom within (scans state)

namespace Stays

theorem pure
    (read : first) :
    Stays pieces options (pure read : Reader first) :=
  Scans.stays (Scans.pure trivial : Advances (Pure.pure read))

theorem malformed :
    Stays pieces options (malformed : Reader first) :=
  Scans.stays (Scans.malformed : Advances Pattern.malformed)

theorem bind
    (stays : Stays pieces options reader) (staysNext : ∀ middle, Stays pieces options (next middle)) :
    Stays pieces options (reader >>= next) :=
  fun state within => (stays state within).bind staysNext

theorem get_bind
    {next : ReaderState → Reader first} (staysNext : ∀ state, Stays pieces options (next state)) :
    Stays pieces options (get >>= next) :=
  fun state within => .get_bind (staysNext state state within)

theorem modify_bind
    {change : ReaderState → ReaderState} {next : PUnit → Reader first}
    (sameRest : ∀ state, (change state).rest = state.rest)
    (sameWhole : ∀ state, (change state).whole = state.whole)
    (staysNext : Stays pieces options (next ⟨⟩)) :
    Stays pieces options (modify change >>= next) := by
  intro state within
  refine .modify_bind (staysNext _ ?_)
  exact within.after [] (sameRest state).symm (sameWhole state)

end Stays

/-! ## Repetition counts -/

theorem stays_repetitionCount?
    {digits : List Char} (holds : HoldsCount pieces digits) :
    Stays pieces options (repetitionCount? digits) := by
  intro state within
  unfold repetitionCount?
  split
  · exact Stays.pure _ state within
  · split
    · rename_i many
      constructor
      · intro read after given
        cases given
      · intro refusal given
        cases given
        exact .tooLong holds many
    · rename_i few
      dsimp only
      split
      · exact Stays.pure _ state within
      · rename_i large
        constructor
        · intro read after given
          cases given
        · intro refusal given
          cases given
          exact .tooLarge holds (Nat.not_lt.mp few) (Nat.not_lt.mp large)

/-- The brace that closes the bounds is looked for where their text, after the opening brace, has been
passed over. -/
theorem staysFrom_closeBraces?
    {saved : List Piece} {inside low high : List Char} (within : IsWithin pieces options state)
    (savedSuffix : saved <:+ pieces)
    (passed : ('\x7b' :: inside).map .plain ++ state.rest <:+ pieces) (isLow : IsBounds inside low)
    (isHigh : IsBounds inside high) :
    StaysFrom pieces options state (closeBraces? saved low high) := by
  have withinSaved : ∀ {after : ReaderState}, IsWithin pieces options after →
      IsWithin pieces options { after with rest := saved } :=
    fun withinAfter => ⟨savedSuffix, withinAfter.ascii, withinAfter.unicode⟩
  refine StaysFrom.scans_bind within (scans_accept _ state) ?_
  intro closed taken after isTaken isRest withinAfter
  split
  · rename_i isClosed
    rw [if_pos isClosed] at isTaken
    have holds : Holds pieces ('\x7b' :: inside ++ ['\x7d']) := by
      refine holds_of_passed after.rest ?_
      rw [isRest, isTaken, ← List.append_assoc] at passed
      rwa [List.map_append]
    split
    · exact StaysFrom.modify_bind (Stays.pure _ _ (withinSaved withinAfter))
    · refine (stays_repetitionCount? ⟨inside, isLow, holds⟩ after withinAfter).bind fun least => ?_
      refine (stays_repetitionCount? ⟨inside, isHigh, holds⟩).bind fun greatest => ?_
      split
      · split
        · exact Stays.malformed
        · exact Stays.pure _
      · exact Stays.pure _
  · exact StaysFrom.modify_bind (Stays.pure _ _ (withinSaved withinAfter))

theorem staysFrom_readBraces?
    (within : IsWithin pieces options state)
    (passed : ['\x7b'].map .plain ++ state.rest <:+ pieces) :
    StaysFrom pieces options state readBraces? := by
  refine StaysFrom.get_bind ?_
  refine StaysFrom.scans_bind within (scans_acceptWhile _ _ state) ?_
  rintro low _ afterLow ⟨rfl, lowDecimal⟩ isRest withinLow
  rw [isRest, ← List.append_assoc, ← List.map_append] at passed
  refine StaysFrom.scans_bind withinLow (scans_accept _ afterLow) ?_
  intro separated taken afterComma isTaken isRestComma withinComma
  rw [isRestComma, ← List.append_assoc] at passed
  split
  · rename_i isSeparated
    rw [if_pos isSeparated] at isTaken
    refine StaysFrom.scans_bind withinComma (scans_acceptWhile _ _ afterComma) ?_
    rintro high _ afterHigh ⟨rfl, highDecimal⟩ isRestHigh withinHigh
    refine staysFrom_closeBraces? withinHigh within.suffix ?_
      (.least lowDecimal highDecimal) (.greatest lowDecimal highDecimal)
    rw [isRestHigh, isTaken] at passed
    simpa only [List.map_append, List.map_cons, List.append_assoc, List.cons_append,
      List.nil_append, List.map_nil] using passed
  · rename_i notSeparated
    rw [if_neg notSeparated] at isTaken
    refine staysFrom_closeBraces? withinComma within.suffix ?_ (.only lowDecimal)
      (.only lowDecimal)
    rw [isTaken, List.append_nil] at passed
    exact passed

/-! ## Items and groups -/

theorem stays_withOptions
    {inside : Options} (stays : Stays pieces options reader) :
    Stays pieces options (withOptions inside reader) := by
  refine Stays.get_bind fun state => ?_
  refine Stays.modify_bind (fun _ => rfl) (fun _ => rfl) ?_
  refine stays.bind fun read => ?_
  exact Stays.modify_bind (fun _ => rfl) (fun _ => rfl) (Stays.pure read)

theorem stays_withLookBehind
    (stays : Stays pieces options reader) :
    Stays pieces options (withLookBehind reader) := by
  refine Stays.get_bind fun state => ?_
  split
  · exact stays
  · refine Stays.modify_bind (fun _ => rfl) (fun _ => rfl) ?_
    refine stays.bind fun read => ?_
    exact Stays.modify_bind (fun _ => rfl) (fun _ => rfl) (Stays.pure read)

variable (pieces options) in
/-- The readers of alternatives, items and groups stay within the pieces, if they do not go deeper
than the bound. -/
structure ReadersStay
    (bound : Nat) :
    Prop where
  alternatives : ∀ isWhole, Stays pieces options (readAlternatives bound isWhole)
  more : ∀ alternatives, Stays pieces options (readMoreAlternatives bound alternatives)
  items : ∀ atStart items, Stays pieces options (readItems bound atStart items)
  body : ∀ opening, Stays pieces options (readBody bound opening)

section Deeper

variable {bound : Nat} (deeper : ReadersStay pieces options bound)

include deeper

theorem stays_readAlternatives
    (isWhole : Bool) :
    Stays pieces options (readAlternatives (bound + 1) isWhole) := by
  refine (deeper.items isWhole []).bind fun first => ?_
  refine (deeper.more [first]).bind fun alternatives => ?_
  exact Stays.get_bind fun state => Stays.pure _

theorem stays_readMoreAlternatives
    (alternatives : List (List Node)) :
    Stays pieces options (readMoreAlternatives (bound + 1) alternatives) := by
  refine (advances_accept _).stays.bind fun another => ?_
  split
  · exact (deeper.items false []).bind fun other => deeper.more _
  · exact Stays.pure _

theorem stays_readBody
    (opening : Opening) :
    Stays pieces options (readBody (bound + 1) opening) := by
  have close : ∀ node : Node, Stays pieces options (do expect ')'; return node) :=
    fun node => (scans_expect ')').stays.bind fun _ => Stays.pure node
  cases opening with
  | capture name =>
      refine (advances_beginGroup name).stays.bind fun group => ?_
      refine Stays.get_bind fun state => ?_
      refine (stays_withOptions (deeper.alternatives false)).bind fun body => ?_
      refine (scans_expect ')').stays.bind fun _ => ?_
      exact (advances_endGroup group body).stays.bind fun _ => Stays.pure _
  | enclosed change =>
      refine Stays.get_bind fun state => ?_
      exact (stays_withOptions (deeper.alternatives false)).bind fun body => close _
  | atomic => exact (deeper.alternatives false).bind fun body => close _
  | look negated behind =>
      cases behind with
      | true => exact (stays_withLookBehind (deeper.alternatives false)).bind fun body => close _
      | false => exact (deeper.alternatives false).bind fun body => close _
  | condition group =>
      refine (deeper.items false []).bind fun present => ?_
      refine (advances_accept _).stays.bind fun another => ?_
      cases another with
      | true => exact (deeper.items false []).bind fun absent => close _
      | false => exact (Stays.pure []).bind fun absent => close _
  | comment => exact Stays.malformed
  | reference node => exact Stays.malformed
  | wholeOptions added => exact Stays.malformed

/-- What follows an opening parenthesis. Options for the whole pattern are turned on by letters that
stand in the pieces. -/
theorem staysFrom_group
    (atStart : Bool) (items : List Node) (within : IsWithin pieces options state)
    (passed : ['('].map .plain ++ state.rest <:+ pieces) :
    StaysFrom pieces options state (do
      match ← readOpening with
      | .comment => readItems bound atStart items
      | .reference node => readItems bound atStart (node :: items)
      | .wholeOptions added =>
          if atStart && items.isEmpty then do
            modify fun state =>
              { state with
                whole := state.whole.union added
                current := state.current.union added }
            readItems bound atStart items
          else malformed
      | opening => readItems bound atStart ((← readBody bound opening) :: items)) := by
  refine StaysFrom.scans_bind within (scans_readOpening state) ?_
  intro opening taken after ofWhole isRest withinAfter
  split
  · exact deeper.items _ _ _ withinAfter
  · exact deeper.items _ _ _ withinAfter
  · rename_i added
    obtain ⟨letters, rfl, areLetters⟩ := ofWhole added rfl
    have holds : Holds pieces ('(' :: '?' :: letters ++ [')']) := by
      refine holds_of_passed after.rest ?_
      rw [isRest] at passed
      simpa only [List.map_append, List.map_cons, List.append_assoc, List.cons_append,
        List.nil_append, List.map_nil] using passed
    split
    · refine StaysFrom.modify_bind (deeper.items _ _ _ ?_)
      refine ⟨withinAfter.suffix, fun isAscii => ?_, fun isUnicode => ?_⟩
      · rcases (Bool.or_eq_true _ _).mp isAscii with before | isAdded
        · exact withinAfter.ascii before
        · exact Or.inr ⟨letters, areLetters.known, areLetters.ascii isAdded, holds⟩
      · rcases (Bool.or_eq_true _ _).mp isUnicode with before | isAdded
        · exact withinAfter.unicode before
        · exact Or.inr ⟨letters, areLetters.known, areLetters.unicode isAdded, holds⟩
    · exact Stays.malformed _ withinAfter
  · exact (deeper.body _ _ withinAfter).bind fun node => deeper.items _ _

theorem stays_readItems
    (atStart : Bool) (items : List Node) :
    Stays pieces options (readItems (bound + 1) atStart items) := by
  intro state within
  refine StaysFrom.get_bind ?_
  refine StaysFrom.peekPiece_bind ?_
  split
  · exact Stays.pure _ _ within
  · exact Stays.pure _ _ within
  · exact Stays.pure _ _ within
  · refine (advances_nextPiece.stays.bind fun _ => ?_) state within
    exact (advances_readEscape _).stays.bind fun node => deeper.items _ _
  · rename_i character _ _ isFirst
    obtain ⟨rest, ahead⟩ := List.head?_eq_some_iff.mp isFirst
    refine StaysFrom.scans_bind within (scansFrom_nextPiece ahead) ?_
    rintro _ _ after ⟨rfl, rfl⟩ isRest withinAfter
    have passed : [character].map .plain ++ after.rest <:+ pieces := by
      have suffix := within.suffix
      rwa [isRest] at suffix
    split
    · exact deeper.items _ _ _ withinAfter
    · split
      · exact ((advances_skipThrough _).stays.bind fun _ => deeper.items _ _) _ withinAfter
      · split
        · exact (advances_readClass.stays.bind fun node => deeper.items _ _) _ withinAfter
        · exact ((advances_readRepetition _ _ _).stays.bind fun _ => deeper.items _ _) _ withinAfter
        · exact ((advances_readRepetition _ _ _).stays.bind fun _ => deeper.items _ _) _ withinAfter
        · exact ((advances_readRepetition _ _ _).stays.bind fun _ => deeper.items _ _) _ withinAfter
        · exact deeper.items _ _ _ withinAfter
        · exact deeper.items _ _ _ withinAfter
        · exact deeper.items _ _ _ withinAfter
        · refine (staysFrom_readBraces? withinAfter passed).bind fun bounds => ?_
          split
          · exact (advances_readRepetition _ _ _).stays.bind fun _ => deeper.items _ _
          · exact deeper.items _ _
        · exact staysFrom_group deeper atStart items withinAfter passed
        · exact deeper.items _ _ _ withinAfter

end Deeper

theorem readersStay
    (bound : Nat) :
    ReadersStay pieces options bound := by
  induction bound with
  | zero =>
      exact ⟨fun _ => Stays.malformed, fun _ => Stays.malformed, fun _ _ => Stays.malformed,
        fun _ => Stays.malformed⟩
  | succ bound deeper =>
      exact ⟨stays_readAlternatives deeper, stays_readMoreAlternatives deeper,
        stays_readItems deeper, stays_readBody deeper⟩

end Reading

/-! ## Whole patterns -/

section Whole

variable {text : List Char} {options : Options}

/-- The whole pattern is read from the start of its pieces. -/
theorem readWhole_stays :
    (∀ {nodes state}, readWhole text options = .ok (nodes, state) →
        IsWithin (piecesOf text).1 options state) ∧
      ∀ {refusal}, readWhole text options = .error refusal →
        IsDueTo (piecesOf text).1 refusal := by
  have stays : StaysFrom (piecesOf text).1 options
      ⟨[], (piecesOf text).2, options, options, [], [], [], none⟩
      (do
        moveTo (piecesOf text).1
        readAlternatives (3 * (piecesOf text).1.length + 3) true) := by
    have within : IsWithin (piecesOf text).1 options
        ⟨(piecesOf text).1, (piecesOf text).2, options, options, [], [], [], none⟩ :=
      ⟨List.suffix_rfl, Or.inl, Or.inl⟩
    have whole :=
      (readersStay (3 * (piecesOf text).1.length + 3)).alternatives true _ within
    constructor
    · intro nodes after given
      rw [run_bind, run_moveTo] at given
      split at given
      · rename_i moved
        split at moved
        · cases moved
        · cases moved
          exact whole.of_ok given
      · cases given
    · intro refusal given
      rw [run_bind, run_moveTo] at given
      split at given
      · rename_i moved
        split at moved
        · cases moved
        · cases moved
          exact whole.of_error given
      · rename_i moved
        split at moved
        · cases moved
          cases given
          exact .malformed
        · cases moved
  exact ⟨fun given => stays.of_ok given, fun given => stays.of_error given⟩

/-- A pattern is refused for what stands in it, or because of two alphabets. -/
theorem refusal_of_ofBody
    {refusal : PatternRefusal} (refused : Compiled.ofBody options text = .error refusal) :
    IsDueTo (piecesOf text).1 refusal ∨
      refusal = .clashingAlphabets ∧
        (options.ascii = true ∨ TurnsOn (piecesOf text).1 'a') ∧
        (options.unicode = true ∨ TurnsOn (piecesOf text).1 'u') := by
  unfold Compiled.ofBody at refused
  split at refused
  · rename_i other read
    cases refused
    exact Or.inl (readWhole_stays.2 read)
  · rename_i nodes state read
    have within := readWhole_stays.1 read
    split at refused
    · rename_i both
      rw [Bool.and_eq_true] at both
      cases refused
      exact Or.inr ⟨rfl, within.ascii both.1, within.unicode both.2⟩
    · left
      split at refused
      · cases refused
        exact .malformed
      · split at refused
        · cases refused
          exact .malformed
        · split at refused
          · cases refused
            exact .malformed
          · split at refused
            · cases refused
              exact .malformed
            · cases refused

/-- The text is delimited, with letters of options behind it, or it is its own body. -/
inductive HasBody :
    (text body letters : List Char) → Prop
  | delimited {text body letters : List Char}
      (isDelimited : IsDelimited isOptionLetter text body letters) :
      HasBody text body letters
  | bare {text : List Char}
      (notDelimited : ∀ body letters, ¬ IsDelimited isOptionLetter text body letters) :
      HasBody text text []

theorem HasBody.ofText_eq
    {body letters : List Char} (hasBody : HasBody text body letters) :
    Compiled.ofText text = Compiled.ofBody (.named letters) body := by
  cases hasBody with
  | delimited isDelimited => exact Compiled.ofText_of_isDelimited isDelimited
  | bare notDelimited =>
      have noLetters : Options.named [] = Options.none := by decide
      rw [noLetters]
      by_cases isEmpty : text = []
      · rw [isEmpty]
        rfl
      · exact Compiled.ofText_of_isBare (isBare_iff.mpr ⟨isEmpty, notDelimited⟩)

/-- The faults that reading a pattern can end in, for a body with letters of options: a count that is
too large or too long stands in it, or it turns on the alphabet of ASCII, and the other alphabet is
turned on there or by a letter. -/
inductive BreaksOff
    (body letters : List Char) :
    Fault → Prop
  | tooLarge {digits : List Char} (holds : HoldsCount (piecesOf body).1 digits)
      (few : digits.length ≤ Number.integerDigitLimit)
      (large : repetitionLimit ≤ valueInBase 10 digits) :
      BreaksOff body letters .repetitionTooLarge
  | tooLong {digits : List Char} (holds : HoldsCount (piecesOf body).1 digits)
      (many : Number.integerDigitLimit < digits.length) :
      BreaksOff body letters (.numeralTooLong digits.length)
  | clashing (ascii : TurnsOn (piecesOf body).1 'a')
      (unicode : 'u' ∈ letters ∨ TurnsOn (piecesOf body).1 'u') :
      BreaksOff body letters .clashingAlphabets

theorem HasBody.breaksOff
    {body letters : List Char} {fault : Fault} (hasBody : HasBody text body letters)
    (broken : Compiled.ofText? text = .error fault) :
    BreaksOff body letters fault := by
  unfold Compiled.ofText? at broken
  rw [hasBody.ofText_eq] at broken
  cases read : Compiled.ofBody (.named letters) body with
  | ok compiled =>
      rw [read] at broken
      cases broken
  | error refusal =>
      rw [read] at broken
      rcases refusal_of_ofBody read with due | ⟨rfl, ascii, unicode⟩
      · cases due with
        | malformed => cases broken
        | tooLarge holds few large =>
            cases broken
            exact .tooLarge holds few large
        | tooLong holds many =>
            cases broken
            exact .tooLong holds many
      · cases broken
        refine .clashing (ascii.resolve_left Bool.false_ne_true) (unicode.imp_left fun isNamed => ?_)
        exact List.contains_iff_mem.mp isNamed

end Whole

end FormRules.Pattern
