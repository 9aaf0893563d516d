import FormRules.Pattern.Reader

/-!
# What the readers of a pattern pass over

Below the level of items, readers take pieces off the front of what is ahead and leave the options of
the whole pattern alone. They refuse a pattern as malformed and for no other reason.
-/

namespace FormRules.Pattern

/-- The reader, started in the state, takes pieces off the front, which are of the given shape, and
leaves the options of the whole pattern as they are; if it refuses then the pattern is malformed. -/
structure ScansFrom
    {result : Type} (state : ReaderState) (reader : Reader result)
    (shape : result → List Piece → Prop) :
    Prop where
  of_ok : ∀ {read : result} {after : ReaderState}, reader.run state = .ok (read, after) →
    after.whole = state.whole ∧ ∃ taken, state.rest = taken ++ after.rest ∧ shape read taken
  of_error : ∀ {refusal : PatternRefusal}, reader.run state = .error refusal → refusal = .malformed

/-- The reader takes pieces of the given shape off the front, wherever it is started. -/
def Scans
    {result : Type} (reader : Reader result) (shape : result → List Piece → Prop) :
    Prop :=
  ∀ state, ScansFrom state reader shape

abbrev Advances
    {result : Type} (reader : Reader result) :
    Prop :=
  Scans reader fun _ _ => True

section Rules

variable {first second : Type} {reader : Reader first} {next : first → Reader second}
  {state after : ReaderState} {shape : first → List Piece → Prop}

theorem run_bind
    (reader : Reader first) (next : first → Reader second) (state : ReaderState) :
    (reader >>= next).run state =
      match reader.run state with
      | .ok (read, after) => (next read).run after
      | .error refusal => .error refusal := by
  rw [StateT.run_bind]
  cases reader.run state <;> rfl

theorem run_bind_eq_ok_iff
    {read : second} :
    (reader >>= next).run state = .ok (read, after) ↔
      ∃ middle between, reader.run state = .ok (middle, between) ∧
        (next middle).run between = .ok (read, after) := by
  rw [run_bind]
  constructor
  · intro given
    cases answered : reader.run state with
    | error refusal =>
        rw [answered] at given
        cases given
    | ok answer =>
        rw [answered] at given
        exact ⟨answer.1, answer.2, rfl, given⟩
  · rintro ⟨middle, between, answered, given⟩
    rw [answered]
    exact given

theorem run_bind_eq_error_iff
    {refusal : PatternRefusal} :
    (reader >>= next).run state = .error refusal ↔
      reader.run state = .error refusal ∨
        ∃ middle between, reader.run state = .ok (middle, between) ∧
          (next middle).run between = .error refusal := by
  rw [run_bind]
  constructor
  · intro given
    cases answered : reader.run state with
    | error other =>
        rw [answered] at given
        cases given
        exact Or.inl rfl
    | ok answer =>
        rw [answered] at given
        exact Or.inr ⟨answer.1, answer.2, rfl, given⟩
  · rintro (refused | ⟨middle, between, answered, given⟩)
    · rw [refused]
    · rw [answered]
      exact given

theorem run_moveTo
    (rest : List Piece) (state : ReaderState) :
    (moveTo rest).run state =
      if rest.isEmpty && state.broken then .error .malformed
      else .ok ((), { state with rest := rest }) := by
  unfold moveTo
  rw [run_bind]
  by_cases lone : (rest.isEmpty && state.broken) = true
  · simp only [StateT.run_get, Pure.pure, Except.pure, if_pos lone]
    rfl
  · simp only [StateT.run_get, Pure.pure, Except.pure, if_neg lone]
    rfl

namespace ScansFrom

theorem mono
    {wider : first → List Piece → Prop} (scans : ScansFrom state reader shape)
    (wide : ∀ read taken, shape read taken → wider read taken) :
    ScansFrom state reader wider := by
  constructor
  · intro read after given
    obtain ⟨same, taken, isRest, ofShape⟩ := scans.of_ok given
    exact ⟨same, taken, isRest, wide read taken ofShape⟩
  · exact scans.of_error

/-- What two readers take, one after the other, stands one behind the other. -/
theorem bind
    {whole : second → List Piece → Prop} (scans : ScansFrom state reader shape)
    (scansNext : ∀ middle taken, shape middle taken →
      Scans (next middle) fun read takenNext => whole read (taken ++ takenNext)) :
    ScansFrom state (reader >>= next) whole := by
  constructor
  · intro read after given
    obtain ⟨middle, between, first, second⟩ := run_bind_eq_ok_iff.mp given
    obtain ⟨same, taken, isRest, ofShape⟩ := scans.of_ok first
    obtain ⟨sameNext, takenNext, isRestNext, ofWhole⟩ :=
      (scansNext middle taken ofShape between).of_ok second
    refine ⟨sameNext.trans same, taken ++ takenNext, ?_, ofWhole⟩
    rw [isRest, isRestNext, List.append_assoc]
  · intro refusal given
    rcases run_bind_eq_error_iff.mp given with refused | ⟨middle, between, first, refused⟩
    · exact scans.of_error refused
    · obtain ⟨_, taken, _, ofShape⟩ := scans.of_ok first
      exact (scansNext middle taken ofShape between).of_error refused

theorem get_bind
    {next : ReaderState → Reader first} (scansNext : ScansFrom state (next state) shape) :
    ScansFrom state (get >>= next) shape :=
  ⟨fun given => scansNext.of_ok given, fun given => scansNext.of_error given⟩

theorem peekPiece_bind
    {next : Option Piece → Reader first}
    (scansNext : ScansFrom state (next state.rest.head?) shape) :
    ScansFrom state (peekPiece >>= next) shape :=
  ⟨fun given => scansNext.of_ok given, fun given => scansNext.of_error given⟩

/-- To move on to what is left behind some pieces is to take these. -/
theorem moveTo
    {rest : List Piece} (taken : List Piece) (isRest : state.rest = taken ++ rest) :
    ScansFrom state (moveTo rest) fun _ passed => passed = taken := by
  constructor
  · intro read after given
    rw [run_moveTo] at given
    split at given
    · cases given
    · cases given
      exact ⟨rfl, taken, isRest, rfl⟩
  · intro refusal given
    rw [run_moveTo] at given
    split at given
    · cases given
      rfl
    · cases given

/-- What is ahead and the options of the whole pattern stay, whatever else is noted. -/
theorem set
    {other : ReaderState} (sameRest : other.rest = state.rest)
    (sameWhole : other.whole = state.whole) :
    ScansFrom state (set other) fun _ passed => passed = [] := by
  constructor
  · intro read after given
    cases given
    exact ⟨sameWhole, [], sameRest.symm, rfl⟩
  · intro refusal given
    cases given

end ScansFrom

namespace Scans

theorem pure
    {read : first} (ofShape : shape read []) :
    Scans (pure read : Reader first) shape := by
  intro state
  constructor
  · intro other after given
    cases given
    exact ⟨rfl, [], rfl, ofShape⟩
  · intro refusal given
    cases given

theorem malformed :
    Scans (malformed : Reader first) shape := by
  intro state
  constructor
  · intro read after given
    cases given
  · intro refusal given
    cases given
    rfl

theorem mono
    {wider : first → List Piece → Prop} (scans : Scans reader shape)
    (wide : ∀ read taken, shape read taken → wider read taken) :
    Scans reader wider :=
  fun state => (scans state).mono wide

theorem advances
    (scans : Scans reader shape) :
    Advances reader :=
  scans.mono fun _ _ _ => trivial

theorem bind
    {whole : second → List Piece → Prop} (scans : Scans reader shape)
    (scansNext : ∀ middle taken, shape middle taken →
      Scans (next middle) fun read takenNext => whole read (taken ++ takenNext)) :
    Scans (reader >>= next) whole :=
  fun state => (scans state).bind scansNext

theorem get_bind
    {next : ReaderState → Reader first} (scansNext : ∀ state, Scans (next state) shape) :
    Scans (get >>= next) shape :=
  fun state => ScansFrom.get_bind (scansNext state state)

/-- If both readers take pieces off the front then so do they, one after the other. -/
theorem thenAdvances
    (scans : Scans reader shape) (advances : ∀ middle, Advances (next middle)) :
    Advances (reader >>= next) :=
  scans.bind fun middle _ _ => advances middle

end Scans

end Rules

/-! ## Pieces and characters -/

theorem scansFrom_nextPiece
    {state : ReaderState} {piece : Piece} {rest : List Piece} (ahead : state.rest = piece :: rest) :
    ScansFrom state nextPiece fun read taken => read = some piece ∧ taken = [piece] := by
  refine ScansFrom.get_bind ?_
  rw [ahead]
  refine (ScansFrom.moveTo [piece] ahead).bind fun _ taken isTaken => ?_
  exact Scans.pure ⟨rfl, by rw [isTaken]; rfl⟩

theorem scans_nextPiece :
    Scans nextPiece fun read taken => taken = read.toList := by
  intro state
  cases ahead : state.rest with
  | nil =>
      refine ScansFrom.get_bind ?_
      rw [ahead]
      exact Scans.pure (by rfl) state
  | cons piece rest =>
      refine (scansFrom_nextPiece ahead).mono ?_
      rintro _ _ ⟨rfl, rfl⟩
      rfl

theorem scans_accept
    (character : Char) :
    Scans (accept character) fun read taken =>
      taken = if read then [.plain character] else [] := by
  intro state
  refine ScansFrom.get_bind ?_
  cases ahead : state.rest with
  | nil => exact Scans.pure (by rfl) state
  | cons piece rest =>
      dsimp only
      split
      · rename_i isPlain
        subst isPlain
        refine (ScansFrom.moveTo [_] ahead).bind fun _ taken isTaken => ?_
        exact Scans.pure (by rw [isTaken]; rfl)
      · exact Scans.pure (by rfl) state

theorem scans_expect
    (character : Char) :
    Scans (expect character) fun _ taken => taken = [.plain character] := by
  refine (scans_accept character).bind fun found taken isTaken => ?_
  cases found with
  | true => exact Scans.pure (by rw [isTaken]; rfl)
  | false => exact Scans.malformed

theorem scans_acceptWhile
    (test : Char → Bool) (most : Nat) :
    Scans (acceptWhile test most) fun read taken =>
      taken = read.map .plain ∧ ∀ character ∈ read, test character = true := by
  induction most with
  | zero => exact Scans.pure ⟨rfl, nofun⟩
  | succ most inductionHypothesis =>
      intro state
      refine ScansFrom.peekPiece_bind ?_
      rcases ahead : state.rest with _ | ⟨_ | _, rest⟩
      · exact Scans.pure ⟨rfl, nofun⟩ state
      · rename_i character
        simp only [List.head?_cons]
        split
        · rename_i passes
          refine (scansFrom_nextPiece ahead).bind ?_
          rintro _ _ ⟨rfl, rfl⟩
          refine inductionHypothesis.bind ?_
          rintro read _ ⟨rfl, pass⟩
          refine Scans.pure ⟨?_, List.forall_mem_cons.mpr ⟨passes, pass⟩⟩
          rw [List.append_nil]
          rfl
        · exact Scans.pure ⟨rfl, nofun⟩ state
      · exact Scans.pure ⟨rfl, nofun⟩ state

theorem advances_mapM
    {given made : Type} {step : given → Reader made} (advances : ∀ item, Advances (step item))
    (items : List given) :
    Advances (items.mapM step) := by
  induction items with
  | nil => exact Scans.pure trivial
  | cons item items inductionHypothesis =>
      rw [List.mapM_cons]
      refine (advances item).thenAdvances fun first => ?_
      exact inductionHypothesis.thenAdvances fun others => Scans.pure trivial

/-- What follows a number of pieces and one more is left when these are passed over. -/
theorem eq_append_of_drop
    {pieces rest : List Piece} {count : Nat} {piece : Piece}
    (left : pieces.drop count = piece :: rest) :
    pieces = (pieces.take count ++ [piece]) ++ rest := by
  rw [List.append_assoc, List.singleton_append, ← left, List.take_append_drop]

theorem advances_readName
    (stop : Char) :
    Advances (readName stop) := by
  intro state
  refine ScansFrom.get_bind ?_
  dsimp only
  split
  · exact Scans.malformed state
  · rename_i left
    split
    · exact Scans.malformed state
    · refine (ScansFrom.moveTo _ (eq_append_of_drop left)).bind fun _ _ _ => ?_
      refine advances_mapM (fun piece => ?_) _
      cases piece with
      | plain character => exact Scans.pure trivial
      | escaped character => exact Scans.malformed

theorem advances_skipThrough
    (stop : Char) :
    Advances (skipThrough stop) := by
  intro state
  refine ScansFrom.get_bind ?_
  dsimp only
  split
  · exact (ScansFrom.moveTo _ (List.append_nil state.rest).symm).bind fun _ _ _ =>
      Scans.pure trivial
  · rename_i piece rest left
    have isRest : state.rest =
        (state.rest.takeWhile (· != .plain stop) ++ [piece]) ++ rest := by
      rw [List.append_assoc, List.singleton_append, ← left, List.takeWhile_append_dropWhile]
    exact (ScansFrom.moveTo _ isRest).bind fun _ _ _ => Scans.pure trivial

/-! ## Escapes and classes -/

theorem advances_acceptWhile
    (test : Char → Bool) (most : Nat) :
    Advances (acceptWhile test most) :=
  (scans_acceptWhile test most).advances

theorem advances_accept
    (character : Char) :
    Advances (accept character) :=
  (scans_accept character).advances

theorem advances_readHexadecimal
    (digits : Nat) :
    Advances (readHexadecimal digits) := by
  refine (advances_acceptWhile _ digits).thenAdvances fun read => ?_
  split
  · exact Scans.pure trivial
  · exact Scans.malformed

theorem advances_readNamedCharacter :
    Advances readNamedCharacter := by
  refine (scans_expect _).thenAdvances fun _ => ?_
  refine (advances_readName _).thenAdvances fun name => ?_
  split
  · exact Scans.pure trivial
  · exact Scans.malformed

theorem advances_readCodedCharacter?
    (letter : Char) :
    Advances (readCodedCharacter? letter) := by
  unfold readCodedCharacter?
  split
  · exact (advances_readHexadecimal 2).thenAdvances fun _ => Scans.pure trivial
  · exact (advances_readHexadecimal 4).thenAdvances fun _ => Scans.pure trivial
  · refine (advances_readHexadecimal 8).thenAdvances fun code => ?_
    split
    · exact Scans.pure trivial
    · exact Scans.malformed
  · exact advances_readNamedCharacter.thenAdvances fun _ => Scans.pure trivial
  · exact Scans.pure trivial

theorem advances_readClassEscape
    (character : Char) :
    Advances (readClassEscape character) := by
  unfold readClassEscape
  split
  · exact Scans.pure trivial
  · exact Scans.pure trivial
  · refine (advances_readCodedCharacter? character).thenAdvances fun coded => ?_
    split
    · exact Scans.pure trivial
    · split
      · exact Scans.pure trivial
      · split
        · refine (advances_acceptWhile _ 2).thenAdvances fun more => ?_
          dsimp only
          split
          · exact Scans.pure trivial
          · exact Scans.malformed
        · split
          · exact Scans.malformed
          · exact Scans.pure trivial

theorem advances_referableWidth
    (group : Nat) :
    Advances (referableWidth group) := by
  refine Scans.get_bind fun state => ?_
  split
  · exact Scans.malformed
  · split
    · exact Scans.pure trivial
    · split
      · exact Scans.pure trivial
      · exact Scans.malformed

theorem advances_referenceNode
    (group : Nat) :
    Advances (referenceNode group) := by
  refine Scans.get_bind fun state => ?_
  split
  · exact Scans.malformed
  · exact (advances_referableWidth group).thenAdvances fun _ => Scans.pure trivial

theorem advances_peekPiece :
    Advances peekPiece :=
  Scans.get_bind fun _ => Scans.pure trivial

theorem advances_readNumberEscape
    (digit : Char) :
    Advances (readNumberEscape digit) := by
  refine Scans.get_bind fun state => ?_
  refine (advances_acceptWhile _ 1).thenAdvances fun read => ?_
  split
  · refine advances_peekPiece.thenAdvances fun next => ?_
    dsimp only
    split
    · split
      · refine (advances_acceptWhile _ 1).thenAdvances fun third => ?_
        split
        · exact Scans.pure trivial
        · exact Scans.malformed
      · exact advances_referenceNode _
    · exact advances_referenceNode _
  · exact advances_referenceNode _

theorem advances_readEscape
    (character : Char) :
    Advances (readEscape character) := by
  refine Scans.get_bind fun state => ?_
  dsimp only
  split
  · exact Scans.pure trivial
  · exact Scans.pure trivial
  · exact Scans.pure trivial
  · exact Scans.pure trivial
  · split
    · exact Scans.pure trivial
    · exact Scans.pure trivial
    · refine (advances_readCodedCharacter? character).thenAdvances fun coded => ?_
      split
      · exact Scans.pure trivial
      · split
        · exact (advances_acceptWhile _ 2).thenAdvances fun _ => Scans.pure trivial
        · split
          · exact advances_readNumberEscape character
          · split
            · exact Scans.malformed
            · exact Scans.pure trivial

theorem advances_readClassEnd
    (piece : Piece) :
    Advances (readClassEnd piece) := by
  cases piece with
  | plain character => exact Scans.pure trivial
  | escaped character => exact advances_readClassEscape character

theorem advances_nextPiece :
    Advances nextPiece :=
  scans_nextPiece.advances

theorem advances_readClassItems
    (bound : Nat) (items : List ClassItem) :
    Advances (readClassItems bound items) := by
  induction bound generalizing items with
  | zero => exact Scans.malformed
  | succ bound inductionHypothesis =>
      refine advances_nextPiece.thenAdvances fun next => ?_
      cases next with
      | none => exact Scans.malformed
      | some piece =>
          dsimp only
          split
          · exact Scans.pure trivial
          · refine (advances_readClassEnd piece).thenAdvances fun low => ?_
            refine (advances_accept _).thenAdvances fun isSpan => ?_
            split
            · refine advances_nextPiece.thenAdvances fun last => ?_
              split
              · exact Scans.malformed
              · exact Scans.pure trivial
              · refine (advances_readClassEnd _).thenAdvances fun high => ?_
                split
                · split
                  · exact inductionHypothesis _
                  · exact Scans.malformed
                · exact Scans.malformed
            · exact inductionHypothesis _

theorem advances_readClass :
    Advances readClass := by
  refine (advances_accept _).thenAdvances fun negated => ?_
  refine Scans.get_bind fun state => ?_
  exact (advances_readClassItems _ []).thenAdvances fun items => Scans.pure trivial

theorem advances_readRepetition
    (least : Nat) (greatest : Option Nat) (items : List Node) :
    Advances (readRepetition least greatest items) := by
  cases items with
  | nil => exact Scans.malformed
  | cons item before =>
      unfold readRepetition
      dsimp only
      split
      · exact Scans.malformed
      · refine (advances_accept _).thenAdvances fun isLazy => ?_
        split
        · exact Scans.pure trivial
        · refine (advances_accept _).thenAdvances fun isPossessive => ?_
          split
          · exact Scans.pure trivial
          · exact Scans.pure trivial

/-! ## Options and parentheses -/

/-- The letters are letters of options, and those of the alphabets that are turned on are among
them. -/
structure AreOptionLetters
    (letters : List Char) (options : Options) :
    Prop where
  known : ∀ letter ∈ letters, (Options.ofLetter? letter).isSome = true
  ascii : options.ascii = true → 'a' ∈ letters
  unicode : options.unicode = true → 'u' ∈ letters

theorem areOptionLetters_nil :
    AreOptionLetters [] Options.none :=
  ⟨nofun, nofun, nofun⟩

theorem areOptionLetters_singleton
    {letter : Char} {option : Options} (known : Options.ofLetter? letter = some option) :
    AreOptionLetters [letter] option := by
  refine ⟨fun other isLetter => ?_, fun isAscii => ?_, fun isUnicode => ?_⟩
  · rw [List.mem_singleton.mp isLetter, known]
    rfl
  · unfold Options.ofLetter? at known
    split at known <;> cases known <;> first | exact List.mem_singleton_self _ | cases isAscii
  · unfold Options.ofLetter? at known
    split at known <;> cases known <;> first | exact List.mem_singleton_self _ | cases isUnicode

theorem AreOptionLetters.append
    {letters others : List Char} {options added : Options}
    (areLetters : AreOptionLetters letters options) (areOthers : AreOptionLetters others added) :
    AreOptionLetters (letters ++ others) (options.union added) := by
  refine ⟨fun letter isLetter => ?_, fun isAscii => ?_, fun isUnicode => ?_⟩
  · rcases List.mem_append.mp isLetter with isFirst | isOther
    · exact areLetters.known letter isFirst
    · exact areOthers.known letter isOther
  · rcases (Bool.or_eq_true _ _).mp isAscii with isFirst | isOther
    · exact List.mem_append_left others (areLetters.ascii isFirst)
    · exact List.mem_append_right letters (areOthers.ascii isOther)
  · rcases (Bool.or_eq_true _ _).mp isUnicode with isFirst | isOther
    · exact List.mem_append_left others (areLetters.unicode isFirst)
    · exact List.mem_append_right letters (areOthers.unicode isOther)

/-- The letters read before, with those that are taken, are letters of the options read. -/
theorem scans_readOptionLetters
    {closing : List Char} (bound : Nat) {letter : Char} {before : List Char} {read : Options}
    (areLetters : AreOptionLetters before read) :
    Scans (readOptionLetters closing bound letter read) fun result taken =>
      ∃ letters, taken = letters.map .plain ++ [.plain result.2] ∧
        AreOptionLetters (before ++ letter :: letters) result.1 := by
  induction bound generalizing letter before read with
  | zero => exact Scans.malformed
  | succ bound inductionHypothesis =>
      unfold readOptionLetters
      split
      · exact Scans.malformed
      · rename_i option known
        have areAll := areLetters.append (areOptionLetters_singleton known)
        dsimp only
        split
        · exact Scans.malformed
        · refine scans_nextPiece.bind fun next taken isTaken => ?_
          split
          · rename_i character
            split
            · exact Scans.pure ⟨[], by rw [isTaken]; rfl, areAll⟩
            · refine (inductionHypothesis areAll).mono ?_
              rintro result _ ⟨letters, rfl, areAllLetters⟩
              refine ⟨character :: letters, by rw [isTaken]; rfl, ?_⟩
              rwa [List.append_assoc] at areAllLetters
          · exact Scans.malformed

theorem scans_readAddedOptions
    (bound : Nat) (first : Char) :
    Scans (readAddedOptions bound first) fun result taken =>
      result.2 = ')' →
        ∃ letters, taken = letters.map .plain ++ [.plain ')'] ∧
          AreOptionLetters (first :: letters) result.1 := by
  unfold readAddedOptions
  split
  · exact Scans.pure fun isClosed => absurd isClosed (by decide)
  · refine (scans_readOptionLetters bound areOptionLetters_nil).mono ?_
    rintro result _ ⟨letters, rfl, areLetters⟩ isClosed
    rw [isClosed]
    exact ⟨letters, rfl, areLetters⟩

theorem advances_readRemovedOptions
    (bound : Nat) (closing : Char) :
    Advances (readRemovedOptions bound closing) := by
  unfold readRemovedOptions
  split
  · refine advances_nextPiece.thenAdvances fun next => ?_
    split
    · refine (scans_readOptionLetters bound areOptionLetters_nil).thenAdvances fun removed => ?_
      exact Scans.pure trivial
    · exact Scans.malformed
  · exact Scans.pure trivial

theorem scans_readOptionChange
    (first : Char) :
    Scans (readOptionChange first) fun change taken =>
      change.forWhole = true →
        ∃ letters, taken = letters.map .plain ++ [.plain ')'] ∧
          AreOptionLetters (first :: letters) change.added := by
  refine Scans.get_bind fun state => ?_
  refine (scans_readAddedOptions _ first).bind fun added taken areAdded => ?_
  obtain ⟨options, closing⟩ := added
  dsimp only
  split
  · rename_i isClosed
    exact Scans.pure fun _ => by rw [List.append_nil]; exact areAdded isClosed
  · split
    · exact Scans.malformed
    · refine (advances_readRemovedOptions _ closing).bind fun removed _ _ => ?_
      split
      · exact Scans.malformed
      · exact Scans.pure fun isWhole => absurd isWhole Bool.false_ne_true

theorem advances_conditionGroup
    (name : List Char) :
    Advances (conditionGroup name) := by
  intro state
  refine ScansFrom.get_bind ?_
  split
  · split
    · exact Scans.pure trivial state
    · exact Scans.malformed state
  · split
    · exact Scans.malformed state
    · split
      · exact Scans.malformed state
      · refine ScansFrom.bind (ScansFrom.set rfl rfl) fun _ _ _ => ?_
        exact Scans.pure trivial

theorem advances_beginGroup
    (name : Option (List Char)) :
    Advances (beginGroup name) := by
  intro state
  refine ScansFrom.get_bind ?_
  have noted : ∀ names group,
      ScansFrom state
        (do
          set { state with widths := state.widths ++ [none], names := names }
          return group)
        fun (_ : Nat) _ => True := by
    intro names group
    refine ScansFrom.bind (ScansFrom.set rfl rfl) fun _ _ _ => ?_
    exact Scans.pure trivial
  dsimp only
  split
  · exact noted _ _
  · split
    · exact Scans.malformed state
    · exact noted _ _

theorem advances_endGroup
    (group : Nat) (body : List Node) :
    Advances (endGroup group body) := by
  intro state
  constructor
  · intro read after given
    cases given
    exact ⟨rfl, [], rfl, trivial⟩
  · intro refusal given
    cases given

theorem advances_readIdentifier
    (stop : Char) :
    Advances (readIdentifier stop) := by
  refine (advances_readName stop).thenAdvances fun name => ?_
  split
  · exact Scans.pure trivial
  · exact Scans.malformed

theorem scans_readNamedOpening :
    Scans readNamedOpening fun opening _ => ∀ added, opening ≠ .wholeOptions added := by
  refine (advances_accept _).bind fun isCapture _ _ => ?_
  split
  · exact (advances_readIdentifier _).bind fun _ _ _ => Scans.pure nofun
  · refine (advances_accept _).bind fun isReference _ _ => ?_
    split
    · refine (advances_readIdentifier _).bind fun name _ _ => ?_
      refine Scans.get_bind fun state => ?_
      split
      · exact (advances_referenceNode _).bind fun _ _ _ => Scans.pure nofun
      · exact Scans.malformed
    · exact Scans.malformed

/-- Options of the whole pattern are opened by a question mark and their letters. -/
theorem scans_readOpening :
    Scans readOpening fun opening taken =>
      ∀ added, opening = .wholeOptions added →
        ∃ letters, taken = .plain '?' :: letters.map .plain ++ [.plain ')'] ∧
          AreOptionLetters letters added := by
  refine (scans_accept _).bind fun special taken isTaken => ?_
  split
  · rename_i isSpecial
    rw [if_pos isSpecial] at isTaken
    refine scans_nextPiece.bind fun next takenNext isNext => ?_
    split
    · exact scans_readNamedOpening.mono fun opening _ other added isWhole =>
        absurd isWhole (other added)
    · exact Scans.pure nofun
    · refine (advances_skipThrough _).bind fun found _ _ => ?_
      split
      · exact Scans.pure nofun
      · exact Scans.malformed
    · exact Scans.pure nofun
    · exact Scans.pure nofun
    · refine advances_nextPiece.bind fun after _ _ => ?_
      split
      · exact Scans.pure nofun
      · exact Scans.pure nofun
      · exact Scans.malformed
    · refine (advances_readName _).bind fun name _ _ => ?_
      refine (advances_conditionGroup name).bind fun group _ _ => ?_
      refine Scans.get_bind fun state => ?_
      split
      · exact Scans.pure nofun
      · exact (advances_referableWidth group).bind fun _ _ _ => Scans.pure nofun
    · exact Scans.pure nofun
    · rename_i letter _ _ _ _ _ _ _ _
      split
      · refine (scans_readOptionChange letter).bind fun change takenChange areLetters => ?_
        refine Scans.pure fun added isWhole => ?_
        split at isWhole
        · rename_i forWhole
          obtain ⟨letters, isTakenChange, areOptions⟩ := areLetters forWhole
          have isAdded : change.added = added := Opening.wholeOptions.inj isWhole
          refine ⟨letter :: letters, ?_, isAdded ▸ areOptions⟩
          rw [isTaken, isNext, isTakenChange, List.append_nil]
          rfl
        · cases isWhole
      · exact Scans.malformed
    · exact Scans.malformed
  · exact Scans.pure nofun

end FormRules.Pattern
