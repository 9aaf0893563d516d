import FormRules.Pattern.Program

/-!
Matching a program against a text.

A machine works on one task at a time: an attempt to match a program from a place on, or the news
that an attempt has failed or succeeded. Attempts that can still go another way wait in a pile;
the news goes to the one that began last.

Groups are noted as marks. A way that fails takes its marks back, but outside of rounds only as
far as they are new: a mark that was noted before keeps the place it was given last. A part that
is matched by itself and fails leaves the place that it came to.

Possessive rounds go on from there after the last of them has failed, as in releases of the engine
before 3.11.5: in `xabcab` the pattern `x(?:ab+c){1,2}+` matches `xabca`, for the second round has
come to the place behind its `a` when it fails. Later releases go back to where that round began,
and match `xabc`.
-/

namespace FormRules.Pattern

def isWordAt
    (text : Array Nat) (alphabet : Alphabet) (index : Nat) :
    Bool :=
  (text[index]?).any (Category.word.contains alphabet)

def atWordBoundary
    (text : Array Nat) (alphabet : Alphabet) (position : Nat) :
    Bool :=
  let before := if position = 0 then false else isWordAt text alphabet (position - 1)
  before != isWordAt text alphabet position

/-- The position is of the kind that an anchor asks for. A text without characters has neither a
word boundary nor a place inside a word. -/
def Place.holdsAt
    (text : Array Nat) (position : Nat) :
    Place → Bool
  | textStart => position == 0
  | textEnd => position == text.size
  | lastLineEnd =>
      position == text.size || (position + 1 == text.size && text[position]? == some lineFeed)
  | lineStart => position == 0 || text[position - 1]? == some lineFeed
  | lineEnd => position == text.size || text[position]? == some lineFeed
  | wordBoundary alphabet => text.size != 0 && atWordBoundary text alphabet position
  | insideWord alphabet => text.size != 0 && !atWordBoundary text alphabet position

/-- The part of the text between two bounds occurs again at a position, letters folded. -/
def occursAt
    (text : Array Nat) (folding : Folding) (start stop position : Nat) :
    Bool :=
  (List.range (stop - start)).all fun index =>
    match text[start + index]?, text[position + index]? with
    | some left, some right => folding.apply left == folding.apply right
    | _, _ => false

/-- The places noted for the groups, two for each. Only so many of the marks are in use. -/
structure Marks where
  places : Array (Option Nat)
  used : Nat
  deriving DecidableEq, Repr

namespace Marks

def ofGroups
    (groups : Nat) :
    Marks :=
  ⟨Array.replicate (2 * groups) none, 0⟩

/-- Notes a place. Marks that come into use with a later one have no place. -/
def note
    (marks : Marks) (index place : Nat) :
    Marks :=
  if index < marks.used then
    { marks with places := marks.places.setIfInBounds index (some place) }
  else
    let cleared := (List.range' marks.used (index - marks.used)).foldl
      (fun places skipped => places.setIfInBounds skipped none) marks.places
    ⟨cleared.setIfInBounds index (some place), index + 1⟩

/-- The places noted for a group, if both marks of it are in use. -/
def places?
    (marks : Marks) (group : Nat) :
    Option (Nat × Nat) :=
  if 2 * group ≤ marks.used then
    match marks.places[2 * group - 2]?.join, marks.places[2 * group - 1]?.join with
    | some start, some stop => some (start, stop)
    | _, _ => none
  else none

/-- The bounds of a group. A group that has begun anew beyond its old end has none. -/
def group?
    (marks : Marks) (group : Nat) :
    Option (Nat × Nat) :=
  (marks.places? group).filter fun bounds => bounds.1 ≤ bounds.2

/-- The marks after the way that led to them has failed. Inside of rounds all is as it was;
elsewhere a mark in use keeps its latest place. -/
@[inline] def takeBack
    (saved marks : Marks) (inRounds : Bool) :
    Marks :=
  if inRounds then saved else { marks with used := saved.used }

end Marks

/-- A repetition that has been begun: its bounds, the program of a round, the number of rounds
begun, and where the last of those beyond the least number began. -/
structure Repetition where
  least : Nat
  greatest : Option Nat
  body : Program
  begun : Nat
  last : Option Nat

namespace Repetition

def next
    (repetition : Repetition) :
    Repetition :=
  { repetition with begun := repetition.begun + 1 }

def nextAt
    (repetition : Repetition) (place : Nat) :
    Repetition :=
  { repetition.next with last := some place }

end Repetition

def allowsMore
    (greatest : Option Nat) (count : Nat) :
    Bool :=
  match greatest with
  | none => true
  | some bound => count < bound

/-- A run of characters and what follows it: the least and the greatest number of characters,
the test of each, and the program after the run. -/
structure Stretch where
  least : Nat
  greatest : Option Nat
  test : CharacterTest
  next : Program

/-- Rounds of which none is given back, and what follows them. -/
structure FirmRounds where
  least : Nat
  greatest : Option Nat
  body : Program
  next : Program

/-- What waits for the end of an attempt. The places are those where the attempt began, unless
told otherwise. -/
inductive Waiting where
  /-- On failure, the next alternative. -/
  | alternatives (others : List Program) (place : Nat) (around : List Repetition) (saved : Marks)
  /-- On failure, one character less of a run from a place on. -/
  | shorterRun (stretch : Stretch) (start count : Nat) (around : List Repetition) (saved : Marks)
  /-- On failure, one character more of a run of so many up to a place. -/
  | longerRun (stretch : Stretch) (place count : Nat) (around : List Repetition) (saved : Marks)
  /-- On failure, back to the place. -/
  | back (place : Nat)
  /-- On failure, what follows the rounds. -/
  | afterRounds (next : Program) (place : Nat) (around : List Repetition) (saved : Marks)
  /-- On failure, one more round. -/
  | oneMoreRound (repetition : Repetition) (place : Nat) (around : List Repetition)
      (saved : Marks)
  /-- A round that has to succeed; the rounds began at the place. -/
  | dueRound (rounds : FirmRounds) (start count : Nat) (around : List Repetition)
  /-- A round that may fail. On failure, what follows the rounds, from the place that was left. -/
  | furtherRound (rounds : FirmRounds) (place count : Nat) (around : List Repetition)
      (saved : Marks)
  /-- On success, what follows the part that is matched by itself. -/
  | afterPart (next : Program) (place : Nat) (around : List Repetition)
  /-- On success, what follows the condition. -/
  | ifHolds (next : Program) (place : Nat) (around : List Repetition)
  /-- On failure, what follows the condition. -/
  | ifFails (next : Program) (place : Nat) (around : List Repetition) (saved : Marks)

inductive Task where
  | attempt (program : Program) (place : Nat) (around : List Repetition)
  | failed
  | succeeded

/-- A machine: its task, what waits, the place left by the last part matched by itself, and the
marks. -/
structure Machine where
  task : Task
  pile : List Waiting
  left : Nat
  marks : Marks

namespace CharacterTest

@[inline] def acceptsAt
    (test : CharacterTest) (text : Array Nat) (place : Nat) :
    Bool :=
  if inside : place < text.size then test.accepts text[place] else false

/-- The place where the characters that pass the test end, from a place on and after at most so
many. -/
def endFrom
    (test : CharacterTest) (text : Array Nat) :
    (most place : Nat) → Nat
  | 0, place => place
  | most + 1, place =>
      if test.acceptsAt text place then endFrom test text most (place + 1) else place

def countFrom
    (test : CharacterTest) (text : Array Nat) (most place : Nat) :
    Nat :=
  test.endFrom text most place - place

/-- The place that is left after so many characters from a place on have been counted. -/
def leftAfter
    (test : CharacterTest) (place count : Nat) :
    Nat :=
  if test.isFolded then place + count else place

end CharacterTest

namespace Program

/-- The first character of the program can be seen not to be at the place. -/
def isRuledOut
    (text : Array Nat) (place : Nat) :
    Program → Bool
  | character test _ => test.isDirect && !test.acceptsAt text place
  | _ => false

def exactLetter? :
    Program → Option Nat
  | character test _ => test.exactLetter?
  | _ => none

end Program

@[inline] def letterStandsAt
    (text : Array Nat) (code place : Nat) :
    Bool :=
  if inside : place < text.size then text[place] == code else false

/-- The greatest number up to a given one, and not below a least one, so many places after the
start that a letter stands there. -/
def lastPlaceOf?
    (text : Array Nat) (code start least : Nat) :
    (count : Nat) → Option Nat
  | 0 => if least == 0 && letterStandsAt text code start then some 0 else none
  | count + 1 =>
      if count + 1 < least then none
      else if letterStandsAt text code (start + (count + 1)) then some (count + 1)
      else lastPlaceOf? text code start least count

namespace Machine

@[inline] def fail
    (machine : Machine) :
    Machine :=
  { machine with task := .failed }

@[inline] def go
    (machine : Machine) (program : Program) (place : Nat) (around : List Repetition) :
    Machine :=
  { machine with task := .attempt program place around }

/-- The machine with another attempt, for the end of which something waits. -/
@[inline] def goBefore
    (machine : Machine) (waiting : Waiting) (program : Program) (place : Nat)
    (around : List Repetition) :
    Machine :=
  { machine with
    task := .attempt program place around
    pile := waiting :: machine.pile
    left := place }

def tryAlternatives
    (machine : Machine) (text : Array Nat) (alternatives : List Program) (place : Nat)
    (around : List Repetition) (saved : Marks) :
    Machine :=
  match alternatives.dropWhile (·.isRuledOut text place) with
  | [] => machine.fail
  | alternative :: others =>
      machine.goBefore (.alternatives others place around saved) alternative place around

/-- Goes on after a run of at most so many characters, as many as possible. Where a letter has to
follow, only places with the letter are tried. -/
def shortenRun
    (machine : Machine) (text : Array Nat) (stretch : Stretch) (start count : Nat)
    (around : List Repetition) (saved : Marks) :
    Machine :=
  let longest :=
    match stretch.next.exactLetter? with
    | some code => lastPlaceOf? text code start stretch.least count
    | none => if stretch.least ≤ count then some count else none
  match longest with
  | none => machine.fail
  | some count =>
      machine.goBefore (.shorterRun stretch start count around saved) stretch.next (start + count)
        around

def beginLongRun
    (machine : Machine) (text : Array Nat) (stretch : Stretch) (place : Nat)
    (around : List Repetition) :
    Machine :=
  if text.size < place + stretch.least then machine.fail
  else
    let most := min (stretch.greatest.getD text.size) (text.size - place)
    let count := stretch.test.countFrom text most place
    let counted := { machine with left := stretch.test.leftAfter place count }
    if count < stretch.least then counted.fail
    else counted.shortenRun text stretch place count around machine.marks

def beginShortRun
    (machine : Machine) (text : Array Nat) (stretch : Stretch) (place : Nat)
    (around : List Repetition) :
    Machine :=
  if text.size < place + stretch.least then machine.fail
  else
    let count := stretch.test.countFrom text stretch.least place
    let counted := { machine with left := stretch.test.leftAfter place count }
    if count < stretch.least then counted.fail
    else
      counted.goBefore (.longerRun stretch (place + count) count around machine.marks) stretch.next
        (place + count) around

/-- Begins a run as long as possible, of which nothing is given back. -/
def beginFirmRun
    (machine : Machine) (text : Array Nat) (stretch : Stretch) (place : Nat)
    (around : List Repetition) :
    Machine :=
  if text.size < place + stretch.least then machine.fail
  else
    let most := min (stretch.greatest.getD text.size) (text.size - place)
    let count := stretch.test.countFrom text most place
    let counted := { machine with left := stretch.test.leftAfter place count }
    if count < stretch.least then counted.fail else counted.go stretch.next (place + count) around

/-- Between the rounds of the innermost repetition. A round beyond the least number that begins
where the last one began is not tried. -/
def betweenRounds
    (machine : Machine) (few : Bool) (next : Program) (place : Nat)
    (repetitions : List Repetition) :
    Machine :=
  match repetitions with
  | [] => machine.fail
  | repetition :: around =>
      let arrived := { machine with left := place }
      if repetition.begun < repetition.least then
        arrived.goBefore (.back place) repetition.body place (repetition.next :: around)
      else if few then
        arrived.goBefore (.oneMoreRound repetition place around machine.marks) next place around
      else if allowsMore repetition.greatest repetition.begun && repetition.last != some place then
        arrived.goBefore (.afterRounds next place around machine.marks) repetition.body place
          (repetition.nextAt place :: around)
      else arrived.goBefore (.back place) next place around

/-- Goes on with possessive rounds after so many of them, from the place that was left. The last
argument is where the last round beyond the least number began. -/
def firmRound
    (machine : Machine) (rounds : FirmRounds) (start count : Nat) (around : List Repetition)
    (last : Option Nat) :
    Machine :=
  if count < rounds.least then
    machine.goBefore (.dueRound rounds start count around) rounds.body machine.left around
  else if allowsMore rounds.greatest count && last != some machine.left then
    machine.goBefore (.furtherRound rounds machine.left count around machine.marks) rounds.body
      machine.left around
  else machine.go rounds.next machine.left around

def attempt
    (machine : Machine) (text : Array Nat) (program : Program) (place : Nat)
    (around : List Repetition) :
    Machine :=
  match program with
  | .done => { machine with task := .succeeded, left := place }
  | .character test next =>
      if test.acceptsAt text place then machine.go next (place + 1) around else machine.fail
  | .anchor kind next =>
      if kind.holdsAt text place then machine.go next place around else machine.fail
  | .mark index next =>
      { machine with
        task := .attempt next place around
        marks := machine.marks.note index place }
  | .choice alternatives =>
      machine.tryAlternatives text alternatives place around machine.marks
  | .run .greedy least greatest test next =>
      machine.beginLongRun text ⟨least, greatest, test, next⟩ place around
  | .run .lazy least greatest test next =>
      machine.beginShortRun text ⟨least, greatest, test, next⟩ place around
  | .run .possessive least greatest test next =>
      machine.beginFirmRun text ⟨least, greatest, test, next⟩ place around
  | .rounds least greatest body again =>
      { machine with
        task := .attempt again place (⟨least, greatest, body, 0, none⟩ :: around)
        left := place }
  | .again few next => machine.betweenRounds few next place around
  | .possessive least greatest body next =>
      { machine with left := place }.firmRound ⟨least, greatest, body, next⟩ place 0 around none
  | .atomic body next =>
      machine.goBefore (.afterPart next place around) body place around
  | .look negated behind body next =>
      if place < behind then
        if negated then machine.go next place around else machine.fail
      else
        let waiting :=
          if negated then Waiting.ifFails next place around machine.marks
          else Waiting.ifHolds next place around
        machine.goBefore waiting body (place - behind) around
  | .backreference group folding next =>
      match machine.marks.group? group with
      | some (start, stop) =>
          if occursAt text folding start stop place then
            machine.go next (place + (stop - start)) around
          else machine.fail
      | none => machine.fail
  | .conditional group present absent =>
      if (machine.marks.group? group).isSome then machine.go present place around
      else machine.go absent place around

@[inline] def takeBack
    (machine : Machine) (saved : Marks) (around : List Repetition) :
    Machine :=
  { machine with marks := saved.takeBack machine.marks !around.isEmpty }

def afterFailure
    (machine : Machine) (text : Array Nat) (waiting : Waiting) :
    Machine :=
  match waiting with
  | .alternatives others place around saved =>
      (machine.takeBack saved around).tryAlternatives text others place around saved
  | .shorterRun stretch start count around saved =>
      let back := machine.takeBack saved around
      if count ≤ stretch.least then back.fail
      else back.shortenRun text stretch start (count - 1) around saved
  | .longerRun stretch place count around saved =>
      let back := machine.takeBack saved around
      if stretch.test.acceptsAt text place then
        let counted := { back with left := stretch.test.leftAfter place 1 }
        if allowsMore stretch.greatest count then
          counted.goBefore (.longerRun stretch (place + 1) (count + 1) around saved) stretch.next
            (place + 1) around
        else counted.fail
      else { back with left := place }.fail
  | .back place => { machine with task := .failed, left := place }
  | .afterRounds next place around saved =>
      { machine with marks := saved }.goBefore (.back place) next place around
  | .oneMoreRound repetition place around saved =>
      let back := { machine.takeBack saved around with left := place }
      if allowsMore repetition.greatest repetition.begun && repetition.last != some place then
        back.goBefore (.back place) repetition.body place (repetition.nextAt place :: around)
      else back.fail
  | .dueRound _ start _ _ => { machine with task := .failed, left := start }
  | .furtherRound rounds _ _ around saved =>
      { machine with marks := saved }.go rounds.next machine.left around
  | .afterPart _ place _ => { machine with task := .failed, left := place }
  | .ifHolds _ _ _ => machine.fail
  | .ifFails next place around saved => (machine.takeBack saved around).go next place around

def afterSuccess
    (machine : Machine) (waiting : Waiting) :
    Machine :=
  match waiting with
  | .dueRound rounds start count around => machine.firmRound rounds start (count + 1) around none
  | .furtherRound rounds place count around _ =>
      machine.firmRound rounds place (count + 1) around (some place)
  | .afterPart next _ around => machine.go next machine.left around
  | .ifHolds next place around => machine.go next place around
  | .ifFails _ _ _ _ => machine.fail
  | _ => { machine with task := .succeeded }

/-- One step of a machine. Nothing if it has no more to do. -/
@[inline] def step?
    (machine : Machine) (text : Array Nat) :
    Option Machine :=
  match machine.task with
  | .attempt program place around => some (machine.attempt text program place around)
  | .failed =>
      match machine.pile with
      | [] => none
      | waiting :: pile => some ({ machine with pile := pile }.afterFailure text waiting)
  | .succeeded =>
      match machine.pile with
      | [] => none
      | waiting :: pile => some ({ machine with pile := pile }.afterSuccess waiting)

def run
    (text : Array Nat) :
    (steps : Nat) → Machine → Machine
  | 0, machine => machine
  | steps + 1, machine =>
      match machine.step? text with
      | some next => run text steps next
      | none => machine

def hasSucceeded
    (machine : Machine) :
    Bool :=
  match machine.task with
  | .succeeded => machine.pile.isEmpty
  | _ => false

/-- More steps than any machine has the time to make. -/
def stepLimit :
    Nat :=
  Nat.pow 2 60

end Machine

end FormRules.Pattern
