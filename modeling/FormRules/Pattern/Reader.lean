import FormRules.Number.Numeral
import FormRules.Pattern.Node
import FormRules.Text.CharacterName
import FormRules.Text.IdentifierCodes

/-!
Reading patterns.

A pattern is first cut into pieces: a character, or a backslash with the character after it. The
reader then builds the tree, keeping the number of groups and their names, and the options in
force, which the pattern itself may change at its start or inside a group.

`readWhole` is the entry. A pattern is refused as malformed, for a repetition count that is too
large or too long to be read, or for asking for two alphabets at once.
-/

namespace FormRules.Pattern

open FormRules.Number
open FormRules.Text

/-- Why a text is no pattern. -/
inductive PatternRefusal where
  | malformed
  | repetitionTooLarge
  | repetitionTooLong (digits : Nat)
  | clashingAlphabets
  deriving DecidableEq, Repr

/-- A piece of a pattern. -/
inductive Piece where
  | plain (character : Char)
  | escaped (character : Char)
  deriving DecidableEq, Repr

/-- The pieces of a pattern, and whether a lone backslash is left at its end. -/
def piecesOf :
    List Char → List Piece × Bool
  | [] => ([], false)
  | ['\\'] => ([], true)
  | '\\' :: character :: rest =>
      let (pieces, broken) := piecesOf rest
      (.escaped character :: pieces, broken)
  | character :: rest =>
      let (pieces, broken) := piecesOf rest
      (.plain character :: pieces, broken)

/-- Options of a pattern. -/
structure Options where
  ignoreCase : Bool
  multiline : Bool
  dotAll : Bool
  verbose : Bool
  ascii : Bool
  unicode : Bool
  /-- An option that allows no repetition. -/
  template : Bool
  deriving DecidableEq, Repr

namespace Options

def none :
    Options :=
  ⟨false, false, false, false, false, false, false⟩

def union
    (left right : Options) :
    Options :=
  ⟨left.ignoreCase || right.ignoreCase, left.multiline || right.multiline,
    left.dotAll || right.dotAll, left.verbose || right.verbose, left.ascii || right.ascii,
    left.unicode || right.unicode, left.template || right.template⟩

def inter
    (left right : Options) :
    Options :=
  ⟨left.ignoreCase && right.ignoreCase, left.multiline && right.multiline,
    left.dotAll && right.dotAll, left.verbose && right.verbose, left.ascii && right.ascii,
    left.unicode && right.unicode, left.template && right.template⟩

def without
    (left right : Options) :
    Options :=
  ⟨left.ignoreCase && !right.ignoreCase, left.multiline && !right.multiline,
    left.dotAll && !right.dotAll, left.verbose && !right.verbose, left.ascii && !right.ascii,
    left.unicode && !right.unicode, left.template && !right.template⟩

def choosesAlphabet
    (options : Options) :
    Bool :=
  options.ascii || options.unicode

/-- The options in force inside a group that turns some on and some off. A chosen alphabet
replaces the one outside. -/
def inside
    (outside added removed : Options) :
    Options :=
  let kept :=
    if added.choosesAlphabet then { outside with ascii := false, unicode := false } else outside
  (kept.union added).without removed

def alphabet
    (options : Options) :
    Alphabet :=
  if options.ascii then .ascii else .unicode

def folding
    (options : Options) :
    Folding :=
  if options.ignoreCase then
    if options.ascii then .ascii else .unicode
  else .exact

def ofLetter?
    (letter : Char) :
    Option Options :=
  match letter with
  | 'i' => some { none with ignoreCase := true }
  | 'm' => some { none with multiline := true }
  | 's' => some { none with dotAll := true }
  | 'x' => some { none with verbose := true }
  | 'a' => some { none with ascii := true }
  | 'u' => some { none with unicode := true }
  | 't' => some { none with template := true }
  | _ => Option.none

end Options

/-- What the reader knows at a place of the pattern. -/
structure ReaderState where
  /-- The pieces ahead. -/
  rest : List Piece
  /-- A lone backslash follows the pieces ahead. -/
  broken : Bool
  /-- Options of the whole pattern. -/
  whole : Options
  /-- Options in force at this place. -/
  current : Options
  /-- The widths of the groups begun so far, from group 1 on; a group still open has none. -/
  widths : List (Option Width)
  names : List (List Char × Nat)
  /-- Groups that conditions refer to by number. -/
  mentioned : List Nat
  /-- Inside a condition on what lies before: the number of groups begun before it. -/
  begunBeforeLook : Option Nat

/-- A step of the reader. -/
abbrev Reader :=
  StateT ReaderState (Except PatternRefusal)

def malformed {result : Type} :
    Reader result :=
  throw .malformed

/-- Moves on to the given pieces. Reaching a lone backslash is an error. -/
def moveTo
    (rest : List Piece) :
    Reader Unit := do
  let state ← get
  if rest.isEmpty && state.broken then malformed
  else set { state with rest := rest }

def peekPiece :
    Reader (Option Piece) := do
  return (← get).rest.head?

/-- The piece ahead, passed over. -/
def nextPiece :
    Reader (Option Piece) := do
  match (← get).rest with
  | [] => return none
  | piece :: rest => do
      moveTo rest
      return some piece

/-- Passes over the character, if it is ahead. -/
def accept
    (character : Char) :
    Reader Bool := do
  match (← get).rest with
  | [] => return false
  | piece :: rest =>
      if piece = .plain character then do
        moveTo rest
        return true
      else return false

def expect
    (character : Char) :
    Reader Unit := do
  if ← accept character then return () else malformed

/-- Characters ahead that pass a test, at most so many. -/
def acceptWhile
    (test : Char → Bool) :
    (most : Nat) → Reader (List Char)
  | 0 => return []
  | most + 1 => do
      match ← peekPiece with
      | some (.plain character) =>
          if test character then do
            let _ ← nextPiece
            return character :: (← acceptWhile test most)
          else return []
      | _ => return []

/-- The text up to a character, which is passed over. The text must not be empty; a text with an
escape in it is none of the names that are asked for. -/
def readName
    (stop : Char) :
    Reader (List Char) := do
  let pieces := (← get).rest
  let named := pieces.takeWhile (· != .plain stop)
  match pieces.drop named.length with
  | [] => malformed
  | _ :: rest =>
      if named.isEmpty then malformed
      else do
        moveTo rest
        named.mapM fun piece =>
          match piece with
          | .plain character => return character
          | .escaped _ => malformed

/-- Passes over everything up to and with a character; false if it does not come. -/
def skipThrough
    (stop : Char) :
    Reader Bool := do
  let pieces := (← get).rest
  match pieces.dropWhile (· != .plain stop) with
  | [] => do
      moveTo []
      return false
  | _ :: rest => do
      moveTo rest
      return true

def isDecimal
    (character : Char) :
    Bool :=
  '0' ≤ character && character ≤ '9'

def isOctal
    (character : Char) :
    Bool :=
  '0' ≤ character && character ≤ '7'

def hexValue?
    (character : Char) :
    Option Nat :=
  if isDecimal character then some (character.toNat - 48)
  else if 'a' ≤ character && character ≤ 'f' then some (character.toNat - 87)
  else if 'A' ≤ character && character ≤ 'F' then some (character.toNat - 55)
  else none

def valueInBase
    (base : Nat) (digits : List Char) :
    Nat :=
  digits.foldl (fun value digit => base * value + (hexValue? digit).getD 0) 0

/-- What an escape means where a class may stand: a character or an item of a class. -/
inductive EscapeMeaning where
  | character (code : Nat)
  | item (listed : ClassItem)

def controlCode?
    (letter : Char) :
    Option Nat :=
  match letter with
  | 'a' => some 7
  | 'f' => some 12
  | 'n' => some 10
  | 'r' => some 13
  | 't' => some 9
  | 'v' => some 11
  | '\\' => some 92
  | _ => none

def categoryItem?
    (letter : Char) :
    Option ClassItem :=
  match letter with
  | 'd' => some (.category .digit false)
  | 'D' => some (.category .digit true)
  | 's' => some (.category .blank false)
  | 'S' => some (.category .blank true)
  | 'w' => some (.category .word false)
  | 'W' => some (.category .word true)
  | _ => none

def readHexadecimal
    (digits : Nat) :
    Reader Nat := do
  let read ← acceptWhile (fun character => (hexValue? character).isSome) digits
  if read.length = digits then return valueInBase 16 read else malformed

def readNamedCharacter :
    Reader Nat := do
  expect '\x7b'
  let name ← readName '\x7d'
  match characterNamed? name with
  | some code => return code
  | none => malformed

/-- A character given by hexadecimal digits or by name, after the letter that announces it. -/
def readCodedCharacter?
    (letter : Char) :
    Reader (Option Nat) := do
  match letter with
  | 'x' => return some (← readHexadecimal 2)
  | 'u' => return some (← readHexadecimal 4)
  | 'U' => do
      let code ← readHexadecimal 8
      if code < 1114112 then return some code else malformed
  | 'N' => return some (← readNamedCharacter)
  | _ => return none

def readClassEscape
    (character : Char) :
    Reader EscapeMeaning := do
  match controlCode? character, categoryItem? character with
  | some code, _ => return .character code
  | none, some item => return .item item
  | none, none =>
      match ← readCodedCharacter? character with
      | some code => return .character code
      | none =>
          if character = 'b' then return .character 8
          else if isOctal character then do
            let more ← acceptWhile isOctal 2
            let code := valueInBase 8 (character :: more)
            if code < 256 then return .character code else malformed
          else if isDecimal character || isAsciiLetter character.toNat then malformed
          else return .character character.toNat

/-- A single character that the current options may fold. -/
def letterNode
    (options : Options) (code : Nat) :
    Node :=
  .letter code false options.folding

/-- A class under the current options. A class of one character is that character. -/
def classNode
    (options : Options) (members : CharClass) :
    Node :=
  match members.items.eraseDups with
  | [.single code] => .letter code members.negated options.folding
  | items => .oneOf ⟨members.negated, items⟩ options.alphabet options.folding

/-- A group that a reference may name: begun, ended, and not begun inside the condition on what
lies before that the reference stands in. -/
def referableWidth
    (group : Nat) :
    Reader Width := do
  let state ← get
  match state.widths.getD (group - 1) none with
  | none => malformed
  | some width =>
      match state.begunBeforeLook with
      | none => return width
      | some begun => if group ≤ begun then return width else malformed

def referenceNode
    (group : Nat) :
    Reader Node := do
  let state ← get
  if group = 0 || state.widths.length < group then malformed
  else do
    let width ← referableWidth group
    return .backreference group state.current.folding width

/-- An escape that begins with a digit other than zero: three octal digits are a character, up to
two digits a reference. -/
def readNumberEscape
    (digit : Char) :
    Reader Node := do
  let options := (← get).current
  match ← acceptWhile isDecimal 1 with
  | [second] => do
      let next ← peekPiece
      let octal :=
        match next with
        | some (.plain third) => isOctal digit && isOctal second && isOctal third
        | _ => false
      if octal then do
        let third ← acceptWhile isOctal 1
        let code := valueInBase 8 (digit :: second :: third)
        if code < 256 then return letterNode options code else malformed
      else referenceNode (valueInBase 10 [digit, second])
  | _ => referenceNode (valueInBase 10 [digit])

def readEscape
    (character : Char) :
    Reader Node := do
  let options := (← get).current
  match character with
  | 'A' => return .anchor .textStart
  | 'Z' => return .anchor .textEnd
  | 'b' => return .anchor (.wordBoundary options.alphabet)
  | 'B' => return .anchor (.insideWord options.alphabet)
  | _ =>
      match categoryItem? character, controlCode? character with
      | some item, _ => return .oneOf ⟨false, [item]⟩ options.alphabet options.folding
      | none, some code => return letterNode options code
      | none, none =>
          match ← readCodedCharacter? character with
          | some code => return letterNode options code
          | none =>
              if character = '0' then do
                let more ← acceptWhile isOctal 2
                return letterNode options (valueInBase 8 more)
              else if isDecimal character then readNumberEscape character
              else if isAsciiLetter character.toNat then malformed
              else return letterNode options character.toNat

/-- One end of a possible span in a class. -/
def readClassEnd
    (piece : Piece) :
    Reader EscapeMeaning := do
  match piece with
  | .escaped character => readClassEscape character
  | .plain character => return .character character.toNat

def EscapeMeaning.toItem :
    EscapeMeaning → ClassItem
  | character code => .single code
  | item listed => listed

/-- The items of a class up to its closing bracket, the latest read first. A bracket right at the
start is an item. The first argument bounds the number of items. -/
def readClassItems :
    Nat → List ClassItem → Reader (List ClassItem)
  | 0, _ => malformed
  | bound + 1, items => do
      match ← nextPiece with
      | none => malformed
      | some piece =>
          if piece = .plain ']' && !items.isEmpty then return items
          else do
            let low ← readClassEnd piece
            if ← accept '-' then
              match ← nextPiece with
              | none => malformed
              | some (.plain ']') => return .single 45 :: low.toItem :: items
              | some endPiece => do
                  match low, ← readClassEnd endPiece with
                  | .character lowCode, .character highCode =>
                      if lowCode ≤ highCode then
                        readClassItems bound (.span lowCode highCode :: items)
                      else malformed
                  | _, _ => malformed
            else readClassItems bound (low.toItem :: items)

def readClass :
    Reader Node := do
  let negated ← accept '^'
  let state ← get
  let items ← readClassItems (state.rest.length + 1) []
  return classNode state.current ⟨negated, items.reverse⟩

/-- A repetition count, absent if no digits are written. -/
def repetitionCount?
    (digits : List Char) :
    Reader (Option Nat) := do
  if digits.isEmpty then return none
  else if integerDigitLimit < digits.length then throw (.repetitionTooLong digits.length)
  else
    let count := valueInBase 10 digits
    if count < repetitionLimit then return some count else throw .repetitionTooLarge

/-- The end of the bounds of a repetition whose digits have been read, and what was ahead at their
start; nothing if the brace that opened them is a character. -/
def closeBraces?
    (saved : List Piece) (low high : List Char) :
    Reader (Option (Nat × Option Nat)) := do
  if ← accept '\x7d' then
    if saved.head? = some (.plain '\x7d') then do
      modify fun state => { state with rest := saved }
      return none
    else do
      let least ← repetitionCount? low
      let greatest ← repetitionCount? high
      match greatest with
      | some bound =>
          if bound < least.getD 0 then malformed else return some (least.getD 0, some bound)
      | none => return some (least.getD 0, none)
  else do
    modify fun state => { state with rest := saved }
    return none

/-- Bounds of a repetition after an opening brace; nothing if the brace is a character. -/
def readBraces? :
    Reader (Option (Nat × Option Nat)) := do
  let saved := (← get).rest
  let low ← acceptWhile isDecimal saved.length
  if ← accept ',' then do
    let high ← acceptWhile isDecimal saved.length
    closeBraces? saved low high
  else closeBraces? saved low low

/-- A repetition of the item read last. Anchors and repetitions cannot be repeated. -/
def readRepetition
    (least : Nat) (greatest : Option Nat) (items : List Node) :
    Reader (List Node) := do
  match items with
  | [] => malformed
  | item :: before =>
      if item.isAnchor || item.isRepeated then malformed
      else if ← accept '?' then return .repeated .lazy least greatest item.repeatable :: before
      else if ← accept '+' then
        return .repeated .possessive least greatest item.repeatable :: before
      else return .repeated .greedy least greatest item.repeatable :: before

/-- Letters of options that follow a first one, up to one of the closing characters, which is
passed over. -/
def readOptionLetters
    (closing : List Char) :
    (bound : Nat) → (letter : Char) → Options → Reader (Options × Char)
  | 0, _, _ => malformed
  | bound + 1, letter, read => do
      match Options.ofLetter? letter with
      | none => malformed
      | some option =>
          let all := read.union option
          if option.choosesAlphabet && all.ascii && all.unicode then malformed
          else
            match ← nextPiece with
            | some (.plain next) =>
                if closing.contains next then return (all, next)
                else readOptionLetters closing bound next all
            | _ => malformed

/-- What letters after a question mark turn on and off, and whether for the whole pattern. -/
structure OptionChange where
  added : Options
  removed : Options
  forWhole : Bool

def OptionChange.isEmpty
    (change : OptionChange) :
    Bool :=
  change.added == Options.none && change.removed == Options.none

/-- The options that a change turns on, with the character behind their letters. A change that only
turns options off begins with the sign before these. -/
def readAddedOptions
    (bound : Nat) (first : Char) :
    Reader (Options × Char) :=
  if first = '-' then return (Options.none, '-')
  else readOptionLetters [')', '-', ':'] bound first Options.none

def readRemovedOptions
    (bound : Nat) (closing : Char) :
    Reader Options := do
  if closing = '-' then
    match ← nextPiece with
    | some (.plain letter) => do
        let (removed, _) ← readOptionLetters [':'] bound letter Options.none
        return removed
    | _ => malformed
  else return Options.none

/-- A change of options after its first character. -/
def readOptionChange
    (first : Char) :
    Reader OptionChange := do
  let bound := (← get).rest.length + 1
  let (added, closing) ← readAddedOptions bound first
  if closing = ')' then return ⟨added, Options.none, true⟩
  else if added.template then malformed
  else do
    let removed ← readRemovedOptions bound closing
    if removed.choosesAlphabet || removed.template || added.inter removed != Options.none then
      malformed
    else return ⟨added, removed, false⟩

/-- A decimal numeral of any script, single low lines allowed between its digits. The argument
tells whether a digit has to come next. -/
def readSpacedDigits? :
    (digitDue : Bool) → (value : Nat) → List Char → Option Nat
  | digitDue, value, [] => if digitDue then none else some value
  | digitDue, value, character :: rest =>
      if character = '_' then
        if digitDue then none else readSpacedDigits? true value rest
      else
        match digitValue? character with
        | some digit => readSpacedDigits? false (10 * value + digit) rest
        | none => none

/-- The number of a group as a condition gives it. Blanks around it and a plus sign before it are
passed over. -/
def groupNumber?
    (text : List Char) :
    Option Nat :=
  if text.any isInformationSeparator then none
  else
    match readSign (trim text) with
    | (negative, digits) =>
        match readSpacedDigits? true 0 digits with
        | some value => if negative then none else some value
        | none => none

def groupLimit :
    Nat :=
  1073741823

def conditionGroup
    (name : List Char) :
    Reader Nat := do
  let state ← get
  if isIdentifier name then
    match state.names.lookup name with
    | some group => return group
    | none => malformed
  else
    match groupNumber? name with
    | none => malformed
    | some group =>
        if group = 0 || group ≥ groupLimit then malformed
        else do
          set { state with mentioned := group :: state.mentioned }
          return group

def beginGroup
    (name : Option (List Char)) :
    Reader Nat := do
  let state ← get
  let group := state.widths.length + 1
  let names ←
    match name with
    | none => pure state.names
    | some name =>
        if (state.names.lookup name).isSome then malformed else pure ((name, group) :: state.names)
  set { state with widths := state.widths ++ [none], names := names }
  return group

def endGroup
    (group : Nat) (body : List Node) :
    Reader Unit :=
  modify fun state =>
    { state with widths := state.widths.set (group - 1) (some (Node.widthOf body)) }

/-- The kinds of parentheses, after their opening characters are read. -/
inductive Opening where
  | comment
  | reference (node : Node)
  | capture (name : Option (List Char))
  | enclosed (change : OptionChange)
  | atomic
  | look (negated behind : Bool)
  | condition (group : Nat)
  | wholeOptions (added : Options)

def readIdentifier
    (stop : Char) :
    Reader (List Char) := do
  let name ← readName stop
  if isIdentifier name then return name else malformed

/-- What follows an opening parenthesis, a question mark and the letter `P`. -/
def readNamedOpening :
    Reader Opening := do
  if ← accept '<' then return .capture (some (← readIdentifier '>'))
  else if ← accept '=' then do
    let name ← readIdentifier ')'
    match (← get).names.lookup name with
    | some group => return .reference (← referenceNode group)
    | none => malformed
  else malformed

def readOpening :
    Reader Opening := do
  if ← accept '?' then
    match ← nextPiece with
    | some (.plain 'P') => readNamedOpening
    | some (.plain ':') => return .enclosed ⟨Options.none, Options.none, false⟩
    | some (.plain '#') =>
        if ← skipThrough ')' then return .comment else malformed
    | some (.plain '=') => return .look false false
    | some (.plain '!') => return .look true false
    | some (.plain '<') =>
        match ← nextPiece with
        | some (.plain '=') => return .look false true
        | some (.plain '!') => return .look true true
        | _ => malformed
    | some (.plain '(') => do
        let group ← conditionGroup (← readName ')')
        match (← get).begunBeforeLook with
        | none => return .condition group
        | some _ => do
            let _ ← referableWidth group
            return .condition group
    | some (.plain '>') => return .atomic
    | some (.plain letter) =>
        if letter = '-' || (Options.ofLetter? letter).isSome then do
          let change ← readOptionChange letter
          return if change.forWhole then .wholeOptions change.added else .enclosed change
        else malformed
    | _ => malformed
  else return .capture none

/-- Runs a reader under other options, which end with it. -/
def withOptions {result : Type}
    (options : Options) (reader : Reader result) :
    Reader result := do
  let outside := (← get).current
  modify fun state => { state with current := options }
  let read ← reader
  modify fun state => { state with current := outside }
  return read

def withLookBehind {result : Type}
    (reader : Reader result) :
    Reader result := do
  match (← get).begunBeforeLook with
  | some _ => reader
  | none => do
      modify fun state => { state with begunBeforeLook := some state.widths.length }
      let read ← reader
      modify fun state => { state with begunBeforeLook := none }
      return read

/-- A character that layout may consist of in a pattern with the verbose option. -/
def isLayout
    (character : Char) :
    Bool :=
  character = ' ' || ('\t' ≤ character && character ≤ '\r')

mutual

/-- Alternatives up to a closing parenthesis or the end. The first argument bounds the depth of
the reading; the second tells that this is the whole pattern. -/
def readAlternatives :
    (bound : Nat) → (isWhole : Bool) → Reader (List Node)
  | 0, _ => malformed
  | bound + 1, isWhole => do
      let first ← readItems bound isWhole []
      let alternatives ← readMoreAlternatives bound [first]
      let options := (← get).current
      return Node.joinAlternatives options.alphabet options.folding alternatives.reverse

/-- Further alternatives, each after a bar, the latest read first. -/
def readMoreAlternatives :
    (bound : Nat) → (alternatives : List (List Node)) → Reader (List (List Node))
  | 0, _ => malformed
  | bound + 1, alternatives => do
      if ← accept '|' then
        let other ← readItems bound false []
        readMoreAlternatives bound (other :: alternatives)
      else return alternatives

/-- The items of one alternative, after those read so far, the latest of them first. The second
argument tells that this is the first alternative of the whole pattern, at the start of which the
pattern's options may be changed. -/
def readItems :
    (bound : Nat) → (atStart : Bool) → (items : List Node) → Reader (List Node)
  | 0, _, _ => malformed
  | bound + 1, atStart, items => do
      let options := (← get).current
      match ← peekPiece with
      | none => return Node.unwrapped items.reverse
      | some (.plain '|') => return Node.unwrapped items.reverse
      | some (.plain ')') => return Node.unwrapped items.reverse
      | some (.escaped character) => do
          let _ ← nextPiece
          readItems bound atStart ((← readEscape character) :: items)
      | some (.plain character) => do
          let _ ← nextPiece
          if options.verbose && isLayout character then readItems bound atStart items
          else if options.verbose && character = '#' then do
            let _ ← skipThrough '\n'
            readItems bound atStart items
          else
            match character with
            | '[' => readItems bound atStart ((← readClass) :: items)
            | '?' => readItems bound atStart (← readRepetition 0 (some 1) items)
            | '*' => readItems bound atStart (← readRepetition 0 none items)
            | '+' => readItems bound atStart (← readRepetition 1 none items)
            | '.' => readItems bound atStart (.anyCharacter options.dotAll :: items)
            | '^' =>
                let place := if options.multiline then .lineStart else .textStart
                readItems bound atStart (.anchor place :: items)
            | '$' =>
                let place := if options.multiline then .lineEnd else .lastLineEnd
                readItems bound atStart (.anchor place :: items)
            | '\x7b' => do
                match ← readBraces? with
                | some (least, greatest) =>
                    readItems bound atStart (← readRepetition least greatest items)
                | none => readItems bound atStart (letterNode options 123 :: items)
            | '(' => do
                match ← readOpening with
                | .comment => readItems bound atStart items
                | .reference node => readItems bound atStart (node :: items)
                | .wholeOptions added =>
                    if atStart && items.isEmpty then do
                      modify fun state =>
                        { state with
                          whole := state.whole.union added
                          current := state.current.union added }
                      readItems bound atStart items
                    else malformed
                | opening => readItems bound atStart ((← readBody bound opening) :: items)
            | _ => readItems bound atStart (letterNode options character.toNat :: items)

def readBody :
    (bound : Nat) → (opening : Opening) → Reader Node
  | 0, _ => malformed
  | bound + 1, opening => do
      match opening with
      | .capture name => do
          let group ← beginGroup name
          let body ← withOptions (← get).current (readAlternatives bound false)
          expect ')'
          endGroup group body
          return .capture group body
      | .enclosed change => do
          let options := (← get).current.inside change.added change.removed
          let body ← withOptions options (readAlternatives bound false)
          expect ')'
          return if change.isEmpty then .enclosed body else .underOptions body
      | .atomic => do
          let body ← readAlternatives bound false
          expect ')'
          return .atomic body
      | .look negated behind => do
          let body ←
            if behind then withLookBehind (readAlternatives bound false)
            else readAlternatives bound false
          expect ')'
          return .look negated (if behind then some (Node.widthOf body).least else none) body
      | .condition group => do
          let present ← readItems bound false []
          let absent ← if ← accept '|' then readItems bound false [] else pure []
          expect ')'
          return .conditional group present absent
      | _ => malformed

end

/-- The pattern as a list of nodes, with what the reader knows at its end. -/
def readWhole
    (text : List Char) (options : Options) :
    Except PatternRefusal (List Node × ReaderState) :=
  let pieces := piecesOf text
  let reader : Reader (List Node) := do
    moveTo pieces.1
    readAlternatives (3 * pieces.1.length + 3) true
  reader.run ⟨[], pieces.2, options, options, [], [], [], none⟩

end FormRules.Pattern
