import FormRules.Journal.Note
import FormRules.Settings
import FormRules.Text.Encoded

/-!
The log.

Notes go to loggers, and loggers write them to their outlets: the library's logger those of the
library's loggers, and the root logger above it all others, and what the library's logger passes on.
A note with a value that the format of an outlet cannot hold is not written there.

To configure the log is to give the library's logger one outlet in the place of those that it had,
and a level, and to have it pass nothing on; and to have events handed over to the loggers. A call
whose settings are unusable is refused before anything is changed.
-/

namespace FormRules

open FormRules.Number
open FormRules.Text

/-- The formats of a log: lines for a reader, or records for a program. -/
inductive LogFormat where
  | console
  | record
  deriving DecidableEq, Repr

/-- A stream that is written to. -/
inductive LogStream where
  | standardError
  | other (name : String)
  deriving DecidableEq, Repr

/-- What a logger writes to: a stream, in a format. -/
structure Outlet where
  stream : LogStream
  format : LogFormat
  deriving DecidableEq, Repr

/-- Where notes go: those of at least a level, to an outlet. -/
structure LogTarget where
  level : Level
  outlet : Outlet
  deriving DecidableEq, Repr

/-- A note as written. -/
inductive LogEntry where
  | lines (text : String)
  | record (parts : List (String × Value))

/-- A note as written, and where. -/
structure Writing where
  stream : LogStream
  entry : LogEntry

/-- A logger: the least level of the notes that it takes, what it writes to, and whether it passes
notes on to the logger above it. Without a level it takes what the logger above takes. -/
structure Logger where
  level : Option Level
  outlets : List Outlet
  propagates : Bool
  deriving DecidableEq, Repr

/-- A log: the root logger, the library's logger, whether events are handed over to loggers, and
what has been written. -/
structure Log where
  root : Logger
  library : Logger
  handsOver : Bool
  writings : List Writing

namespace Note

def padded
    (text : String) (width : Nat) :
    String :=
  text ++ String.ofList (List.replicate (width - text.length) ' ')

def forcesQuotes
    (character : Char) :
    Bool :=
  [' ', '\t', '=', '\r', '\n', '"', '\''].contains character

/-- A value in a line. A text is quoted only where it could be misread. -/
def lineValue :
    Value → String
  | .text value =>
      if value.toList.any forcesQuotes then String.ofList (Value.literal (.text value)) else value
  | value => String.ofList value.literal

/-- Bytes as the text that they encode; other values as they are. -/
def decoded :
    Value → Value
  | .bytes bytes => .text (decodedText bytes)
  | value => value

/-- The parts of a note that every note has; values under these names are not written. -/
def ownParts :
    List String :=
  ["event", "level", "logger", "timestamp"]

/-- Names of values that serve the making of a note and are not written. -/
def workingParts :
    List String :=
  ["stack_info", "_record", "_from_structlog"]

/-- Names of values that a line shows elsewhere than among the others, or not at all. -/
def apartInLine :
    List String :=
  ["exc_info", "exception", "logger_name", "stack"]

/-- The values of a note that are written, bytes as texts. -/
def writtenValues
    (note : Note) :
    List (String × Value) :=
  (note.values.filter fun entry => !(ownParts ++ workingParts).contains entry.1).map fun entry =>
    (entry.1, decoded entry.2)

/-- The values of a note that stand side by side in a line, by the order of their names. -/
def valuesInLine
    (note : Note) :
    List (String × Value) :=
  (note.writtenValues.filter fun entry => !apartInLine.contains entry.1).mergeSort
    fun left right => decide (left.1 ≤ right.1)

def bracketedName
    (name : String) :
    String :=
  "[" ++ name ++ "]"

/-- The first line: time, level, event, logger, a further name of the logger, and values. It
cannot be written if a value cannot be shown. -/
def firstLine?
    (note : Note) (time : String) :
    Option String :=
  let further := (note.writtenValues.lookup "logger_name").toList
  if (further ++ note.valuesInLine.map Prod.snd).all Value.isShowable then
    some (" ".intercalate
      ([time, bracketedName (padded note.level.name 9), padded note.event 30,
        bracketedName note.logger] ++ further.map (fun name => bracketedName name.plainText) ++
          note.valuesInLine.map fun entry => entry.1 ++ "=" ++ lineValue entry.2))
  else none

/-- What stands below the first line for a value: a text, or nothing for null. Other values cannot
stand there. -/
def below? :
    Option Value → Option (Option String)
  | none => some none
  | some .null => some none
  | some (.text text) => some (some text)
  | some _ => none

/-- What separates the stack from the exception. -/
def separator :
    String :=
  "\n\n" ++ String.ofList (List.replicate 79 '=') ++ "\n"

def linesBelow?
    (note : Note) :
    Option String := do
  let stack ← below? (note.writtenValues.lookup "stack")
  let exception ← below? (note.writtenValues.lookup "exception")
  let announced := ((note.writtenValues.lookup "exc_info").map Value.isTrue).getD false
  let between := if announced || exception.isSome then separator else ""
  return (stack.elim "" fun text => "\n" ++ text ++ between) ++
    exception.elim "" fun text => "\n" ++ text

def toLines?
    (note : Note) (time : String) :
    Option String := do
  return (← note.firstLine? time) ++ (← note.linesBelow?)

end Note

namespace Value

/-- The text under which an entry of a mapping stands in a record. Null, truth values, numbers and
texts have one. -/
def recordKey? :
    Value → Option String
  | null => some "null"
  | boolean value => some (if value then "true" else "false")
  | integer value => if isTooLong value then none else some (String.ofList (integerText value))
  | real .nan => some "NaN"
  | real (.infinite negative) => some (if negative then "-Infinity" else "Infinity")
  | real value => some (String.ofList value.text)
  | text value => some value
  | _ => none

def literalText?
    (value : Value) :
    Option Value :=
  if value.isShowable then some (.text (String.ofList value.literal)) else none

mutual

/-- A value as it stands in a record: numbers, texts and truth values as they are, tuples as
lists, and what a record cannot hold as a literal. -/
def inRecord? :
    Value → Option Value
  | list items => (allInRecord? items).map .list
  | tuple items => (allInRecord? items).map .list
  | mapping entries => (entriesInRecord? entries).map .mapping
  | bytes value => literalText? (.bytes value)
  | set members => literalText? (.set members)
  | moment value => literalText? (.moment value)
  | object kind shown => literalText? (.object kind shown)
  | value => if value.isShowable then some value else none

def allInRecord? :
    List Value → Option (List Value)
  | [] => some []
  | value :: values => do return (← inRecord? value) :: (← allInRecord? values)

def entriesInRecord? :
    List (Value × Value) → Option (List (Value × Value))
  | [] => some []
  | (key, value) :: entries => do
      return (.text (← recordKey? key), ← inRecord? value) :: (← entriesInRecord? entries)

end

end Value

namespace Note

def toRecord?
    (note : Note) (time : String) :
    Option (List (String × Value)) := do
  let values ← note.writtenValues.mapM fun entry => do return (entry.1, ← entry.2.inRecord?)
  return values ++
    [("event", .text note.event), ("level", .text note.level.name),
      ("logger", .text note.logger), ("timestamp", .text time)]

end Note

namespace Outlet

def write?
    (outlet : Outlet) (time : String) (note : Note) :
    Option Writing :=
  match outlet.format with
  | .console => (note.toLines? time).map fun text => ⟨outlet.stream, .lines text⟩
  | .record => (note.toRecord? time).map fun parts => ⟨outlet.stream, .record parts⟩

end Outlet

namespace LogTarget

/-- The target of a log that is verbose or not, in records or not. Notes go to standard error,
unless to another stream. -/
def ofWishes
    (verbose logJson : Bool) (stream : Option LogStream) :
    LogTarget :=
  ⟨if verbose then .debug else .warning,
    ⟨stream.getD .standardError, if logJson then .record else .console⟩⟩

end LogTarget

/-- Where the settings come from by which a log is configured: they are there, or they are read from
what is given directly and from the environment. When none are given, the environment alone is
read. -/
inductive SettingsSource where
  | ready (settings : Settings)
  | read (direct : List (String × Value)) (environment : List (String × String))

namespace SettingsSource

def settings :
    SettingsSource → Lenient Settings
  | ready settings => .ok settings
  | read direct environment => Settings.read direct environment

end SettingsSource

/-- A call that configures the log: where its settings come from, and what is wished explicitly. -/
structure LogCall where
  source : SettingsSource
  verbose : Option Bool
  logJson : Option Bool
  stream : Option LogStream

/-- A change of a log that may be refused. What was done before the refusal stays done. -/
abbrev LogChange :=
  ExceptT (List Issue) (StateM Log) Unit

namespace LogCall

/-- The target that a call amounts to under its settings. An explicit wish wins. -/
def targetUnder
    (call : LogCall) (settings : Settings) :
    LogTarget :=
  .ofWishes (call.verbose.getD settings.verbose) (call.logJson.getD settings.logJson) call.stream

/-- What a call does. The settings are read before anything is changed. -/
def change
    (call : LogCall) :
    LogChange := do
  let settings ← (call.source.settings : Lenient Settings)
  let target := call.targetUnder settings
  modify fun log => { log with handsOver := true }
  modify fun log => { log with library := { log.library with outlets := [] } }
  modify fun log =>
    { log with library := { log.library with outlets := log.library.outlets ++ [target.outlet] } }
  modify fun log => { log with library := { log.library with level := some target.level } }
  modify fun log => { log with library := { log.library with propagates := false } }

end LogCall

namespace Log

/-- The log before it is configured. Nothing is written, for no logger has an outlet. -/
def initial :
    Log :=
  ⟨⟨some .warning, [], false⟩, ⟨none, [], true⟩, false, []⟩

/-- The log that a change leaves behind, be it refused or not. -/
def leftBy
    (log : Log) (change : LogChange) :
    Log :=
  (change.run.run log).2

/-- The log after a change, or the reason for which the change was refused. -/
def changedBy
    (log : Log) (change : LogChange) :
    Lenient Log :=
  (change.run.run log).1.map fun _ => log.leftBy change

def configureFrom
    (log : Log) (direct : List (String × Value)) (environment : List (String × String))
    (verbose logJson : Option Bool) :
    Lenient Log :=
  log.changedBy (LogCall.change ⟨.read direct environment, verbose, logJson, none⟩)

/-- The number of outlets of the library's logger. -/
def handlerCount
    (log : Log) :
    Nat :=
  log.library.outlets.length

def propagates
    (log : Log) :
    Bool :=
  log.library.propagates

/-- Where the library's notes go, if its logger has a level and an outlet of its own. -/
def target
    (log : Log) :
    Option LogTarget :=
  match log.library.level, log.library.outlets with
  | some level, outlet :: _ => some ⟨level, outlet⟩
  | _, _ => none

/-- The level from which on notes are taken: that of the library's logger for its notes, if it has
one, and that of the root logger otherwise. Without any, all notes are taken. -/
def levelFor
    (log : Log) (note : Note) :
    Option Level :=
  if note.isLocal then log.library.level.or log.root.level else log.root.level

/-- The note comes to a logger and is grave enough for it. -/
def takes
    (log : Log) (note : Note) :
    Bool :=
  (log.handsOver || note.route == .direct) &&
    (log.levelFor note).all fun level => decide (level.rank ≤ note.level.rank)

/-- What a note is written to: the outlets of its logger, and those of the root logger if the note
is passed on. -/
def outletsFor
    (log : Log) (note : Note) :
    List Outlet :=
  if note.isLocal then
    log.library.outlets ++ if log.library.propagates then log.root.outlets else []
  else log.root.outlets

def writingsOf
    (log : Log) (time : String) (note : Note) :
    List Writing :=
  if log.takes note then
    (log.outletsFor note).filterMap fun outlet => outlet.write? time note
  else []

def add
    (log : Log) (time : String) (notes : List Note) :
    Log :=
  { log with writings := log.writings ++ notes.flatMap (log.writingsOf time) }

def entries
    (log : Log) :
    List LogEntry :=
  log.writings.map Writing.entry

def cleared
    (log : Log) :
    Log :=
  { log with writings := [] }

end Log

end FormRules
