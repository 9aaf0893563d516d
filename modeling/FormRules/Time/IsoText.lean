import FormRules.Text.Blank
import FormRules.Text.Digit
import FormRules.Time.Moment

/-!
Moments in the ISO 8601 notation.

A date is a year, month and day or a year, week and day, with or without hyphens. Any one
character may stand between the date and the time. A time has hours, or hours and minutes, or
hours, minutes and seconds, each of two digits, with colons or without, and a fraction that is
cut after six digits. An offset is `Z` or a sign and a time; one further character before the
sign is passed over.

Times are read from bytes, the byte zero standing for the end of the text.
-/

namespace FormRules.Time

open FormRules.Text

/-- The byte at the front of a text; zero at its end. -/
def peekByte
    (text : List UInt8) :
    UInt8 :=
  text.headD 0

def byteDigit?
    (byte : UInt8) :
    Option Nat :=
  if 48 ≤ byte && byte ≤ 57 then some (byte.toNat - 48) else none

/-- The number written by exactly so many ASCII digits at the front of a text, after a number
read before, and the rest. -/
def readFixed?
    (read : Nat) :
    (count : Nat) → List UInt8 → Option (Nat × List UInt8)
  | 0, text => some (read, text)
  | _ + 1, [] => none
  | count + 1, byte :: rest =>
      match byteDigit? byte with
      | some digit => readFixed? (10 * read + digit) count rest
      | none => none

/-- A time of day or an offset as read: hours, minutes and seconds as far as written, the
microseconds, and whether the text ended there. -/
structure ClockReading where
  parts : List Nat
  microsecond : Nat
  ended : Bool
  deriving DecidableEq, Repr

namespace ClockReading

/-- One of the parts; what is not written is zero. -/
def part
    (reading : ClockReading) (index : Nat) :
    Nat :=
  reading.parts.getD index 0

def seconds
    (reading : ClockReading) :
    Nat :=
  reading.part 0 * 3600 + reading.part 1 * 60 + reading.part 2

end ClockReading

/-- The fraction of a second at the front of a text of which `extent` bytes belong to the time. Up
to six of them must be digits; further digits are passed over. -/
def readFraction?
    (extent : Nat) (text : List UInt8) :
    Option ClockReading :=
  let written := min extent 6
  match readFixed? 0 written text with
  | none => none
  | some (value, rest) =>
      let after := rest.dropWhile fun byte => (byteDigit? byte).isSome
      some ⟨[], value * Nat.pow 10 (6 - written), peekByte after == 0⟩

/-- The parts of a time from the given one on. The first three arguments are the number of parts
still allowed, whether this is the first one, and whether colons stand between them. -/
def readClockParts? :
    (allowed : Nat) → (isFirst separated : Bool) → (extent : Nat) → List UInt8 →
      Option ClockReading
  | 0, _, _, extent, text => readFraction? extent text
  | allowed + 1, isFirst, separated, extent, text =>
      match readFixed? 0 2 text with
      | none => none
      | some (value, rest) =>
          let next := peekByte rest
          let separates := if isFirst then next == 58 else separated
          let withPart (reading : ClockReading) : ClockReading :=
            { reading with parts := value :: reading.parts }
          if extent ≤ 3 then some ⟨[value], 0, next == 0⟩
          else if separates && next == 58 then
            (readClockParts? allowed false separates (extent - 3) (rest.drop 1)).map withPart
          else if next == 46 || next == 44 then
            (readFraction? (extent - 3) (rest.drop 1)).map withPart
          else if !separates then
            (readClockParts? allowed false separates (extent - 2) rest).map withPart
          else none

def readClock?
    (extent : Nat) (text : List UInt8) :
    Option ClockReading :=
  readClockParts? 3 true true extent text

/-- The offset that a sign and a reading denote, in microseconds. An offset of no whole second is
zero, and an offset of a day or more is none. -/
def offsetOf?
    (negative : Bool) (reading : ClockReading) :
    Option Int :=
  let magnitude := reading.seconds * 1000000 + reading.microsecond
  if !reading.ended then none
  else if reading.seconds = 0 then some 0
  else if magnitude < microsecondsPerDay then
    some (if negative then -(magnitude : Int) else magnitude)
  else none

def microsecondsOf?
    (reading : ClockReading) :
    Option Nat :=
  if reading.part 0 < 24 && reading.part 1 < 60 && reading.part 2 < 60 then
    some (reading.seconds * 1000000 + reading.microsecond)
  else none

/-- A byte that ends the time and begins the offset. -/
def beginsOffset
    (byte : UInt8) :
    Bool :=
  byte == 43 || byte == 45 || byte == 90

def readTime?
    (text : List UInt8) :
    Option (Nat × Option Int) :=
  let extent := (text.takeWhile fun byte => !beginsOffset byte).length
  match readClock? extent text with
  | none => none
  | some reading =>
      match microsecondsOf? reading, text.drop extent with
      | none, _ => none
      | some microseconds, [] =>
          if reading.ended then some (microseconds, none) else none
      | some microseconds, sign :: afterSign =>
          if sign == 90 then
            if peekByte afterSign == 0 then some (microseconds, some 0) else none
          else
            match readClock? afterSign.length afterSign with
            | none => none
            | some offset => (offsetOf? (sign == 45) offset).map fun known =>
                (microseconds, some known)

def isAsciiDigit
    (character : Char) :
    Bool :=
  '0' ≤ character && character ≤ '9'

/-- The place, counted in characters, where the date ends. In a date with a week it depends on
what follows: after `YYYY-Www-` a digit at the eleventh place belongs to a time, and after
`YYYYWww` one further digit is the day of the week, and of more an odd number means that no day
of the week is written. -/
def dateLength
    (text : List Char) :
    Nat :=
  if text.length = 7 then 7
  else if text[4]? = some '-' then
    if text[5]? = some 'W' then
      if text[8]? = some '-' then
        if (text[10]?).any isAsciiDigit then 8 else 10
      else 8
    else 10
  else if text[4]? = some 'W' then
    let digits := ((text.drop 7).takeWhile isAsciiDigit).length
    if digits < 2 then 7 + digits else if digits % 2 = 1 then 7 else 8
  else 8

def bytesOf
    (text : List Char) :
    List UInt8 :=
  text.flatMap String.utf8EncodeChar

/-- The day of the month after the year, in a date whose parts hyphens separate or not. -/
def readMonthDate?
    (year : Nat) (hyphens : Bool) (text : List UInt8) :
    Option Nat :=
  match readFixed? 0 2 text with
  | none => none
  | some (month, afterMonth) =>
      if hyphens && peekByte afterMonth != 45 then none
      else
        match readFixed? 0 2 (if hyphens then afterMonth.drop 1 else afterMonth) with
        | none => none
        | some (day, _) =>
            let date : Date := ⟨year, month, day⟩
            if date.isValid then some date.number else none

/-- The day of the week date after its letter `W`; without a day the week's Monday is meant. -/
def readWeekDate?
    (year : Nat) (hyphens dayWritten : Bool) (text : List UInt8) :
    Option Nat :=
  match readFixed? 0 2 text with
  | none => none
  | some (week, afterWeek) =>
      if !dayWritten then dayOfWeekDate? year week 1
      else if hyphens && peekByte afterWeek != 45 then none
      else
        match readFixed? 0 1 (if hyphens then afterWeek.drop 1 else afterWeek) with
        | none => none
        | some (day, _) => dayOfWeekDate? year week day

def readDate?
    (length : Nat) (text : List UInt8) :
    Option Nat :=
  match readFixed? 0 4 text with
  | none => none
  | some (year, afterYear) =>
      let hyphens := peekByte afterYear == 45
      let rest := if hyphens then afterYear.drop 1 else afterYear
      let weekEnd := if hyphens then 8 else 7
      if peekByte rest == 87 then
        readWeekDate? year hyphens (weekEnd < length) (rest.drop 1)
      else readMonthDate? year hyphens rest

namespace Moment

/-- The moment that a text in ISO 8601 notation denotes. A date alone is its first moment. -/
def ofIsoText?
    (text : List Char) :
    Option Moment :=
  let length := dateLength text
  match readDate? length (bytesOf text) with
  | none => none
  | some day =>
      let remaining := text.drop length
      if remaining.isEmpty then ofParts? day 0 none
      else
        match readTime? (bytesOf (remaining.drop 1)) with
        | none => none
        | some (microsecond, offset) => ofParts? day microsecond offset

/-- Hours, minutes and seconds of a number of seconds, the seconds only when asked for. -/
def clockText
    (seconds : Nat) (withSeconds : Bool) :
    List Char :=
  paddedNumeral 2 (seconds / 3600) ++ ':' :: paddedNumeral 2 (seconds / 60 % 60) ++
    (if withSeconds then ':' :: paddedNumeral 2 (seconds % 60) else [])

/-- Microseconds as a fraction of a second; nothing when there are none. -/
def fractionText
    (microseconds : Nat) :
    List Char :=
  if microseconds = 0 then [] else '.' :: paddedNumeral 6 microseconds

/-- An offset: hours and minutes, the seconds and their fraction only when there are any. -/
def offsetText
    (offset : Int) :
    List Char :=
  let magnitude := offset.natAbs
  (if offset < 0 then '-' else '+') ::
    (clockText (magnitude / 1000000) (magnitude % 60000000 != 0) ++
      fractionText (magnitude % 1000000))

def isoText
    (moment : Moment) :
    List Char :=
  let date := Date.ofNumber moment.day
  paddedNumeral 4 date.year ++ '-' :: paddedNumeral 2 date.month ++
    '-' :: paddedNumeral 2 date.day ++
    'T' :: clockText (moment.microsecond / 1000000) true ++
    fractionText (moment.microsecond % 1000000) ++
    (match moment.offset with
      | none => []
      | some offset => offsetText offset)

end Moment

end FormRules.Time
