import FormRules.Text.PrintableCodes
import FormRules.Text.Digit

/-!
Quoted texts and byte strings, as a literal shows them.

The quote is the apostrophe, unless the text holds an apostrophe and no double quote. The quote
and the backslash are escaped with a backslash, tab, line feed and carriage return have letter
escapes, and every other character that cannot be shown is written by its code.
-/

namespace FormRules.Text

def hexDigit
    (value : Nat) :
    Char :=
  if value < 10 then Char.ofNat (48 + value) else Char.ofNat (87 + value)

/-- The lowest `width` hexadecimal digits of a number. -/
def hexNumeral :
    (width value : Nat) → List Char
  | 0, _ => []
  | width + 1, value => hexNumeral width (value / 16) ++ [hexDigit (value % 16)]

/-- The quote of a text: an apostrophe, or a double quote where that saves escapes. -/
def chosenQuote
    (text : List Char) :
    Char :=
  if text.contains '\'' && !text.contains '"' then '"' else '\''

def codeEscape
    (code : Nat) :
    List Char :=
  if code < 256 then '\\' :: 'x' :: hexNumeral 2 code
  else if code < 65536 then '\\' :: 'u' :: hexNumeral 4 code
  else '\\' :: 'U' :: hexNumeral 8 code

def quotedCharacter
    (quote character : Char) :
    List Char :=
  if character == quote || character == '\\' then ['\\', character]
  else if character == '\t' then ['\\', 't']
  else if character == '\n' then ['\\', 'n']
  else if character == '\r' then ['\\', 'r']
  else if printableCodes.contains character.toNat then [character]
  else codeEscape character.toNat

def quoted
    (text : List Char) :
    List Char :=
  let quote := chosenQuote text
  quote :: text.flatMap (quotedCharacter quote) ++ [quote]

/-- One byte of a quoted byte string: only printable ASCII is shown as it is. -/
def quotedByte
    (quote : Char) (byte : UInt8) :
    List Char :=
  let code := byte.toNat
  if code < 127 then quotedCharacter quote (Char.ofNat code) else codeEscape code

def quotedBytes
    (bytes : List UInt8) :
    List Char :=
  let quote := chosenQuote (bytes.map fun byte => Char.ofNat byte.toNat)
  'b' :: quote :: bytes.flatMap (quotedByte quote) ++ [quote]

end FormRules.Text
