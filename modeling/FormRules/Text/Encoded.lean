/-!
Texts that bytes encode.

A character is encoded by one to four bytes; the first says how many there are and bounds the
second. `decodedText` reads any bytes: what begins like a character and is none, and every byte
that begins none, is read as the replacement character.
-/

namespace FormRules.Text

/-- The character that stands for bytes which encode none. -/
def replacementCharacter :
    Char :=
  Char.ofNat 0xFFFD

/-- What the first byte of a character says: its own share of the code point, the bounds of the
second byte, and the number of bytes after the second. -/
structure FirstByte where
  share : Nat
  least : Nat
  greatest : Nat
  further : Nat
  deriving DecidableEq, Repr

def FirstByte.of?
    (byte : Nat) :
    Option FirstByte :=
  if byte < 0xC2 then none
  else if byte < 0xE0 then some ⟨byte - 0xC0, 0x80, 0xBF, 0⟩
  else if byte = 0xE0 then some ⟨0, 0xA0, 0xBF, 1⟩
  else if byte = 0xED then some ⟨0xD, 0x80, 0x9F, 1⟩
  else if byte < 0xF0 then some ⟨byte - 0xE0, 0x80, 0xBF, 1⟩
  else if byte = 0xF0 then some ⟨0, 0x90, 0xBF, 2⟩
  else if byte < 0xF4 then some ⟨byte - 0xF0, 0x80, 0xBF, 2⟩
  else if byte = 0xF4 then some ⟨4, 0x80, 0x8F, 2⟩
  else none

def isContinuation
    (byte : UInt8) :
    Bool :=
  0x80 ≤ byte.toNat && byte.toNat ≤ 0xBF

/-- The bytes after the first that belong to the character, as far as they are there. -/
def FirstByte.belonging
    (first : FirstByte) :
    List UInt8 → List UInt8
  | [] => []
  | second :: rest =>
      if first.least ≤ second.toNat && second.toNat ≤ first.greatest then
        second :: (rest.take first.further).takeWhile isContinuation
      else []

def FirstByte.character
    (first : FirstByte) (belonging : List UInt8) :
    Char :=
  if belonging.length = first.further + 1 then
    Char.ofNat (belonging.foldl (fun code byte => 64 * code + (byte.toNat - 0x80)) first.share)
  else replacementCharacter

def decodedCharacters :
    List UInt8 → List Char
  | [] => []
  | byte :: rest =>
      if byte.toNat < 0x80 then Char.ofNat byte.toNat :: decodedCharacters rest
      else
        match FirstByte.of? byte.toNat with
        | none => replacementCharacter :: decodedCharacters rest
        | some first =>
            let belonging := first.belonging rest
            first.character belonging :: decodedCharacters (rest.drop belonging.length)
  termination_by bytes => bytes.length
  decreasing_by all_goals simp; try omega

def decodedText
    (bytes : List UInt8) :
    String :=
  String.ofList (decodedCharacters bytes)

end FormRules.Text
