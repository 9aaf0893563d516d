import FormRules.Text.Quoted

/-!
Texts as JSON strings.

The quote, the backslash and the controls below the space are escaped, five of the controls by
letters; every other character stands for itself.
-/

namespace FormRules.Text

def jsonCharacter
    (character : Char) :
    List Char :=
  if character = '"' then ['\\', '"']
  else if character = '\\' then ['\\', '\\']
  else if character = '\n' then ['\\', 'n']
  else if character = '\r' then ['\\', 'r']
  else if character = '\t' then ['\\', 't']
  else if character.toNat = 8 then ['\\', 'b']
  else if character.toNat = 12 then ['\\', 'f']
  else if character.toNat < 32 then '\\' :: 'u' :: hexNumeral 4 character.toNat
  else [character]

def jsonString
    (text : String) :
    String :=
  "\"" ++ String.ofList (text.toList.flatMap jsonCharacter) ++ "\""

end FormRules.Text
