import Switchboard.Text.VisibilityTable

/-!
# Quoted text

Defects quote template texts so that a reader can tell what is in them: in double quotes, with
the quote, the backslash and the common controls escaped, and every character that has no
visible shape of its own written by number.
-/
namespace Switchboard.Text

/-- A character written by its number. -/
def numbered (character : Char) : List Char :=
  ['\\', 'u', '\x7b'] ++ Nat.toDigits 16 character.toNat ++ ['\x7d']

/-- A character as it stands in quoted text. -/
def quotedForm (character : Char) : List Char :=
  if character = '\x00' then ['\\', '0']
  else if character = '\t' then ['\\', 't']
  else if character = '\r' then ['\\', 'r']
  else if character = '\n' then ['\\', 'n']
  else if character = '\\' then ['\\', '\\']
  else if character = '"' then ['\\', '"']
  else if extendingCharacters.includes character then numbered character
  else if unprintableCharacters.includes character then numbered character
  else [character]

/-- A text in double quotes. -/
def quoted (text : String) : String :=
  String.ofList (['"'] ++ text.toList.flatMap quotedForm ++ ['"'])

end Switchboard.Text
