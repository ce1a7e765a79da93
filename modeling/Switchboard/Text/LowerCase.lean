import Switchboard.Text.CaseTable

/-!
# Lower case

Keywords of fixed commands are compared without regard to letter case, by the lower-case form
of both sides. Every letter has a form of its own except two: the dotted capital I becomes an i
and a separate dot, and a capital sigma is written differently at the end of a word.
-/
namespace Switchboard.Text

/-- Whether a run holds the letter at a code point. -/
def CaseRun.holds (run : CaseRun) (code : Nat) : Bool :=
  run.first ≤ code && code ≤ run.last && (code - run.first) % run.stride == 0

/-- The lower-case form of a character, where the characters around it do not matter. -/
def lowerForm (character : Char) : List Char :=
  if character = 'İ' then ['i', '\u0307']
  else match caseRuns.find? (·.holds character.toNat) with
    | some run => [Char.ofNat ((character.toNat : Int) + run.shift).toNat]
    | none => [character]

/-- Whether the nearest character that counts, if there is one, has letter case. -/
def meetsCased (characters : List Char) : Bool :=
  match characters.dropWhile caseIgnorableCharacters.includes with
  | [] => false
  | character :: _ => casedCharacters.includes character

/-- The lower-case form of the characters that follow `before`, which is given nearest first. -/
def lowerAfter (before : List Char) : List Char → List Char
  | [] => []
  | character :: rest =>
    (if character = 'Σ' then [if meetsCased before && !meetsCased rest then 'ς' else 'σ']
      else lowerForm character) ++ lowerAfter (character :: before) rest

/-- The lower-case form of a text. -/
def lowerCase (text : String) : String := String.ofList (lowerAfter [] text.toList)

end Switchboard.Text
