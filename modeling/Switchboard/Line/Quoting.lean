import Switchboard.Line

/-!
# Quoting

Every text can be typed as one token, whatever is in it. Its double quotes are put between single
quotes and everything else between double quotes, run by run; an empty text is an empty span.
-/
namespace Switchboard.Line

/-- The quote between which a character is put. -/
def quoteFor (character : Char) : Char := if character = '"' then '\x27' else '"'

/-- The runs of a text, each with the quote between which it is put. -/
def runs : List Char → List (Char × List Char)
  | [] => []
  | character :: rest => match runs rest with
    | [] => [(quoteFor character, [character])]
    | (quote, run) :: later =>
      if quote = quoteFor character then (quote, character :: run) :: later
      else (quoteFor character, [character]) :: (quote, run) :: later

/-- A run between its quotes. -/
def spanOf (run : Char × List Char) : List Char := run.1 :: run.2 ++ [run.1]

/-- The characters by which a token is typed. -/
def quoteList (token : List Char) : List Char :=
  if token.isEmpty then ['"', '"'] else (runs token).flatMap spanOf

/-- The text by which a token is typed. -/
def quote (token : String) : String := String.ofList (quoteList token.toList)

end Switchboard.Line
