import Mathlib.Data.List.Forall2
import Switchboard.Line.Quoting
import Switchboard.Proofs.Template.SlotNames
/-!
# Lines that say what is meant

A token can be typed in many ways: character by character where no character is special, between
quotes of either kind, or partly so. `Spells` are all of these ways, and `quote` finds one for every
text (`spells_quote`). Whatever ways are taken and whatever blanks stand between the tokens, the
line is cut into the tokens that were meant (`tokens_spaced`), and so a fixed command takes exactly
the values that were meant for its slots.
-/
namespace Switchboard.Line

/-! ## Ways to type a token -/

/-- A piece of a token as it is typed. -/
inductive Atom where
  | plain (character : Char)
  | span (quote : Char) (run : List Char)

namespace Atom

/-- The characters that are typed. -/
def typed : Atom → List Char
  | plain character => [character]
  | span quote run => spanOf (quote, run)

/-- The characters that are meant. -/
def meant : Atom → List Char
  | plain character => [character]
  | span _ run => run

/-- A plain character is neither a quote nor a blank, and a span goes on to its second quote. -/
def Closed : Atom → Prop
  | plain character => isQuote character = false ∧ Text.isBlank character = false
  | span quote run => isQuote quote = true ∧ quote ∉ run

end Atom

/-- Typed characters are pieces of a token, at least one, that together mean a text. -/
def Spells (token : String) (typed : List Char) : Prop :=
  ∃ atoms : List Atom, atoms ≠ [] ∧ (∀ atom ∈ atoms, atom.Closed) ∧
    atoms.flatMap Atom.meant = token.toList ∧ atoms.flatMap Atom.typed = typed

/-- Blanks between two tokens. -/
structure Gap where
  /-- The blanks. -/
  blanks : List Char
  /-- There is at least one. -/
  filled : blanks ≠ []
  /-- They are all blanks. -/
  blank : ∀ character ∈ blanks, Text.isBlank character = true

/-- A single space. -/
def Gap.space : Gap := ⟨[' '], List.cons_ne_nil _ _, List.forall_mem_singleton.mpr rfl⟩

/-- Typed tokens with gaps between them. -/
def spaced (gaps : Nat → Gap) : List (List Char) → List Char
  | [] => []
  | [typed] => typed
  | typed :: next :: rest =>
    typed ++ ((gaps 0).blanks ++ spaced (fun place => gaps (place + 1)) (next :: rest))

/-! ## What the scan makes of them -/

/-- In a span, the scan takes all characters before the quote, and the quote ends the span. -/
theorem scan_inSpan {quote : Char} {run : List Char} (free : quote ∉ run) (rest : List Char) :
    scan (.inSpan quote) (run ++ quote :: rest) =
      (run ++ (scan .inToken rest).1, (scan .inToken rest).2) := by
  induction run with
  | nil => rw [List.nil_append, scan, if_pos rfl, List.nil_append]
  | cons character run ih =>
    rw [List.mem_cons, not_or] at free
    rw [List.cons_append, scan, if_neg (Ne.symm free.1), ih free.2]
    rfl

/-- In a token, the scan takes what a piece means. -/
theorem scan_inToken_atom {atom : Atom} (closed : atom.Closed) (rest : List Char) :
    scan .inToken (atom.typed ++ rest) =
      (atom.meant ++ (scan .inToken rest).1, (scan .inToken rest).2) := by
  cases atom with
  | plain character =>
    change scan .inToken (character :: rest) = _
    rw [scan, closed.1, closed.2]
    rfl
  | span quote run =>
    change scan .inToken (quote :: (run ++ [quote] ++ rest)) = _
    rw [List.append_assoc, scan, if_pos closed.1]
    exact scan_inSpan closed.2 rest

/-- Between tokens, a piece begins a token. -/
theorem scan_between_atom {atom : Atom} (closed : atom.Closed) (rest : List Char) :
    scan .between (atom.typed ++ rest) =
      ([], (atom.meant ++ (scan .inToken rest).1) :: (scan .inToken rest).2) := by
  cases atom with
  | plain character =>
    change scan .between (character :: rest) = _
    rw [scan, closed.1, closed.2]
    rfl
  | span quote run =>
    change scan .between (quote :: (run ++ [quote] ++ rest)) = _
    rw [List.append_assoc, scan, if_pos closed.1]
    have spanned := scan_inSpan closed.2 rest
    rw [List.singleton_append, spanned]
    rfl

/-- In a token, the scan takes what several pieces mean, one after the other. -/
theorem scan_inToken_atoms {atoms : List Atom} (closed : ∀ atom ∈ atoms, atom.Closed)
    (rest : List Char) : scan .inToken (atoms.flatMap Atom.typed ++ rest) =
      (atoms.flatMap Atom.meant ++ (scan .inToken rest).1, (scan .inToken rest).2) := by
  induction atoms with
  | nil => rfl
  | cons atom atoms ih =>
    rw [List.forall_mem_cons] at closed
    rw [List.flatMap_cons, List.append_assoc, scan_inToken_atom closed.1, ih closed.2,
      List.flatMap_cons, List.append_assoc]

/-- Between tokens, what spells a text begins a token that begins with the text. -/
theorem scan_between_spells {token : String} {typed : List Char} (spells : Spells token typed)
    (rest : List Char) : scan .between (typed ++ rest) =
      ([], (token.toList ++ (scan .inToken rest).1) :: (scan .inToken rest).2) := by
  obtain ⟨atoms, some, closed, meant, rfl⟩ := spells
  cases atoms with
  | nil => exact absurd rfl some
  | cons atom atoms =>
    rw [List.forall_mem_cons] at closed
    rw [← meant, List.flatMap_cons, List.append_assoc, scan_between_atom closed.1,
      scan_inToken_atoms closed.2, List.flatMap_cons, List.append_assoc]

/-- No blank is a quote. -/
theorem isQuote_of_isBlank {character : Char} (blank : Text.isBlank character = true) :
    isQuote character = false := by
  rw [Bool.eq_false_iff]
  intro quote
  simp only [isQuote, Bool.or_eq_true, decide_eq_true_eq] at quote
  rcases quote with rfl | rfl <;> revert blank <;> decide

/-- Between tokens, the scan passes blanks over. -/
theorem scan_between_blanks {blanks : List Char}
    (blank : ∀ character ∈ blanks, Text.isBlank character = true) (rest : List Char) :
    scan .between (blanks ++ rest) = scan .between rest := by
  induction blanks with
  | nil => rfl
  | cons character blanks ih =>
    rw [List.forall_mem_cons] at blank
    rw [List.cons_append, scan, isQuote_of_isBlank blank.1, blank.1]
    exact ih blank.2

/-- A gap ends a token. -/
theorem scan_inToken_gap (gap : Gap) (rest : List Char) :
    scan .inToken (gap.blanks ++ rest) = ([], tokenLists rest) := by
  obtain ⟨blanks, filled, blank⟩ := gap
  cases blanks with
  | nil => exact absurd rfl filled
  | cons character blanks =>
    rw [List.forall_mem_cons] at blank
    change scan .inToken (character :: (blanks ++ rest)) = _
    rw [scan, isQuote_of_isBlank blank.1, blank.1]
    change ([], (scan .between (blanks ++ rest)).2) = _
    rw [scan_between_blanks blank.2, tokenLists]

/-! ## Lines -/

/-- A line of typed tokens is cut into the tokens that they spell. -/
theorem tokens_spaced {tokens : List String} {typed : List (List Char)}
    (spelled : List.Forall₂ Spells tokens typed) (gaps : Nat → Gap) :
    Line.tokens (String.ofList (spaced gaps typed)) = tokens := by
  rw [Line.tokens, String.toList_ofList]
  induction spelled generalizing gaps with
  | nil => rfl
  | @cons token typed tokens later spells spelled ih =>
    cases spelled with
    | nil =>
      have scanned := scan_between_spells spells []
      rw [List.append_nil] at scanned
      rw [spaced, tokenLists, scanned]
      change [String.ofList (token.toList ++ [])] = [token]
      rw [List.append_nil, String.ofList_toList]
    | cons _ _ =>
      rw [spaced, tokenLists, scan_between_spells spells, scan_inToken_gap, List.append_nil,
        List.map_cons, String.ofList_toList, ih]

/-! ## Quoting -/

/-- A character is put between quotes, and never between quotes like itself. -/
theorem quoteFor_apart (character : Char) :
    isQuote (quoteFor character) = true ∧ quoteFor character ≠ character := by
  unfold quoteFor
  by_cases double : character = '"'
  · rw [if_pos double, double]
    decide
  · rw [if_neg double]
    exact ⟨rfl, Ne.symm double⟩

/-- The characters of each run of a text are put between the quotes of the run. -/
theorem runs_quoted (text : List Char) :
    ∀ run ∈ runs text, isQuote run.1 = true ∧ ∀ character ∈ run.2, quoteFor character = run.1 := by
  induction text with
  | nil => simp [runs]
  | cons first rest ih =>
    have single : isQuote (quoteFor first) = true ∧
        ∀ character ∈ [first], quoteFor character = quoteFor first :=
      ⟨(quoteFor_apart first).1, fun character member => by rw [List.mem_singleton.mp member]⟩
    rw [runs]
    cases found : runs rest with
    | nil => exact List.forall_mem_singleton.mpr single
    | cons run later =>
      obtain ⟨quote, run⟩ := run
      rw [found, List.forall_mem_cons] at ih
      by_cases joins : quote = quoteFor first
      · simp only [if_pos joins, List.forall_mem_cons]
        exact ⟨⟨ih.1.1, joins.symm, ih.1.2⟩, ih.2⟩
      · simp only [if_neg joins]
        exact List.forall_mem_cons.mpr ⟨single, List.forall_mem_cons.mpr ih⟩

/-- The runs of a text, one after the other, are the text. -/
theorem runs_flatMap (text : List Char) : (runs text).flatMap Prod.snd = text := by
  induction text with
  | nil => rfl
  | cons first rest ih =>
    rw [runs]
    cases found : runs rest with
    | nil =>
      rw [found] at ih
      rw [← ih]
      rfl
    | cons run later =>
      rw [found] at ih
      by_cases joins : run.1 = quoteFor first
      · simp only [if_pos joins]
        rw [← ih]
        rfl
      · simp only [if_neg joins]
        rw [← ih]
        rfl

/-- Every text is spelled by its quoted form. -/
theorem spells_quote (token : String) : Spells token (quote token).toList := by
  rw [quote, String.toList_ofList, quoteList]
  by_cases bare : token.toList = []
  · refine ⟨[.span '"' []], by simp, ?_, ?_, ?_⟩
    · exact List.forall_mem_singleton.mpr ⟨rfl, List.not_mem_nil⟩
    · rw [bare]
      rfl
    · rw [bare]
      rfl
  · have filled : token.toList.isEmpty = false := by simpa using bare
    rw [filled]
    refine ⟨(runs token.toList).map fun run => .span run.1 run.2, ?_, ?_, ?_, ?_⟩
    · intro none
      rw [List.map_eq_nil_iff] at none
      have whole := runs_flatMap token.toList
      rw [none] at whole
      exact bare whole.symm
    · rw [List.forall_mem_map]
      intro run member
      obtain ⟨quoted, inside⟩ := runs_quoted token.toList run member
      exact ⟨quoted, fun within => (quoteFor_apart run.1).2 (inside run.1 within)⟩
    · rw [List.flatMap_map]
      exact runs_flatMap token.toList
    · rw [List.flatMap_map]
      rfl

/-- Tokens are spelled by their quoted forms. -/
theorem spells_quotes (tokens : List String) :
    List.Forall₂ Spells tokens (tokens.map fun token => (quote token).toList) := by
  rw [List.forall₂_map_right_iff, List.forall₂_same]
  exact fun token _ => spells_quote token

end Switchboard.Line

/-! ## Lines of a fixed command -/

namespace Switchboard.FixedTemplate

/-- The tokens of a line on which the slots of some words take values. -/
def fillWords : List FixedWord → List String → List String
  | [], _ => []
  | .literal text :: words, values => text :: fillWords words values
  | .slot _ :: words, value :: values => value :: fillWords words values
  | .slot _ :: _, [] => []

/-- The tokens of a line of a fixed command on which its slots take values. -/
def fill (template : FixedTemplate) (values : List String) : List String :=
  fillWords template.words values

/-- Words match the tokens on which their slots take values, and capture these. -/
theorem matchWords_fillWords {words : List FixedWord} {values : List String}
    (each : values.length = (slotNames words).length) :
    matchWords words (fillWords words values) = some ((slotNames words).zip values) := by
  induction words generalizing values with
  | nil => rfl
  | cons word words ih =>
    cases word with
    | literal text =>
      rw [fillWords, matchWords, if_pos rfl]
      exact ih each
    | slot name =>
      change values.length = (slotNames words).length + 1 at each
      cases values with
      | nil => contradiction
      | cons value values =>
        rw [fillWords, matchWords, ih (Nat.succ.inj each)]
        rfl

/-- Every list of tokens can be typed: quoted, or spelled in any other way, and with any blanks
between them, they are what the line is cut into. So can every line of a fixed command: whatever its
keywords and the values for its slots are, it takes these values as they are, in the order of the
slots. -/
theorem capture_spaced (gaps : Nat → Line.Gap) :
    (∀ tokens : List String, Line.tokens (String.ofList
      (Line.spaced gaps (tokens.map fun token => (Line.quote token).toList))) = tokens) ∧
    (∀ tokens typed, List.Forall₂ Line.Spells tokens typed →
      Line.tokens (String.ofList (Line.spaced gaps typed)) = tokens) ∧
    ∀ (template : FixedTemplate) (values : List String) (typed : List (List Char)),
      values.length = template.slots.length →
      List.Forall₂ Line.Spells (template.fill values) typed →
      template.capture (Line.tokens (String.ofList (Line.spaced gaps typed))) =
        some (template.slots.zip values) := by
  refine ⟨fun tokens => ?_, fun tokens typed spelled => ?_, ?_⟩
  · exact Line.tokens_spaced (Line.spells_quotes tokens) gaps
  · exact Line.tokens_spaced spelled gaps
  · intro template values typed each spelled
    rw [Line.tokens_spaced spelled gaps]
    exact matchWords_fillWords each

/-- A line of a command with quotes in a keyword, on which one value has quotes of both kinds and
the other is empty. -/
theorem capture_spaced_quotes :
    let template : FixedTemplate := ⟨"say \"it's\" [[First]] [[Second]]"⟩
    let values := ["a 'b' \"c\"", ""]
    let typed := (template.fill values).map fun token => (Line.quote token).toList
    values.length = template.slots.length ∧ List.Forall₂ Line.Spells (template.fill values) typed ∧
      String.ofList (Line.spaced (fun _ => .space) typed) =
        "\"say\" '\"'\"it's\"'\"' \"a 'b' \"'\"'\"c\"'\"' \"\"" ∧
      template.capture (Line.tokens (String.ofList (Line.spaced (fun _ => .space) typed))) =
        some [("First", "a 'b' \"c\""), ("Second", "")] := by
  have spelled := Line.spells_quotes
    (FixedTemplate.fill ⟨"say \"it's\" [[First]] [[Second]]"⟩ ["a 'b' \"c\"", ""])
  have each : ["a 'b' \"c\"", ""].length =
      (FixedTemplate.slots ⟨"say \"it's\" [[First]] [[Second]]"⟩).length := by decide +kernel
  refine ⟨each, spelled, by decide +kernel, ?_⟩
  exact (capture_spaced fun _ => .space).2.2 _ _ _ each spelled

end Switchboard.FixedTemplate
