import Mathlib.Data.List.DropRight
import Mathlib.Data.List.Forall2
import Switchboard.HelpText
/-!
# Columns of the help

The rows of all commands are laid out on the same two columns: the shorthands start at the one and
the descriptions at the other, at least four spaces after the longest text before them. A row is
what is left of its line when the blanks at its end are cut off, and nothing else of a text is lost
(`HelpText.Aligned`). The help is a block for each command, with one such row for each parameter
(`helpText_aligned`).
-/
namespace Switchboard

/-! ## Blanks at the end -/

namespace Text

/-- A text that shows: not all of its characters are blanks. -/
def Shows (characters : List Char) : Prop := ∃ character ∈ characters, isBlank character = false

/-- A text that does not show is blanks alone. -/
theorem not_shows_iff {characters : List Char} :
    ¬ Shows characters ↔ ∀ character ∈ characters, isBlank character = true := by
  simp [Shows]

/-- What is left of a text without the blanks at its end, and the blanks, are the text. -/
theorem exists_endBlanks (characters : List Char) : ∃ blanks,
    dropEndBlanks characters ++ blanks = characters ∧
      ∀ character ∈ blanks, isBlank character = true :=
  ⟨characters.rtakeWhile isBlank, List.rdropWhile_append_rtakeWhile,
    fun _ member => List.mem_rtakeWhile_imp member⟩

/-- What is left ends in no blank. -/
theorem dropEndBlanks_last (characters : List Char) :
    ∀ last ∈ (dropEndBlanks characters).getLast?, isBlank last = false := by
  intro last member
  have filled : dropEndBlanks characters ≠ [] := by
    intro empty
    rw [empty] at member
    cases member
  have kept := List.rdropWhile_last_not isBlank characters filled
  rw [List.getLast?_eq_some_getLast filled, Option.mem_def, Option.some.injEq] at member
  rw [← member]
  exact eq_false_of_ne_true kept

/-- Blanks are taken from the end of what shows last, and nothing before it. -/
theorem dropEndBlanks_append (front : List Char) {back : List Char} (shows : Shows back) :
    dropEndBlanks (front ++ back) = front ++ dropEndBlanks back := by
  have kept : (back.reverse.dropWhile isBlank).isEmpty = false := by
    rw [List.isEmpty_eq_false_iff, ne_eq, List.dropWhile_eq_nil_iff]
    obtain ⟨character, member, visible⟩ := shows
    intro all
    rw [all character (List.mem_reverse.mpr member)] at visible
    cases visible
  unfold dropEndBlanks
  rw [List.reverse_append, List.dropWhile_append, kept, if_neg Bool.false_ne_true,
    List.reverse_append, List.reverse_reverse]

/-- Blanks at the end do not count. -/
theorem dropEndBlanks_append_blanks (front : List Char) {blanks : List Char}
    (blank : ∀ character ∈ blanks, isBlank character = true) :
    dropEndBlanks (front ++ blanks) = dropEndBlanks front := by
  have none : blanks.reverse.dropWhile isBlank = [] :=
    List.dropWhile_eq_nil_iff.mpr fun character member =>
      blank character (List.mem_reverse.mp member)
  unfold dropEndBlanks
  rw [List.reverse_append, List.dropWhile_append, none, List.isEmpty_nil, if_pos rfl]

end Text

namespace HelpText

open Text

/-! ## Texts in a row -/

/-- A text stands in a row from a column on, as far as it shows. -/
def StandsAt (row : String) (column : Nat) (text : String) : Prop :=
  ∃ before after, row.toList = before ++ dropEndBlanks text.toList ++ after ∧
    before.length = column

/-- A text that shows stands in the row of a line where it stands in the line. -/
theorem standsAt_row {line before after : List Char} {text : String}
    (parts : line = before ++ (text.toList ++ after)) (shows : Shows text.toList) :
    StandsAt (String.ofList (dropEndBlanks line)) before.length text := by
  have later : Shows (text.toList ++ after) := by
    obtain ⟨character, member, visible⟩ := shows
    exact ⟨character, List.mem_append_left after member, visible⟩
  have whole : dropEndBlanks line = before ++ dropEndBlanks (text.toList ++ after) := by
    rw [parts]
    exact dropEndBlanks_append before later
  by_cases more : Shows after
  · obtain ⟨blanks, rejoined, _⟩ := exists_endBlanks text.toList
    refine ⟨before, blanks ++ dropEndBlanks after, ?_, rfl⟩
    rw [String.toList_ofList, whole, dropEndBlanks_append text.toList more, List.append_assoc,
      ← List.append_assoc (dropEndBlanks text.toList), rejoined]
  · have blank := dropEndBlanks_append_blanks text.toList (not_shows_iff.mp more)
    refine ⟨before, [], ?_, rfl⟩
    rw [String.toList_ofList, whole, blank, List.append_nil]

/-- Of a text of blanks alone there is nothing to stand in a row. -/
theorem standsAt_of_blank (row : String) {text : String}
    (blank : ∀ character ∈ text.toList, isBlank character = true) : StandsAt row 0 text := by
  have empty : dropEndBlanks text.toList = [] := dropEndBlanks_append_blanks [] blank
  refine ⟨[], row.toList, ?_, rfl⟩
  rw [empty, List.append_nil, List.nil_append]

/-- The line of a parameter in a table: its name at the start, its shorthand and its description at
their columns, and spaces between them. -/
def line (shorthandColumn descriptionColumn : Nat) (parameter : Parameter) : List Char :=
  let shorthand := (parameter.shorthand.getD "").toList
  parameter.name.toList ++ List.replicate (shorthandColumn - parameter.name.length) ' ' ++
    shorthand ++ List.replicate (descriptionColumn - (shorthandColumn + shorthand.length)) ' ' ++
    (parameter.description.getD "").toList

/-- The row of a parameter in a table with a column for shorthands and one for descriptions. -/
structure Aligned (shorthandColumn descriptionColumn : Nat) (parameter : Parameter)
    (row : String) : Prop where
  /-- The shorthands start at least four spaces after the name. -/
  nameGap : parameter.name.length + 4 ≤ shorthandColumn
  /-- The descriptions start at least four spaces after the shorthand. -/
  shorthandGap : shorthandColumn + (parameter.shorthand.getD "").length + 4 ≤ descriptionColumn
  /-- The row is the line of the parameter, of which blanks at the end alone are cut off. -/
  cut : ∃ blanks, row.toList ++ blanks = line shorthandColumn descriptionColumn parameter ∧
    ∀ character ∈ blanks, isBlank character = true
  /-- The row does not end in a blank. -/
  trimmed : ∀ last ∈ row.toList.getLast?, isBlank last = false
  /-- The name starts the row. -/
  name : StandsAt row 0 parameter.name
  /-- A shorthand that shows starts at its column. -/
  shorthand : Shows (parameter.shorthand.getD "").toList →
    StandsAt row shorthandColumn (parameter.shorthand.getD "")
  /-- A description that shows starts at its column. -/
  description : Shows (parameter.description.getD "").toList →
    StandsAt row descriptionColumn (parameter.description.getD "")

/-- What is left of the line of a parameter without the blanks at its end is its row. -/
theorem aligned_line {shorthandColumn descriptionColumn : Nat} {parameter : Parameter}
    (nameGap : parameter.name.length + 4 ≤ shorthandColumn)
    (shorthandGap : shorthandColumn + (parameter.shorthand.getD "").length + 4 ≤
      descriptionColumn) :
    Aligned shorthandColumn descriptionColumn parameter
      (String.ofList (dropEndBlanks (line shorthandColumn descriptionColumn parameter))) := by
  let shorthand := (parameter.shorthand.getD "").toList
  let description := (parameter.description.getD "").toList
  let first := List.replicate (shorthandColumn - parameter.name.length) ' '
  let second := List.replicate (descriptionColumn - (shorthandColumn + shorthand.length)) ' '
  have shorthandStart : (parameter.name.toList ++ first).length = shorthandColumn := by
    rw [List.length_append, List.length_replicate, String.length_toList]
    omega
  have shorthandLength : shorthand.length = (parameter.shorthand.getD "").length :=
    String.length_toList
  have descriptionStart :
      (parameter.name.toList ++ first ++ shorthand ++ second).length = descriptionColumn := by
    rw [List.length_append, List.length_append, shorthandStart, List.length_replicate]
    omega
  refine ⟨nameGap, shorthandGap, ?_, ?_, ?_, fun shows => ?_, fun shows => ?_⟩
  · rw [String.toList_ofList]
    exact exists_endBlanks _
  · rw [String.toList_ofList]
    exact dropEndBlanks_last _
  · by_cases shows : Shows parameter.name.toList
    · have parts : line shorthandColumn descriptionColumn parameter =
          [] ++ (parameter.name.toList ++ (first ++ shorthand ++ second ++ description)) := by
        simp only [line, List.append_assoc, List.nil_append, shorthand, description, first, second]
      exact standsAt_row parts shows
    · exact standsAt_of_blank _ (not_shows_iff.mp shows)
  · have parts : line shorthandColumn descriptionColumn parameter =
        parameter.name.toList ++ first ++ (shorthand ++ (second ++ description)) := by
      simp only [line, List.append_assoc, shorthand, description, first, second]
    have stands := standsAt_row parts shows
    rwa [shorthandStart] at stands
  · have parts : line shorthandColumn descriptionColumn parameter =
        parameter.name.toList ++ first ++ shorthand ++ second ++ (description ++ []) := by
      rw [List.append_nil]
      rfl
    have stands := standsAt_row parts shows
    rwa [descriptionStart] at stands

/-! ## Widths of columns -/

/-- A column leaves a gap after each of its texts. -/
theorem le_columnWidth {texts : List String} {text : String} (member : text ∈ texts) :
    text.length + columnGap ≤ columnWidth texts := by
  have greatest : ∀ (lengths : List Nat) (start : Nat), start ≤ lengths.foldl max start ∧
      ∀ length ∈ lengths, length ≤ lengths.foldl max start := by
    intro lengths
    induction lengths with
    | nil => exact fun start => ⟨le_rfl, fun _ member => absurd member List.not_mem_nil⟩
    | cons first rest ih =>
      intro start
      obtain ⟨least, each⟩ := ih (max start first)
      refine ⟨le_trans (le_max_left start first) least, List.forall_mem_cons.mpr ⟨?_, each⟩⟩
      exact le_trans (le_max_right start first) least
  have within := (greatest (texts.map String.length) 0).2 text.length (List.mem_map_of_mem member)
  exact Nat.add_le_add_right within columnGap

/-- The rows of parameters stand on the columns of any list that holds them. -/
theorem row_aligned {parameters : List Parameter} {parameter : Parameter}
    (member : parameter ∈ parameters) : let columns := Columns.of parameters
    Aligned columns.name (columns.name + columns.shorthand) parameter (row columns parameter) := by
  intro columns
  have nameGap : parameter.name.length + 4 ≤ columns.name :=
    le_columnWidth (List.mem_map_of_mem member)
  have shorthandGap : (parameter.shorthand.getD "").length + 4 ≤ columns.shorthand :=
    le_columnWidth (List.mem_map_of_mem member)
  have padded : (padTo columns.name parameter.name ++
      padTo columns.shorthand (shorthandOf parameter) ++ parameter.description.getD "").toList =
      line columns.name (columns.name + columns.shorthand) parameter := by
    simp only [padTo, shorthandOf, line, String.toList_append, String.toList_ofList,
      String.length_toList, List.append_assoc, Nat.add_sub_add_left]
  rw [row, trimEnd, padded]
  exact aligned_line nameGap (by omega)

end HelpText

/-- The help is aligned. It is one block for each command, in order: its heading, its description
if there is one, and, if it has parameters, a row for each, in order. The rows of all commands stand
on the same two columns. -/
theorem helpText_aligned (entries : List HelpEntry) :
    ∃ shorthandColumn descriptionColumn blocks, helpText entries = String.join blocks ∧
      List.Forall₂ (fun (entry : HelpEntry) block => ∃ rows,
        List.Forall₂ (HelpText.Aligned shorthandColumn descriptionColumn)
          entry.template.parameters rows ∧
        block = "\nCommand: " ++ entry.template.heading ++ "\n" ++
          HelpText.descriptionLine (entry.description.getD "") ++
          if rows = [] then "" else "Parameters:\n" ++ "\n".intercalate rows ++ "\n")
        entries blocks := by
  let parameters := entries.flatMap fun entry => entry.template.parameters
  let columns := HelpText.Columns.of parameters
  refine ⟨columns.name, columns.name + columns.shorthand, entries.map (HelpText.block columns), rfl,
    List.forall₂_map_right_iff.mpr (List.forall₂_same.mpr fun entry listed => ?_)⟩
  refine ⟨entry.template.parameters.map (HelpText.row columns),
    List.forall₂_map_right_iff.mpr (List.forall₂_same.mpr fun parameter member => ?_), ?_⟩
  · have among : parameter ∈ parameters := List.mem_flatMap.mpr ⟨entry, listed, member⟩
    exact HelpText.row_aligned among
  · rw [HelpText.block, HelpText.rows]
    cases entry.template.parameters with
    | nil => rfl
    | cons parameter rest => rfl

end Switchboard
