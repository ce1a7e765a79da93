import Mathlib.Data.List.Basic
import Switchboard.Line
import Switchboard.Proofs.Template.SlotNames
/-!
# Where characters come from

Texts are cut, and nothing is made up: words, the tokens of a line, the slot names of a template and
what a value template captures have no character that is not in the text that they are cut from.
-/
namespace Switchboard

namespace Text

/-- What comes before the first blank, and the words after it, have the characters of their text. -/
theorem headAndWords_subset (characters : List Char) :
    (headAndWords characters).1 ⊆ characters ∧
      ∀ word ∈ (headAndWords characters).2, word ⊆ characters := by
  induction characters with
  | nil => exact ⟨List.Subset.refl _, fun _ member => absurd member List.not_mem_nil⟩
  | cons character rest ih =>
    obtain ⟨head, later⟩ := ih
    have wider : rest ⊆ character :: rest := List.subset_cons_self character rest
    unfold headAndWords
    by_cases blank : isBlank character = true
    · simp only [if_pos blank]
      refine ⟨List.nil_subset _, fun word member => ?_⟩
      by_cases empty : (headAndWords rest).1.isEmpty = true
      · rw [if_pos empty] at member
        exact List.Subset.trans (later word member) wider
      · rw [if_neg empty] at member
        rcases List.mem_cons.mp member with rfl | member
        · exact List.Subset.trans head wider
        · exact List.Subset.trans (later word member) wider
    · simp only [if_neg blank]
      exact ⟨List.cons_subset_cons character head,
        fun word member => List.Subset.trans (later word member) wider⟩

/-- Words have the characters of their text. -/
theorem words_subset (text : String) : ∀ word ∈ words text, word.toList ⊆ text.toList := by
  obtain ⟨head, later⟩ := headAndWords_subset text.toList
  intro word member
  obtain ⟨characters, among, rfl⟩ := List.mem_map.mp member
  rw [String.toList_ofList]
  unfold wordLists at among
  by_cases empty : (headAndWords text.toList).1.isEmpty = true
  · simp only [if_pos empty] at among
    exact later characters among
  · simp only [if_neg empty] at among
    rcases List.mem_cons.mp among with rfl | among
    · exact head
    · exact later characters among

/-- Without the blanks around it a text has its own characters. -/
theorem trim_subset (text : String) : (trim text).toList ⊆ text.toList := by
  intro character member
  rw [trim, String.toList_ofList, dropEndBlanks, List.mem_reverse] at member
  have inside := List.mem_reverse.mp ((List.dropWhile_sublist _).mem member)
  exact (List.dropWhile_sublist _).mem inside

end Text

namespace Line

/-- Wherever a line is cut, the tokens have its characters. -/
theorem scan_subset (place : Place) (characters : List Char) :
    (scan place characters).1 ⊆ characters ∧
      ∀ token ∈ (scan place characters).2, token ⊆ characters := by
  induction characters generalizing place with
  | nil =>
    rw [scan]
    exact ⟨List.Subset.refl _, fun _ member => absurd member List.not_mem_nil⟩
  | cons character rest ih =>
    have wider : rest ⊆ character :: rest := List.subset_cons_self character rest
    have later : ∀ next, ∀ token ∈ (scan next rest).2, token ⊆ character :: rest :=
      fun next token member => List.Subset.trans ((ih next).2 token member) wider
    have under : ∀ next, (scan next rest).1 ⊆ character :: rest :=
      fun next => List.Subset.trans (ih next).1 wider
    have longer : ∀ next, character :: (scan next rest).1 ⊆ character :: rest :=
      fun next => List.cons_subset_cons character (ih next).1
    cases place with
    | between =>
      unfold scan
      split_ifs
      · exact ⟨List.nil_subset _, List.forall_mem_cons.mpr ⟨under _, later _⟩⟩
      · exact ⟨under _, later _⟩
      · exact ⟨List.nil_subset _, List.forall_mem_cons.mpr ⟨longer _, later _⟩⟩
    | inToken =>
      unfold scan
      split_ifs
      · exact ⟨under _, later _⟩
      · exact ⟨List.nil_subset _, later _⟩
      · exact ⟨longer _, later _⟩
    | inSpan quote =>
      unfold scan
      split_ifs
      · exact ⟨under _, later _⟩
      · exact ⟨longer _, later _⟩

/-- Tokens have the characters of their line. -/
theorem tokens_subset (line : String) : ∀ token ∈ tokens line, token.toList ⊆ line.toList := by
  intro token member
  obtain ⟨characters, among, rfl⟩ := List.mem_map.mp member
  rw [String.toList_ofList]
  exact (scan_subset .between line.toList).2 characters among

end Line

/-! ## Slots -/

namespace FixedWord

/-- The name of a slot has the characters of its word. -/
theorem slot_subset {text name : String} (read : ofText text = slot name) :
    name.toList ⊆ text.toList := by
  unfold ofText at read
  split at read
  · rename_i rest written
    split at read
    · rename_i reversed ended
      cases read
      intro character member
      rw [String.toList_ofList, List.mem_reverse] at member
      have inside : character ∈ rest := by
        rw [← List.mem_reverse, ended]
        exact List.mem_cons_of_mem _ (List.mem_cons_of_mem _ member)
      rw [written]
      exact List.mem_cons_of_mem _ (List.mem_cons_of_mem _ inside)
    · cases read
  · cases read

end FixedWord

/-- The slot names of a fixed template have its characters. -/
theorem FixedTemplate.slots_subset (template : FixedTemplate) :
    ∀ name ∈ template.slots, name.toList ⊆ template.written.toList := by
  intro name member
  obtain ⟨word, among, same⟩ := List.mem_filterMap.mp member
  obtain ⟨text, inside, rfl⟩ := List.mem_map.mp among
  cases read : FixedWord.ofText text with
  | literal text =>
    rw [read] at same
    cases same
  | slot found =>
    rw [read] at same
    cases same
    exact List.Subset.trans (FixedWord.slot_subset read) (Text.words_subset _ text inside)

namespace Segment

/-- A slot name and what comes after the slot have the characters that they are read from. -/
theorem slotName_subset {characters name after : List Char}
    (found : slotName characters = some (name, after)) :
    name ⊆ characters ∧ after ⊆ characters := by
  fun_induction slotName characters generalizing name after with
  | case1 => cases found
  | case2 rest =>
    cases found
    exact ⟨List.nil_subset _,
      fun _ member => List.mem_cons_of_mem _ (List.mem_cons_of_mem _ member)⟩
  | case3 => cases found
  | case4 character rest _ _ inner =>
    obtain ⟨⟨innerName, innerAfter⟩, read, same⟩ := Option.map_eq_some_iff.mp found
    cases same
    obtain ⟨names, afters⟩ := inner read
    exact ⟨List.cons_subset_cons character names,
      List.Subset.trans afters (List.subset_cons_self _ _)⟩

/-- The slot that begins a text has the characters of the text. -/
theorem slotAhead_subset {characters name after : List Char}
    (found : slotAhead characters = some (name, after)) :
    name ⊆ characters ∧ after ⊆ characters := by
  unfold slotAhead at found
  split at found
  · rename_i rest
    have wider : rest ⊆ '[' :: '[' :: rest :=
      fun _ member => List.mem_cons_of_mem _ (List.mem_cons_of_mem _ member)
    obtain ⟨names, afters⟩ := slotName_subset found
    exact ⟨List.Subset.trans names wider, List.Subset.trans afters wider⟩
  · cases found

/-- A slot after literal characters is one of the segments. -/
theorem slot_mem_afterLiteral {characters : List Char} {segments : List Segment} {name : String}
    (member : slot name ∈ afterLiteral characters segments) : slot name ∈ segments := by
  unfold afterLiteral at member
  split_ifs at member
  · exact member
  · rcases List.mem_cons.mp member with same | member
    · cases same
    · exact member

/-- The slots of a text have its characters. -/
theorem headAndSegments_subset (characters : List Char) :
    ∀ name, slot name ∈ (headAndSegments characters).2 → name.toList ⊆ characters := by
  fun_induction headAndSegments characters with
  | case1 characters name after found head later parts ih =>
    obtain ⟨names, afters⟩ := slotAhead_subset found
    intro other member
    rcases List.mem_cons.mp member with same | member
    · cases same
      rw [String.toList_ofList]
      exact names
    · refine List.Subset.trans (ih other ?_) afters
      rw [parts]
      exact slot_mem_afterLiteral member
  | case2 absent => exact fun name member => absurd member List.not_mem_nil
  | case3 character rest absent head later parts ih =>
    intro name member
    refine List.Subset.trans (ih name ?_) (List.subset_cons_self _ _)
    rw [parts]
    exact member

end Segment

/-- The slot names of a value template have its characters. -/
theorem ValueTemplate.slots_subset (template : ValueTemplate) :
    ∀ name ∈ template.slots, name.toList ⊆ template.source.toList := by
  intro name member
  obtain ⟨segment, among, same⟩ := List.mem_filterMap.mp member
  cases segment with
  | literal text => cases same
  | slot found =>
    cases same
    exact Segment.headAndSegments_subset template.source.toList name
      (Segment.slot_mem_afterLiteral among)

/-! ## Captures -/

/-- Captures that fill segments up to a value have its characters. -/
theorem Segment.Fills.subset {segments : List Segment} {captures : List (String × String)}
    {value : List Char} (fills : Fills segments captures value) :
    ∀ capture ∈ captures, capture.2.toList ⊆ value := by
  induction fills with
  | nil => exact fun _ member => absurd member List.not_mem_nil
  | literal text _ ih =>
    exact fun capture member =>
      List.Subset.trans (ih capture member) (List.subset_append_right _ _)
  | slot name text _ ih =>
    refine List.forall_mem_cons.mpr ⟨List.subset_append_left _ _, fun capture member => ?_⟩
    exact List.Subset.trans (ih capture member) (List.subset_append_right _ _)

/-- What a value template captures has the characters of the value. -/
theorem ValueTemplate.capture_subset {template : ValueTemplate} {value : String}
    {captures : List (String × String)} (found : template.capture value = some captures) :
    ∀ capture ∈ captures, capture.2.toList ⊆ value.toList :=
  (capture_least found).1.subset

/-- What a fixed template captures is tokens. -/
theorem FixedTemplate.capture_tokens {words : List FixedWord} {tokens : List String}
    {captures : List (String × String)} (matched : matchWords words tokens = some captures) :
    ∀ capture ∈ captures, capture.2 ∈ tokens := by
  fun_induction matchWords words tokens generalizing captures with
  | case1 =>
    cases matched
    simp
  | case2 text words token tokens _ ih =>
    exact fun capture member => List.mem_cons_of_mem _ (ih matched capture member)
  | case3 => contradiction
  | case4 name words token tokens ih =>
    obtain ⟨later, found, rfl⟩ := Option.map_eq_some_iff.mp matched
    refine List.forall_mem_cons.mpr ⟨List.mem_cons_self, fun capture member => ?_⟩
    exact List.mem_cons_of_mem _ (ih found capture member)
  | case5 => contradiction

end Switchboard
