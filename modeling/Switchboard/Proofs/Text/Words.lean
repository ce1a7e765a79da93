import Switchboard.Text.Blank
/-!
# Words and their joints

The words of a text are not empty and hold no blank, so a text that joins them by single spaces
says which words it joins (`intercalate_injective`).
-/
namespace Switchboard.Text

/-- A word has a character, and none of its characters is a blank. -/
structure IsWord (word : List Char) : Prop where
  /-- There is a character. -/
  filled : word ≠ []
  /-- No character is a blank. -/
  solid : ∀ character ∈ word, isBlank character = false

/-- A word holds no space. -/
theorem IsWord.no_space {word : List Char} (solid : IsWord word) : ' ' ∉ word := by
  intro member
  have blank : isBlank ' ' = true := by decide
  rw [solid.solid ' ' member] at blank
  contradiction

/-- What is before the first blank holds none, and what is after it is cut into words. -/
theorem headAndWords_isWord (characters : List Char) :
    (∀ character ∈ (headAndWords characters).1, isBlank character = false) ∧
      ∀ word ∈ (headAndWords characters).2, IsWord word := by
  induction characters with
  | nil => simp [headAndWords]
  | cons character rest ih =>
    obtain ⟨head, later⟩ := ih
    unfold headAndWords
    cases blank : isBlank character with
    | false =>
      simp only [Bool.false_eq_true, if_false]
      exact ⟨List.forall_mem_cons.mpr ⟨blank, head⟩, later⟩
    | true =>
      simp only [if_true]
      refine ⟨List.forall_mem_nil _, ?_⟩
      by_cases empty : (headAndWords rest).1.isEmpty = true
      · rw [if_pos empty]
        exact later
      · rw [if_neg empty]
        exact List.forall_mem_cons.mpr ⟨⟨by simpa using empty, head⟩, later⟩

/-- The words of a text are words. -/
theorem words_isWord {text word : String} (member : word ∈ words text) : IsWord word.toList := by
  obtain ⟨characters, found, rfl⟩ := List.mem_map.mp member
  rw [String.toList_ofList]
  obtain ⟨head, later⟩ := headAndWords_isWord text.toList
  unfold wordLists at found
  by_cases empty : (headAndWords text.toList).1.isEmpty = true
  · simp only [if_pos empty] at found
    exact later characters found
  · simp only [if_neg empty, List.mem_cons] at found
    rcases found with rfl | found
    · exact ⟨by simpa using empty, head⟩
    · exact later characters found

/-- A text that joins words is empty only if there is no word. -/
theorem intercalate_eq_empty {words : List String} (solid : ∀ word ∈ words, IsWord word.toList)
    (empty : " ".intercalate words = "") : words = [] := by
  cases words with
  | nil => rfl
  | cons first rest =>
    have filled : first.toList ≠ [] := (solid first List.mem_cons_self).filled
    have characters : (" ".intercalate (first :: rest)).toList = [] := by rw [empty]; rfl
    cases rest with
    | nil =>
      rw [String.intercalate_singleton] at characters
      exact absurd characters filled
    | cons second later =>
      rw [String.intercalate_cons_cons, String.toList_append, String.toList_append] at characters
      simp at characters

/-- Words are read back from the text that joins them. -/
theorem splitOn_intercalate {words : List String} (solid : ∀ word ∈ words, IsWord word.toList)
    (some : words ≠ []) :
    (" ".intercalate words).toList.splitOn ' ' = words.map String.toList := by
  rw [String.toList_intercalate]
  refine List.splitOn_intercalate ' ' (fun characters member => ?_) (by simpa using some)
  obtain ⟨word, among, rfl⟩ := List.mem_map.mp member
  exact (solid word among).no_space

/-- Texts that join words are equal only if they join the same words. -/
theorem intercalate_injective {first second : List String}
    (solid : ∀ word ∈ first, IsWord word.toList) (solid' : ∀ word ∈ second, IsWord word.toList)
    (same : " ".intercalate first = " ".intercalate second) : first = second := by
  by_cases empty : first = []
  · rw [empty, String.intercalate_nil] at same
    rw [empty, intercalate_eq_empty solid' same.symm]
  · by_cases empty' : second = []
    · rw [empty', String.intercalate_nil] at same
      exact absurd (intercalate_eq_empty solid same) empty
    · have characters : first.map String.toList = second.map String.toList := by
        rw [← splitOn_intercalate solid empty, ← splitOn_intercalate solid' empty', same]
      exact (List.map_inj_right fun _ _ => String.toList_inj.mp).mp characters

end Switchboard.Text
