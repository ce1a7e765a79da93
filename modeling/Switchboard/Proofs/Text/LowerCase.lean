import Mathlib.Data.List.Forall2
import Switchboard.Proofs.Text.Words
import Switchboard.Text.LowerCase
/-!
# Words in lower case

The lower-case form of a letter can depend on the characters around it, but never across a space.
So words can be brought to lower case one by one or joined (`lowerCase_intercalate`), and no letter
becomes a blank, which means that they stay words (`IsWord.lowerCase`). Together: texts that join
words agree in lower case exactly when their words do (`lowerCase_intercalate_eq_iff`). Most letters
are the lower-case form of themselves and their capital alone, and a text that comes to a word of
such letters is the word in some letter case (`lowerCase_eq_iff`).
-/
namespace Switchboard.Text

/-! ## Letters across a space -/

/-- A space is not passed over in the search for a letter. -/
theorem space_not_ignorable : caseIgnorableCharacters.includes ' ' = false := by decide +kernel

/-- A space is no letter. -/
theorem space_not_cased : casedCharacters.includes ' ' = false := by decide +kernel

/-- A space is written alike in both cases. -/
theorem lowerForm_space : lowerForm ' ' = [' '] := by decide +kernel

/-- What is behind a space does not count. -/
theorem meetsCased_space (near far : List Char) :
    meetsCased (near ++ ' ' :: far) = meetsCased near := by
  induction near with
  | nil =>
    unfold meetsCased
    simp only [List.nil_append, List.dropWhile_cons, space_not_ignorable, Bool.false_eq_true,
      if_false, space_not_cased, List.dropWhile_nil]
  | cons character near ih =>
    unfold meetsCased at ih ⊢
    rw [List.cons_append, List.dropWhile_cons, List.dropWhile_cons]
    cases caseIgnorableCharacters.includes character with
    | true => simpa only [if_true] using ih
    | false => simp only [Bool.false_eq_true, if_false]

/-- What is before an earlier space does not count. -/
theorem lowerAfter_before_space (near far characters : List Char) :
    lowerAfter (near ++ ' ' :: far) characters = lowerAfter near characters := by
  induction characters generalizing near with
  | nil => rfl
  | cons character rest ih =>
    rw [lowerAfter, lowerAfter, meetsCased_space, ← List.cons_append, ih]

/-- What is on either side of a space is brought to lower case by itself. -/
theorem lowerAfter_append_space (before characters rest : List Char) :
    lowerAfter before (characters ++ ' ' :: rest) =
      lowerAfter before characters ++ ' ' :: lowerAfter [] rest := by
  induction characters generalizing before with
  | nil =>
    have apart : lowerAfter (' ' :: before) rest = lowerAfter [] rest :=
      lowerAfter_before_space [] before rest
    have other : ' ' ≠ 'Σ' := by decide
    have unfolded : lowerAfter before (' ' :: rest) =
        lowerForm ' ' ++ lowerAfter (' ' :: before) rest := by
      rw [lowerAfter, if_neg other]
    rw [List.nil_append, unfolded, lowerForm_space, apart]
    rfl
  | cons character characters ih =>
    rw [List.cons_append, lowerAfter, lowerAfter, meetsCased_space, ih, List.append_assoc]

/-- Words can be brought to lower case one by one. -/
theorem lowerCase_intercalate (words : List String) :
    lowerCase (" ".intercalate words) = " ".intercalate (words.map lowerCase) := by
  induction words with
  | nil => rfl
  | cons first rest ih =>
    cases rest with
    | nil => rw [List.map_singleton, String.intercalate_singleton, String.intercalate_singleton]
    | cons second later =>
      have spaced : (" ".intercalate (first :: second :: later)).toList =
          first.toList ++ ' ' :: (" ".intercalate (second :: later)).toList := by
        rw [String.intercalate_cons_cons, String.toList_append, String.toList_append,
          List.append_assoc]
        rfl
      have joined : " ".intercalate ((first :: second :: later).map lowerCase) =
          lowerCase first ++ " " ++ lowerCase (" ".intercalate (second :: later)) := by
        rw [ih]
        exact String.intercalate_cons_cons
      rw [joined, lowerCase, spaced, lowerAfter_append_space, ← String.toList_inj]
      simp [lowerCase]

/-! ## Words stay words -/

/-- The letters of a run go to no blank. -/
def CaseRun.avoids (run : CaseRun) (range : Nat × Nat) : Bool :=
  (run.last : Int) + run.shift < range.1 || (range.2 : Int) < run.first + run.shift

/-- No letter of the table goes to a blank. -/
theorem caseRuns_avoid : (caseRuns.all fun run =>
    blankCharacters.ranges.all run.avoids) = true := by decide +kernel

/-- The null character is no blank. -/
theorem isBlank_null : isBlank '\x00' = false := by decide

/-- A letter of a run does not go to a blank. -/
theorem isBlank_shifted {run : CaseRun} (among : run ∈ caseRuns) {code : Nat}
    (least : run.first ≤ code) (greatest : code ≤ run.last) :
    isBlank (Char.ofNat ((code : Int) + run.shift).toNat) = false := by
  have avoids := List.all_eq_true.mp (List.all_eq_true.mp caseRuns_avoid run among)
  by_cases valid : ((code : Int) + run.shift).toNat.isValidChar
  · have number : (Char.ofNat ((code : Int) + run.shift).toNat).toNat =
        ((code : Int) + run.shift).toNat := by
      unfold Char.ofNat
      rw [dif_pos valid]
      rfl
    rw [isBlank, CodePoints.includes, List.any_eq_false]
    intro range member
    have apart := avoids range member
    rw [CaseRun.avoids, Bool.or_eq_true, decide_eq_true_eq, decide_eq_true_eq] at apart
    have first : 9 ≤ range.1 := by
      have all : (blankCharacters.ranges.all fun range => decide (9 ≤ range.1)) = true := by decide
      exact of_decide_eq_true (List.all_eq_true.mp all range member)
    rw [number, Bool.and_eq_true, decide_eq_true_eq, decide_eq_true_eq]
    omega
  · have null : Char.ofNat ((code : Int) + run.shift).toNat = '\x00' := by
      unfold Char.ofNat
      rw [dif_neg valid]
      rfl
    rw [null]
    exact isBlank_null

/-- The lower-case form of a character that is no blank has none. -/
theorem lowerForm_solid {character : Char} (solid : isBlank character = false) :
    ∀ lower ∈ lowerForm character, isBlank lower = false := by
  unfold lowerForm
  by_cases dotted : character = 'İ'
  · rw [if_pos dotted]
    exact List.forall_mem_cons.mpr ⟨by decide, List.forall_mem_singleton.mpr (by decide)⟩
  · rw [if_neg dotted]
    cases found : caseRuns.find? (·.holds character.toNat) with
    | none => simpa using solid
    | some run =>
      have held := List.find?_some found
      rw [CaseRun.holds, Bool.and_eq_true, Bool.and_eq_true, decide_eq_true_eq,
        decide_eq_true_eq] at held
      simpa using isBlank_shifted (List.mem_of_find?_eq_some found) held.1.1 held.1.2

/-- The lower-case form of a character is not empty. -/
theorem lowerForm_filled (character : Char) : lowerForm character ≠ [] := by
  unfold lowerForm
  split
  · simp
  · split <;> simp

/-- Characters that are no blanks have none in lower case either. -/
theorem lowerAfter_solid {characters : List Char}
    (solid : ∀ character ∈ characters, isBlank character = false) (before : List Char) :
    ∀ lower ∈ lowerAfter before characters, isBlank lower = false := by
  induction characters generalizing before with
  | nil => simp [lowerAfter]
  | cons character rest ih =>
    obtain ⟨head, tail⟩ := List.forall_mem_cons.mp solid
    rw [lowerAfter, List.forall_mem_append]
    refine ⟨?_, ih tail _⟩
    by_cases sigma : character = 'Σ'
    · rw [if_pos sigma]
      split
      · exact List.forall_mem_singleton.mpr (by decide)
      · exact List.forall_mem_singleton.mpr (by decide)
    · rw [if_neg sigma]
      exact lowerForm_solid head

/-- A word is a word in lower case too. -/
theorem IsWord.lowerCase {word : String} (solid : IsWord word.toList) :
    IsWord (lowerCase word).toList := by
  rw [Text.lowerCase, String.toList_ofList]
  refine ⟨?_, lowerAfter_solid solid.solid []⟩
  obtain ⟨character, rest, same⟩ := List.exists_cons_of_ne_nil solid.filled
  rw [same, lowerAfter]
  refine List.append_ne_nil_of_left_ne_nil ?_ _
  split
  · simp
  · exact lowerForm_filled character

/-- Texts that join words agree in lower case exactly when their words do. -/
theorem lowerCase_intercalate_eq_iff {first second : List String}
    (solid : ∀ word ∈ first, IsWord word.toList)
    (solid' : ∀ word ∈ second, IsWord word.toList) :
    lowerCase (" ".intercalate first) = lowerCase (" ".intercalate second) ↔
      first.map lowerCase = second.map lowerCase := by
  rw [lowerCase_intercalate, lowerCase_intercalate]
  constructor
  · refine intercalate_injective ?_ ?_
    · exact List.forall_mem_map.mpr fun word member => (solid word member).lowerCase
    · exact List.forall_mem_map.mpr fun word member => (solid' word member).lowerCase
  · intro same
    rw [same]

/-! ## A word in any letter case -/

/-- A text is a word, each letter as it stands or as a capital. -/
def InAnyCase (text word : String) : Prop :=
  List.Forall₂ (fun written letter => written = letter ∨ written = letter.toUpper)
    text.toList word.toList

/-- Of the letters of a run at most the capital of a letter goes to that letter. -/
def CaseRun.spares (run : CaseRun) (letter : Char) : Bool :=
  let origin := (letter.toNat - run.shift).toNat
  !run.holds origin || origin = letter.toUpper.toNat

/-- Only a letter and its capital have the letter for their lower-case form. -/
structure Plain (letter : Char) : Prop where
  /-- The letter is written alike in lower case. -/
  lower : lowerForm letter = [letter]
  /-- Its capital goes to the letter. -/
  capital : lowerForm letter.toUpper = [letter]
  /-- No other letter of the table goes to it. -/
  spared : (caseRuns.all fun run => run.spares letter) = true
  /-- It is none of the characters with a form of their own. -/
  apart : letter ∉ ['\x00', 'i', '\u0307', 'Σ', 'σ', 'ς']
  /-- Nor is its capital. -/
  capital_apart : letter.toUpper ≠ 'Σ'

instance (letter : Char) : Decidable (Plain letter) :=
  decidable_of_iff (lowerForm letter = [letter] ∧ lowerForm letter.toUpper = [letter] ∧
      (caseRuns.all fun run => run.spares letter) = true ∧
      letter ∉ ['\x00', 'i', '\u0307', 'Σ', 'σ', 'ς'] ∧ letter.toUpper ≠ 'Σ')
    ⟨fun ⟨lower, capital, spared, apart, capital_apart⟩ =>
      ⟨lower, capital, spared, apart, capital_apart⟩,
    fun ⟨lower, capital, spared, apart, capital_apart⟩ =>
      ⟨lower, capital, spared, apart, capital_apart⟩⟩

/-- What a plain letter is part of the lower-case form of is the letter or its capital. -/
theorem Plain.alone {letter character : Char} (plain : Plain letter)
    (member : letter ∈ lowerForm character) :
    character = letter ∨ character = letter.toUpper := by
  have apart := plain.apart
  unfold lowerForm at member
  by_cases dotted : character = 'İ'
  · rw [if_pos dotted] at member
    simp only [List.mem_cons, List.not_mem_nil, or_false, not_or] at apart member
    rcases member with same | same
    · exact absurd same apart.2.1
    · exact absurd same apart.2.2.1
  · rw [if_neg dotted] at member
    cases found : caseRuns.find? (·.holds character.toNat) with
    | none =>
      rw [found] at member
      exact .inl (List.mem_singleton.mp member).symm
    | some run =>
      rw [found] at member
      have same := List.mem_singleton.mp member
      have held := List.find?_some found
      have spares := List.all_eq_true.mp plain.spared run (List.mem_of_find?_eq_some found)
      -- The shifted number is the number of the letter, so the character is where it comes from.
      have number : ((character.toNat : Int) + run.shift).toNat = letter.toNat := by
        by_cases valid : ((character.toNat : Int) + run.shift).toNat.isValidChar
        · rw [same, Char.ofNat, dif_pos valid]
          rfl
        · rw [Char.ofNat, dif_neg valid] at same
          exact absurd (List.mem_cons.mpr (.inl same)) apart
      have positive : 0 < letter.toNat := by
        refine Nat.pos_of_ne_zero fun zero => apart ?_
        have null : letter = '\x00' := Char.toNat_inj.mp zero
        rw [null]
        exact List.mem_cons_self
      have origin : ((letter.toNat : Int) - run.shift).toNat = character.toNat := by omega
      rw [CaseRun.spares, origin, held, Bool.not_true, Bool.false_or, decide_eq_true_eq] at spares
      exact .inr (Char.toNat_inj.mp spares)

/-- Characters that come to plain letters are these letters or their capitals. -/
theorem lowerAfter_eq_iff {letters : List Char} (plain : ∀ letter ∈ letters, Plain letter)
    (before characters : List Char) : lowerAfter before characters = letters ↔
      List.Forall₂ (fun written letter => written = letter ∨ written = letter.toUpper)
        characters letters := by
  induction characters generalizing before letters with
  | nil => rw [lowerAfter, List.forall₂_nil_left_iff, eq_comm]
  | cons character rest ih =>
    rw [lowerAfter]
    constructor
    · intro same
      by_cases sigma : character = 'Σ'
      · have small : 'σ' ∈ letters ∨ 'ς' ∈ letters := by
          rw [← same, if_pos sigma]
          cases meetsCased before && !meetsCased rest <;> simp
        rcases small with member | member
        · exact absurd (by simp) (plain _ member).apart
        · exact absurd (by simp) (plain _ member).apart
      · rw [if_neg sigma] at same
        obtain ⟨first, more, form⟩ := List.exists_cons_of_ne_nil (lowerForm_filled character)
        have plain_first : Plain first := plain first (by rw [← same, form]; simp)
        have written := plain_first.alone (by rw [form]; exact List.mem_cons_self)
        have whole : lowerForm character = [first] := by
          rcases written with rfl | rfl
          · exact plain_first.lower
          · exact plain_first.capital
        rw [whole] at same
        subst same
        exact .cons written ((ih (fun letter member => plain letter (.tail _ member)) _).mp rfl)
    · intro written
      cases written with
      | @cons _ letter _ letters first later =>
        obtain ⟨plain_first, plain_later⟩ := List.forall_mem_cons.mp plain
        have other : character ≠ 'Σ' := by
          rcases first with rfl | rfl
          · exact fun sigma => plain_first.apart (by rw [sigma]; simp)
          · exact plain_first.capital_apart
        have whole : lowerForm character = [letter] := by
          rcases first with rfl | rfl
          · exact plain_first.lower
          · exact plain_first.capital
        rw [if_neg other, whole, (ih plain_later _).mpr later]
        rfl

/-- The texts that come to a word of plain letters are the word in any letter case. -/
theorem lowerCase_eq_iff {word : String} (plain : ∀ letter ∈ word.toList, Plain letter)
    (text : String) : lowerCase text = word ↔ InAnyCase text word := by
  rw [← String.toList_inj, lowerCase, String.toList_ofList]
  exact lowerAfter_eq_iff plain [] text.toList

end Switchboard.Text
