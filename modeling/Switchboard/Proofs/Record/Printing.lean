import Switchboard.Proofs.Record.Members
import Switchboard.Proofs.Text.OneLine
/-!
# Records are printed on one line

Every line break in a text is escaped, and nothing else in JSON has one; so whatever a record holds,
it is printed on one line (`dispatchLine_oneLine`).
-/
namespace Switchboard

open Text

namespace Json

/-! ## Numbers -/

/-- A number is written without a line break. -/
theorem toDigits_solid (number : Nat) : '\n' ∉ Nat.toDigits 10 number := by
  intro member
  have digit := Nat.isDigit_of_mem_toDigits (by decide) (by decide) member
  cases digit

/-- Zeros are no line breaks. -/
theorem zeros_solid (count : Nat) : '\n' ∉ zeros count := by
  intro member
  have zero := List.eq_of_mem_replicate member
  cases zero

variable {digits : List Char}

/-- Digits are laid out without a line break. -/
theorem plainNumber_solid (solid : '\n' ∉ digits) (leading : Int) :
    '\n' ∉ plainNumber digits leading := by
  have taken : ∀ count, '\n' ∉ digits.take count :=
    fun count member => solid (List.take_subset count digits member)
  have dropped : ∀ count, '\n' ∉ digits.drop count :=
    fun count member => solid (List.drop_subset count digits member)
  unfold plainNumber
  by_cases small : leading < 0
  · simp [if_pos small, zeros_solid, solid]
  · simp only [if_neg small, List.mem_append, not_or]
    refine ⟨⟨⟨taken _, zeros_solid _⟩, by decide⟩, ?_⟩
    split_ifs
    · decide
    · exact dropped _

/-- Digits are laid out without a line break with an exponent, too. -/
theorem scientificNumber_solid (solid : '\n' ∉ digits) (leading : Int) :
    '\n' ∉ scientificNumber digits leading := by
  have taken : '\n' ∉ digits.take 1 :=
    fun member => solid (List.take_subset 1 digits member)
  have dropped : '\n' ∉ digits.drop 1 :=
    fun member => solid (List.drop_subset 1 digits member)
  unfold scientificNumber
  simp only [List.mem_append, not_or]
  refine ⟨⟨⟨⟨taken, ?_⟩, by decide⟩, ?_⟩, toDigits_solid _⟩
  · split_ifs
    · exact List.not_mem_nil
    · rw [List.mem_cons, not_or]
      exact ⟨by decide, dropped⟩
  · split_ifs <;> decide

/-- A floating point number is written on one line. -/
theorem float_oneLine (format : Number.BinaryFormat) (value : Number.Binary) :
    OneLine (float format value) := by
  have null : OneLine "null" := by decide
  cases value with
  | nan => exact null
  | infinite negative => exact null
  | finite negative significand exponent =>
    rw [float, oneLine_ofList, List.mem_append, not_or]
    constructor
    · split_ifs <;> decide
    · split_ifs
      · decide
      · cases Number.shortest format significand exponent with
        | none => exact List.not_mem_nil
        | some number =>
          unfold decimal
          simp only
          split_ifs
          · exact plainNumber_solid (toDigits_solid _) _
          · exact scientificNumber_solid (toDigits_solid _) _

/-! ## Texts -/

/-- A digit of a control character is no line break. -/
theorem hexDigit_ne {value : Nat} (small : value < 0x20) :
    hexDigit (value / 16) ≠ '\n' ∧ hexDigit (value % 16) ≠ '\n' := by
  have all : ∀ code < 0x20, hexDigit (code / 16) ≠ '\n' ∧ hexDigit (code % 16) ≠ '\n' := by decide
  exact all value small

/-- No character stands in JSON as a line break. -/
theorem escape_solid (character : Char) : '\n' ∉ escape character := by
  unfold escape
  split_ifs with _ _ _ _ lineBreak _ _ control
  any_goals decide
  · obtain ⟨high, low⟩ := hexDigit_ne control
    simp only [List.mem_cons, List.not_mem_nil, or_false, not_or]
    exact ⟨by decide, by decide, by decide, by decide, high.symm, low.symm⟩
  · rw [List.mem_singleton]
    exact fun same => lineBreak same.symm

/-- A text is written on one line in JSON. -/
theorem text_oneLine (value : String) : OneLine (text value) := by
  rw [text, oneLine_ofList, List.mem_append, List.mem_append, not_or, not_or, List.mem_flatMap]
  refine ⟨⟨by decide, ?_⟩, by decide⟩
  rintro ⟨character, _, member⟩
  exact escape_solid character member

/-! ## Objects and arrays -/

/-- A list of values on one line is on one line. -/
theorem list_oneLine {elements : List String} (each : ∀ element ∈ elements, OneLine element) :
    OneLine (list elements) := by
  have comma : OneLine "," := by decide
  rw [list, oneLine_append, oneLine_append]
  exact ⟨⟨by decide, comma.intercalate each⟩, by decide⟩

/-- A member is on one line like its value. -/
theorem member_oneLine (name : String) {value : String} (one : OneLine value) :
    OneLine (member name value) := by
  rw [member, oneLine_append, oneLine_append]
  exact ⟨⟨text_oneLine name, by decide⟩, one⟩

/-- An object of members on one line is on one line. -/
theorem object_oneLine {members : List String} (each : ∀ member ∈ members, OneLine member) :
    OneLine (object members) := by
  have comma : OneLine "," := by decide
  rw [object, oneLine_append, oneLine_append]
  exact ⟨⟨by decide, comma.intercalate each⟩, by decide⟩

end Json

/-- A scalar is written on one line. -/
theorem Scalar.json_oneLine (value : Scalar) : OneLine value.json := by
  have natural : ∀ number : Nat, OneLine (String.ofList (Nat.toDigits 10 number)) :=
    fun number => oneLine_ofList.mpr (Json.toDigits_solid number)
  cases value with
  | bool value => cases value <;> decide
  | integer value =>
    cases value with
    | ofNat number => exact natural number
    | negSucc number =>
      change OneLine ("-" ++ String.ofList (Nat.toDigits 10 (number + 1)))
      exact oneLine_append.mpr ⟨by decide, natural (number + 1)⟩
  | unsigned value => exact natural value
  | float format value => exact Json.float_oneLine format value
  | char value => exact Json.text_oneLine _
  | text value => exact Json.text_oneLine value

namespace Json.Tree

mutual

/-- A value is written on one line. -/
theorem written_oneLine : ∀ tree : Tree, OneLine tree.written
  | scalar value => by
    rw [written]
    exact value.json_oneLine
  | array elements => by
    rw [written]
    exact list_oneLine (elementTexts_oneLine elements)
  | object members => by
    rw [written]
    exact object_oneLine (memberTexts_oneLine members)

/-- Elements are written on one line each. -/
theorem elementTexts_oneLine : ∀ elements : List Tree, ∀ text ∈ elementTexts elements, OneLine text
  | [] => by
    rw [elementTexts]
    exact fun _ member => absurd member List.not_mem_nil
  | element :: rest => by
    rw [elementTexts]
    exact List.forall_mem_cons.mpr ⟨written_oneLine element, elementTexts_oneLine rest⟩

/-- Members are written on one line each. -/
theorem memberTexts_oneLine :
    ∀ members : List (String × Tree), ∀ text ∈ memberTexts members, OneLine text
  | [] => by
    rw [memberTexts]
    exact fun _ member => absurd member List.not_mem_nil
  | (name, value) :: rest => by
    rw [memberTexts]
    exact List.forall_mem_cons.mpr
      ⟨member_oneLine name (written_oneLine value), memberTexts_oneLine rest⟩

end

end Json.Tree

/-- What a command prints for a record is one line. -/
theorem dispatchLine_oneLine (command : String) (record : Record) :
    OneLine (dispatchLine command record) := by
  rw [Record.dispatchLine_eq]
  exact Json.Tree.written_oneLine _

end Switchboard
