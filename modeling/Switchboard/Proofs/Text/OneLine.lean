import Mathlib.Data.List.Nodup
import Switchboard.Text.Utf8
/-!
# Texts on one line

A text without a line break stays one through encoding: its bytes have none either
(`mem_bytesOf`). Nor does decoding make one up: bytes without a line break, valid or not, are read
as characters without one (`not_mem_decodeAfter`), and a line break at the end of bytes is read as
itself, whatever is unfinished before it (`decodeAfter_concat`).
-/
namespace Switchboard.Text

/-- A text without a line break. -/
def OneLine (text : String) : Prop := '\n' ∉ text.toList

instance (text : String) : Decidable (OneLine text) := inferInstanceAs (Decidable (_ ∉ _))

/-- A line: bytes without a line break, and then one. -/
def IsLine (bytes : List UInt8) : Prop := ∃ body, bytes = body ++ [10] ∧ 10 ∉ body

/-! ## Putting texts together -/

@[simp]
theorem oneLine_append {first second : String} :
    OneLine (first ++ second) ↔ OneLine first ∧ OneLine second := by
  rw [OneLine, String.toList_append, List.mem_append, not_or]
  rfl

@[simp]
theorem oneLine_ofList {characters : List Char} :
    OneLine (String.ofList characters) ↔ '\n' ∉ characters := by
  rw [OneLine, String.toList_ofList]

/-- Texts on one line are joined to one by a text on one line. -/
theorem OneLine.intercalate {separator : String} (between : OneLine separator)
    {texts : List String} (each : ∀ text ∈ texts, OneLine text) :
    OneLine (separator.intercalate texts) := by
  induction texts with
  | nil => exact List.not_mem_nil
  | cons first rest ih =>
    obtain ⟨one, others⟩ := List.forall_mem_cons.mp each
    cases rest with
    | nil => simpa using one
    | cons second rest =>
      rw [String.intercalate_cons_cons]
      exact oneLine_append.mpr ⟨oneLine_append.mpr ⟨one, between⟩, ih others⟩

/-- A text of characters of a text on one line is on one line. -/
theorem OneLine.of_subset {text whole : String} (one : OneLine whole)
    (within : text.toList ⊆ whole.toList) : OneLine text :=
  fun member => one (within member)

/-! ## Bytes -/

/-- A byte of a character of several bytes is no line break. -/
theorem ofNat_ne_lineBreak {code : Nat} (least : 0x80 ≤ code) (greatest : code < 0x100) :
    10 ≠ UInt8.ofNat code := by
  intro same
  have codes : (10 : UInt8).toNat = (UInt8.ofNat code).toNat := congrArg UInt8.toNat same
  rw [UInt8.toNat_ofNat', Nat.mod_eq_of_lt greatest] at codes
  change 10 = code at codes
  omega

/-- Only the line break is written with the byte of the line break. -/
theorem mem_utf8EncodeChar {character : Char} :
    10 ∈ String.utf8EncodeChar character ↔ character = '\n' := by
  have code : character = '\n' ↔ character.val.toNat = 10 := by
    rw [← Char.toNat_inj]
    rfl
  rw [code]
  unfold String.utf8EncodeChar
  generalize character.val.toNat = value
  by_cases one : value ≤ 127
  · simp only [if_pos one, List.mem_singleton]
    constructor
    · intro same
      have codes : (10 : UInt8).toNat = (UInt8.ofNat value).toNat := congrArg UInt8.toNat same
      rw [UInt8.toNat_ofNat', Nat.mod_eq_of_lt (by omega)] at codes
      exact codes.symm
    · rintro rfl
      rfl
  · have other : value ≠ 10 := by omega
    have absent : 10 ∉ (if value ≤ 2047 then
        [UInt8.ofNat (value / 64 % 32 + 192), UInt8.ofNat (value % 64 + 128)]
      else if value ≤ 65535 then
        [UInt8.ofNat (value / 4096 % 16 + 224), UInt8.ofNat (value / 64 % 64 + 128),
          UInt8.ofNat (value % 64 + 128)]
      else
        [UInt8.ofNat (value / 262144 % 8 + 240), UInt8.ofNat (value / 4096 % 64 + 128),
          UInt8.ofNat (value / 64 % 64 + 128), UInt8.ofNat (value % 64 + 128)]) := by
      split_ifs
      all_goals
        simp only [List.mem_cons, List.not_mem_nil, or_false, not_or]
        refine ⟨?_, ?_⟩ <;> try refine ⟨?_, ?_⟩ <;> try refine ⟨?_, ?_⟩
        all_goals exact ofNat_ne_lineBreak (by omega) (by omega)
    simp only [if_neg one]
    exact ⟨fun member => absurd member absent, fun same => absurd same other⟩

/-- The bytes of a text have a line break exactly when the text has one. -/
theorem mem_bytesOf {text : String} : 10 ∈ bytesOf text ↔ ¬ OneLine text := by
  rw [OneLine, not_not, bytesOf, List.mem_flatMap]
  simp only [mem_utf8EncodeChar, exists_eq_right]

/-- A text on one line is sent as a line. -/
theorem OneLine.isLine {text : String} (one : OneLine text) : IsLine (bytesOf (text ++ "\n")) := by
  refine ⟨bytesOf text, ?_, fun member => mem_bytesOf.mp member one⟩
  rw [bytesOf, String.toList_append, List.flatMap_append]
  rfl

/-! ## Reading bytes -/

/-- A number other than that of the line break is no line break. -/
theorem charOfNat_ne {code : Nat} (other : code ≠ 10) : Char.ofNat code ≠ '\n' := by
  unfold Char.ofNat
  by_cases valid : code.isValidChar
  · rw [dif_pos valid]
    intro same
    exact other (congrArg Char.toNat same)
  · rw [dif_neg valid]
    decide

namespace Unfinished

/-- An unfinished character that comes to no line break: the next byte is none of those that stand
alone, and what is read is not all zero, unless another byte must follow the next. -/
structure Wide (unfinished : Unfinished) : Prop where
  /-- The next byte is none that stands alone. -/
  least : 0x80 ≤ unfinished.least
  /-- What is read, or will be with the next byte, is not all zero. -/
  filled : 1 ≤ unfinished.value ∨ (0x80 < unfinished.least ∧ 0 < unfinished.later)

/-- What a byte begins is so. -/
theorem wide_begin? {byte : UInt8} {begun : Unfinished} (begins : begin? byte = some begun) :
    begun.Wide := by
  simp only [begin?, Bool.and_eq_true, decide_eq_true_eq, beq_iff_eq] at begins
  split_ifs at begins
  all_goals
    rw [Option.some.injEq] at begins
    rw [← begins]
    constructor
    all_goals simp only
    all_goals omega

/-- A character that is finished by the next byte is no line break. -/
theorem Wide.finished {unfinished : Unfinished} (wide : unfinished.Wide)
    (last : unfinished.later = 0) (byte : UInt8) :
    Char.ofNat (unfinished.value * 64 + (byte.toNat - 0x80)) ≠ '\n' := by
  refine charOfNat_ne ?_
  rcases wide.filled with filled | ⟨_, follows⟩
  · omega
  · omega

/-- A character that goes on with the next byte is so. -/
theorem Wide.next {unfinished : Unfinished} (wide : unfinished.Wide) {byte : UInt8}
    (goesOn : unfinished.least ≤ byte.toNat) (later : Nat) :
    Wide ⟨unfinished.value * 64 + (byte.toNat - 0x80), later, 0x80, 0xbf⟩ := by
  have least := wide.least
  refine ⟨Nat.le_refl _, .inl ?_⟩
  change 1 ≤ unfinished.value * 64 + (byte.toNat - 0x80)
  rcases wide.filled with filled | ⟨narrower, _⟩
  · omega
  · omega

end Unfinished

/-- What stands for bytes that are no character is no line break. -/
theorem replacement_ne : replacement ≠ '\n' := by decide

/-- What one byte adds to the characters that are read, and what is unfinished after it. -/
structure Reads (pending : Option Unfinished) (byte : UInt8) (read : List Char)
    (next : Option Unfinished) : Prop where
  /-- The other bytes are read after it. -/
  step : ∀ rest, decodeAfter pending (byte :: rest) = read ++ decodeAfter next rest
  /-- What is unfinished comes to no line break. -/
  wide : ∀ unfinished, next = some unfinished → unfinished.Wide
  /-- Only the line break is read as one. -/
  other : byte ≠ 10 → '\n' ∉ read
  /-- The line break is read as itself, after what stands for an unfinished character. -/
  lineBreak : byte = 10 → next = none ∧ read = decodeAfter pending [] ++ ['\n']

/-- Where no character is unfinished, none comes to a line break. -/
theorem none_wide :
    ∀ unfinished, (none : Option Unfinished) = some unfinished → unfinished.Wide := by
  intro unfinished same
  cases same

/-- A byte is read where nothing is unfinished. -/
theorem reads_fresh (byte : UInt8) : ∃ read next, Reads none byte read next := by
  by_cases alone : byte.toNat < 0x80
  · refine ⟨[Char.ofNat byte.toNat], none, fun rest => ?_, none_wide, fun other => ?_, ?_⟩
    · rw [decodeAfter, if_pos alone]
      rfl
    · have unlike : Char.ofNat byte.toNat ≠ '\n' :=
        charOfNat_ne fun same => other (UInt8.toNat_inj.mp same)
      simpa using unlike.symm
    · rintro rfl
      exact ⟨rfl, rfl⟩
  · have many : byte ≠ 10 := by
      rintro rfl
      exact alone (by decide)
    cases begins : Unfinished.begin? byte with
    | some begun =>
      refine ⟨[], some begun, fun rest => ?_, ?_, fun _ => List.not_mem_nil,
        fun same => absurd same many⟩
      · simp only [decodeAfter, if_neg alone, begins, List.nil_append]
      · rintro unfinished ⟨⟩
        exact Unfinished.wide_begin? begins
    | none =>
      refine ⟨[replacement], none, fun rest => ?_, none_wide, fun _ => ?_,
        fun same => absurd same many⟩
      · simp only [decodeAfter, if_neg alone, begins, List.singleton_append]
      · simpa using replacement_ne.symm

section Pending

variable {unfinished : Unfinished} {byte : UInt8}

/-- A byte that an unfinished character does not go on with is read as after what stands for it. -/
theorem decodeAfter_broken
    (broken : ¬ (unfinished.least ≤ byte.toNat && byte.toNat ≤ unfinished.greatest) = true)
    (rest : List UInt8) : decodeAfter (some unfinished) (byte :: rest) =
      replacement :: decodeAfter none (byte :: rest) := by
  by_cases alone : byte.toNat < 0x80
  · simp only [decodeAfter, if_neg broken, if_pos alone]
  · cases begins : Unfinished.begin? byte with
    | some begun => simp only [decodeAfter, if_neg broken, if_neg alone, begins]
    | none => simp only [decodeAfter, if_neg broken, if_neg alone, begins]

/-- A byte is read after a character that does not go on with it. -/
theorem reads_broken
    (broken : ¬ (unfinished.least ≤ byte.toNat && byte.toNat ≤ unfinished.greatest) = true) :
    ∃ read next, Reads (some unfinished) byte read next := by
  obtain ⟨read, next, reads⟩ := reads_fresh byte
  refine ⟨replacement :: read, next, fun rest => ?_, reads.wide, fun other => ?_, fun same => ?_⟩
  · rw [decodeAfter_broken broken, reads.step]
    rfl
  · rw [List.mem_cons, not_or]
    exact ⟨replacement_ne.symm, reads.other other⟩
  · obtain ⟨closed, itself⟩ := reads.lineBreak same
    rw [itself]
    exact ⟨closed, rfl⟩

/-- A byte is read after a character that goes on with it. -/
theorem reads_further (wide : unfinished.Wide)
    (goesOn : (unfinished.least ≤ byte.toNat && byte.toNat ≤ unfinished.greatest) = true) :
    ∃ read next, Reads (some unfinished) byte read next := by
  have least : unfinished.least ≤ byte.toNat := by simp_all
  have many : byte ≠ 10 := by
    rintro rfl
    exact absurd (Nat.le_trans wide.least least) (by decide)
  cases later : unfinished.later with
  | zero =>
    refine ⟨[Char.ofNat (unfinished.value * 64 + (byte.toNat - 0x80))], none, fun rest => ?_,
      none_wide, fun _ => ?_, fun same => absurd same many⟩
    · simp only [decodeAfter, if_pos goesOn, later, List.singleton_append]
    · simpa using (wide.finished later byte).symm
  | succ more =>
    refine ⟨[], some ⟨unfinished.value * 64 + (byte.toNat - 0x80), more, 0x80, 0xbf⟩,
      fun rest => ?_, ?_, fun _ => List.not_mem_nil, fun same => absurd same many⟩
    · simp only [decodeAfter, if_pos goesOn, later, List.nil_append]
    · intro following same
      rw [← Option.some.inj same]
      exact wide.next least more

end Pending

/-- A byte is read after what is unfinished, or after nothing. -/
theorem reads (pending : Option Unfinished)
    (wide : ∀ unfinished, pending = some unfinished → unfinished.Wide) (byte : UInt8) :
    ∃ read next, Reads pending byte read next := by
  cases pending with
  | none => exact reads_fresh byte
  | some unfinished =>
    by_cases goesOn : (unfinished.least ≤ byte.toNat && byte.toNat ≤ unfinished.greatest) = true
    · exact reads_further (wide unfinished rfl) goesOn
    · exact reads_broken goesOn

/-- Bytes without a line break are read as characters without one. -/
theorem not_mem_decodeAfter {pending : Option Unfinished}
    (wide : ∀ unfinished, pending = some unfinished → unfinished.Wide) {bytes : List UInt8}
    (absent : 10 ∉ bytes) : '\n' ∉ decodeAfter pending bytes := by
  induction bytes generalizing pending with
  | nil =>
    cases pending with
    | none => exact List.not_mem_nil
    | some unfinished => simpa [decodeAfter] using replacement_ne.symm
  | cons byte rest ih =>
    obtain ⟨read, next, reads⟩ := reads pending wide byte
    have other : byte ≠ 10 := fun same => absent (same ▸ List.mem_cons_self)
    rw [reads.step, List.mem_append, not_or]
    exact ⟨reads.other other, ih reads.wide fun member => absent (List.mem_cons_of_mem _ member)⟩

/-- A line break at the end of bytes is read as itself, whatever is unfinished before it. -/
theorem decodeAfter_concat {pending : Option Unfinished}
    (wide : ∀ unfinished, pending = some unfinished → unfinished.Wide) (bytes : List UInt8) :
    decodeAfter pending (bytes ++ [10]) = decodeAfter pending bytes ++ ['\n'] := by
  induction bytes generalizing pending with
  | nil =>
    obtain ⟨read, next, reads⟩ := reads pending wide 10
    obtain ⟨rfl, rfl⟩ := reads.lineBreak rfl
    rw [List.nil_append, reads.step]
    exact List.append_nil _
  | cons byte rest ih =>
    obtain ⟨read, next, reads⟩ := reads pending wide byte
    rw [List.cons_append, reads.step, reads.step, ih reads.wide, List.append_assoc]

end Switchboard.Text
