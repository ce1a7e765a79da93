import Mathlib.Data.List.Basic
import Switchboard.Number.Based
import Switchboard.Record.Json
/-!
# JSON tells what it was written from

Whatever follows a text in JSON, the text can be told from it: it goes up to the first quotation
mark that is not escaped (`Json.text_apart`). Numbers and truth values go up to the sign that ends
them. What is written so that it can be told from what follows (`Json.Legible`) can be told in
arrays and objects, too, because no value begins like the end of one (`Json.Legible.bracketed`).
-/
namespace Switchboard.Json

/-! ## Texts -/

/-- The characters that a backslash and a letter stand for. -/
def codes : List (Char × Char) :=
  [('"', '"'), ('\\', '\\'), ('b', '\x08'), ('f', '\x0c'), ('n', '\n'), ('r', '\r'), ('t', '\t')]

/-- The character that an escaped text starts with, and what comes after it. -/
def unescape? : List Char → Option (Char × List Char)
  | '\\' :: 'u' :: '0' :: '0' :: high :: low :: rest => do
    let sixteens ← Number.hexValue? high
    let ones ← Number.hexValue? low
    some (Char.ofNat (16 * sixteens + ones), rest)
  | '\\' :: letter :: rest => (codes.lookup letter).map (·, rest)
  | first :: rest => if first = '\\' ∨ first = '"' then none else some (first, rest)
  | [] => none

/-- The digits of a control character give its number. -/
theorem hexDigit_value {code : Nat} (control : code < 0x20) :
    Number.hexValue? (hexDigit (code / 16)) = some (code / 16) ∧
      Number.hexValue? (hexDigit (code % 16)) = some (code % 16) := by
  have all : ∀ code < 0x20, Number.hexValue? (hexDigit (code / 16)) = some (code / 16) ∧
      Number.hexValue? (hexDigit (code % 16)) = some (code % 16) := by decide
  exact all code control

/-- An escaped character is read back. -/
theorem unescape?_escape (character : Char) (rest : List Char) :
    unescape? (escape character ++ rest) = some (character, rest) := by
  unfold escape
  split_ifs with quote backslash backspace feed line carriage tab control
  · rw [quote]
    rfl
  · rw [backslash]
    rfl
  · rw [backspace]
    rfl
  · rw [feed]
    rfl
  · rw [line]
    rfl
  · rw [carriage]
    rfl
  · rw [tab]
    rfl
  · obtain ⟨high, low⟩ := hexDigit_value control
    have parts : 16 * (character.toNat / 16) + character.toNat % 16 = character.toNat :=
      Nat.div_add_mod character.toNat 16
    simp only [List.cons_append, List.nil_append, unescape?, high, low, Option.bind_eq_bind,
      Option.bind_some, parts, Char.ofNat_toNat]
  · simp [unescape?, quote, backslash]

/-- What an escaped text with its closing quotation mark was made from, and what follows it. -/
theorem escaped_apart {first second rest rest' : List Char}
    (same : first.flatMap escape ++ '"' :: rest = second.flatMap escape ++ '"' :: rest') :
    first = second ∧ rest = rest' := by
  have closed : ∀ later, unescape? ('"' :: later) = none := fun _ => rfl
  induction first generalizing second with
  | nil =>
    cases second with
    | nil => exact ⟨rfl, List.tail_eq_of_cons_eq same⟩
    | cons character second =>
      have read := congrArg unescape? same
      rw [List.flatMap_nil, List.nil_append, closed, List.flatMap_cons, List.append_assoc,
        unescape?_escape] at read
      cases read
  | cons character first ih =>
    have read := congrArg unescape? same
    rw [List.flatMap_cons, List.append_assoc, unescape?_escape] at read
    cases second with
    | nil =>
      rw [List.flatMap_nil, List.nil_append, closed] at read
      cases read
    | cons other second =>
      rw [List.flatMap_cons, List.append_assoc, unescape?_escape, Option.some.injEq,
        Prod.mk.injEq] at read
      obtain ⟨tails, follows⟩ := ih read.2
      exact ⟨congrArg₂ List.cons read.1 tails, follows⟩

/-- The characters of a text in JSON. -/
theorem toList_text (value : String) :
    (text value).toList = '"' :: (value.toList.flatMap escape ++ ['"']) := by
  rw [text, String.toList_ofList]
  rfl

/-- A text in JSON can be told from whatever follows it. -/
theorem text_apart {first second : String} {rest rest' : List Char}
    (same : (text first).toList ++ rest = (text second).toList ++ rest') :
    first = second ∧ rest = rest' := by
  rw [toList_text, toList_text, List.cons_append, List.cons_append, List.append_assoc,
    List.append_assoc] at same
  obtain ⟨characters, follows⟩ := escaped_apart (List.tail_eq_of_cons_eq same)
  exact ⟨String.toList_inj.mp characters, follows⟩

/-! ## Values that can be told from what follows -/

/-- The signs that end a value. -/
def closers : List Char := [',', ']', '\x7d']

/-- Nothing follows a value, or one of the signs that end it. -/
def Ends (rest : List Char) : Prop := ∀ next ∈ rest.head?, next ∈ closers

/-- A sign that ends a value is its end, whatever comes after it. -/
theorem ends_cons {closing : Char} (closes : closing ∈ closers) (rest : List Char) :
    Ends (closing :: rest) := by
  rintro next ⟨⟩
  exact closes

/-- Of values of a kind, each is told from what is written, if nothing or the end of a value
follows, and none is written like the end of one. -/
structure Legible {α : Type} (kind : α → Prop) (write : α → List Char) : Prop where
  /-- What is written does not begin like the end of a value. -/
  begins : ∀ value, kind value → ∀ rest, ¬ Ends (write value ++ rest)
  /-- What is written tells the value, and where it ends. -/
  apart : ∀ first second rest rest', kind first → kind second → Ends rest → Ends rest' →
    write first ++ rest = write second ++ rest' → first = second ∧ rest = rest'

/-- Words without a sign that ends a value go up to that sign. -/
theorem word_apart {first second rest rest' : List Char}
    (solid : ∀ character ∈ first, character ∉ closers)
    (solid' : ∀ character ∈ second, character ∉ closers) (ends : Ends rest) (ends' : Ends rest')
    (same : first ++ rest = second ++ rest') : first = second ∧ rest = rest' := by
  induction first generalizing second with
  | nil =>
    cases second with
    | nil => exact ⟨rfl, same⟩
    | cons character second =>
      rw [List.nil_append] at same
      rw [same] at ends
      exact absurd (ends character rfl) (solid' character List.mem_cons_self)
  | cons character first ih =>
    cases second with
    | nil =>
      rw [List.nil_append] at same
      rw [← same] at ends'
      exact absurd (ends' character rfl) (solid character List.mem_cons_self)
    | cons other second =>
      rw [List.cons_append, List.cons_append, List.cons.injEq] at same
      obtain ⟨tails, follows⟩ := ih
        (fun later member => solid later (List.mem_cons_of_mem _ member))
        (fun later member => solid' later (List.mem_cons_of_mem _ member)) same.2
      exact ⟨congrArg₂ List.cons same.1 tails, follows⟩

namespace Legible

variable {α β : Type} {kind : α → Prop} {write : α → List Char}

/-- Values that are written as different words can be told. -/
theorem words (filled : ∀ value, kind value → write value ≠ [])
    (solid : ∀ value, kind value → ∀ character ∈ write value, character ∉ closers)
    (injective : ∀ first second, kind first → kind second → write first = write second →
      first = second) : Legible kind write where
  begins value of rest ends := by
    cases written : write value with
    | nil => exact filled value of written
    | cons character word =>
      rw [written, List.cons_append] at ends
      refine solid value of character ?_ (ends character rfl)
      rw [written]
      exact List.mem_cons_self
  apart first second rest rest' of of' ends ends' same := by
    obtain ⟨word, follows⟩ := word_apart (solid first of) (solid second of') ends ends' same
    exact ⟨injective first second of of' word, follows⟩

/-- What stands for values that can be told can be told. -/
theorem image (legible : Legible kind write) {kind' : β → Prop} {write' : β → List Char}
    (make : α → β) (made : ∀ value, kind' value → ∃ origin, kind origin ∧ make origin = value ∧
      write' value = write origin) : Legible kind' write' where
  begins value of rest ends := by
    obtain ⟨origin, of, _, written⟩ := made value of
    rw [written] at ends
    exact legible.begins origin of rest ends
  apart first second rest rest' of of' ends ends' same := by
    obtain ⟨origin, stands, rfl, written⟩ := made first of
    obtain ⟨origin', stands', rfl, written'⟩ := made second of'
    rw [written, written'] at same
    obtain ⟨origins, follows⟩ := legible.apart _ _ _ _ stands stands' ends ends' same
    exact ⟨congrArg make origins, follows⟩

/-- Values one after the other, each after a comma. -/
def after (write : α → List Char) (values : List α) : List Char :=
  values.flatMap fun value => ',' :: write value

/-- The first of values after commas, and what follows it. -/
theorem after_cons (write : α → List Char) (value : α) (values : List α) (rest : List Char) :
    after write (value :: values) ++ rest =
      ',' :: (write value ++ (after write values ++ rest)) := by
  rw [after, List.flatMap_cons, ← after, List.append_assoc]
  rfl

/-- Values between commas are the first one and the others after commas. -/
theorem intercalate_eq (write : α → List Char) (value : α) (values : List α) :
    [','].intercalate ((value :: values).map write) = write value ++ after write values := by
  induction values generalizing value with
  | nil =>
    rw [List.map_singleton, List.intercalate_singleton]
    exact (List.append_nil _).symm
  | cons next values ih =>
    have later := after_cons write next values []
    rw [List.append_nil, List.append_nil] at later
    rw [List.map_cons, List.map_cons, List.intercalate_cons_cons, ← List.map_cons, ih, later,
      List.append_assoc]
    rfl

/-- The end of a value follows before a further value, and at the end. -/
theorem ends_after (write : α → List Char) (values : List α) {closing : Char}
    (closes : closing ∈ closers) (rest : List Char) :
    Ends (after write values ++ closing :: rest) := by
  cases values with
  | nil => exact ends_cons closes rest
  | cons value values =>
    rw [after_cons]
    exact ends_cons (by decide) _

/-- Values after commas can be told up to a sign that closes them. -/
theorem after_apart (legible : Legible kind write) {closing : Char} (closes : closing ∈ closers)
    (other : closing ≠ ',') {first second : List α} {rest rest' : List Char}
    (of : ∀ value ∈ first, kind value) (of' : ∀ value ∈ second, kind value)
    (same : after write first ++ closing :: rest = after write second ++ closing :: rest') :
    first = second ∧ rest = rest' := by
  induction first generalizing second with
  | nil =>
    cases second with
    | nil => exact ⟨rfl, List.tail_eq_of_cons_eq same⟩
    | cons value second => exact absurd (List.head_eq_of_cons_eq same) other
  | cons value first ih =>
    cases second with
    | nil => exact absurd (List.head_eq_of_cons_eq same).symm other
    | cons value' second =>
      obtain ⟨here, later⟩ := List.forall_mem_cons.mp of
      obtain ⟨here', later'⟩ := List.forall_mem_cons.mp of'
      rw [after_cons, after_cons] at same
      obtain ⟨values, tails⟩ := legible.apart _ _ _ _ here here'
        (ends_after write first closes rest) (ends_after write second closes rest')
        (List.tail_eq_of_cons_eq same)
      obtain ⟨others, follows⟩ := ih later later' tails
      exact ⟨congrArg₂ List.cons values others, follows⟩

/-- Values between commas in brackets can be told. -/
theorem bracketed (legible : Legible kind write) {opening closing : Char}
    (opens : opening ∉ closers) (closes : closing ∈ closers) (other : closing ≠ ',') :
    Legible (fun values : List α => ∀ value ∈ values, kind value)
      (fun values => opening :: ([','].intercalate (values.map write) ++ [closing])) where
  begins values _ rest ends := opens (ends opening rfl)
  apart first second rest rest' of of' _ _ same := by
    rw [List.cons_append, List.cons_append, List.cons.injEq, List.append_assoc, List.append_assoc]
      at same
    have inner : [','].intercalate (first.map write) ++ closing :: rest =
        [','].intercalate (second.map write) ++ closing :: rest' := same.2
    cases first with
    | nil =>
      cases second with
      | nil => exact ⟨rfl, List.tail_eq_of_cons_eq inner⟩
      | cons value second =>
        -- A value would begin like the end of the brackets.
        have begins := legible.begins value (of' value List.mem_cons_self)
          (after write second ++ closing :: rest')
        rw [← List.append_assoc, ← intercalate_eq, ← inner] at begins
        exact absurd (ends_cons closes rest) begins
    | cons value first =>
      obtain ⟨here, later⟩ := List.forall_mem_cons.mp of
      cases second with
      | nil =>
        have begins := legible.begins value here (after write first ++ closing :: rest)
        rw [← List.append_assoc, ← intercalate_eq, inner] at begins
        exact absurd (ends_cons closes rest') begins
      | cons value' second =>
        obtain ⟨here', later'⟩ := List.forall_mem_cons.mp of'
        rw [intercalate_eq, intercalate_eq, List.append_assoc, List.append_assoc] at inner
        obtain ⟨values, tails⟩ := legible.apart _ _ _ _ here here'
          (ends_after write first closes rest) (ends_after write second closes rest') inner
        obtain ⟨others, follows⟩ := after_apart legible closes other later later' tails
        exact ⟨congrArg₂ List.cons values others, follows⟩

end Legible

/-! ## Numbers and texts -/

/-- The characters of a whole number. -/
def wholeDigits : Int → List Char
  | .ofNat number => Nat.toDigits 10 number
  | .negSucc number => '-' :: Nat.toDigits 10 (number + 1)

/-- A whole number is written with these characters. -/
theorem toList_toString (value : Int) : (toString value).toList = wholeDigits value := by
  rw [Int.toString_eq_repr]
  cases value with
  | ofNat number =>
    change number.repr.toList = _
    rw [Nat.repr_eq_ofList_toDigits, String.toList_ofList]
    rfl
  | negSucc number =>
    change ("-" ++ (number + 1).repr).toList = _
    rw [String.toList_append, Nat.repr_eq_ofList_toDigits, String.toList_ofList,
      String.toList_ofList]
    rfl

/-- The characters of a number without a sign are digits. -/
theorem digit_of_mem {number : Nat} {character : Char}
    (member : character ∈ Nat.toDigits 10 number) : character.isDigit = true :=
  Nat.isDigit_of_mem_toDigits (by decide) (by decide) member

/-- Numbers without a sign that are written alike are the same. -/
theorem digits_injective {first second : Nat}
    (same : Nat.toDigits 10 first = Nat.toDigits 10 second) : first = second := by
  have values := congrArg (Nat.ofDigitChars 10 · 0) same
  simpa only [Nat.ofDigitChars_ten_toDigits] using values

/-- Whole numbers that are written alike are the same. -/
theorem wholeDigits_injective {first second : Int}
    (same : wholeDigits first = wholeDigits second) : first = second := by
  -- A sign is no digit.
  have unsigned : ∀ {number : Nat} {digits : List Char},
      Nat.toDigits 10 number ≠ '-' :: digits := by
    intro number digits written
    have member : '-' ∈ Nat.toDigits 10 number := written ▸ List.mem_cons_self
    have digit := digit_of_mem member
    cases digit
  cases first with
  | ofNat number =>
    cases second with
    | ofNat number' => exact congrArg Int.ofNat (digits_injective same)
    | negSucc number' => exact absurd same unsigned
  | negSucc number =>
    cases second with
    | ofNat number' => exact absurd same.symm unsigned
    | negSucc number' =>
      exact congrArg Int.negSucc (Nat.succ.inj (digits_injective (List.tail_eq_of_cons_eq same)))

/-- Whole numbers are told by their digits. -/
theorem whole_legible :
    Legible (fun _ : Int => True) fun value => (toString value).toList := by
  have solid : ∀ {number : Nat}, ∀ character ∈ Nat.toDigits 10 number, character ∉ closers := by
    intro number character member closer
    have digit := digit_of_mem member
    simp only [closers, List.mem_cons, List.not_mem_nil, or_false] at closer
    rcases closer with rfl | rfl | rfl <;> cases digit
  simp only [toList_toString]
  refine Legible.words (fun value _ => ?_) (fun value _ => ?_)
    (fun first second _ _ same => wholeDigits_injective same)
  · cases value with
    | ofNat number => exact Nat.toDigits_ne_nil
    | negSucc number => exact List.cons_ne_nil _ _
  · cases value with
    | ofNat number => exact solid
    | negSucc number => exact List.forall_mem_cons.mpr ⟨by decide, solid⟩

/-- Texts are told by their quotation marks. -/
theorem text_legible : Legible (fun _ : String => True) fun value => (text value).toList where
  begins value _ rest ends := by
    rw [toList_text] at ends
    have closer := ends '"' rfl
    revert closer
    decide
  apart _ _ _ _ _ _ _ _ same := text_apart same

/-! ## Arrays and objects -/

/-- The characters of an array. -/
theorem toList_list (elements : List String) : (list elements).toList =
    '[' :: ([','].intercalate (elements.map String.toList) ++ [']']) := by
  rw [list, String.toList_append, String.toList_append, String.toList_intercalate]
  rfl

/-- The characters of an object. -/
theorem toList_object (members : List String) : (object members).toList =
    '\x7b' :: ([','].intercalate (members.map String.toList) ++ ['\x7d']) := by
  rw [object, String.toList_append, String.toList_append, String.toList_intercalate]
  rfl

/-- The characters of a member of an object, and what follows it. -/
theorem toList_member (name value : String) (rest : List Char) :
    (member name value).toList ++ rest =
      (text name).toList ++ (':' :: (value.toList ++ rest)) := by
  rw [member, String.toList_append, String.toList_append, List.append_assoc, List.append_assoc]
  rfl

end Switchboard.Json
