import Switchboard.Proofs.Template.Captures
/-!
# Captures found from the end

The captures of a value can be found without going back. A literal between two later slots stands at
the last place that leaves room for what comes after it, and this place can be found from the end of
the value whatever stands before it: a text that is cut before an earlier place of the literal is
also cut before this one, with more for the slot in between (`Fits.extend`). Only then is the
literal after the first slot put at the first place where it can stand. This finds what the search
finds (`ValueTemplate.capture_eq_captureFromEnd`).
-/
namespace Switchboard

/-- A slot and the literal text after it. -/
structure Stretch where
  /-- The name of the slot. -/
  name : String
  /-- The text up to the next slot or to the end. -/
  literal : List Char
  deriving DecidableEq, Repr

namespace Segment

/-- The literal text before the first slot, and the slots, each with the literal text after
it. -/
def stretches : List Segment → List Char × List Stretch
  | [] => ([], [])
  | literal part :: rest =>
    let (head, slots) := stretches rest
    (part.toList ++ head, slots)
  | slot name :: rest =>
    let (head, slots) := stretches rest
    ([], ⟨name, head⟩ :: slots)

end Segment

namespace Stretch

/-- What is after a literal at the beginning of a text. -/
def after? (literal text : List Char) : Option (List Char) :=
  if literal.isPrefixOf text then some (text.drop literal.length) else none

/-- What is before and what is after a literal at the first place of a text where it stands. What
is before it comes in reverse order, after it the characters that are `passed` already. -/
def split? (literal passed : List Char) : List Char → Option (List Char × List Char)
  | [] => (after? literal []).map (passed, ·)
  | character :: rest => match after? literal (character :: rest) with
    | some after => some (passed, after)
    | none => split? literal (character :: passed) rest

/-- What slots capture of a text, before what is `captured` after it. The slots and the text are
in reverse order, and the literal after the last slot is no part of the text. -/
def capture? :
    List Stretch → List Char → List (String × String) → Option (List (String × String))
  | [], text, captured => if text.isEmpty then some captured else none
  | [only], text, captured => some ((only.name, String.ofList text.reverse) :: captured)
  | [second, first], text, captured => do
    let (before, after) ← split? first.literal [] text.reverse
    some ((first.name, String.ofList before.reverse) :: (second.name, String.ofList after) ::
      captured)
  | last :: earlier :: more, text, captured => do
    let (found, rest) ← split? earlier.literal.reverse [] text
    capture? (earlier :: more) rest ((last.name, String.ofList found) :: captured)

end Stretch

namespace ValueTemplate

/-- What the slots of a template capture of a value, in template order, found from its end. -/
def captureFromEnd (template : ValueTemplate) (value : String) :
    Option (List (String × String)) := do
  let (head, slots) := Segment.stretches template.segments
  let body ← Stretch.after? head value.toList
  let backwards := slots.reverse
  let tail := (backwards.head?.map Stretch.literal).getD []
  let text ← Stretch.after? tail.reverse body.reverse
  Stretch.capture? backwards text []

end ValueTemplate

/-! ## Ways to cut a value, slot by slot -/

namespace Stretch

/-- Captures of slots and the literals after them make up a text. -/
inductive Spans : List Stretch → List (String × String) → List Char → Prop where
  | nil : Spans [] [] []
  | cons (slot : Stretch) (text : List Char) {slots : List Stretch}
      {captures : List (String × String)} {rest : List Char} (later : Spans slots captures rest) :
      Spans (slot :: slots) ((slot.name, String.ofList text) :: captures)
        (text ++ slot.literal ++ rest)

/-- Segments are filled exactly if what comes after the first literal is made up of slots, each with
the literal after it. -/
theorem fills_iff {segments : List Segment} {captures : List (String × String)}
    {value : List Char} : Segment.Fills segments captures value ↔
      ∃ body, value = (Segment.stretches segments).1 ++ body ∧
        Spans (Segment.stretches segments).2 captures body := by
  induction segments generalizing captures value with
  | nil =>
    constructor
    · intro fills
      cases fills
      exact ⟨[], rfl, .nil⟩
    · rintro ⟨body, rfl, spans⟩
      cases spans
      exact .nil
  | cons segment rest ih =>
    cases segment with
    | literal text =>
      constructor
      · intro fills
        cases fills with
        | literal _ later =>
          obtain ⟨body, rfl, spans⟩ := ih.mp later
          exact ⟨body, (List.append_assoc _ _ _).symm, spans⟩
      · rintro ⟨body, rfl, spans⟩
        change Segment.Fills _ _ ((text.toList ++ (Segment.stretches rest).1) ++ body)
        rw [List.append_assoc]
        exact .literal text (ih.mpr ⟨body, rfl, spans⟩)
    | slot name =>
      constructor
      · intro fills
        cases fills with
        | slot _ text later =>
          obtain ⟨body, rfl, spans⟩ := ih.mp later
          have whole := Spans.cons ⟨name, (Segment.stretches rest).1⟩ text.toList spans
          rw [String.ofList_toList, List.append_assoc] at whole
          exact ⟨_, rfl, whole⟩
      · rintro ⟨body, rfl, spans⟩
        cases spans with
        | cons _ text later =>
          have whole := Segment.Fills.slot name (String.ofList text) (ih.mpr ⟨_, rfl, later⟩)
          rw [String.toList_ofList, ← List.append_assoc] at whole
          exact whole

/-- The last slot takes its capture and its literal from the end. -/
theorem spans_concat {slots : List Stretch} {last : Stretch} {captures : List (String × String)}
    {body : List Char} : Spans (slots ++ [last]) captures body ↔ ∃ others text before,
      captures = others ++ [(last.name, String.ofList text)] ∧
        body = before ++ text ++ last.literal ∧ Spans slots others before := by
  induction slots generalizing captures body with
  | nil =>
    constructor
    · intro spans
      cases spans with
      | cons _ text later =>
        cases later
        exact ⟨[], text, [], rfl, List.append_nil _, .nil⟩
    · rintro ⟨others, text, before, rfl, rfl, spans⟩
      cases spans
      have whole := Spans.cons last text .nil
      rw [List.append_nil] at whole
      exact whole
  | cons slot slots ih =>
    constructor
    · intro spans
      cases spans with
      | cons _ first later =>
        obtain ⟨others, text, before, rfl, rfl, spans⟩ := ih.mp later
        refine ⟨_, text, _, rfl, ?_, .cons slot first spans⟩
        simp only [List.append_assoc]
    · rintro ⟨others, text, before, rfl, rfl, spans⟩
      cases spans with
      | cons _ first later =>
        have whole := Spans.cons slot first (ih.mpr ⟨_, text, _, rfl, rfl, later⟩)
        simp only [List.append_assoc] at whole ⊢
        exact whole

/-- The literal after the last slot, the slots being in reverse order. -/
def ending (backwards : List Stretch) : List Char :=
  (backwards.head?.map Stretch.literal).getD []

/-- Captures of slots, which are in reverse order, and the literals between them make up a text; the
literal after the last slot is no part of it. -/
def Fits (backwards : List Stretch) (captures : List (String × String)) (text : List Char) : Prop :=
  Spans backwards.reverse captures (text ++ ending backwards)

/-- What slots make up ends with the literal after the last of them. -/
theorem spans_iff_fits {backwards : List Stretch} {captures : List (String × String)}
    {body : List Char} : Spans backwards.reverse captures body ↔
      ∃ text, body = text ++ ending backwards ∧ Fits backwards captures text := by
  constructor
  · intro spans
    cases backwards with
    | nil => exact ⟨body, (List.append_nil _).symm, by rwa [Fits, ending, List.head?_nil,
        Option.map_none, Option.getD_none, List.append_nil]⟩
    | cons last earlier =>
      have split := spans
      rw [List.reverse_cons, spans_concat] at split
      obtain ⟨_, text, before, _, same, _⟩ := split
      refine ⟨before ++ text, same, ?_⟩
      rw [same] at spans
      exact spans
  · rintro ⟨text, rfl, fits⟩
    exact fits

/-- Without slots there is no text. -/
theorem fits_nil {captures : List (String × String)} {text : List Char} :
    Fits [] captures text ↔ captures = [] ∧ text = [] := by
  constructor
  · intro fits
    have none : Spans [] captures (text ++ []) := fits
    rw [List.append_nil] at none
    cases none
    exact ⟨rfl, rfl⟩
  · rintro ⟨rfl, rfl⟩
    exact .nil

/-- A single slot takes the whole text. -/
theorem fits_single {only : Stretch} {captures : List (String × String)} {text : List Char} :
    Fits [only] captures text ↔ captures = [(only.name, String.ofList text)] := by
  change Spans ([] ++ [only]) captures (text ++ only.literal) ↔ _
  rw [spans_concat]
  constructor
  · rintro ⟨others, found, before, rfl, same, spans⟩
    cases spans
    rw [List.nil_append, List.append_cancel_right_eq] at same
    rw [same]
    rfl
  · rintro rfl
    exact ⟨[], text, [], rfl, rfl, .nil⟩

/-- The last slot takes what comes after the literal before it. -/
theorem fits_more {last earlier : Stretch} {more : List Stretch}
    {captures : List (String × String)} {text : List Char} :
    Fits (last :: earlier :: more) captures text ↔ ∃ others found before,
      captures = others ++ [(last.name, String.ofList found)] ∧
        text = before ++ earlier.literal ++ found ∧ Fits (earlier :: more) others before := by
  have split : Fits (last :: earlier :: more) captures text ↔
      Spans ((earlier :: more).reverse ++ [last]) captures (text ++ last.literal) := by
    rw [Fits, List.reverse_cons]
    rfl
  rw [split, spans_concat]
  constructor
  · rintro ⟨others, found, whole, rfl, same, spans⟩
    rw [List.append_cancel_right_eq] at same
    obtain ⟨before, rfl, fits⟩ := spans_iff_fits.mp spans
    exact ⟨others, found, before, rfl, same, fits⟩
  · rintro ⟨others, found, before, rfl, rfl, fits⟩
    exact ⟨others, found, _, rfl, rfl, spans_iff_fits.mpr ⟨before, rfl, fits⟩⟩

end Stretch

/-! ## Captures that differ at the last slot -/

/-- What comes after the slot that decides does not matter. -/
theorem Longer.append {captures others : List (String × String)} (longer : Longer captures others)
    (rest rest' : List (String × String)) : Longer (captures ++ rest) (others ++ rest') := by
  induction longer with
  | here longer => exact .here longer _ _
  | next capture _ ih => exact .next capture ih

/-- What comes after the slot that decides does not matter. -/
theorem Precedes.append {captures others : List (String × String)}
    (precedes : Precedes captures others) (rest rest' : List (String × String)) :
    Precedes (captures ++ rest) (others ++ rest') := by
  cases precedes with
  | first shorter => exact .first shorter _ _
  | later capture longer => exact .later capture (longer.append _ _)

/-- The captures that agree up to the last slot, for which the first ones have more. -/
theorem Longer.last (front : List (String × String)) {capture other : String × String}
    (longer : other.2.length < capture.2.length) :
    Longer (front ++ [capture]) (front ++ [other]) := by
  induction front with
  | nil => exact .here longer [] []
  | cons first front ih => exact .next first ih

/-- Captures that have more at some slot still do if the others have less for the last slot. -/
theorem Longer.shorten {captures front : List (String × String)} {other shorter : String × String}
    (less : shorter.2.length ≤ other.2.length) (longer : Longer captures (front ++ [other])) :
    Longer captures (front ++ [shorter]) := by
  induction front generalizing captures with
  | nil =>
    cases longer with
    | here longer rest => exact .here (Nat.lt_of_le_of_lt less longer) rest []
    | next _ later => cases later
  | cons first front ih =>
    cases longer with
    | here longer rest => exact .here longer rest _
    | next _ later => exact .next first (ih later)

/-- Captures that come before others still do if the others have less for the last slot, which is
not the first. -/
theorem Precedes.shorten {captures front : List (String × String)} {other shorter : String × String}
    (further : front ≠ []) (less : shorter.2.length ≤ other.2.length)
    (precedes : Precedes captures (front ++ [other])) : Precedes captures (front ++ [shorter]) := by
  cases front with
  | nil => exact absurd rfl further
  | cons first front =>
    cases precedes with
    | first before rest => exact .first before rest _
    | later _ longer => exact .later first (longer.shorten less)

namespace Stretch

/-- Captures that fit a text and come before all others that do. -/
structure Best (backwards : List Stretch) (captures : List (String × String))
    (text : List Char) : Prop where
  /-- The captures fit the text. -/
  fits : Fits backwards captures text
  /-- They come before all others. -/
  least : ∀ others, Fits backwards others text → captures = others ∨ Precedes captures others

/-- If the text goes on, the last slot can take that too. -/
theorem Fits.extend {slot : Stretch} {more : List Stretch} {captures : List (String × String)}
    {text : List Char} (fits : Fits (slot :: more) captures text) :
    ∃ front found, captures = front ++ [(slot.name, String.ofList found)] ∧
      (more ≠ [] → front ≠ []) ∧ ∀ further : List Char,
        Fits (slot :: more) (front ++ [(slot.name, String.ofList (found ++ further))])
          (text ++ further) := by
  cases more with
  | nil =>
    rw [fits_single] at fits
    refine ⟨[], text, fits, fun never => absurd rfl never, fun further => ?_⟩
    rw [fits_single]
    rfl
  | cons earlier more =>
    obtain ⟨others, found, before, rfl, rfl, inner⟩ := fits_more.mp fits
    refine ⟨others, found, rfl, fun _ empty => ?_, fun further => ?_⟩
    · -- There is a slot before the last one, and it has a capture.
      rw [empty, Fits, List.reverse_cons, spans_concat] at inner
      obtain ⟨captures, _, _, none, _⟩ := inner
      exact absurd none.symm (List.concat_ne_nil _ _)
    · refine fits_more.mpr ⟨others, found ++ further, before, rfl, ?_, inner⟩
      simp only [List.append_assoc]

/-! ## What the program finds -/

/-- What is after a literal is what it is before. -/
theorem after?_eq_some_iff {literal text after : List Char} :
    after? literal text = some after ↔ text = literal ++ after := by
  unfold after?
  rw [Option.ite_none_right_eq_some, List.isPrefixOf_iff_prefix]
  constructor
  · rintro ⟨⟨rest, rfl⟩, same⟩
    rw [List.drop_left, Option.some.injEq] at same
    rw [same]
  · rintro rfl
    exact ⟨List.prefix_append _ _, by rw [List.drop_left]⟩

/-- The program finds the first place of a literal. -/
theorem split?_some {literal passed text before after : List Char}
    (found : split? literal passed text = some (before, after)) :
    ∃ front, before = front.reverse ++ passed ∧ text = front ++ literal ++ after ∧
      ∀ other rest, text = other ++ literal ++ rest → front.length ≤ other.length := by
  induction text generalizing passed with
  | nil =>
    obtain ⟨rest, read, same⟩ := Option.map_eq_some_iff.mp found
    cases same
    exact ⟨[], rfl, after?_eq_some_iff.mp read, fun _ _ _ => Nat.zero_le _⟩
  | cons character text ih =>
    unfold split? at found
    cases read : after? literal (character :: text) with
    | some ending =>
      rw [read] at found
      cases found
      exact ⟨[], rfl, after?_eq_some_iff.mp read, fun _ _ _ => Nat.zero_le _⟩
    | none =>
      rw [read] at found
      obtain ⟨front, rfl, rfl, first⟩ := ih found
      refine ⟨character :: front, ?_, rfl, fun other rest same => ?_⟩
      · simp
      · cases other with
        | nil =>
          have begins : after? literal _ = some rest := after?_eq_some_iff.mpr same
          rw [read] at begins
          cases begins
        | cons _ other => exact Nat.succ_le_succ (first other rest (List.cons.inj same).2)

/-- The program finds a literal that is there. -/
theorem split?_none {literal passed text : List Char} (found : split? literal passed text = none)
    (other rest : List Char) : text ≠ other ++ literal ++ rest := by
  induction text generalizing passed other with
  | nil =>
    intro same
    have nothing : literal = [] ∧ rest = [] := by
      have parts := (List.append_eq_nil_iff.mp same.symm)
      exact ⟨(List.append_eq_nil_iff.mp parts.1).2, parts.2⟩
    rw [split?, Option.map_eq_none_iff] at found
    rw [after?_eq_some_iff.mpr (show [] = literal ++ [] by rw [nothing.1]; rfl)] at found
    cases found
  | cons character text ih =>
    intro same
    unfold split? at found
    cases read : after? literal (character :: text) with
    | some ending =>
      rw [read] at found
      cases found
    | none =>
      rw [read] at found
      cases other with
      | nil =>
        have begins : after? literal _ = some rest := after?_eq_some_iff.mpr same
        rw [read] at begins
        cases begins
      | cons _ other => exact ih found other (List.cons.inj same).2

/-- A literal in a text that is read backwards. -/
theorem reverse_split {literal text front after : List Char} :
    text = front ++ literal.reverse ++ after ↔
      text.reverse = after.reverse ++ literal ++ front.reverse := by
  constructor
  · rintro rfl
    simp
  · intro same
    have back := congrArg List.reverse same
    simpa using back

/-- In a text that is read backwards, the program finds the last place of a literal. -/
theorem split?_last {literal text found rest : List Char}
    (parts : split? literal.reverse [] text = some (found, rest)) :
    text.reverse = rest.reverse ++ literal ++ found ∧
      ∀ other before, text.reverse = before ++ literal ++ other → found.length ≤ other.length := by
  obtain ⟨front, rfl, same, first⟩ := split?_some parts
  rw [List.append_nil]
  refine ⟨reverse_split.mp same, fun other before placed => ?_⟩
  have backwards : text = other.reverse ++ literal.reverse ++ before.reverse := by
    refine reverse_split.mpr ?_
    rw [List.reverse_reverse, List.reverse_reverse, placed]
  simpa using first _ _ backwards

/-- In a text that is read backwards, the program finds a literal that is there. -/
theorem split?_never {literal text : List Char} (parts : split? literal.reverse [] text = none)
    (before other : List Char) : text.reverse ≠ before ++ literal ++ other := by
  intro same
  refine split?_none parts other.reverse before.reverse (reverse_split.mpr ?_)
  rw [List.reverse_reverse, List.reverse_reverse, same]

/-- Of captures for the slots before the last, which fit a text up to a place of the literal before
the last slot, those that are best up to a later place of the literal come first. -/
theorem Best.least_of_prefix {slot : Stretch} {more : List Stretch}
    {captures others : List (String × String)} {before further : List Char} (several : more ≠ [])
    (best : Best (slot :: more) captures (before ++ further))
    (fits : Fits (slot :: more) others before) :
    (captures = others ∧ further = []) ∨ Precedes captures others := by
  obtain ⟨front, found, rfl, some, extended⟩ := fits.extend
  let shorter := (slot.name, String.ofList found)
  let longer := (slot.name, String.ofList (found ++ further))
  have lengths : longer.2.length = shorter.2.length + further.length := by
    simp [shorter, longer]
  rcases best.least _ (extended further) with rfl | precedes
  · by_cases nothing : further = []
    · rw [nothing, List.append_nil]
      exact .inl ⟨rfl, rfl⟩
    · have gain : shorter.2.length < longer.2.length := by
        have := List.length_pos_iff.mpr nothing
        omega
      cases front with
      | nil => exact absurd rfl (some several)
      | cons first front => exact .inr (.later first (Longer.last front gain))
  · have less : shorter.2.length ≤ longer.2.length := by omega
    exact .inr (precedes.shorten (some several) less)

/-- Where the last place of a literal is, the text before any place of it goes on to there. -/
theorem prefix_of_shortest {literal before found before' found' : List Char}
    (same : before ++ literal ++ found = before' ++ literal ++ found')
    (shortest : found.length ≤ found'.length) : ∃ further, before = before' ++ further := by
  have lengths := congrArg List.length same
  simp only [List.length_append] at lengths
  have whole : before <+: before ++ (literal ++ found) := List.prefix_append _ _
  have part : before' <+: before ++ (literal ++ found) := by
    rw [← List.append_assoc, same, List.append_assoc]
    exact List.prefix_append _ _
  obtain ⟨further, rfl⟩ := List.prefix_of_prefix_length_le part whole (by omega)
  exact ⟨further, rfl⟩

/-- Where slots fit a text, those before the last fit the text up to the last place of the literal
between. -/
theorem Fits.upTo_last {last earlier : Stretch} {more : List Stretch}
    {captures : List (String × String)} {before found : List Char}
    (fits : Fits (last :: earlier :: more) captures (before ++ earlier.literal ++ found))
    (shortest : ∀ other rest,
      before ++ earlier.literal ++ found = rest ++ earlier.literal ++ other →
        found.length ≤ other.length) : ∃ others, Fits (earlier :: more) others before := by
  obtain ⟨inner, other, front, _, same, inner_fits⟩ := fits_more.mp fits
  obtain ⟨further, rfl⟩ := prefix_of_shortest same (shortest other front same)
  obtain ⟨_, _, _, _, extended⟩ := inner_fits.extend
  exact ⟨_, extended further⟩

/-- A single slot is best filled with the whole text. -/
theorem best_single (only : Stretch) (text : List Char) :
    Best [only] [(only.name, String.ofList text)] text where
  fits := fits_single.mpr rfl
  least _ fits := .inl (fits_single.mp fits).symm

/-- Of two slots the first is best filled up to the first place of the literal between them. -/
theorem best_pair (second first : Stretch) {front after : List Char}
    (shortest : ∀ other rest,
      front ++ first.literal ++ after = other ++ first.literal ++ rest →
        front.length ≤ other.length) :
    Best [second, first] [(first.name, String.ofList front), (second.name, String.ofList after)]
      (front ++ first.literal ++ after) where
  fits := fits_more.mpr ⟨_, after, front, rfl, rfl, fits_single.mpr rfl⟩
  least others fits := by
    obtain ⟨inner, found, before, rfl, same, inner_fits⟩ := fits_more.mp fits
    rw [fits_single.mp inner_fits]
    rcases Nat.lt_or_eq_of_le (shortest before found same) with less | equal
    · refine .inr (.first ?_ _ _)
      simpa using less
    · rw [List.append_assoc, List.append_assoc] at same
      obtain ⟨rfl, rest⟩ := List.append_inj same equal
      rw [List.append_cancel_left_eq] at rest
      rw [rest]
      exact .inl rfl

/-- The last of several slots is best filled from the last place of the literal before it. -/
theorem best_more (last : Stretch) {earlier : Stretch} {more : List Stretch} (several : more ≠ [])
    {captures : List (String × String)} {before found : List Char}
    (best : Best (earlier :: more) captures before)
    (shortest : ∀ other rest,
      before ++ earlier.literal ++ found = rest ++ earlier.literal ++ other →
        found.length ≤ other.length) :
    Best (last :: earlier :: more) (captures ++ [(last.name, String.ofList found)])
      (before ++ earlier.literal ++ found) where
  fits := fits_more.mpr ⟨captures, found, before, rfl, rfl, best.fits⟩
  least others fits := by
    obtain ⟨inner, other, before', rfl, same, inner_fits⟩ := fits_more.mp fits
    obtain ⟨further, rfl⟩ := prefix_of_shortest same (shortest other before' same)
    rcases best.least_of_prefix several inner_fits with ⟨rfl, rfl⟩ | precedes
    · rw [List.append_nil, List.append_cancel_left_eq] at same
      rw [same]
      exact .inl rfl
    · exact .inr (precedes.append _ _)

/-- What the program finds for slots in reverse order and a text in reverse order is best, and it
finds something if anything fits. -/
theorem capture?_spec (backwards : List Stretch) (text : List Char)
    (captured : List (String × String)) :
    (∀ found, capture? backwards text captured = some found → ∃ captures,
        found = captures ++ captured ∧ Best backwards captures text.reverse) ∧
      (capture? backwards text captured = none → ∀ captures,
        ¬ Fits backwards captures text.reverse) := by
  fun_induction capture? backwards text captured with
  | case1 text captured empty =>
    rw [List.isEmpty_iff] at empty
    rw [empty]
    refine ⟨fun found same => ?_, fun never => by cases never⟩
    cases same
    exact ⟨[], rfl, fits_nil.mpr ⟨rfl, rfl⟩, fun others fits => .inl (fits_nil.mp fits).1.symm⟩
  | case2 text captured filled =>
    refine ⟨fun found never => (by cases never), fun _ captures fits => filled ?_⟩
    rw [List.isEmpty_iff]
    exact List.reverse_eq_nil_iff.mp (fits_nil.mp fits).2
  | case3 only text captured =>
    refine ⟨fun found same => ?_, fun never => by cases never⟩
    cases same
    exact ⟨_, rfl, best_single only text.reverse⟩
  | case4 second first text captured =>
    cases parts : split? first.literal [] text.reverse with
    | none =>
      refine ⟨fun found never => (by cases never), fun _ captures fits => ?_⟩
      obtain ⟨_, found, before, _, same, _⟩ := fits_more.mp fits
      exact split?_none parts before found same
    | some split =>
      obtain ⟨before, after⟩ := split
      obtain ⟨front, rfl, same, shortest⟩ := split?_some parts
      refine ⟨fun found found_same => ?_, fun never => by cases never⟩
      cases found_same
      rw [same] at shortest ⊢
      rw [List.append_nil, List.reverse_reverse]
      exact ⟨_, rfl, best_pair second first shortest⟩
  | case5 last earlier more text captured single ih =>
    have several : more ≠ [] := fun none => single none
    cases parts : split? earlier.literal.reverse [] text with
    | none =>
      refine ⟨fun found never => (by cases never), fun _ captures fits => ?_⟩
      obtain ⟨_, found, before, _, same, _⟩ := fits_more.mp fits
      exact split?_never parts before found same
    | some split =>
      obtain ⟨after, rest⟩ := split
      obtain ⟨whole, shortest⟩ := split?_last parts
      obtain ⟨finds, misses⟩ := ih after rest
      rw [whole] at shortest ⊢
      refine ⟨fun found captured_some => ?_, fun captured_none captures fits => ?_⟩
      · obtain ⟨captures, rfl, best⟩ := finds found captured_some
        refine ⟨captures ++ [(last.name, String.ofList after)], ?_,
          best_more last several best shortest⟩
        rw [List.append_assoc]
        rfl
      · obtain ⟨others, upTo⟩ := fits.upTo_last shortest
        exact misses captured_none others upTo

end Stretch

namespace ValueTemplate

open Segment Stretch

/-- Where a value is a text between the first literal and the literal after the last slot, the
segments are filled exactly if the slots fit the text. -/
theorem fills_iff_fits {segments : List Segment} {value text : List Char}
    (parts : value = (stretches segments).1 ++
      (text ++ ending (stretches segments).2.reverse)) (captures : List (String × String)) :
    Fills segments captures value ↔ Fits (stretches segments).2.reverse captures text := by
  rw [fills_iff, Fits, List.reverse_reverse]
  constructor
  · rintro ⟨body, same, spans⟩
    rw [parts, List.append_cancel_left_eq] at same
    rw [same]
    exact spans
  · intro spans
    exact ⟨_, parts, spans⟩

/-- Such a text is what the program fits the slots to. -/
theorem captureFromEnd_eq {template : ValueTemplate} {value : String} {text : List Char}
    (parts : value.toList = (stretches template.segments).1 ++
      (text ++ ending (stretches template.segments).2.reverse)) :
    template.captureFromEnd value =
      capture? (stretches template.segments).2.reverse text.reverse [] := by
  have begins := after?_eq_some_iff.mpr parts
  have ends : after? (ending (stretches template.segments).2.reverse).reverse
      (text ++ ending (stretches template.segments).2.reverse).reverse = some text.reverse :=
    after?_eq_some_iff.mpr List.reverse_append
  simp only [captureFromEnd, Option.bind_eq_bind, begins, Option.bind_some]
  change (after? (ending _).reverse _).bind _ = _
  rw [ends]
  rfl

/-- The program captures nothing of other values. -/
theorem parts_of_captureFromEnd {template : ValueTemplate} {value : String}
    {captures : List (String × String)} (found : template.captureFromEnd value = some captures) :
    ∃ text, value.toList = (stretches template.segments).1 ++
      (text ++ ending (stretches template.segments).2.reverse) := by
  simp only [captureFromEnd, Option.bind_eq_bind, Option.bind_eq_some_iff] at found
  obtain ⟨body, begins, text, ends, _⟩ := found
  have back := congrArg List.reverse (after?_eq_some_iff.mp ends)
  rw [List.reverse_reverse, List.reverse_append, List.reverse_reverse] at back
  refine ⟨text.reverse, ?_⟩
  rw [after?_eq_some_iff.mp begins, back]
  rfl

/-- What a template captures of a value comes before all other ways to cut the value. -/
theorem captureFromEnd_least {template : ValueTemplate} {value : String}
    {captures : List (String × String)} (found : template.captureFromEnd value = some captures) :
    Fills template.segments captures value.toList ∧
      ∀ others, Fills template.segments others value.toList →
        captures = others ∨ Precedes captures others := by
  obtain ⟨text, parts⟩ := parts_of_captureFromEnd found
  rw [captureFromEnd_eq parts] at found
  obtain ⟨best_captures, same, best⟩ := (capture?_spec _ _ _).1 captures found
  rw [List.append_nil] at same
  rw [List.reverse_reverse, ← same] at best
  refine ⟨(fills_iff_fits parts _).mpr best.fits, fun others fills => ?_⟩
  exact best.least others ((fills_iff_fits parts _).mp fills)

/-- A template captures something of every value that can be cut. -/
theorem captureFromEnd_of_fills {template : ValueTemplate} {value : String}
    {captures : List (String × String)} (fills : Fills template.segments captures value.toList) :
    ∃ found, template.captureFromEnd value = some found := by
  obtain ⟨body, begins, spans⟩ := fills_iff.mp fills
  rw [← List.reverse_reverse (stretches template.segments).2] at spans
  obtain ⟨text, rfl, fits⟩ := spans_iff_fits.mp spans
  cases read : template.captureFromEnd value with
  | some found => exact ⟨found, rfl⟩
  | none =>
    rw [captureFromEnd_eq begins] at read
    have misses := (capture?_spec _ _ _).2 read captures
    rw [List.reverse_reverse] at misses
    exact absurd fits misses

/-- The search finds what is found from the end. -/
theorem capture_eq_captureFromEnd (template : ValueTemplate) (value : String) :
    template.capture value = template.captureFromEnd value := by
  cases found : template.captureFromEnd value with
  | none =>
    cases searched : template.capture value with
    | none => rfl
    | some captures =>
      obtain ⟨other, same⟩ := captureFromEnd_of_fills (capture_least searched).1
      rw [found] at same
      cases same
  | some captures =>
    obtain ⟨fills, least⟩ := captureFromEnd_least found
    obtain ⟨others, searched⟩ := capture_of_fills fills
    obtain ⟨fills', least'⟩ := capture_least searched
    rcases least others fills' with rfl | precedes
    · exact searched
    · exact absurd precedes ((chosen_of_least fills' least').not_precedes fills)

/-- Of the ways to cut a value at its colons, the first capture is the shortest, and then the second
the longest. -/
example : (ValueTemplate.mk "[[A]]:[[B]]:[[C]]").capture "a:b:c:d" =
    some [("A", "a"), ("B", "b:c"), ("C", "d")] := by
  rw [capture_eq_captureFromEnd]
  decide +kernel

end ValueTemplate

end Switchboard
