import Std.Data.TreeSet.Lemmas
import Switchboard.Template.Capture
/-!
# The captures that are chosen

A value is described by literals with slots between them, so it can often be cut in many ways
(`Segment.Fills`). Of all these the search finds the one in which the first slot is as short as it
can be and then every later slot, in turn, as long as it can be (`ValueTemplate.Chosen`); it finds
none only if there is none. What carries the search is that its dead ends are real
(`Matcher.Sound`): nothing fills the segments that are left from there. This does not hang on the
order in which the ends of a slot are tried, so dead ends may be remembered without it. One step
tries the ends of a slot (`tryEnds_outcome`), and the run is `matchSegments_outcome`.
-/
namespace Switchboard

/-! ## Ways to cut a value -/

/-- Captures of the slots fill segments up to a value: literals stand where they are written, and
each slot holds its capture. -/
inductive Segment.Fills : List Segment → List (String × String) → List Char → Prop where
  | nil : Fills [] [] []
  | literal {rest : List Segment} {captures : List (String × String)} {value : List Char}
      (text : String) (later : Fills rest captures value) :
      Fills (.literal text :: rest) captures (text.toList ++ value)
  | slot {rest : List Segment} {captures : List (String × String)} {value : List Char}
      (name text : String) (later : Fills rest captures value) :
      Fills (.slot name :: rest) ((name, text) :: captures) (text.toList ++ value)

/-- Of all captures that fill segments up to a value, the ones in which the first capture is as
short as it can be, and every later one as long as it can be with those before it. -/
structure Segment.Chosen (segments : List Segment) (captures : List (String × String))
    (value : List Char) : Prop where
  /-- The captures fill the segments. -/
  fills : Fills segments captures value
  /-- No other captures have a shorter first one. -/
  first : ∀ capture rest other others, captures = capture :: rest →
    Fills segments (other :: others) value → capture.2.length ≤ other.2.length
  /-- No other captures have the same earlier ones and a longer one after them. -/
  later : ∀ earlier capture rest other others, earlier ≠ [] →
    captures = earlier ++ capture :: rest → Fills segments (earlier ++ other :: others) value →
    other.2.length ≤ capture.2.length

/-- What a literal and more segments are filled up to begins with the literal. -/
theorem Segment.fills_literal_iff {rest : List Segment} {captures : List (String × String)}
    {value : List Char} {text : String} : Fills (.literal text :: rest) captures value ↔
      ∃ later, value = text.toList ++ later ∧ Fills rest captures later := by
  constructor
  · intro fills
    cases fills with
    | literal _ later => exact ⟨_, rfl, later⟩
  · rintro ⟨later, rfl, fills⟩
    exact .literal text fills

/-- What a slot and more segments are filled up to begins with the capture of the slot. -/
theorem Segment.fills_slot_iff {rest : List Segment} {captures : List (String × String)}
    {value : List Char} {name : String} : Fills (.slot name :: rest) captures value ↔
      ∃ text others later, captures = (name, text) :: others ∧ value = text.toList ++ later ∧
        Fills rest others later := by
  constructor
  · intro fills
    cases fills with
    | slot _ text later => exact ⟨text, _, _, rfl, rfl, later⟩
  · rintro ⟨text, others, later, rfl, rfl, fills⟩
    exact .slot name text fills

/-! ## Which captures are preferred -/

/-- Captures that agree up to a slot for which the first ones have more. -/
inductive Longer : List (String × String) → List (String × String) → Prop where
  | here {capture other : String × String} (longer : other.2.length < capture.2.length)
      (rest others : List (String × String)) : Longer (capture :: rest) (other :: others)
  | next (capture : String × String) {rest others : List (String × String)}
      (later : Longer rest others) : Longer (capture :: rest) (capture :: others)

/-- Captures that come before others: they have less for the first slot, or as much for it and more
for the first later slot for which the two differ. -/
inductive Precedes : List (String × String) → List (String × String) → Prop where
  | first {capture other : String × String} (shorter : capture.2.length < other.2.length)
      (rest others : List (String × String)) : Precedes (capture :: rest) (other :: others)
  | later (capture : String × String) {rest others : List (String × String)}
      (longer : Longer rest others) : Precedes (capture :: rest) (capture :: others)

/-- Captures that have more at some slot have no less at the first slot for which the two differ. -/
theorem Longer.le_of_common {earlier rest others : List (String × String)}
    {capture other : String × String}
    (longer : Longer (earlier ++ capture :: rest) (earlier ++ other :: others)) :
    other.2.length ≤ capture.2.length := by
  induction earlier with
  | nil =>
    cases longer with
    | here longer => exact Nat.le_of_lt longer
    | next => exact Nat.le_refl _
  | cons first earlier ih =>
    cases longer with
    | here longer => exact absurd longer (Nat.lt_irrefl _)
    | next _ later => exact ih later

/-- Captures that have more at some slot agree up to a slot at which they have more. -/
theorem Longer.split {captures others : List (String × String)} (longer : Longer captures others) :
    ∃ earlier capture rest other rest', captures = earlier ++ capture :: rest ∧
      others = earlier ++ other :: rest' ∧ other.2.length < capture.2.length := by
  induction longer with
  | @here capture other longer rest others =>
    exact ⟨[], capture, rest, other, others, rfl, rfl, longer⟩
  | next first _ ih =>
    obtain ⟨earlier, capture, rest, other, rest', rfl, rfl, longer⟩ := ih
    exact ⟨first :: earlier, capture, rest, other, rest', rfl, rfl, longer⟩

/-- Captures that the search is to find before others, the first slot of the template being still to
come or not. -/
def Leads (firstSlot : Bool) (captures others : List (String × String)) : Prop :=
  captures = others ∨ match firstSlot with
    | true => Precedes captures others
    | false => Longer captures others

/-- Of two places the one at which the search lets a slot end before it tries the other. -/
def Sooner (firstSlot : Bool) (stop other : Place) : Prop :=
  match firstSlot with
  | true => other.rest.length < stop.rest.length
  | false => stop.rest.length < other.rest.length

/-- Captures that lead for later slots still do behind the same capture. -/
theorem Leads.cons {captures others : List (String × String)} (leads : Leads false captures others)
    (firstSlot : Bool) (capture : String × String) :
    Leads firstSlot (capture :: captures) (capture :: others) := by
  rcases leads with rfl | longer
  · exact .inl rfl
  · cases firstSlot with
    | true => exact .inr (.later capture longer)
    | false => exact .inr (.next capture longer)

/-! ## Places -/

namespace Text

/-- Texts one after the other take up the bytes of both. -/
theorem size_append (front back : List Char) : size (front ++ back) = size front + size back := by
  induction front with
  | nil => exact (Nat.zero_add _).symm
  | cons character front ih =>
    rw [List.cons_append, size, size, ih, Nat.add_assoc]

/-- Only the empty text takes up no bytes. -/
theorem size_eq_zero {characters : List Char} (nothing : size characters = 0) :
    characters = [] := by
  cases characters with
  | nil => rfl
  | cons character rest =>
    have positive := character.utf8Size_pos
    rw [size] at nothing
    omega

/-- A text that begins another and takes up as many bytes is the other. -/
theorem eq_of_begins {front whole : List Char} (begins : front <+: whole)
    (same : size front = size whole) : front = whole := by
  obtain ⟨more, rfl⟩ := begins
  rw [size_append] at same
  have nothing : more = [] := size_eq_zero (by omega)
  rw [nothing, List.append_nil]

end Text

namespace Place

/-- A place of a value: what comes after it ends the value, and what comes before it takes up the
bytes of its offset. -/
def Of (value : List Char) (place : Place) : Prop :=
  ∃ before, value = before ++ place.rest ∧ place.offset = Text.size before

/-- A text leads from one place to another. -/
structure Reaches (place : Place) (text : List Char) (stop : Place) : Prop where
  /-- The text comes after the first place and before the other. -/
  rest : place.rest = text ++ stop.rest
  /-- It takes up the bytes in between. -/
  offset : stop.offset = place.offset + Text.size text

variable {value : List Char} {place stop : Place} {text : List Char}

/-- The beginning is a place of its value. -/
theorem of_start (value : List Char) : Of value ⟨0, value⟩ := ⟨[], rfl, rfl⟩

/-- What is reached from a place of a value is a place of the value. -/
theorem Of.reaches (here : place.Of value) (reaches : place.Reaches text stop) :
    stop.Of value := by
  obtain ⟨before, same, offset⟩ := here
  refine ⟨before ++ text, ?_, ?_⟩
  · rw [same, reaches.rest, List.append_assoc]
  · rw [reaches.offset, offset, Text.size_append]

/-- An offset stands for one place of a value. -/
theorem Of.eq_of_offset {other : Place} (here : place.Of value) (there : other.Of value)
    (same : place.offset = other.offset) : place = other := by
  obtain ⟨before, parts, size⟩ := here
  obtain ⟨before', parts', size'⟩ := there
  have sizes : Text.size before = Text.size before' := by rw [← size, ← size', same]
  have equal : before = before' := by
    have one : before <+: value := ⟨_, parts.symm⟩
    have two : before' <+: value := ⟨_, parts'.symm⟩
    rcases List.prefix_or_prefix_of_prefix one two with begins | begins
    · exact Text.eq_of_begins begins sizes
    · exact (Text.eq_of_begins begins sizes.symm).symm
  have rests : place.rest = other.rest := by
    rw [parts, equal] at parts'
    exact List.append_cancel_left parts'
  cases place
  cases other
  cases same
  cases rests
  rfl

/-- The place after a literal is the one that the literal leads to. -/
theorem after?_eq_some_iff {next : Place} :
    place.after? text = some next ↔ place.Reaches text next := by
  rw [after?, Option.ite_none_right_eq_some, List.isPrefixOf_iff_prefix, Option.some.injEq]
  constructor
  · rintro ⟨⟨rest, found⟩, rfl⟩
    refine ⟨?_, rfl⟩
    rw [← found, List.drop_left]
  · rintro ⟨found, offset⟩
    refine ⟨⟨_, found.symm⟩, ?_⟩
    rw [found, List.drop_left, ← offset]

/-- A place is onward of another if a text leads there. -/
theorem mem_onward_iff {offset : Nat} {rest : List Char} :
    stop ∈ onward offset rest ↔ ∃ text, Reaches ⟨offset, rest⟩ text stop := by
  induction rest generalizing offset with
  | nil =>
    rw [onward, List.mem_singleton]
    constructor
    · rintro rfl
      exact ⟨[], rfl, rfl⟩
    · rintro ⟨text, found, reached⟩
      obtain ⟨rfl, ended⟩ := List.append_eq_nil_iff.mp found.symm
      cases stop
      cases ended
      cases reached
      rfl
  | cons character rest ih =>
    rw [onward, List.mem_cons, ih]
    constructor
    · rintro (rfl | ⟨text, found, reached⟩)
      · exact ⟨[], rfl, rfl⟩
      · refine ⟨character :: text, congrArg (character :: ·) found, ?_⟩
        rw [reached, Nat.add_assoc]
        rfl
    · rintro ⟨text, found, reached⟩
      cases text with
      | nil =>
        left
        cases stop
        cases found
        cases reached
        rfl
      | cons first text =>
        obtain ⟨rfl, later⟩ := List.cons.inj found
        refine .inr ⟨text, later, ?_⟩
        rw [reached, Nat.add_assoc]
        rfl

/-- The places onward come in order. -/
theorem onward_sooner (offset : Nat) (rest : List Char) :
    (onward offset rest).Pairwise (Sooner true) := by
  induction rest generalizing offset with
  | nil => exact List.pairwise_singleton _ _
  | cons character rest ih =>
    refine List.pairwise_cons.mpr ⟨fun stop member => ?_, ih _⟩
    obtain ⟨text, found, _⟩ := mem_onward_iff.mp member
    have lengths : rest.length = (text ++ stop.rest).length := congrArg List.length found
    rw [List.length_append] at lengths
    change stop.rest.length < rest.length + 1
    omega

/-- A slot that ends at a place captures the text that leads there. -/
theorem Reaches.capture (reaches : place.Reaches text stop) (name : String) :
    Cut.capture ⟨name, place.rest, stop.rest⟩ = (name, String.ofList text) := by
  rw [Cut.capture, reaches.rest, List.length_append, Nat.add_sub_cancel, List.take_left]

/-- The texts that lead to two places compare as what is left compares the other way. -/
theorem Reaches.leads {other : Place} {text' : String} (reaches : place.Reaches text stop)
    (others : place.Reaches text'.toList other) {firstSlot : Bool}
    (sooner : Sooner firstSlot stop other) (name : String)
    (captures captures' : List (String × String)) :
    Leads firstSlot ((name, String.ofList text) :: captures) ((name, text') :: captures') := by
  have lengths := congrArg List.length (reaches.rest.symm.trans others.rest)
  rw [List.length_append, List.length_append, String.length_toList] at lengths
  cases firstSlot with
  | true =>
    refine .inr (.first ?_ _ _)
    have less : other.rest.length < stop.rest.length := sooner
    change (String.ofList text).length < text'.length
    rw [String.length_ofList]
    omega
  | false =>
    refine .inr (.here ?_ _ _)
    have less : stop.rest.length < other.rest.length := sooner
    change text'.length < (String.ofList text).length
    rw [String.length_ofList]
    omega

end Place

namespace Segment

/-- The captures that come before all others are chosen. -/
theorem chosen_of_least {segments : List Segment} {captures : List (String × String)}
    {value : List Char} (fills : Fills segments captures value)
    (least : ∀ others, Fills segments others value → captures = others ∨ Precedes captures others) :
    Chosen segments captures value where
  fills := fills
  first capture rest other others same otherwise := by
    subst same
    rcases least _ otherwise with same | precedes
    · exact Nat.le_of_eq (congrArg (·.2.length) (List.cons.inj same).1)
    · cases precedes with
      | first shorter => exact Nat.le_of_lt shorter
      | later => exact Nat.le_refl _
  later earlier capture rest other others some same otherwise := by
    subst same
    rcases least _ otherwise with same | precedes
    · have tails := List.append_cancel_left same
      exact Nat.le_of_eq (congrArg (·.2.length) (List.cons.inj tails).1.symm)
    · cases earlier with
      | nil => exact absurd rfl some
      | cons first earlier =>
        cases precedes with
        | first shorter => exact absurd shorter (Nat.lt_irrefl _)
        | later _ longer => exact longer.le_of_common

/-- No captures come before those that are chosen. -/
theorem Chosen.not_precedes {segments : List Segment} {captures others : List (String × String)}
    {value : List Char} (chosen : Chosen segments captures value)
    (fills : Fills segments others value) : ¬ Precedes others captures := by
  intro precedes
  cases precedes with
  | first shorter rest rest' =>
    exact absurd (chosen.first _ _ _ _ rfl fills) (Nat.not_le_of_lt shorter)
  | later capture longer =>
    obtain ⟨earlier, more, rest, less, rest', rfl, rfl, gain⟩ := longer.split
    have bound := chosen.later (capture :: earlier) less rest' more rest (List.cons_ne_nil _ _) rfl
      fills
    exact absurd bound (Nat.not_le_of_lt gain)

end Segment

/-! ## The search -/

namespace Matcher

open Segment

/-- All that is remembered is true: nothing fills the segments that are left from a dead end. -/
def Sound (whole : List Segment) (value : List Char) (matcher : Matcher) : Prop :=
  ∀ (segments : List Segment) (place : Place), segments <:+ whole → place.Of value →
    (segments.length, place.offset) ∈ matcher.deadEnds →
      ∀ captures, ¬ Fills segments captures place.rest

variable {whole segments rest : List Segment} {value : List Char} {place start : Place}
  {matcher : Matcher} {firstSlot : Bool} {name : String}

/-- At first nothing is remembered. -/
theorem sound_start : Matcher.start.Sound whole value :=
  fun _ _ _ _ remembered => absurd remembered Std.TreeSet.not_mem_emptyc

/-- A dead end may be remembered: its numbers stand for these segments and this place alone. -/
theorem Sound.remember (sound : matcher.Sound whole value) (among : segments <:+ whole)
    (here : place.Of value) (never : ∀ captures, ¬ Fills segments captures place.rest) :
    (matcher.remember (segments.length, place.offset)).Sound whole value := by
  intro others other amongst there remembered
  rcases Std.TreeSet.mem_insert.mp remembered with same | before
  · simp only [compareLex, compareOn, Ordering.then_eq_eq, Nat.compare_eq_eq] at same
    obtain ⟨lengths, offsets⟩ := same
    have suffix := List.suffix_of_suffix_length_le among amongst (Nat.le_of_eq lengths)
    rw [← suffix.eq_of_length lengths, ← here.eq_of_offset there offsets]
    exact never
  · exact sound others other amongst there before

/-- What the search leaves behind for some segments from a place on: captures that fill them and
lead all others, or none because nothing fills them. -/
inductive Outcome (whole : List Segment) (value : List Char) (segments : List Segment)
    (place : Place) (firstSlot : Bool) (before : Matcher) : Bool × Matcher → Prop where
  | found {after : Matcher} {captures : List (String × String)} (sound : after.Sound whole value)
      (added : after.captures = before.captures ++ captures)
      (fills : Fills segments captures place.rest)
      (leads : ∀ others, Fills segments others place.rest → Leads firstSlot captures others) :
      Outcome whole value segments place firstSlot before (true, after)
  | failed {after : Matcher} (sound : after.Sound whole value) (kept : after.cuts = before.cuts)
      (never : ∀ captures, ¬ Fills segments captures place.rest) :
      Outcome whole value segments place firstSlot before (false, after)

/-- What the search leaves behind for a slot: the first place from which the segments after the slot
match, or no place. -/
inductive Tried (whole : List Segment) (value : List Char) (rest : List Segment) (name : String)
    (start : Place) (ends : List Place) (before : Matcher) : Bool × Matcher → Prop where
  | found {after : Matcher} {earlier later : List Place} {stop : Place}
      {captures : List (String × String)} (sound : after.Sound whole value)
      (parts : ends = earlier ++ stop :: later)
      (missed : ∀ other ∈ earlier, ∀ captures, ¬ Fills rest captures other.rest)
      (added : after.captures =
        before.captures ++ Cut.capture ⟨name, start.rest, stop.rest⟩ :: captures)
      (fills : Fills rest captures stop.rest)
      (leads : ∀ others, Fills rest others stop.rest → Leads false captures others) :
      Tried whole value rest name start ends before (true, after)
  | failed {after : Matcher} (sound : after.Sound whole value) (kept : after.cuts = before.cuts)
      (missed : ∀ stop ∈ ends, ∀ captures, ¬ Fills rest captures stop.rest) :
      Tried whole value rest name start ends before (false, after)

/-- The captures after one more cut. -/
theorem captures_push (matcher : Matcher) (cut : Cut) :
    (matcher.push cut).captures = matcher.captures ++ [cut.capture] := by
  simp [captures, push]

/-- One place after the other is tried, and a cut that leads nowhere is taken back. -/
theorem tryEnds_outcome {matchRest : Place → Matcher → Bool × Matcher} {ends : List Place}
    (outcome : ∀ stop ∈ ends, ∀ before, before.Sound whole value →
      Outcome whole value rest stop false before (matchRest stop before))
    (sound : matcher.Sound whole value) :
    Tried whole value rest name start ends matcher
      (tryEnds name start matchRest ends matcher) := by
  induction ends generalizing matcher with
  | nil => exact .failed sound rfl fun _ member => absurd member List.not_mem_nil
  | cons stop ends ih =>
    have first := outcome stop List.mem_cons_self
      (matcher.push ⟨name, start.rest, stop.rest⟩) sound
    have others := fun other member => outcome other (List.mem_cons_of_mem stop member)
    unfold tryEnds
    generalize matchRest stop (matcher.push ⟨name, start.rest, stop.rest⟩) = result at first ⊢
    cases first with
    | found sound added fills leads =>
      rw [captures_push, List.append_assoc] at added
      have none : ∀ other ∈ ([] : List Place), ∀ captures, ¬ Fills rest captures other.rest :=
        fun _ member => absurd member List.not_mem_nil
      exact .found sound (List.nil_append _).symm none added fills leads
    | @failed after sound kept never =>
      have popped : after.pop.cuts = matcher.cuts := congrArg List.tail kept
      have later : Tried whole value rest name start ends after.pop
          (tryEnds name start matchRest ends after.pop) := ih others sound
      change Tried whole value rest name start (stop :: ends) matcher
        (tryEnds name start matchRest ends after.pop)
      generalize tryEnds name start matchRest ends after.pop = result at later ⊢
      cases later with
      | found sound parts missed added fills leads =>
        have same : after.pop.captures = matcher.captures := by rw [captures, popped, captures]
        rw [same] at added
        have longer := congrArg (stop :: ·) parts
        rw [← List.cons_append] at longer
        exact .found sound longer (List.forall_mem_cons.mpr ⟨never, missed⟩) added fills leads
      | failed sound kept missed =>
        exact .failed sound (kept.trans popped) (List.forall_mem_cons.mpr ⟨never, missed⟩)

/-- Where the next literal does not stand, the segments from it on are not filled. -/
theorem canEnd_of_fills {stop : Place} {captures : List (String × String)}
    (fills : Fills rest captures stop.rest) : canEnd rest.head? stop = true := by
  cases rest with
  | nil => rfl
  | cons segment rest =>
    cases segment with
    | slot name => rfl
    | literal text =>
      obtain ⟨later, same, _⟩ := fills_literal_iff.mp fills
      change text.toList.isPrefixOf stop.rest = true
      rw [List.isPrefixOf_iff_prefix, same]
      exact List.prefix_append _ _

/-- A slot is tried where a text leads and the next literal stands. -/
theorem mem_endsOf_iff {stop : Place} : stop ∈ endsOf rest firstSlot start ↔
    (∃ text, start.Reaches text stop) ∧ canEnd rest.head? stop = true := by
  have among : stop ∈ endsOf rest firstSlot start ↔
      stop ∈ (Place.onward start.offset start.rest).filter (canEnd rest.head?) := by
    cases firstSlot with
    | true => rfl
    | false => exact List.mem_reverse
  rw [among, List.mem_filter, Place.mem_onward_iff]

/-- A slot is tried at the place that it is to prefer first. -/
theorem endsOf_sooner (rest : List Segment) (firstSlot : Bool) (start : Place) :
    (endsOf rest firstSlot start).Pairwise (Sooner firstSlot) := by
  have ordered := (Place.onward_sooner start.offset start.rest).filter (canEnd rest.head?)
  cases firstSlot with
  | true => exact ordered
  | false => exact List.pairwise_reverse.mpr ordered

/-- If the first of the places that leads on is taken, the captures lead all others. -/
theorem Tried.outcome {result : Bool × Matcher}
    (tried : Tried whole value rest name start (endsOf rest firstSlot start) matcher result) :
    Outcome whole value (.slot name :: rest) start firstSlot matcher result := by
  -- Wherever else the slot ends, if what comes after it is filled, the search comes there.
  have reached : ∀ text later others, start.rest = text ++ later → Fills rest others later →
      ∃ stop ∈ endsOf rest firstSlot start, start.Reaches text stop ∧ stop.rest = later := by
    intro text later others same fills
    let stop : Place := ⟨start.offset + Text.size text, later⟩
    have reaches : start.Reaches text stop := ⟨same, rfl⟩
    exact ⟨stop, mem_endsOf_iff.mpr ⟨⟨text, reaches⟩, canEnd_of_fills fills⟩, reaches, rfl⟩
  cases tried with
  | @found after earlier later stop captures sound parts missed added fills leads =>
    have member : stop ∈ endsOf rest firstSlot start := by rw [parts]; simp
    obtain ⟨⟨text, reaches⟩, _⟩ := mem_endsOf_iff.mp member
    rw [reaches.capture name] at added
    have filled : Fills (.slot name :: rest) ((name, String.ofList text) :: captures)
        start.rest := by
      refine fills_slot_iff.mpr ⟨_, _, stop.rest, rfl, ?_, fills⟩
      rw [String.toList_ofList]
      exact reaches.rest
    refine .found sound added filled fun others fills' => ?_
    obtain ⟨text', captures', later', rfl, same, fills'⟩ := fills_slot_iff.mp fills'
    obtain ⟨other, among, reaches', rfl⟩ := reached _ _ _ same fills'
    have sooner := endsOf_sooner rest firstSlot start
    rw [parts] at among sooner
    rcases List.mem_append.mp among with before | among
    · exact absurd fills' (missed other before captures')
    · rcases List.mem_cons.mp among with rfl | after
      · have texts := List.append_cancel_right (reaches.rest.symm.trans reaches'.rest)
        rw [texts, String.ofList_toList]
        exact (leads captures' fills').cons firstSlot _
      · have first := (List.pairwise_append.mp sooner).2.1
        exact reaches.leads reaches' (List.rel_of_pairwise_cons first after) name _ _
  | failed sound kept missed =>
    refine .failed sound kept fun captures fills => ?_
    obtain ⟨text, others, later, rfl, same, fills⟩ := fills_slot_iff.mp fills
    obtain ⟨stop, among, _, rfl⟩ := reached _ _ _ same fills
    exact missed stop among others fills

/-- A literal is passed where it stands, and what comes after it decides. -/
theorem Outcome.literal {text : String} {next : Place} {result : Bool × Matcher}
    (reaches : place.Reaches text.toList next)
    (outcome : Outcome whole value rest next firstSlot matcher result) :
    Outcome whole value (.literal text :: rest) place firstSlot matcher result := by
  have same : ∀ captures, Fills (.literal text :: rest) captures place.rest ↔
      Fills rest captures next.rest := by
    intro captures
    rw [fills_literal_iff, reaches.rest]
    constructor
    · rintro ⟨later, same, fills⟩
      rw [List.append_cancel_left same]
      exact fills
    · intro fills
      exact ⟨_, rfl, fills⟩
  cases outcome with
  | found sound added fills leads =>
    exact .found sound added ((same _).mpr fills) fun others filled =>
      leads others ((same _).mp filled)
  | failed sound kept never =>
    exact .failed sound kept fun captures filled => never captures ((same _).mp filled)

/-- A literal that does not stand at the place is not passed. -/
theorem outcome_of_absent {text : String} (absent : place.after? text.toList = none)
    (sound : matcher.Sound whole value) :
    Outcome whole value (.literal text :: rest) place firstSlot matcher (false, matcher) := by
  refine .failed sound rfl fun captures fills => ?_
  obtain ⟨later, same, _⟩ := fills_literal_iff.mp fills
  have next : place.after? text.toList =
      some ⟨place.offset + Text.size text.toList, later⟩ :=
    Place.after?_eq_some_iff.mpr ⟨same, rfl⟩
  rw [absent] at next
  cases next

/-- The last segment, if it is a slot, can take what is left and nothing else. -/
theorem outcome_of_last (sound : matcher.Sound whole value) :
    Outcome whole value [.slot name] place firstSlot matcher
      (true, matcher.push ⟨name, place.rest, []⟩) := by
  have taken : Cut.capture ⟨name, place.rest, []⟩ = (name, String.ofList place.rest) := by
    rw [Cut.capture, List.length_nil, Nat.sub_zero, List.take_length]
  refine .found sound (captures_push matcher _) ?_ fun others fills => ?_
  · refine fills_slot_iff.mpr ⟨_, [], [], congrArg (· :: []) taken, ?_, .nil⟩
    rw [String.toList_ofList, List.append_nil]
  · obtain ⟨text, _, _, rfl, same, fills⟩ := fills_slot_iff.mp fills
    cases fills
    rw [List.append_nil] at same
    rw [taken, same, String.ofList_toList]
    exact .inl rfl

/-- After a search that failed its dead end is remembered. -/
theorem Outcome.settle {result : Bool × Matcher} (among : segments <:+ whole)
    (here : place.Of value)
    (outcome : Outcome whole value segments place firstSlot matcher result) :
    Outcome whole value segments place firstSlot matcher (result.1,
      if result.1 then result.2 else result.2.remember (segments.length, place.offset)) := by
  cases outcome with
  | found sound added fills leads => exact .found sound added fills leads
  | failed sound kept never => exact .failed (sound.remember among here never) kept never

/-- Segments are matched with captures that lead all others, or nothing fills them. -/
theorem matchSegments_outcome (among : segments <:+ whole) (here : place.Of value)
    (sound : matcher.Sound whole value) :
    Outcome whole value segments place firstSlot matcher
      (matchSegments segments place firstSlot matcher) := by
  induction segments generalizing place firstSlot matcher with
  | nil =>
    unfold matchSegments
    cases ended : place.rest with
    | nil =>
      refine .found sound (List.append_nil _).symm (ended ▸ .nil) fun others fills => ?_
      rw [ended] at fills
      cases fills
      exact .inl rfl
    | cons character later =>
      refine .failed sound rfl fun captures fills => ?_
      rw [ended] at fills
      cases fills
  | cons segment rest ih =>
    have later := (List.suffix_cons segment rest).trans among
    unfold matchSegments
    by_cases remembered : matcher.deadEnds.contains (rest.length + 1, place.offset) = true
    · rw [if_pos remembered]
      refine .failed sound rfl (sound (segment :: rest) place among here ?_)
      exact Std.TreeSet.mem_iff_contains.mpr remembered
    · rw [if_neg remembered]
      refine Outcome.settle among here ?_
      cases segment with
      | literal text =>
        dsimp only
        cases passed : place.after? text.toList with
        | none => exact outcome_of_absent passed sound
        | some next =>
          have reaches := Place.after?_eq_some_iff.mp passed
          exact (ih later (here.reaches reaches) sound).literal reaches
      | slot name =>
        cases rest with
        | nil => exact outcome_of_last sound
        | cons following rest =>
          refine Tried.outcome (tryEnds_outcome (fun stop member before sound => ?_) sound)
          obtain ⟨⟨text, reaches⟩, _⟩ := mem_endsOf_iff.mp member
          exact ih later (here.reaches reaches) sound

end Matcher

namespace ValueTemplate

open Segment

/-- The search for the captures of a template ends with what it is for. -/
theorem capture_outcome (template : ValueTemplate) (value : String) :
    Matcher.Outcome template.segments value.toList template.segments ⟨0, value.toList⟩ true .start
      (Matcher.matchSegments template.segments ⟨0, value.toList⟩ true .start) :=
  Matcher.matchSegments_outcome List.suffix_rfl (Place.of_start _) Matcher.sound_start

/-- What a template captures of a value comes before all other ways to cut the value. -/
theorem capture_least {template : ValueTemplate} {value : String}
    {captures : List (String × String)} (found : template.capture value = some captures) :
    Fills template.segments captures value.toList ∧
      ∀ others, Fills template.segments others value.toList →
        captures = others ∨ Precedes captures others := by
  have outcome := capture_outcome template value
  unfold capture at found
  generalize Matcher.matchSegments template.segments _ true .start = result at outcome found
  cases outcome with
  | found _ added fills leads =>
    cases found
    rw [added]
    exact ⟨fills, leads⟩
  | failed => cases found

/-- A template captures something of every value that can be cut. -/
theorem capture_of_fills {template : ValueTemplate} {value : String}
    {captures : List (String × String)} (fills : Fills template.segments captures value.toList) :
    ∃ found, template.capture value = some found := by
  have outcome := capture_outcome template value
  unfold capture
  generalize Matcher.matchSegments template.segments _ true .start = result at outcome ⊢
  cases outcome with
  | found => exact ⟨_, rfl⟩
  | failed _ _ never => exact absurd fills (never captures)

/-- A template captures something of a value exactly if the value can be cut into the literals of
the template with a text for each slot between them; and it captures the texts of the one cut in
which the first is as short as it can be and every later one, in turn, as long as it can be, each
under the name of its slot, in template order. -/
theorem capture_exact (template : ValueTemplate) (value : String) :
    ((template.capture value).isSome ↔
        ∃ captures, Fills template.segments captures value.toList) ∧
      ∀ captures, template.capture value = some captures ↔
        Chosen template.segments captures value.toList := by
  refine ⟨⟨fun some => ?_, fun ⟨captures, fills⟩ => ?_⟩, fun captures => ⟨fun found => ?_, ?_⟩⟩
  · obtain ⟨captures, found⟩ := Option.isSome_iff_exists.mp some
    exact ⟨captures, (capture_least found).1⟩
  · obtain ⟨found, same⟩ := capture_of_fills fills
    rw [same]
    rfl
  · obtain ⟨fills, least⟩ := capture_least found
    exact chosen_of_least fills least
  · intro chosen
    obtain ⟨found, same⟩ := capture_of_fills chosen.fills
    obtain ⟨fills, least⟩ := capture_least same
    rcases least captures chosen.fills with rfl | precedes
    · exact same
    · exact absurd precedes (chosen.not_precedes fills)

end ValueTemplate

end Switchboard
