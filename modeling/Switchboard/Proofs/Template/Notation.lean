import Mathlib.Data.List.Chain
import Mathlib.Data.List.Infix
import Switchboard.Template.Value
/-!
# The notation of value templates

A text has one reading as segments, and segments have one text that writes them, so the two are in
correspondence (`segments_exact`). Not every list of segments is the reading of a text: two literals
in a row are read as one, and a slot name ends at the first two closing brackets. The lists that are
readings are the canonical ones.

The scan looks for a slot at every character. Where brackets overlap, as in `[[[Name]]`, what keeps
it from a wrong cut is that a name holds no opening bracket: no slot begins in a literal and ends
behind it (`slotAhead_literal`).
-/
namespace Switchboard

namespace Segment

/-! ## Canonical segments -/

/-- A text that can stand between the brackets of a marker. -/
structure Enclosable (text : List Char) : Prop where
  /-- It has no opening bracket. -/
  unopened : '[' ∉ text
  /-- It has no two closing brackets in a row. -/
  unclosed : ¬ [']', ']'] <:+: text

/-- A text that the first two closing brackets after it end. -/
structure IsName (name : List Char) : Prop extends Enclosable name where
  /-- It does not end in a closing bracket, which would be one of the two. -/
  ended : ¬ [']'] <:+ name

/-- A text between the brackets of a slot. -/
def marker (name : List Char) : List Char := '[' :: '[' :: (name ++ [']', ']'])

/-- A text holds a marker. -/
def Marked (text : List Char) : Prop := ∃ name, Enclosable name ∧ marker name <:+: text

/-- A segment is literal text. -/
def IsLiteral (segment : Segment) : Prop := ∃ text, segment = literal text

/-- A segment that can be read: a literal that is not empty and holds no marker, or a slot that is
told from what comes after it. -/
def WellFormed : Segment → Prop
  | literal text => text ≠ "" ∧ ¬ Marked text.toList
  | slot name => IsName name.toList

/-- Segments that are what a text is read as. -/
structure Canonical (segments : List Segment) : Prop where
  /-- Every segment can be read. -/
  formed : ∀ segment ∈ segments, segment.WellFormed
  /-- No two literals are adjacent. -/
  parted : segments.IsChain fun one other => ¬ (one.IsLiteral ∧ other.IsLiteral)

/-- No segments are canonical. -/
theorem canonical_nil : Canonical [] := ⟨fun _ member => absurd member List.not_mem_nil, .nil⟩

/-- Canonical segments stand behind one that can be read and is not, like the first of them, a
literal. -/
theorem canonical_cons {segment : Segment} {later : List Segment} :
    Canonical (segment :: later) ↔ segment.WellFormed ∧
      (segment.IsLiteral → ∀ next ∈ later.head?, ¬ next.IsLiteral) ∧ Canonical later := by
  have chain : ((segment :: later).IsChain fun one other => ¬ (one.IsLiteral ∧ other.IsLiteral)) ↔
      (segment.IsLiteral → ∀ next ∈ later.head?, ¬ next.IsLiteral) ∧
        later.IsChain fun one other => ¬ (one.IsLiteral ∧ other.IsLiteral) := by
    cases later with
    | nil => simp
    | cons next more => simp [List.isChain_cons_cons]
  constructor
  · rintro ⟨formed, parted⟩
    obtain ⟨own, others⟩ := List.forall_mem_cons.mp formed
    exact ⟨own, (chain.mp parted).1, others, (chain.mp parted).2⟩
  · rintro ⟨own, begun, formed, parted⟩
    exact ⟨List.forall_mem_cons.mpr ⟨own, formed⟩, chain.mpr ⟨begun, parted⟩⟩

/-- A slot can stand before any canonical segments. -/
theorem Canonical.slot {name : String} {later : List Segment} (named : IsName name.toList)
    (canonical : Canonical later) : Canonical (slot name :: later) := by
  refine canonical_cons.mpr ⟨named, ?_, canonical⟩
  rintro ⟨text, same⟩
  cases same

/-- Canonical segments on both sides of a slot are canonical together with it. -/
theorem Canonical.around {earlier later : List Segment} {name : String}
    (before : Canonical earlier) (named : IsName name.toList) (after : Canonical later) :
    Canonical (earlier ++ Segment.slot name :: later) := by
  induction earlier with
  | nil => exact .slot named after
  | cons segment more ih =>
    obtain ⟨formed, begun, rest⟩ := canonical_cons.mp before
    refine canonical_cons.mpr ⟨formed, fun isLiteral => ?_, ih rest⟩
    cases more with
    | nil =>
      rintro next first ⟨text, rfl⟩
      cases first
    | cons next more => exact begun isLiteral

/-! ## Names and markers -/

/-- A name goes on with a character that is no opening bracket, and no closing one before another.
-/
theorem isName_cons {character : Char} {name : List Char} :
    IsName (character :: name) ↔
      character ≠ '[' ∧ ¬ (character = ']' ∧ (name = [] ∨ [']'] <+: name)) ∧ IsName name := by
  have opened : '[' ∉ character :: name ↔ character ≠ '[' ∧ '[' ∉ name := by
    rw [List.mem_cons, not_or, ne_comm]
  have closed : [']', ']'] <:+: character :: name ↔
      character = ']' ∧ [']'] <+: name ∨ [']', ']'] <:+: name := by
    rw [List.infix_cons_iff, List.cons_prefix_cons, eq_comm]
  have ended : [']'] <:+ character :: name ↔ character = ']' ∧ name = [] ∨ [']'] <:+ name := by
    rw [List.suffix_cons_iff, List.cons.injEq, eq_comm, eq_comm (a := [])]
  constructor
  · rintro ⟨⟨unopened, unclosed⟩, last⟩
    rw [opened] at unopened
    rw [closed] at unclosed
    rw [ended] at last
    refine ⟨unopened.1, ?_, ⟨unopened.2, fun inside => unclosed (.inr inside)⟩,
      fun inside => last (.inr inside)⟩
    rintro ⟨bracket, rfl | follows⟩
    · exact last (.inl ⟨bracket, rfl⟩)
    · exact unclosed (.inl ⟨bracket, follows⟩)
  · rintro ⟨other, apart, ⟨unopened, unclosed⟩, last⟩
    refine ⟨⟨opened.mpr ⟨other, unopened⟩, fun inside => ?_⟩, fun inside => ?_⟩
    · rcases closed.mp inside with ⟨bracket, follows⟩ | inside
      · exact apart ⟨bracket, .inr follows⟩
      · exact unclosed inside
    · rcases ended.mp inside with ⟨bracket, empty⟩ | inside
      · exact apart ⟨bracket, .inl empty⟩
      · exact last inside

/-- The empty text is a name. -/
theorem isName_nil : IsName [] :=
  ⟨⟨List.not_mem_nil, by simp⟩, by simp⟩

/-- A slot name is read exactly where a name stands before two closing brackets. -/
theorem slotName_some_iff {characters name after : List Char} :
    slotName characters = some (name, after) ↔
      IsName name ∧ characters = name ++ ']' :: ']' :: after := by
  fun_induction slotName characters generalizing name after with
  | case1 => simp
  | case2 rest =>
    constructor
    · intro read
      cases read
      exact ⟨isName_nil, rfl⟩
    · rintro ⟨named, same⟩
      cases name with
      | nil =>
        cases same
        rfl
      | cons first later =>
        cases later with
        | nil =>
          cases same
          exact absurd ⟨rfl, .inl rfl⟩ (isName_cons.mp named).2.1
        | cons second more =>
          cases same
          exact absurd ⟨rfl, .inr (List.prefix_append [']'] more)⟩ (isName_cons.mp named).2.1
  | case3 rest =>
    constructor
    · intro read
      cases read
    · rintro ⟨named, same⟩
      cases name with
      | nil => cases same
      | cons first more =>
        cases same
        exact absurd rfl (isName_cons.mp named).1
  | case4 character rest apart unopened ih =>
    constructor
    · intro read
      obtain ⟨⟨inner, ending⟩, found, same⟩ := Option.map_eq_some_iff.mp read
      cases same
      obtain ⟨named, rfl⟩ := ih.mp found
      refine ⟨isName_cons.mpr ⟨unopened, ?_, named⟩, rfl⟩
      rintro ⟨bracket, rfl | ⟨more, rfl⟩⟩
      · exact apart _ bracket rfl
      · exact apart _ bracket rfl
    · rintro ⟨named, same⟩
      cases name with
      | nil =>
        cases same
        exact absurd rfl (apart after rfl)
      | cons first more =>
        cases same
        rw [ih.mpr ⟨(isName_cons.mp named).2.2, rfl⟩]
        rfl

/-- A slot is read exactly where the marker of a name stands. -/
theorem slotAhead_some_iff {characters name after : List Char} :
    slotAhead characters = some (name, after) ↔
      IsName name ∧ characters = marker name ++ after := by
  unfold slotAhead marker
  split
  · rename_i rest
    rw [slotName_some_iff]
    simp
  · rename_i other
    constructor
    · intro read
      cases read
    · rintro ⟨_, rfl⟩
      exact absurd rfl (other _)

/-- A slot is read where any marker stands; its name ends at the first two closing brackets. -/
theorem slotAhead_marker {text : List Char} (enclosable : Enclosable text) (after : List Char) :
    slotAhead (marker text ++ after) ≠ none := by
  have found : ∃ name rest, IsName name ∧ marker text ++ after = marker name ++ rest := by
    by_cases ended : [']'] <:+ text
    · obtain ⟨name, rfl⟩ := ended
      have unopened : '[' ∉ name := fun member =>
        enclosable.unopened (List.mem_append_left _ member)
      have unclosed : ¬ [']', ']'] <:+: name := fun inside =>
        enclosable.unclosed (inside.trans (List.prefix_append name _).isInfix)
      refine ⟨name, ']' :: after, ⟨⟨unopened, unclosed⟩, ?_⟩, by simp [marker]⟩
      rintro ⟨first, rfl⟩
      exact enclosable.unclosed ⟨first, [], by simp⟩
    · exact ⟨text, after, ⟨enclosable, ended⟩, rfl⟩
  obtain ⟨name, rest, named, same⟩ := found
  rw [slotAhead_some_iff.mpr ⟨named, same⟩]
  exact Option.some_ne_none _

/-! ## Writing back what was read -/

/-- The text that segments write. -/
def textOf (segments : List Segment) : List Char :=
  segments.flatMap fun segment => segment.written.toList

/-- A slot writes its marker. -/
theorem written_slot (name : String) : (slot name).written.toList = marker name.toList := by
  simp [written, marker]

/-- Literal characters write themselves. -/
theorem textOf_afterLiteral (characters : List Char) (segments : List Segment) :
    textOf (afterLiteral characters segments) = characters ++ textOf segments := by
  unfold afterLiteral
  cases characters with
  | nil => rfl
  | cons character rest => simp [textOf, written]

/-- The scan loses nothing and adds nothing. -/
theorem textOf_headAndSegments (characters : List Char) :
    (headAndSegments characters).1 ++ textOf (headAndSegments characters).2 = characters := by
  fun_induction headAndSegments characters with
  | case1 characters name after found head later parts ih =>
    obtain ⟨_, same⟩ := slotAhead_some_iff.mp found
    rw [parts] at ih
    have tail : textOf (afterLiteral head later) = after := by rw [textOf_afterLiteral, ih]
    calc textOf (slot (String.ofList name) :: afterLiteral head later)
        = marker name ++ textOf (afterLiteral head later) := by
          rw [textOf, List.flatMap_cons, written_slot, String.toList_ofList, textOf]
      _ = characters := by rw [tail, same]
  | case2 => rfl
  | case3 character rest absent head later parts ih =>
    rw [parts] at ih
    rw [List.cons_append, ih]

/-- What a text is read as writes the text. -/
theorem textOf_parse (characters : List Char) : textOf (parse characters) = characters := by
  rw [parse, textOf_afterLiteral, textOf_headAndSegments]

/-! ## What is read is canonical -/

/-- The literal characters before the first slot hold no marker. -/
theorem headAndSegments_unmarked (characters : List Char) :
    ¬ Marked (headAndSegments characters).1 := by
  fun_induction headAndSegments characters with
  | case1 | case2 =>
    rintro ⟨name, _, inside⟩
    exact absurd (List.infix_nil.mp inside) (List.cons_ne_nil _ _)
  | case3 character rest absent head later parts ih =>
    have whole := textOf_headAndSegments rest
    rw [parts] at ih whole
    rintro ⟨name, enclosable, inside⟩
    rcases List.infix_cons_iff.mp inside with ⟨more, here⟩ | inside
    · -- A marker that begins here was read as a slot, although it begins a literal.
      refine slotAhead_marker enclosable (more ++ textOf later) ?_
      rw [← List.append_assoc, here, List.cons_append, whole]
      exact absent
    · exact ih ⟨name, enclosable, inside⟩

/-- The segments after the literal characters begin with a slot. -/
theorem headAndSegments_begun (characters : List Char) :
    ∀ segment ∈ (headAndSegments characters).2.head?, ¬ segment.IsLiteral := by
  fun_induction headAndSegments characters with
  | case1 characters name after found head later parts ih =>
    rintro segment first ⟨text, rfl⟩
    cases first
  | case2 =>
    intro segment first
    cases first
  | case3 character rest absent head later parts ih =>
    rw [parts] at ih
    exact ih

/-- Literal characters are canonical before what is read after them. -/
theorem canonical_afterLiteral {characters : List Char} {later : List Segment}
    (unmarked : ¬ Marked characters) (begun : ∀ segment ∈ later.head?, ¬ segment.IsLiteral)
    (canonical : Canonical later) : Canonical (afterLiteral characters later) := by
  unfold afterLiteral
  cases characters with
  | nil => exact canonical
  | cons character rest =>
    refine canonical_cons.mpr ⟨⟨by simp, ?_⟩, fun _ => begun, canonical⟩
    rw [String.toList_ofList]
    exact unmarked

/-- The segments after the literal characters are canonical. -/
theorem headAndSegments_canonical (characters : List Char) :
    Canonical (headAndSegments characters).2 := by
  fun_induction headAndSegments characters with
  | case1 characters name after found head later parts ih =>
    have unmarked := headAndSegments_unmarked after
    have begun := headAndSegments_begun after
    rw [parts] at ih unmarked begun
    have named : IsName name := (slotAhead_some_iff.mp found).1
    refine Canonical.slot ?_ (canonical_afterLiteral unmarked begun ih)
    rw [String.toList_ofList]
    exact named
  | case2 => exact canonical_nil
  | case3 character rest absent head later parts ih =>
    rw [parts] at ih
    exact ih

/-- What a text is read as is canonical. -/
theorem parse_canonical (characters : List Char) : Canonical (parse characters) :=
  canonical_afterLiteral (headAndSegments_unmarked characters) (headAndSegments_begun characters)
    (headAndSegments_canonical characters)

/-! ## Reading back what was written -/

/-- The marker of a name is read as its slot, whatever comes after it. -/
theorem headAndSegments_marker {name : List Char} (named : IsName name) (after : List Char) :
    headAndSegments (marker name ++ after) = ([], slot (String.ofList name) :: parse after) := by
  have found : slotAhead (marker name ++ after) = some (name, after) :=
    slotAhead_some_iff.mpr ⟨named, rfl⟩
  rw [headAndSegments]
  split
  · rename_i read
    rw [found] at read
    cases read
    rfl
  · rename_i read
    rw [found] at read
    cases read

/-- A character where no slot begins is literal. -/
theorem headAndSegments_cons {character : Char} {rest : List Char}
    (absent : slotAhead (character :: rest) = none) :
    headAndSegments (character :: rest) =
      (character :: (headAndSegments rest).1, (headAndSegments rest).2) := by
  rw [headAndSegments]
  split
  · rename_i read
    rw [absent] at read
    cases read
  · rfl

/-- No slot begins in a literal without markers and ends behind it. What comes behind begins with
two opening brackets; no name holds one, and the two do not both belong to the slot that begins
before them. -/
theorem slotAhead_literal {character : Char} {literal after : List Char}
    (unmarked : ¬ Marked (character :: literal))
    (begun : after = [] ∨ ∃ rest, after = '[' :: '[' :: rest) :
    slotAhead (character :: literal ++ after) = none := by
  cases found : slotAhead (character :: literal ++ after) with
  | none => rfl
  | some parts =>
    obtain ⟨name, ending⟩ := parts
    obtain ⟨named, same⟩ := slotAhead_some_iff.mp found
    have inside : ¬ ∃ more, character :: literal = marker name ++ more := by
      rintro ⟨more, whole⟩
      exact unmarked ⟨name, named.toEnclosable, [], more, whole.symm⟩
    have unopened : '[' ∉ name ++ [']', ']'] := by
      rw [List.mem_append, not_or]
      exact ⟨named.unopened, by decide⟩
    rcases List.append_eq_append_iff.mp same with ⟨surplus, crosses, behind⟩ | ⟨more, whole, _⟩
    · cases surplus with
      | nil => exact absurd ⟨[], by rw [crosses, List.append_nil, List.append_nil]⟩ inside
      | cons bracket surplus =>
        rcases begun with rfl | ⟨rest, rfl⟩
        · cases behind
        · obtain ⟨rfl, behind⟩ := List.cons.inj behind
          obtain ⟨_, crosses⟩ := List.cons.inj crosses
          cases literal with
          | nil =>
            obtain ⟨_, rfl⟩ := List.cons.inj crosses
            cases name with
            | nil => cases behind
            | cons first name =>
              cases behind
              exact absurd List.mem_cons_self unopened
          | cons second literal =>
            obtain ⟨_, crosses⟩ := List.cons.inj crosses
            rw [crosses] at unopened
            exact absurd (List.mem_append_right _ List.mem_cons_self) unopened
    · exact absurd ⟨more, whole⟩ inside

/-- Literal characters without a marker are passed over, up to the slot that comes after them. -/
theorem headAndSegments_literal {literal after : List Char} (unmarked : ¬ Marked literal)
    (begun : after = [] ∨ ∃ rest, after = '[' :: '[' :: rest) :
    headAndSegments (literal ++ after) =
      (literal ++ (headAndSegments after).1, (headAndSegments after).2) := by
  induction literal with
  | nil => rfl
  | cons character literal ih =>
    have shorter : ¬ Marked literal := by
      rintro ⟨name, enclosable, inside⟩
      exact unmarked ⟨name, enclosable, inside.trans (List.suffix_cons _ _).isInfix⟩
    have absent := slotAhead_literal unmarked begun
    rw [List.cons_append] at absent ⊢
    rw [headAndSegments_cons absent, ih shorter, List.cons_append]

/-- Canonical segments that do not begin with a literal begin with a slot, or there are none. -/
theorem textOf_begun {segments : List Segment}
    (begun : ∀ segment ∈ segments.head?, ¬ segment.IsLiteral) :
    textOf segments = [] ∨ ∃ rest, textOf segments = '[' :: '[' :: rest := by
  cases segments with
  | nil => exact .inl rfl
  | cons segment later =>
    cases segment with
    | literal text => exact absurd ⟨text, rfl⟩ (begun _ rfl)
    | slot name =>
      refine .inr ⟨name.toList ++ [']', ']'] ++ textOf later, ?_⟩
      rw [textOf, List.flatMap_cons, written_slot]
      rfl

/-- The slot that begins segments is not preceded by literal characters. -/
theorem headAndSegments_of_begun {characters : List Char} {segments : List Segment}
    (read : parse characters = segments)
    (begun : ∀ segment ∈ segments.head?, ¬ segment.IsLiteral) :
    headAndSegments characters = ([], segments) := by
  unfold parse afterLiteral at read
  cases head : (headAndSegments characters).1 with
  | nil =>
    simp only [head, List.isEmpty_nil, if_true] at read
    rw [← head, ← read]
  | cons character rest =>
    simp only [head, List.isEmpty_cons, Bool.false_eq_true, if_false] at read
    rw [← read] at begun
    exact absurd ⟨_, rfl⟩ (begun _ rfl)

/-- Canonical segments are what the text that they write is read as. -/
theorem parse_textOf {segments : List Segment} (canonical : Canonical segments) :
    parse (textOf segments) = segments := by
  induction segments with
  | nil => rw [textOf, List.flatMap_nil, parse, headAndSegments]; rfl
  | cons segment later ih =>
    obtain ⟨formed, begun, canonical⟩ := canonical_cons.mp canonical
    have rest : parse (textOf later) = later := ih canonical
    cases segment with
    | slot name =>
      have named : IsName name.toList := formed
      rw [textOf, List.flatMap_cons, written_slot, parse, headAndSegments_marker named,
        String.ofList_toList]
      exact congrArg (List.cons _) rest
    | literal text =>
      obtain ⟨filled, unmarked⟩ := formed
      have begun : ∀ next ∈ later.head?, ¬ next.IsLiteral := begun ⟨text, rfl⟩
      have read : headAndSegments (text.toList ++ textOf later) = (text.toList, later) := by
        rw [headAndSegments_literal unmarked (textOf_begun begun),
          headAndSegments_of_begun rest begun, List.append_nil]
      have characters : text.toList.isEmpty = false := by simpa using filled
      change parse (text.toList ++ textOf later) = _
      simp only [parse, read, afterLiteral, characters, String.ofList_toList, Bool.false_eq_true,
        if_false]

end Segment

namespace ValueTemplate

/-- Segments write the text of a template exactly when this is the template that they write. -/
theorem ofSegments_eq_iff (segments : List Segment) (template : ValueTemplate) :
    ofSegments segments = template ↔ Segment.textOf segments = template.source.toList := by
  have written : (ofSegments segments).source.toList = Segment.textOf segments := by
    rw [ofSegments, String.toList_join, List.flatMap_map, Segment.textOf]
  rw [← written, String.toList_inj, ValueTemplate.mk.injEq]

/-- The segments of a template are the canonical ones that write it. -/
theorem segments_eq_iff (template : ValueTemplate) (segments : List Segment) :
    template.segments = segments ↔
      Segment.Canonical segments ∧ ofSegments segments = template := by
  rw [ofSegments_eq_iff]
  constructor
  · rintro rfl
    exact ⟨Segment.parse_canonical _, Segment.textOf_parse _⟩
  · rintro ⟨canonical, same⟩
    rw [ValueTemplate.segments, ← same, Segment.parse_textOf canonical]

/-- The segments of a template are the one canonical list that writes it: its text is written back
from them, and every canonical list is the segments of the text that it writes. A slot is among them
wherever the text holds the marker of a name, and nowhere else; the segments on its two sides write
what is before the marker and what is after it. -/
theorem segments_exact (template : ValueTemplate) :
    (∀ segments, template.segments = segments ↔
      Segment.Canonical segments ∧ ofSegments segments = template) ∧
    ∀ before name after : String,
      (Segment.IsName name.toList ∧
        template.source = before ++ (Segment.slot name).written ++ after) ↔
      ∃ earlier later, template.segments = earlier ++ Segment.slot name :: later ∧
        ofSegments earlier = ⟨before⟩ ∧ ofSegments later = ⟨after⟩ := by
  refine ⟨template.segments_eq_iff, fun before name after => ?_⟩
  have around (earlier later : List Segment) :
      Segment.textOf (earlier ++ Segment.slot name :: later) =
        Segment.textOf earlier ++ (Segment.slot name).written.toList ++ Segment.textOf later := by
    simp [Segment.textOf]
  simp only [ofSegments_eq_iff]
  constructor
  · rintro ⟨named, source⟩
    refine ⟨Segment.parse before.toList, Segment.parse after.toList, ?_,
      Segment.textOf_parse _, Segment.textOf_parse _⟩
    rw [segments_eq_iff, ofSegments_eq_iff, around, Segment.textOf_parse, Segment.textOf_parse,
      source, String.toList_append, String.toList_append]
    exact ⟨(Segment.parse_canonical _).around named (Segment.parse_canonical _), rfl⟩
  · rintro ⟨earlier, later, read, left, right⟩
    obtain ⟨canonical, written⟩ := (template.segments_eq_iff _).mp read
    rw [ofSegments_eq_iff, around, left, right] at written
    have named : Segment.IsName name.toList :=
      canonical.formed (.slot name) (List.mem_append_right _ List.mem_cons_self)
    refine ⟨named, ?_⟩
    rw [← String.toList_inj, ← written, String.toList_append, String.toList_append]

/-- Brackets that overlap are cut where the innermost marker stands. -/
example : (⟨"[[a[[b]]-[[[c]]]"⟩ : ValueTemplate).segments =
    [.literal "[[a", .slot "b", .literal "-[", .slot "c", .literal "]"] := by decide +kernel

end ValueTemplate

end Switchboard
