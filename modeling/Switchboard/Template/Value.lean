/-!
# Value templates

The value of a switch is described by literal text with slots in it, as in `[[Name]]=[[Value]]`.
A slot is two opening brackets, a name without an opening bracket, and the first two closing
brackets after it. Whatever is no slot is literal.
-/
namespace Switchboard

/-- A part of a value template. -/
inductive Segment where
  | literal (text : String)
  | slot (name : String)
  deriving DecidableEq, Repr

namespace Segment

/-- A segment as it is written. -/
def written : Segment → String
  | literal text => text
  | slot name => "[[" ++ name ++ "]]"

/-- The name of the slot before the first two closing brackets, and what comes after them, unless
an opening bracket stands in between. -/
def slotName : List Char → Option (List Char × List Char)
  | [] => none
  | ']' :: ']' :: rest => some ([], rest)
  | '[' :: _ => none
  | character :: rest => (slotName rest).map fun (name, after) => (character :: name, after)

/-- The name of the slot that begins here, and what comes after the slot. -/
def slotAhead : List Char → Option (List Char × List Char)
  | '[' :: '[' :: rest => slotName rest
  | _ => none

/-- What comes after a slot name is shorter than what the name is read from. -/
theorem slotName_shorter {characters name after : List Char}
    (found : slotName characters = some (name, after)) : after.length < characters.length := by
  fun_induction slotName characters generalizing name after with
  | case1 => cases found
  | case2 rest =>
    cases found
    simp only [List.length_cons]
    omega
  | case3 => cases found
  | case4 character rest _ _ inner =>
    simp only [Option.map_eq_some_iff] at found
    obtain ⟨⟨innerName, innerAfter⟩, read, same⟩ := found
    cases same
    have shorter := inner read
    simp only [List.length_cons]
    omega

/-- What comes after a slot is shorter than what the slot is read from. -/
theorem slotAhead_shorter {characters name after : List Char}
    (found : slotAhead characters = some (name, after)) : after.length < characters.length := by
  unfold slotAhead at found
  split at found
  · have shorter := slotName_shorter found
    simp only [List.length_cons]
    omega
  · cases found

/-- Put literal characters, if there are any, before segments. -/
def afterLiteral (characters : List Char) (segments : List Segment) : List Segment :=
  if characters.isEmpty then segments else literal (String.ofList characters) :: segments

/-- The literal characters before the first slot, and the segments from that slot on. -/
def headAndSegments (characters : List Char) : List Char × List Segment :=
  match _found : slotAhead characters with
  | some (name, after) =>
    let (head, later) := headAndSegments after
    ([], slot (String.ofList name) :: afterLiteral head later)
  | none => match characters with
    | [] => ([], [])
    | character :: rest =>
      let (head, later) := headAndSegments rest
      (character :: head, later)
termination_by characters.length
decreasing_by
  · exact slotAhead_shorter _found
  · simp

/-- The segments of a character list. -/
def parse (characters : List Char) : List Segment :=
  let (head, later) := headAndSegments characters
  afterLiteral head later

end Segment

/-- The description of a switch value, as it was written. -/
structure ValueTemplate where
  /-- The text of the template. -/
  source : String
  deriving DecidableEq, Repr

namespace ValueTemplate

/-- The template that segments write. -/
def ofSegments (segments : List Segment) : ValueTemplate :=
  ⟨String.join (segments.map Segment.written)⟩

/-- The parts of a value template. -/
def segments (template : ValueTemplate) : List Segment := Segment.parse template.source.toList

/-- The names of the slots, in order. -/
def slots (template : ValueTemplate) : List String :=
  template.segments.filterMap fun segment => match segment with
    | .literal _ => none
    | .slot name => some name

end ValueTemplate

end Switchboard
