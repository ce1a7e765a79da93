import Switchboard.Proofs.Template.Captures
import Switchboard.Template.Fixed
/-!
# Names of captures

Whatever a template captures of a line or of a value, it captures for its own slots, one text for
each, in template order. The order is what the validator's check of the slots and the binder's
writes have in common.
-/
namespace Switchboard

namespace FixedTemplate

/-- The slots of some words. -/
def slotNames (words : List FixedWord) : List String :=
  words.filterMap fun word => match word with
    | .literal _ => none
    | .slot name => some name

/-- Words that match capture one token for each of their slots. -/
theorem matchWords_names {words : List FixedWord} {tokens : List String}
    {captures : List (String × String)} (matched : matchWords words tokens = some captures) :
    captures.map Prod.fst = slotNames words := by
  fun_induction matchWords words tokens generalizing captures with
  | case1 =>
    cases matched
    rfl
  | case2 text words token tokens _ ih => exact ih matched
  | case3 => contradiction
  | case4 name words token tokens ih =>
    obtain ⟨later, found, rfl⟩ := Option.map_eq_some_iff.mp matched
    rw [List.map_cons, ih found]
    rfl
  | case5 => contradiction

/-- A fixed template captures one token for each of its slots. -/
theorem capture_names {template : FixedTemplate} {tokens : List String}
    {captures : List (String × String)} (matched : template.capture tokens = some captures) :
    captures.map Prod.fst = template.slots := matchWords_names matched

/-- Whatever a fixed template captures, it captures for one of its slots. -/
theorem capture_mem {template : FixedTemplate} {tokens : List String}
    {captures : List (String × String)} (matched : template.capture tokens = some captures) :
    ∀ capture ∈ captures, capture.1 ∈ template.slots := by
  intro capture member
  rw [← capture_names matched]
  exact List.mem_map_of_mem member

end FixedTemplate

namespace ValueTemplate

/-- The slots of some segments. -/
def slotNames (segments : List Segment) : List String :=
  segments.filterMap fun segment => match segment with
    | .literal _ => none
    | .slot name => some name

/-- Captures that fill segments are captures of their slots. -/
theorem fills_names {segments : List Segment} {captures : List (String × String)}
    {value : List Char} (fills : Segment.Fills segments captures value) :
    captures.map Prod.fst = slotNames segments := by
  induction fills with
  | nil => rfl
  | literal text _ ih => exact ih
  | slot name text _ ih =>
    rw [List.map_cons, ih]
    rfl

/-- A value template captures one text for each of its slots. -/
theorem capture_names {template : ValueTemplate} {value : String}
    {captures : List (String × String)} (found : template.capture value = some captures) :
    captures.map Prod.fst = template.slots := fills_names (capture_least found).1

/-- Whatever a value template captures, it captures for one of its slots. -/
theorem capture_mem {template : ValueTemplate} {value : String}
    {captures : List (String × String)} (found : template.capture value = some captures) :
    ∀ capture ∈ captures, capture.1 ∈ template.slots := by
  intro capture member
  rw [← capture_names found]
  exact List.mem_map_of_mem member

end ValueTemplate

end Switchboard
