import Std.Data.TreeSet.Basic
import Switchboard.Template.Value

/-!
# Captures

A value fits a value template when it can be cut so that the literals stand where the template
has them; the slots capture what is in between. Of all the ways to cut, the one is taken in
which the first slot is as short as it can be and every later slot, in turn, as long as it can
be.

It is found by a search from the beginning of the value, which goes back to the latest slot that
can end elsewhere whenever the segments after it do not match. A slot is not tried where the
literal after it does not stand, the last slot takes what is left, and where segments did not
match is remembered, so that they are not tried there again.
-/
namespace Switchboard

/-- The bytes that characters take up. -/
def Text.size : List Char → Nat
  | [] => 0
  | character :: rest => character.utf8Size + size rest

/-- A place between two characters of a value. -/
structure Place where
  /-- The bytes before it. -/
  offset : Nat
  /-- The characters after it. -/
  rest : List Char
  deriving DecidableEq, Repr

namespace Place

/-- The place after a literal that stands here. -/
def after? (place : Place) (literal : List Char) : Option Place :=
  if literal.isPrefixOf place.rest then
    some ⟨place.offset + Text.size literal, place.rest.drop literal.length⟩
  else none

/-- All places from an offset on, the first first. -/
def onward (offset : Nat) : List Char → List Place
  | [] => [⟨offset, []⟩]
  | character :: rest =>
    ⟨offset, character :: rest⟩ :: onward (offset + character.utf8Size) rest

end Place

/-- A slot and the part of a value that it holds. -/
structure Cut where
  /-- The name of the slot. -/
  name : String
  /-- The value from the part on. -/
  start : List Char
  /-- The value after the part. -/
  stop : List Char

/-- The capture of a slot. -/
def Cut.capture (cut : Cut) : String × String :=
  (cut.name, String.ofList (cut.start.take (cut.start.length - cut.stop.length)))

/-- Numbers of segments left with offsets at which they do not match. -/
abbrev DeadEnds := Std.TreeSet (Nat × Nat) (compareLex (compareOn Prod.fst) (compareOn Prod.snd))

/-- A search for captures on its way. -/
structure Matcher where
  /-- The slots that are cut, the latest first. -/
  cuts : List Cut
  /-- Where segments did not match. -/
  deadEnds : DeadEnds

namespace Matcher

/-- The search before its first step. -/
def start : Matcher := ⟨[], ∅⟩

/-- Cut one more slot. -/
def push (matcher : Matcher) (cut : Cut) : Matcher :=
  { matcher with cuts := cut :: matcher.cuts }

/-- Take back the latest cut. -/
def pop (matcher : Matcher) : Matcher :=
  { matcher with cuts := matcher.cuts.tail }

/-- Remember a dead end. -/
def remember (matcher : Matcher) (deadEnd : Nat × Nat) : Matcher :=
  { matcher with deadEnds := matcher.deadEnds.insert deadEnd }

/-- The captures of the slots that are cut, in the order of the template. -/
def captures (matcher : Matcher) : List (String × String) :=
  matcher.cuts.reverse.map Cut.capture

/-- A slot may end before a slot or the end of the template, and before a literal where that
stands. -/
def canEnd (next : Option Segment) (place : Place) : Bool :=
  match next with
  | some (.literal text) => text.toList.isPrefixOf place.rest
  | _ => true

/-- The places at which a slot is tried to end, in order: the first slot of the template from the
shortest capture on, every later one from the longest. -/
def endsOf (rest : List Segment) (firstSlot : Bool) (start : Place) : List Place :=
  let ends := (Place.onward start.offset start.rest).filter (canEnd rest.head?)
  if firstSlot then ends else ends.reverse

/-- Let a slot end at one place after the other until the segments after it match. -/
def tryEnds (name : String) (start : Place) (matchRest : Place → Matcher → Bool × Matcher) :
    List Place → Matcher → Bool × Matcher
  | [], matcher => (false, matcher)
  | stop :: ends, matcher =>
    match matchRest stop (matcher.push ⟨name, start.rest, stop.rest⟩) with
    | (true, found) => (true, found)
    | (false, failed) => tryEnds name start matchRest ends failed.pop

/-- Match segments with the value from a place on, the first slot of the template being still to
come or not. -/
def matchSegments : List Segment → Place → Bool → Matcher → Bool × Matcher
  | [], place, _, matcher => (place.rest.isEmpty, matcher)
  | segment :: rest, place, firstSlot, matcher =>
    let deadEnd := (rest.length + 1, place.offset)
    if matcher.deadEnds.contains deadEnd then (false, matcher)
    else
      let (matched, after) := match segment with
        | .literal text => match place.after? text.toList with
          | some next => matchSegments rest next firstSlot matcher
          | none => (false, matcher)
        | .slot name =>
          if rest.isEmpty then (true, matcher.push ⟨name, place.rest, []⟩)
          else
            tryEnds name place (fun stop matcher => matchSegments rest stop false matcher)
              (endsOf rest firstSlot place) matcher
      (matched, if matched then after else after.remember deadEnd)

end Matcher

/-- What the slots of a template capture of a value, in template order, if the value fits. -/
def ValueTemplate.capture (template : ValueTemplate) (value : String) :
    Option (List (String × String)) :=
  let (matched, matcher) := Matcher.matchSegments template.segments ⟨0, value.toList⟩ true .start
  if matched then some matcher.captures else none

end Switchboard
