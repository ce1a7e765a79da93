import Switchboard.Validation.Defect
/-!
# Checks and the places of what they find

What a validator finds wrong has a place: the number of a command, then the number of a rule, and
for rules on slots and parameters the number of the slot or parameter and so on. Places are compared
number by number, as words are in a dictionary. A check decides what can be wrong when it finds the
first of it (`Validation.Decides`). Checks made one after the other are put together by
`Decides.step`, whether they are for the rules on one thing or for a list of things
(`Decides.along_cons`).
-/
namespace Switchboard

namespace Validation

/-! ## Places -/

/-- Where a rule applies, as numbers from the outside to the inside. -/
abbrev Place := List Nat

/-- A defect is that of the breach at the first place. -/
def IsFirst (breach : Place → Defect → Prop) (defect : Defect) : Prop :=
  ∃ place, breach place defect ∧ ∀ earlier other, breach earlier other → ¬ earlier < place

/-- Breaches that follow those numbered zero, each numbered one less. -/
def behind (breach : Place → Defect → Prop) : Place → Defect → Prop
  | [], _ => False
  | number :: place, defect => breach ((number + 1) :: place) defect

section Numbered

variable {breach : Place → Defect → Prop} {defect : Defect}

/-- Places that begin with the same number are compared without it. -/
theorem cons_lt_same {number : Nat} {place other : Place} :
    number :: place < number :: other ↔ place < other := by
  rw [List.cons_lt_cons_iff]
  constructor
  · rintro (less | ⟨_, less⟩)
    · exact absurd less (Nat.lt_irrefl number)
    · exact less
  · exact fun less => .inr ⟨rfl, less⟩

/-- Places are compared in the same way when both first numbers are raised. -/
theorem succ_cons_lt {number number' : Nat} {place other : Place} :
    (number + 1) :: place < (number' + 1) :: other ↔ number :: place < number' :: other := by
  rw [List.cons_lt_cons_iff, List.cons_lt_cons_iff, Nat.add_lt_add_iff_right,
    Nat.add_right_cancel_iff]

/-- A breach numbered zero is before all others. -/
theorem isFirst_zero (rooted : ∀ defect, ¬ breach [] defect)
    (present : ∃ place defect, breach (0 :: place) defect) :
    IsFirst breach defect ↔ IsFirst (fun place defect => breach (0 :: place) defect) defect := by
  constructor
  · rintro ⟨place, own, first⟩
    match place with
    | [] => exact absurd own (rooted defect)
    | 0 :: place =>
      exact ⟨place, own, fun earlier other broken less =>
        first _ other broken (cons_lt_same.mpr less)⟩
    | (number + 1) :: place =>
      obtain ⟨zeroth, other, broken⟩ := present
      exact absurd (List.cons_lt_cons_iff.mpr (.inl (Nat.succ_pos number)))
        (first _ other broken)
  · rintro ⟨place, own, first⟩
    refine ⟨0 :: place, own, fun earlier other broken less => ?_⟩
    match earlier with
    | [] => exact rooted other broken
    | 0 :: earlier => exact first earlier other broken (cons_lt_same.mp less)
    | (number + 1) :: earlier =>
      rcases List.cons_lt_cons_iff.mp less with less | ⟨same, _⟩
      · exact absurd less (Nat.not_lt_zero _)
      · exact absurd same (Nat.succ_ne_zero number)

/-- Where no breach is numbered zero, the first is that of the others. -/
theorem isFirst_behind (rooted : ∀ defect, ¬ breach [] defect)
    (absent : ∀ place defect, ¬ breach (0 :: place) defect) :
    IsFirst breach defect ↔ IsFirst (behind breach) defect := by
  constructor
  · rintro ⟨place, own, first⟩
    match place with
    | [] => exact absurd own (rooted defect)
    | 0 :: place => exact (absent place defect own).elim
    | (number + 1) :: place =>
      refine ⟨number :: place, own, fun earlier other broken less => ?_⟩
      match earlier with
      | [] => exact broken
      | number' :: earlier => exact first _ other broken (succ_cons_lt.mpr less)
  · rintro ⟨place, own, first⟩
    match place with
    | [] => exact own.elim
    | number :: place =>
      refine ⟨(number + 1) :: place, own, fun earlier other broken less => ?_⟩
      match earlier with
      | [] => exact rooted other broken
      | 0 :: earlier => exact absent earlier other broken
      | (number' + 1) :: earlier =>
        exact first (number' :: earlier) other broken (succ_cons_lt.mp less)

end Numbered

/-! ## Checks -/

/-- A check decides breaches: it finds none exactly when there is none, and a defect exactly when it
is that of the first. -/
structure Decides (breach : Place → Defect → Prop) (found : Option Defect) : Prop where
  /-- Nothing is found exactly when nothing is wrong. -/
  nothing : found = none ↔ ∀ place defect, ¬ breach place defect
  /-- What is found is the first defect. -/
  first : ∀ defect, found = some defect ↔ IsFirst breach defect

namespace Decides

variable {breach : Place → Defect → Prop} {found later : Option Defect}

/-- A check decides whatever is the same breaches. -/
theorem of_iff {other : Place → Defect → Prop}
    (same : ∀ place defect, breach place defect ↔ other place defect)
    (decides : Decides other found) : Decides breach found := by
  have equal : breach = other := by
    funext place defect
    exact propext (same place defect)
  rw [equal]
  exact decides

/-- Nothing is to be found where nothing can be wrong. -/
theorem never (sound : ∀ place defect, ¬ breach place defect) : Decides breach none where
  nothing := ⟨fun _ => sound, fun _ => rfl⟩
  first defect := by
    constructor
    · intro absent
      cases absent
    · rintro ⟨place, broken, _⟩
      exact absurd broken (sound place defect)

/-- A check of one rule decides its breaches. -/
theorem single (alone : ∀ place defect, breach place defect → place = [])
    (tells : ∀ defect, found = some defect ↔ breach [] defect) : Decides breach found where
  nothing := by
    rw [Option.eq_none_iff_forall_ne_some]
    constructor
    · intro absent place defect broken
      rw [alone place defect broken] at broken
      exact absent defect ((tells defect).mpr broken)
    · exact fun sound defect present => sound [] defect ((tells defect).mp present)
  first defect := by
    rw [tells]
    constructor
    · exact fun broken => ⟨[], broken, fun earlier _ _ => List.not_lt_nil earlier⟩
    · rintro ⟨place, broken, _⟩
      rwa [alone place defect broken] at broken

/-- A check of one rule that has one defect decides its breaches. -/
theorem test {condition : Prop} [Decidable condition] {defect : Defect}
    (tells : ∀ place other, breach place other ↔ place = [] ∧ condition ∧ defect = other) :
    Decides breach (if condition then some defect else none) := by
  refine single (fun place other broken => ((tells place other).mp broken).1) fun other => ?_
  rw [tells, Option.ite_none_right_eq_some, Option.some.injEq]
  exact ⟨fun holds => ⟨rfl, holds⟩, fun holds => holds.2⟩

/-- A check that goes on where the one before it found nothing decides the breaches of both. -/
theorem step (rooted : ∀ defect, ¬ breach [] defect)
    (zeroth : Decides (fun place defect => breach (0 :: place) defect) found)
    (others : found = none → Decides (behind breach) later) : Decides breach (found.or later) := by
  cases outcome : found with
  | some defect =>
    have wrong : ∃ place defect, breach (0 :: place) defect := by
      obtain ⟨place, broken, _⟩ := (zeroth.first defect).mp outcome
      exact ⟨place, defect, broken⟩
    rw [Option.some_or, ← outcome]
    refine ⟨?_, fun defect => (zeroth.first defect).trans (isFirst_zero rooted wrong).symm⟩
    constructor
    · intro absent
      rw [absent] at outcome
      cases outcome
    · intro sound
      obtain ⟨place, defect, broken⟩ := wrong
      exact absurd broken (sound _ defect)
  | none =>
    have sound := zeroth.nothing.mp outcome
    have rest := others outcome
    rw [Option.none_or]
    refine ⟨rest.nothing.trans ?_,
      fun defect => (rest.first defect).trans (isFirst_behind rooted sound).symm⟩
    constructor
    · intro right place defect broken
      match place with
      | [] => exact rooted defect broken
      | 0 :: place => exact sound place defect broken
      | (number + 1) :: place => exact right (number :: place) defect broken
    · intro right place defect broken
      match place with
      | [] => exact broken
      | number :: place => exact right _ defect broken

/-- A check that is the last decides all breaches there are. -/
theorem last (rooted : ∀ defect, ¬ breach [] defect)
    (ended : ∀ number place defect, ¬ breach ((number + 1) :: place) defect)
    (zeroth : Decides (fun place defect => breach (0 :: place) defect) found) :
    Decides breach found := by
  have beyond : ∀ place defect, ¬ behind breach place defect := by
    intro place defect broken
    cases place with
    | nil => exact broken
    | cons number place => exact ended number place defect broken
  rw [← Option.or_none (o := found)]
  exact .step rooted zeroth fun _ => .never beyond

end Decides

/-! ## Rules for each of a list -/

section Along

variable {α : Type} {breach : List α → α → Place → Defect → Prop} {earlier rest : List α}
  {element : α} {found later : Option Defect}

/-- What is wrong with the elements of a list, which may depend on the elements before it. -/
inductive Along (breach : List α → α → Place → Defect → Prop) (earlier elements : List α) :
    Place → Defect → Prop where
  /-- Something is wrong with the element of a number. -/
  | element {number : Nat} {element : α} {place : Place} {defect : Defect}
      (stands : elements[number]? = some element)
      (broken : breach (earlier ++ elements.take number) element place defect) :
      Along breach earlier elements (number :: place) defect

/-- No elements have no breach. -/
theorem Decides.along_nil : Decides (Along breach earlier []) none := by
  refine .never fun place defect broken => ?_
  cases broken with
  | element stands => cases stands

/-- A list is checked element by element. -/
theorem Decides.along_cons (own : Decides (breach earlier element) found)
    (others : Decides (Along breach (earlier ++ [element]) rest) later) :
    Decides (Along breach earlier (element :: rest)) (found.or later) := by
  refine .step (fun defect broken => by cases broken) ?_ fun _ => ?_
  · refine own.of_iff fun place defect => ⟨fun broken => ?_, fun broken => .element rfl ?_⟩
    · cases broken with
      | element stands broken =>
        cases stands
        rwa [List.take_zero, List.append_nil] at broken
    · rwa [List.take_zero, List.append_nil]
  · refine others.of_iff fun place defect => ⟨fun broken => ?_, fun broken => ?_⟩
    · match place with
      | [] => exact broken.elim
      | number :: place =>
        cases broken with
        | element stands broken =>
          refine .element stands ?_
          rwa [List.append_assoc]
    · cases broken with
      | element stands broken =>
        refine .element stands ?_
        rwa [List.append_assoc] at broken

end Along

end Validation

end Switchboard
