import Mathlib.Data.List.TakeWhile
import Switchboard.Proofs.Registration.Keywords
/-!
# The rules for a set of commands

A set of commands is accepted exactly when it keeps the rules of `Validation.Acceptable`. They are
said of the set as a whole: that keywords and switches differ is a property of all of them together,
and what a command needs of its record type is a property of that command alone. So nothing in them
depends on an order, although the validator looks at one command after the other and collects the
keywords and the switches that it has seen.
-/
namespace Switchboard

namespace Text

/-- Nothing is left of a text without the blanks around it exactly when it is all blank. -/
theorem trim_isEmpty (text : String) :
    (trim text).isEmpty = true ↔ ∀ character ∈ text.toList, isBlank character = true := by
  have ends (characters : List Char) :
      dropEndBlanks characters = [] ↔ ∀ character ∈ characters, isBlank character = true := by
    rw [dropEndBlanks, List.reverse_eq_nil_iff, List.dropWhile_eq_nil_iff]
    simp only [List.mem_reverse]
  rw [trim, String.isEmpty_iff, ← String.toList_inj, String.toList_ofList]
  change dropEndBlanks _ = [] ↔ _
  rw [ends]
  constructor
  · intro blank
    cases rest : text.toList.dropWhile isBlank with
    | nil => exact List.dropWhile_eq_nil_iff.mp rest
    | cons first more =>
      have solid : isBlank first = false := by
        have head := List.head?_dropWhile_not isBlank text.toList
        rw [rest] at head
        simpa using head
      rw [blank first (by rw [rest]; exact List.mem_cons_self)] at solid
      contradiction
  · intro blank character member
    exact blank character ((List.dropWhile_sublist _).mem member)

end Text

namespace Template

/-- The words that the keywords of a template join. -/
def leading : Template → List String
  | fixed template => FixedTemplate.leadingLiterals template.words
  | switched template => template.keywords

/-- The keywords of a template are its leading words, joined. -/
theorem keyword_eq (template : Template) : template.keyword = " ".intercalate template.leading := by
  cases template with
  | fixed template => rfl
  | switched template => rfl

/-- The leading words of a template are words. -/
theorem leading_isWord (template : Template) :
    ∀ word ∈ template.leading, Text.IsWord word.toList := by
  cases template with
  | fixed template => exact template.leadingLiterals_isWord
  | switched template => exact fun word member => Text.words_isWord member

/-- The keywords of a template are empty when they are blank. -/
theorem trim_keyword_isEmpty (template : Template) :
    (Text.trim template.keyword).isEmpty = false ↔ template.keyword ≠ "" := by
  rw [Bool.eq_false_iff, Ne, Text.trim_isEmpty, not_iff_not]
  constructor
  · intro blank
    rw [keyword_eq] at blank ⊢
    cases words : template.leading with
    | nil => rfl
    | cons first more =>
      have solid := template.leading_isWord first (by rw [words]; exact List.mem_cons_self)
      obtain ⟨character, rest, split⟩ := List.exists_cons_of_ne_nil solid.filled
      have inside : character ∈ (" ".intercalate template.leading).toList := by
        rw [words, String.toList_intercalate]
        cases more <;> simp [split]
      have bare := solid.solid character (by rw [split]; exact List.mem_cons_self)
      rw [blank character inside] at bare
      contradiction
  · intro empty
    rw [empty]
    exact fun character member => absurd member List.not_mem_nil

end Template

/-- A template takes the name of the help: a fixed one if its keywords are that name in any letter
case, for so they match, and a switched one if its only word is that name as it stands. -/
def Template.TakesHelp : Template → Prop
  | .fixed template => Text.InAnyCase template.keyword helpName
  | .switched template => template.keywords = [helpName]

/-- The validator finds out which templates take the name of the help. -/
theorem Validation.claimsHelp_iff (template : Template) :
    claimsHelp template = true ↔ template.TakesHelp := by
  cases template with
  | fixed template =>
    have letters : (helpName.toList.all fun letter => decide (Text.Plain letter)) = true := by
      decide +kernel
    rw [claimsHelp, decide_eq_true_eq]
    refine Text.lowerCase_eq_iff (fun letter member => ?_) template.keyword
    exact of_decide_eq_true (List.all_eq_true.mp letters letter member)
  | switched template =>
    rw [claimsHelp, decide_eq_true_eq, Template.TakesHelp]
    constructor
    · intro joined
      refine Text.intercalate_injective (fun word member => Text.words_isWord member) ?_
        (joined.trans String.intercalate_singleton.symm)
      have solid : (helpName.toList.any Text.isBlank) = false := by decide
      refine List.forall_mem_singleton.mpr ⟨by decide, fun character member => ?_⟩
      exact eq_false_of_ne_true (List.any_eq_false.mp solid character member)
    · intro only
      rw [only, String.intercalate_singleton]

/-- A command uses the fields of its record type as they are declared. -/
def Declaration.Sound (declaration : Declaration) : Prop :=
  match declaration.template with
  | .fixed template => ∀ slot ∈ template.slots, declaration.descriptor.Declares .scalar slot
  | .switched template => template.Sound declaration.descriptor

namespace Validation

variable {command : String} {descriptor : Descriptor} {reserved : Bool}

/-- The rules for a set of commands, beside a help command or without one. -/
structure Acceptable (reserved : Bool) (declarations : List Declaration) : Prop where
  /-- There is a command. -/
  filled : declarations ≠ []
  /-- No command takes the name of the help, where there is one. -/
  unreserved : reserved = true → ∀ declaration ∈ declarations, ¬ declaration.template.TakesHelp
  /-- Every command has keywords. -/
  keyed : ∀ declaration ∈ declarations, declaration.template.keyword ≠ ""
  /-- No two commands have the same keywords, of whatever kind they are. -/
  distinct : (declarations.map fun declaration => declaration.template.keyword).Nodup
  /-- Every command uses its fields as they are declared. -/
  sound : ∀ declaration ∈ declarations, declaration.Sound

/-! ## Rules on one command -/

/-- A parameter that fits the record type has no defect. -/
theorem kindDefect?_of_fits {parameter : Parameter} (fits : parameter.Fits descriptor) :
    kindDefect? command descriptor parameter = none := by
  cases fits with
  | flag kind once optional declared =>
    have shown := Descriptor.shape?_eq_bool_iff.mpr declared
    simp [kindDefect?, kind, flagDefect?, once, optional, shown]
  | @scalars template kind slots plain once declared =>
    have fit : slotDefect? command descriptor .scalar template.slots = none :=
      (slotDefect?_none _ _).mpr declared
    simp [kindDefect?, kind, valuedDefect?, slots, plain, once, fit]
  | @lists template kind slots plain again declared =>
    have fit : slotDefect? command descriptor .scalarList template.slots = none :=
      (slotDefect?_none _ _).mpr declared
    simp [kindDefect?, kind, valuedDefect?, slots, plain, again, fit]
  | @nested template field typeName fields kind slots inner once holder declared =>
    have held : fieldDefect? command descriptor .composite field = none :=
      (fieldDefect?_none _ _).mpr ⟨_, holder, .composite typeName fields⟩
    have fit : slotDefect? command ⟨typeName, fields⟩ .scalar template.slots = none :=
      (slotDefect?_none _ _).mpr declared
    simp [kindDefect?, kind, valuedDefect?, slots, inner, once, held, Descriptor.nested?, holder,
      fit]
  | @elements template field typeName fields kind slots inner again holder declared =>
    have held : fieldDefect? command descriptor .compositeList field = none :=
      (fieldDefect?_none _ _).mpr ⟨_, holder, .compositeList typeName fields⟩
    have fit : slotDefect? command ⟨typeName, fields⟩ .scalar template.slots = none :=
      (slotDefect?_none _ _).mpr declared
    simp [kindDefect?, kind, valuedDefect?, slots, inner, again, held, Descriptor.nested?, holder,
      fit]

/-- Parameters have no defect exactly when their switches differ from each other and from those
taken, and each of them fits the record type. -/
theorem parameterDefect?_none_iff (taken : List String) (parameters : List Parameter) :
    parameterDefect? command descriptor taken parameters = none ↔
      ((parameters.flatMap switchesOf).Nodup ∧
        ∀ switch ∈ parameters.flatMap switchesOf, switch ∉ taken) ∧
        ∀ parameter ∈ parameters, parameter.Fits descriptor := by
  refine ⟨parameterDefect?_none taken parameters, ?_⟩
  induction parameters generalizing taken with
  | nil => exact fun _ => rfl
  | cons parameter rest ih =>
    rintro ⟨⟨distinct, fresh⟩, fits⟩
    rw [List.flatMap_cons, List.nodup_append] at distinct
    rw [List.flatMap_cons] at fresh
    obtain ⟨own, later, apart⟩ := distinct
    obtain ⟨fit, fits⟩ := List.forall_mem_cons.mp fits
    simp only [parameterDefect?, Option.or_eq_none_iff, Option.map_eq_none_iff,
      takenSwitch?_none]
    refine ⟨⟨own, fun switch member => fresh switch (List.mem_append_left _ member)⟩,
      kindDefect?_of_fits fit, ih _ ⟨⟨later, fun switch member => ?_⟩, fits⟩⟩
    rw [List.mem_append, not_or]
    exact ⟨fun mine => apart switch mine switch member rfl,
      fresh switch (List.mem_append_right _ member)⟩

/-- A command uses its fields without a defect exactly when it is sound. -/
theorem contentDefect?_none (declaration : Declaration) :
    contentDefect? declaration = none ↔ declaration.Sound := by
  unfold contentDefect? Declaration.Sound
  cases declaration.template with
  | fixed template => exact slotDefect?_none _ _
  | switched template =>
    refine (parameterDefect?_none_iff [] template.parameters).trans ?_
    constructor
    · rintro ⟨⟨distinct, _⟩, fits⟩
      exact ⟨distinct, fits⟩
    · rintro ⟨distinct, fits⟩
      exact ⟨⟨distinct, fun _ _ => List.not_mem_nil⟩, fits⟩

/-! ## Rules on all commands -/

/-- Commands have no defect after others exactly when they keep the rules and none of them has the
keywords of an earlier one. -/
theorem commandsDefect?_none (reserved : Bool) (earlier : List String)
    (declarations : List Declaration) :
    commandsDefect? reserved earlier declarations = none ↔
      (∀ declaration ∈ declarations,
        (reserved && claimsHelp declaration.template) = false ∧
          declaration.template.keyword ≠ "" ∧ declaration.template.keyword ∉ earlier ∧
          declaration.Sound) ∧
        (declarations.map fun declaration => declaration.template.keyword).Nodup := by
  induction declarations generalizing earlier with
  | nil => simp [commandsDefect?]
  | cons first rest ih =>
    rw [commandsDefect?, Option.or_eq_none_iff, commandDefect?_none, ih, List.forall_mem_cons,
      List.map_cons, List.nodup_cons, Template.trim_keyword_isEmpty, contentDefect?_none]
    have unlike : first.template.keyword ∉
        rest.map (fun declaration => declaration.template.keyword) ↔
        ∀ declaration ∈ rest, declaration.template.keyword ≠ first.template.keyword := by
      simp [List.mem_map]
    rw [unlike]
    simp only [List.mem_cons, not_or]
    constructor
    · rintro ⟨own, others, distinct⟩
      refine ⟨⟨own, fun declaration member => ?_⟩, fun declaration member => ?_, distinct⟩
      · obtain ⟨free, keyed, ⟨_, fresh⟩, sound⟩ := others declaration member
        exact ⟨free, keyed, fresh, sound⟩
      · exact (others declaration member).2.2.1.1
    · rintro ⟨⟨own, others⟩, apart, distinct⟩
      refine ⟨own, fun declaration member => ?_, distinct⟩
      obtain ⟨free, keyed, fresh, sound⟩ := others declaration member
      exact ⟨free, keyed, ⟨apart declaration member, fresh⟩, sound⟩

/-- A set of commands has no defect exactly when it keeps the rules. -/
theorem defect?_none (reserved : Bool) (declarations : List Declaration) :
    defect? reserved declarations = none ↔ Acceptable reserved declarations := by
  unfold defect?
  by_cases filled : declarations = []
  · rw [if_pos (by rw [filled]; rfl)]
    constructor
    · intro absent
      cases absent
    · intro acceptable
      exact absurd filled acceptable.filled
  · rw [if_neg (by simpa using filled), commandsDefect?_none]
    constructor
    · rintro ⟨each, distinct⟩
      refine ⟨filled, ?_, fun declaration member => (each declaration member).2.1, distinct,
        fun declaration member => (each declaration member).2.2.2⟩
      rintro rfl declaration member
      rw [← claimsHelp_iff, Bool.not_eq_true]
      exact (each declaration member).1
    · rintro ⟨_, unreserved, keyed, distinct, sound⟩
      refine ⟨fun declaration member => ⟨?_, keyed declaration member, List.not_mem_nil,
        sound declaration member⟩, distinct⟩
      cases reserved with
      | false => rfl
      | true =>
        rw [Bool.true_and, ← Bool.not_eq_true, claimsHelp_iff]
        exact unreserved rfl declaration member

end Validation

end Switchboard
