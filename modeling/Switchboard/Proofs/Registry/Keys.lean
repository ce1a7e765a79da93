import Mathlib.Data.List.Forall2
import Switchboard.Registry.Loading
/-!
# Keys of commands and parameters

A key of a table stands for a member by its name or by its place (`Document.StandsFor`). A command
or a parameter is refused with a key that is foreign to its members, so a command that is given with
members of both kinds of commands is refused, too (`CommandSpec.load_none_of_foreign`). Only a list,
or a table with the place of the first member among its keys, is a command of both kinds
(`CommandSpec.startsByPlace_of_both`).
-/
namespace Switchboard

/-- Inputs are read into outputs, one by one. -/
theorem mapM_some_iff {α β : Type} {read : α → Option β} {inputs : List α} {outputs : List β} :
    inputs.mapM read = some outputs ↔
      List.Forall₂ (fun input output => read input = some output) inputs outputs := by
  induction inputs generalizing outputs with
  | nil =>
    rw [List.mapM_nil, List.forall₂_nil_left_iff]
    exact ⟨fun same => (Option.some.inj same).symm, fun none => none ▸ rfl⟩
  | cons input rest ih =>
    rw [List.mapM_cons, List.forall₂_cons_left_iff]
    constructor
    · intro all
      obtain ⟨output, first, all⟩ := Option.bind_eq_some_iff.mp all
      obtain ⟨later, others, same⟩ := Option.bind_eq_some_iff.mp all
      exact ⟨output, later, first, ih.mp others, (Option.some.inj same).symm⟩
    · rintro ⟨output, later, first, others, rfl⟩
      rw [first, ih.mpr others]
      rfl

/-- What stands on one side of paired lists is paired with something on the other side. -/
theorem exists_of_forall₂ {α β : Type} {Paired : α → β → Prop} {lefts : List α} {rights : List β}
    (paired : List.Forall₂ Paired lefts rights) {left : α} (among : left ∈ lefts) :
    ∃ right ∈ rights, Paired left right := by
  induction paired with
  | nil => cases among
  | @cons first second lefts rights here _ ih =>
    rcases List.mem_cons.mp among with rfl | among
    · exact ⟨second, List.mem_cons_self, here⟩
    · obtain ⟨right, member, pair⟩ := ih among
      exact ⟨right, List.mem_cons_of_mem _ member, pair⟩

namespace Document

/-! ## Keys -/

/-- A document stands for a text exactly when that is its meaning. -/
theorem text?_eq_some_iff {document : Document} {value : String} :
    document.text? = some value ↔ document.meaning? = some (.text value) := by
  unfold text?
  cases document.meaning? with
  | none => exact ⟨nofun, nofun⟩
  | some meaning =>
    cases meaning with
    | text other =>
      exact ⟨fun same => congrArg _ (congrArg _ (Option.some.inj same)),
        fun same => congrArg _ (Meaning.text.inj (Option.some.inj same))⟩
    | nothing | truth | natural | number => exact ⟨nofun, nofun⟩

/-- A key stands for one of some names: it is the name, or it is the place of the name, counted from
zero. -/
def StandsFor (names : List String) (key : Document) (name : String) : Prop :=
  (key.text? = some name ∧ name ∈ names) ∨
    ∃ place, key.meaning? = some (.natural place) ∧ names[place]? = some name

/-- A key stands for none of some names. -/
def IsForeign (names : List String) (key : Document) : Prop := ∀ name, ¬ key.StandsFor names name

/-- The name that a key stands for is found. -/
theorem join_nameAmong?_iff {names : List String} {key : Document} {name : String} :
    (key.nameAmong? names).join = some name ↔ key.StandsFor names name := by
  unfold StandsFor nameAmong?
  rw [text?_eq_some_iff]
  cases key.meaning? with
  | none => simp
  | some meaning =>
    cases meaning with
    | text value =>
      by_cases known : value ∈ names
      · simp only [List.contains_iff_mem, if_pos known, Option.join_some, Option.some.injEq,
          Meaning.text.injEq, reduceCtorEq, false_and, exists_false, or_false]
        exact ⟨fun same => ⟨same, same ▸ known⟩, And.left⟩
      · simp only [List.contains_iff_mem, if_neg known, Option.join_some, Option.some.injEq,
          Meaning.text.injEq, reduceCtorEq, false_and, exists_false, or_false, false_iff]
        rintro ⟨rfl, member⟩
        exact known member
    | natural place => simp
    | nothing | truth | number => simp

/-- A text that is none of some names is foreign to them. -/
theorem isForeign_of_text {names : List String} {key : Document} {name : String}
    (named : key.text? = some name) (absent : name ∉ names) : key.IsForeign names := by
  rintro other (⟨same, member⟩ | ⟨place, stands, _⟩)
  · rw [named, Option.some.injEq] at same
    exact absent (same ▸ member)
  · rw [text?_eq_some_iff, stands] at named
    cases named

/-! ## Members -/

section Named

variable {nameOf : Document → Option String} {entries : List (Document × Document)}
  {members : List (String × Document)}

/-- Members are entries, each under the name of its key, if all of these are different. -/
theorem named_iff : named nameOf entries = some members ↔
    List.Forall₂ (fun entry member => nameOf entry.1 = some member.1 ∧ entry.2 = member.2) entries
      members ∧ (members.map Prod.fst).Nodup := by
  have called : ∀ (entry : Document × Document) (member : String × Document),
      ((nameOf entry.1).map fun name => (name, entry.2)) = some member ↔
        nameOf entry.1 = some member.1 ∧ entry.2 = member.2 := by
    intro entry member
    rw [Option.map_eq_some_iff]
    constructor
    · rintro ⟨name, found, rfl⟩
      exact ⟨found, rfl⟩
    · rintro ⟨found, same⟩
      exact ⟨member.1, found, Prod.ext rfl same⟩
  simp only [named, Option.bind_eq_bind, Option.bind_eq_some_iff, mapM_some_iff, called,
    Option.ite_none_right_eq_some, Option.some.injEq]
  constructor
  · rintro ⟨found, each, distinct, rfl⟩
    exact ⟨each, distinct⟩
  · rintro ⟨each, distinct⟩
    exact ⟨members, each, distinct, rfl⟩

variable (read : named nameOf entries = some members)

include read

/-- Every key has a name. -/
theorem exists_name {entry : Document × Document} (among : entry ∈ entries) :
    ∃ name, nameOf entry.1 = some name := by
  obtain ⟨member, _, called, _⟩ := exists_of_forall₂ (named_iff.mp read).1 among
  exact ⟨member.1, called⟩

/-- A member that is found is given by an entry. -/
theorem exists_entry {name : String} {value : Document} (found : members.lookup name = some value) :
    ∃ entry ∈ entries, nameOf entry.1 = some name ∧ entry.2 = value := by
  obtain ⟨before, after, split, _⟩ := List.lookup_eq_some_iff.mp found
  have member : (name, value) ∈ members :=
    split ▸ List.mem_append_right before List.mem_cons_self
  exact exists_of_forall₂ (named_iff.mp read).1.flip member

/-- What an entry gives is found. -/
theorem lookup_entry {entry : Document × Document} (among : entry ∈ entries) {name : String}
    (called : nameOf entry.1 = some name) : members.lookup name = some entry.2 := by
  obtain ⟨each, distinct⟩ := named_iff.mp read
  obtain ⟨⟨name', value⟩, member, called', same⟩ := exists_of_forall₂ each among
  obtain rfl : name = name' := Option.some.inj (called.symm.trans called')
  obtain ⟨before, after, rfl⟩ := List.append_of_mem member
  refine List.lookup_eq_some_iff.mpr ⟨before, after, by rw [same], fun earlier first => ?_⟩
  rw [List.map_append, List.map_cons, List.nodup_append] at distinct
  simpa using (distinct.2.2 earlier.1 (List.mem_map_of_mem first) name List.mem_cons_self).symm

end Named

/-- The members of a table are its entries, under the names that their keys stand for. -/
theorem members_table (names : List String) (tag : Option Tag)
    (entries : List (Document × Document)) : (table tag entries).members names =
      named (fun key => (key.nameAmong? names).join) entries := rfl

/-- No key of a table that has members is foreign to their names. -/
theorem not_isForeign {names : List String} {tag : Option Tag}
    {entries : List (Document × Document)} {members : List (String × Document)}
    (read : (table tag entries).members names = some members) {entry : Document × Document}
    (among : entry ∈ entries) : ¬ entry.1.IsForeign names := by
  rw [members_table] at read
  obtain ⟨name, called⟩ := exists_name read among
  exact fun foreign => foreign name (join_nameAmong?_iff.mp called)

end Document

/-! ## Parameters -/

/-- A parameter is refused with a key that stands for none of its members. -/
theorem ParameterSpec.load_none_of_foreign {tag : Option Tag}
    {entries : List (Document × Document)} {entry : Document × Document} (among : entry ∈ entries)
    (foreign : entry.1.IsForeign memberNames) : load (.table tag entries) = none := by
  refine Option.eq_none_iff_forall_ne_some.mpr fun spec loaded => ?_
  obtain ⟨members, read, _⟩ := Option.bind_eq_some_iff.mp loaded
  exact Document.not_isForeign read among foreign

/-! ## Commands -/

namespace CommandSpec

open Document

variable {document : Document} {tag : Option Tag} {entries : List (Document × Document)}
  {spec other : CommandSpec}

/-- A fixed command is loaded from its members. -/
theorem loadFixed_iff : loadFixed document = some spec ↔
    ∃ members template description fields, document.members fixedMemberNames = some members ∧
      requiredText members "template" = some template ∧
      optionalText members "description" = some description ∧
      loadCommandFields members = some fields ∧ fixed template description fields = spec := by
  simp only [loadFixed, Option.bind_eq_bind, Option.bind_eq_some_iff, Option.some.injEq,
    ← exists_and_left]

/-- A switched command is loaded from its members. -/
theorem loadSwitched_iff : loadSwitched document = some spec ↔
    ∃ members name description fields parameters,
      document.members switchedMemberNames = some members ∧
      requiredText members "name" = some name ∧
      optionalText members "description" = some description ∧
      loadCommandFields members = some fields ∧
      ParameterSpec.loadAll members = some parameters ∧
      switched name description fields parameters = spec := by
  simp only [loadSwitched, Option.bind_eq_bind, Option.bind_eq_some_iff, Option.some.injEq,
    ← exists_and_left]

/-- A document gives the first of its members by the place: it is a list, or a table with the number
zero among its keys. -/
def StartsByPlace : Document → Prop
  | .list _ _ => True
  | .table _ entries => ∃ entry ∈ entries, entry.1.meaning? = some (.natural 0)
  | .scalar _ _ _ => False

/-- Only a document that gives the first of its members by the place is a command of both kinds. -/
theorem startsByPlace_of_both (fixedly : loadFixed document = some spec)
    (switchedly : loadSwitched document = some other) : StartsByPlace document := by
  obtain ⟨members, _, _, _, read, required, _⟩ := loadFixed_iff.mp fixedly
  obtain ⟨members', _, _, _, _, read', _⟩ := loadSwitched_iff.mp switchedly
  cases document with
  | scalar manner tag value => cases read
  | list tag items => trivial
  | table tag entries =>
    obtain ⟨value, found, _⟩ := Option.bind_eq_some_iff.mp required
    rw [members_table] at read
    obtain ⟨entry, among, called, _⟩ := exists_entry read found
    refine ⟨entry, among, ?_⟩
    rcases join_nameAmong?_iff.mp called with ⟨named, _⟩ | ⟨place, meaning, placed⟩
    · -- A switched command has no template.
      exact absurd (isForeign_of_text named (by decide)) (not_isForeign read' among)
    · have places : ∀ place < 3, fixedMemberNames[place]? = some "template" → place = 0 := by
        decide
      have within : place < 3 := (List.getElem?_eq_some_iff.mp placed).1
      rw [meaning, places place within placed]

/-- A command that is not told by the place of its first member is the same, whichever of the two
kinds is tried first. -/
theorem load_comm (named : ¬ StartsByPlace document) :
    (loadFixed document).or (loadSwitched document) =
      (loadSwitched document).or (loadFixed document) := by
  cases fixedly : loadFixed document with
  | none => rw [Option.none_or, Option.or_none]
  | some spec =>
    cases switchedly : loadSwitched document with
    | none => rfl
    | some other => exact absurd (startsByPlace_of_both fixedly switchedly) named

/-- A command that is loaded is a fixed or a switched one. -/
theorem load_cases (loaded : load document = some spec) :
    loadFixed document = some spec ∨ loadSwitched document = some spec :=
  Option.or_eq_some_iff.mp (Option.ite_none_right_eq_some.mp loaded).2 |>.imp_right And.right

/-- A command is refused with a key that a fixed command does not have and a key that a switched
command does not have. -/
theorem load_none_of_foreign {entry entry' : Document × Document} (among : entry ∈ entries)
    (foreign : entry.1.IsForeign fixedMemberNames) (among' : entry' ∈ entries)
    (foreign' : entry'.1.IsForeign switchedMemberNames) : load (.table tag entries) = none := by
  refine Option.eq_none_iff_forall_ne_some.mpr fun spec loaded => ?_
  rcases load_cases loaded with fixedly | switchedly
  · obtain ⟨members, _, _, _, read, _⟩ := loadFixed_iff.mp fixedly
    exact not_isForeign read among foreign
  · obtain ⟨members, _, _, _, _, read, _⟩ := loadSwitched_iff.mp switchedly
    exact not_isForeign read among' foreign'

/-- A command is refused with a template and a name. -/
theorem load_none_of_template_and_name {entry entry' : Document × Document}
    (among : entry ∈ entries) (template : entry.1.text? = some "template")
    (among' : entry' ∈ entries) (name : entry'.1.text? = some "name") :
    load (.table tag entries) = none :=
  load_none_of_foreign among' (isForeign_of_text name (by decide)) among
    (isForeign_of_text template (by decide))

/-- A key that stands for the parameters of a switched command is foreign to a fixed one. -/
theorem isForeign_parameters {key : Document}
    (stands : key.StandsFor switchedMemberNames "parameters") : key.IsForeign fixedMemberNames := by
  rcases stands with ⟨named, _⟩ | ⟨place, meaning, placed⟩
  · exact isForeign_of_text named (by decide)
  · have places : ∀ place < 4, switchedMemberNames[place]? = some "parameters" → place = 3 := by
      decide
    have within : place < 4 := (List.getElem?_eq_some_iff.mp placed).1
    obtain rfl := places place within placed
    rintro name (⟨named, _⟩ | ⟨place, meaning', placed'⟩)
    · rw [text?_eq_some_iff, meaning] at named
      cases named
    · rw [meaning] at meaning'
      cases meaning'
      cases placed'

/-- A document is among the parameters of a command: they are a member of a table, or the last of
the four members that a list gives in order. -/
inductive Lists : Document → Document → Prop where
  | table {tag inner : Option Tag} {entries : List (Document × Document)} {key item : Document}
      {items : List Document} (among : (key, .list inner items) ∈ entries)
      (stands : key.StandsFor switchedMemberNames "parameters") (member : item ∈ items) :
      Lists (.table tag entries) item
  | list {tag inner : Option Tag} {name description fields item : Document} {items : List Document}
      (member : item ∈ items) :
      Lists (.list tag [name, description, fields, .list inner items]) item

/-- A command is refused with a parameter that is refused. -/
theorem load_none_of_parameter {item : Document} (lists : Lists document item)
    (refused : ParameterSpec.load item = none) : load document = none := by
  have unread : ∀ {members : List (String × Document)} {inner items},
      members.lookup "parameters" = some (.list inner items) → item ∈ items →
        ParameterSpec.loadAll members = none := by
    intro members inner items found member
    refine Option.eq_none_iff_forall_ne_some.mpr fun parameters all => ?_
    rw [ParameterSpec.loadAll, found] at all
    obtain ⟨parameter, _, loads⟩ := exists_of_forall₂ (mapM_some_iff.mp all) member
    rw [refused] at loads
    cases loads
  refine Option.eq_none_iff_forall_ne_some.mpr fun spec loaded => ?_
  cases lists with
  | table among stands member =>
    rcases load_cases loaded with fixedly | switchedly
    · obtain ⟨members, _, _, _, read, _⟩ := loadFixed_iff.mp fixedly
      exact not_isForeign read among (isForeign_parameters stands)
    · obtain ⟨members, _, _, _, _, read, _, _, _, all, _⟩ := loadSwitched_iff.mp switchedly
      rw [members_table] at read
      have found := lookup_entry read among (join_nameAmong?_iff.mpr stands)
      rw [unread found member] at all
      cases all
  | list member =>
    rcases load_cases loaded with fixedly | switchedly
    · -- A fixed command has three members.
      obtain ⟨members, _, _, _, read, _⟩ := loadFixed_iff.mp fixedly
      cases read
    · obtain ⟨members, _, _, _, _, read, _, _, _, all, _⟩ := loadSwitched_iff.mp switchedly
      cases read
      rw [unread rfl member] at all
      cases all

end CommandSpec

/-! ## Registries -/

/-- A registry is loaded from its members. -/
theorem Registry.load_table_iff {tag : Option Tag} {entries : List (Document × Document)}
    {registry : Registry} : load (.table tag entries) = some registry ↔
      ∃ members help exitCommand commands, Document.named nameOf? entries = some members ∧
        loadHelp members = some help ∧ loadExitCommand members = some exitCommand ∧
        loadCommands members = some commands ∧ ⟨help, exitCommand, commands⟩ = registry := by
  simp only [load, Option.bind_eq_bind, Option.bind_eq_some_iff, Option.some.injEq,
    ← exists_and_left]

/-- A document is among the commands of a registry. -/
inductive Registry.Lists : Document → Document → Prop where
  | table {tag inner : Option Tag} {entries : List (Document × Document)} {key item : Document}
      {items : List Document} (among : (key, .list inner items) ∈ entries)
      (called : nameOf? key = some "commands") (member : item ∈ items) :
      Lists (.table tag entries) item

/-- A registry is refused with a command that is refused. -/
theorem Registry.load_none_of_command {document item : Document} (lists : Lists document item)
    (refused : CommandSpec.load item = none) : load document = none := by
  refine Option.eq_none_iff_forall_ne_some.mpr fun registry loaded => ?_
  obtain ⟨among, called, member⟩ := lists
  obtain ⟨members, _, _, commands, read, _, _, all, _⟩ := load_table_iff.mp loaded
  rw [loadCommands, Document.lookup_entry read among called] at all
  obtain ⟨command, _, loads⟩ := exists_of_forall₂ (mapM_some_iff.mp all) member
  rw [refused] at loads
  cases loads

end Switchboard
