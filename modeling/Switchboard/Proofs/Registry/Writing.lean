import Switchboard.Proofs.Record.Directories
import Switchboard.Proofs.Registry.Keys
import Switchboard.Registry.Writing
/-!
# Members that are written

What is written has texts for keys, under which stand the members that are not left out
(`Document.given`). All of it is meaningful, a member that was written is found under its name, and
one that was left out is not found (`Document.lookup_given`).
-/
namespace Switchboard

/-- What can be read back one by one can be read back together. -/
theorem mapM_map_some {α β : Type} {read : β → Option α} {write : α → β} {values : List α}
    (back : ∀ value ∈ values, read (write value) = some value) :
    (values.map write).mapM read = some values :=
  mapM_some_iff.mpr (List.forall₂_map_left_iff.mpr (List.forall₂_same.mpr back))

namespace Document

/-! ## Names -/

/-- What is written under different names is read back under these names. -/
theorem named_text {nameOf : Document → Option String} {entries : List (String × Document)}
    (called : ∀ entry ∈ entries, nameOf (text entry.1) = some entry.1)
    (distinct : (entries.map Prod.fst).Nodup) :
    named nameOf (entries.map fun entry => (text entry.1, entry.2)) = some entries := by
  refine named_iff.mpr ⟨List.forall₂_map_left_iff.mpr (List.forall₂_same.mpr ?_), distinct⟩
  exact fun entry among => ⟨called entry among, rfl⟩

/-- What is written under some of the names of members is read back as these members. -/
theorem members_ofEntries {names : List String} (distinct : names.Nodup)
    {entries : List (String × Document)} (chosen : (entries.map Prod.fst).Sublist names) :
    (ofEntries entries).members names = some entries := by
  rw [ofEntries, members_table]
  refine named_text (fun entry among => ?_) (distinct.sublist chosen)
  rw [join_nameAmong?_iff]
  exact .inl ⟨rfl, chosen.subset (List.mem_map_of_mem among)⟩

/-- The entries of members that can be left out. -/
def given (members : List (String × Option Document)) : List (String × Document) :=
  members.filterMap fun member => member.2.map (member.1, ·)

/-- Members after one another are given after one another. -/
theorem given_append (first second : List (String × Option Document)) :
    given (first ++ second) = given first ++ given second := List.filterMap_append

/-- A text is given if there is one. -/
theorem textEntry_eq (key : String) (value : Option String) :
    textEntry key value = given [(key, value.map text)] := by
  cases value <;> rfl

/-- The document of a truth value, if it is true. -/
def truthDocument? (value : Bool) : Option Document := if value then some (truth true) else none

/-- A truth value is given if it is true. -/
theorem truthEntry_eq (key : String) (value : Bool) :
    truthEntry key value = given [(key, truthDocument? value)] := by
  cases value <;> rfl

/-- The members that are given keep their order. -/
theorem given_names (members : List (String × Option Document)) :
    ((given members).map Prod.fst).Sublist (members.map Prod.fst) := by
  induction members with
  | nil => exact List.Sublist.refl _
  | cons member rest ih =>
    obtain ⟨name, value⟩ := member
    cases value with
    | none => exact ih.cons name
    | some value => exact ih.cons_cons name

/-- The members that are given are read back, under names that are all different. -/
theorem members_given {members : List (String × Option Document)}
    (distinct : (members.map Prod.fst).Nodup) :
    (ofEntries (given members)).members (members.map Prod.fst) = some (given members) :=
  members_ofEntries distinct (given_names members)

/-- A member is found if it is given. -/
theorem lookup_given {members : List (String × Option Document)}
    (distinct : (members.map Prod.fst).Nodup) {name : String} {value : Option Document}
    (among : (name, value) ∈ members) : (given members).lookup name = value := by
  induction members with
  | nil => cases among
  | cons member rest ih =>
    obtain ⟨first, held⟩ := member
    rw [List.map_cons, List.nodup_cons] at distinct
    have found : ∀ entry, ((first, entry) :: given rest).lookup name =
        if name = first then some entry else (given rest).lookup name :=
      fun entry => Directory.find?_cons first entry (given rest) name
    rcases List.mem_cons.mp among with same | later
    · cases same
      cases value with
      | some value => exact (found value).trans (if_pos rfl)
      | none =>
        -- The name is not given later on either.
        refine List.lookup_eq_none_iff.mpr fun entry later => ?_
        have named : entry.1 ∈ rest.map Prod.fst :=
          (given_names rest).subset (List.mem_map_of_mem later)
        have differs : name ≠ entry.1 := fun same => distinct.1 (by rwa [same])
        simpa using differs
    · have named : name ∈ rest.map Prod.fst := List.mem_map_of_mem later
      have other : name ≠ first := fun same => distinct.1 (same ▸ named)
      cases held with
      | none => exact ih distinct.2 later
      | some held => exact (found held).trans ((if_neg other).trans (ih distinct.2 later))

variable {members : List (String × Document)} {name : String}

/-- A text that must be given is read back. -/
theorem requiredText_of_lookup {value : String} (found : members.lookup name = some (text value)) :
    requiredText members name = some value := by
  rw [requiredText, found]
  rfl

/-- A text that may be left out is read back. -/
theorem optionalText_of_lookup {value : Option String}
    (found : members.lookup name = value.map text) : optionalText members name = some value := by
  rw [optionalText, found]
  cases value <;> rfl

/-- A truth value is read back. -/
theorem truthOf_of_lookup {value : Bool} (found : members.lookup name = truthDocument? value) :
    truthOf members name = some value := by
  have meaning : (truth true).truth? = some true := by decide
  rw [truthOf, found]
  cases value with
  | false => rfl
  | true => exact meaning

/-! ## Meanings -/

/-- Items are meaningful if each is. -/
theorem isMeaningful_ofItems {items : List Document} (each : ∀ item ∈ items, item.isMeaningful) :
    (ofItems items).isMeaningful = true := by
  have all : itemsAreMeaningful items = true := by
    induction items with
    | nil => rw [itemsAreMeaningful]
    | cons item rest ih =>
      obtain ⟨first, later⟩ := List.forall_mem_cons.mp each
      rw [itemsAreMeaningful, first, ih later]
      rfl
  rw [ofItems, isMeaningful, all]
  rfl

/-- A text is meaningful. -/
theorem isMeaningful_text (value : String) : (text value).isMeaningful = true := by
  rw [text, isMeaningful]
  rfl

/-- Entries under texts are meaningful if each is. -/
theorem isMeaningful_ofEntries {entries : List (String × Document)}
    (each : ∀ entry ∈ entries, entry.2.isMeaningful) : (ofEntries entries).isMeaningful = true := by
  have all : entriesAreMeaningful (entries.map fun entry => (text entry.1, entry.2)) = true := by
    induction entries with
    | nil => rw [List.map_nil, entriesAreMeaningful]
    | cons entry rest ih =>
      obtain ⟨first, later⟩ := List.forall_mem_cons.mp each
      rw [List.map_cons, entriesAreMeaningful, isMeaningful_text, first, ih later]
      rfl
  rw [ofEntries, isMeaningful, all]
  rfl

/-- Members are meaningful if each that is given is. -/
theorem isMeaningful_given {members : List (String × Option Document)}
    (each : ∀ member ∈ members, ∀ value ∈ member.2, value.isMeaningful) :
    (ofEntries (given members)).isMeaningful = true := by
  refine isMeaningful_ofEntries fun entry among => ?_
  obtain ⟨member, inside, made⟩ := List.mem_filterMap.mp among
  obtain ⟨value, held, rfl⟩ := Option.map_eq_some_iff.mp made
  exact each member inside value held

/-- A text that is given is meaningful. -/
theorem isMeaningful_textDocument (value : Option String) :
    ∀ document ∈ value.map text, document.isMeaningful = true := by
  intro document held
  obtain ⟨value, _, rfl⟩ := Option.map_eq_some_iff.mp held
  exact isMeaningful_text value

/-- A truth value that is given is meaningful. -/
theorem isMeaningful_truthDocument (value : Bool) :
    ∀ document ∈ truthDocument? value, document.isMeaningful = true := by
  cases value with
  | false => exact fun document held => by cases held
  | true =>
    rintro document ⟨⟩
    rw [truth, isMeaningful]
    decide

end Document

end Switchboard
