import Mathlib.Data.List.Induction
import Switchboard.Proofs.Record.Directories
import Switchboard.Proofs.Switches.Values
/-!
# What a record holds

A record into which entries were entered is described here in closed form, without the order of the
writes: `Record.Holds` says of each of its four groups what every field holds, in terms of the
entries for it. The step is `Holds.enter`, the run is `holds_foldl`, and `Holds.unique` says that
the description leaves nothing open.
-/
namespace Switchboard

/-- All values of a field, in order. -/
def allOf (values : List (String × Scalar)) (field : String) : List Scalar :=
  (values.filter fun value => value.1 = field).map Prod.snd

/-- The values of the entries with a target, entry by entry. -/
def entriesAt (entries : List Entry) (target : Target) : List (List (String × Scalar)) :=
  (entries.filter fun entry => entry.target = target).map Entry.values

/-- The values of the entries with a target, one after the other. -/
def valuesAt (entries : List Entry) (target : Target) : List (String × Scalar) :=
  (entriesAt entries target).flatten

namespace Record

/-- A scalar field holds the last of its values, and is absent if there is none. -/
structure LastWrites (scalars : Directory Scalar) (values : List (String × Scalar)) : Prop where
  /-- The fields are in order. -/
  ordered : scalars.Ordered
  /-- Each holds the last of its values. -/
  last : ∀ field, scalars.find? field = (allOf values field).getLast?

/-- A list of scalars holds all its values in order, and is absent if there is none. -/
structure AllWrites (lists : Directory (List Scalar)) (values : List (String × Scalar)) :
    Prop where
  /-- The fields are in order. -/
  ordered : lists.Ordered
  /-- Each holds all its values. -/
  all : ∀ field, (lists.find? field).getD [] = allOf values field
  /-- None is there without a value. -/
  begun : ∀ field, lists.find? field ≠ some []

/-- A record of scalar fields alone, which hold the last of some values. -/
structure Lasts (record : Record) (values : List (String × Scalar)) : Prop where
  /-- The scalar fields hold the last of their values. -/
  scalars : LastWrites record.scalars values
  /-- No field holds anything but a scalar. -/
  plain : record.nested = [] ∧ record.lists = [] ∧ record.nestedLists = []

/-- A nested record holds the last values of all its entries, and is absent if there is none. -/
structure Merges (nested : Directory Record)
    (entries : String → List (List (String × Scalar))) : Prop where
  /-- The fields are in order. -/
  ordered : nested.Ordered
  /-- One is there exactly if it has an entry. -/
  begun : ∀ field, (nested.find? field).isSome ↔ entries field ≠ []
  /-- Its fields hold the last of their values. -/
  inner : ∀ field record, nested.find? field = some record → record.Lasts (entries field).flatten

/-- A list of records has one element for each of its entries, in order, which holds the values of
that entry alone; it is absent if there is none. -/
structure Collects (nestedLists : Directory (List Record))
    (entries : String → List (List (String × Scalar))) : Prop where
  /-- The fields are in order. -/
  ordered : nestedLists.Ordered
  /-- The elements are those of the entries. -/
  elements : ∀ field, List.Forall₂ Lasts ((nestedLists.find? field).getD []) (entries field)
  /-- None is there without an element. -/
  begun : ∀ field, nestedLists.find? field ≠ some []

/-- What a record holds after some entries. -/
structure Holds (record : Record) (entries : List Entry) : Prop where
  /-- The scalar fields. -/
  scalars : LastWrites record.scalars (valuesAt entries .fields)
  /-- The lists of scalars. -/
  lists : AllWrites record.lists (valuesAt entries .lists)
  /-- The nested records. -/
  nested : Merges record.nested fun field => entriesAt entries (.nested field)
  /-- The lists of records. -/
  nestedLists : Collects record.nestedLists fun field => entriesAt entries (.elements field)

end Record

/-! ## One more value, one more entry -/

/-- The values of a field when there is one more value. -/
theorem allOf_concat (values : List (String × Scalar)) (field : String) (value : Scalar)
    (other : String) : allOf (values ++ [(field, value)]) other =
      allOf values other ++ if other = field then [value] else [] := by
  by_cases same : other = field
  · simp [allOf, same]
  · simp [allOf, same, Ne.symm same]

/-- The values of the entries with a target when there is one more entry. -/
theorem entriesAt_concat (entries : List Entry) (entry : Entry) (target : Target) :
    entriesAt (entries ++ [entry]) target =
      entriesAt entries target ++ if target = entry.target then [entry.values] else [] := by
  by_cases same : target = entry.target
  · simp [entriesAt, same]
  · simp [entriesAt, same, Ne.symm same]

/-- One more entry does not count among those with another target. -/
theorem entriesAt_concat_of_ne (entries : List Entry) {entry : Entry} {target : Target}
    (other : target ≠ entry.target) :
    entriesAt (entries ++ [entry]) target = entriesAt entries target := by
  rw [entriesAt_concat, if_neg other, List.append_nil]

/-- The values of one more entry come last among those with its target. -/
theorem valuesAt_concat (entries : List Entry) (target : Target)
    (values : List (String × Scalar)) :
    valuesAt (entries ++ [⟨target, values⟩]) target = valuesAt entries target ++ values := by
  rw [valuesAt, entriesAt_concat, if_pos rfl, List.flatten_append, List.flatten_singleton, valuesAt]

/-- The values of one more entry do not count among those with another target. -/
theorem valuesAt_concat_of_ne (entries : List Entry) {entry : Entry} {target : Target}
    (other : target ≠ entry.target) :
    valuesAt (entries ++ [entry]) target = valuesAt entries target := by
  rw [valuesAt, entriesAt_concat_of_ne entries other, valuesAt]

namespace Record

/-! ## Scalar fields -/

/-- No scalar field is there without a value. -/
theorem lastWrites_nil : LastWrites [] [] := ⟨Directory.ordered_nil, fun _ => rfl⟩

/-- Writing a scalar field makes its value the last. -/
theorem LastWrites.alter {scalars : Directory Scalar} {values : List (String × Scalar)}
    (lasts : LastWrites scalars values) (field : String) (value : Scalar) :
    LastWrites (scalars.alter field fun _ => value) (values ++ [(field, value)]) := by
  refine ⟨lasts.ordered.alter field _, fun other => ?_⟩
  rw [Directory.find?_alter lasts.ordered, allOf_concat, List.getLast?_append, lasts.last]
  by_cases same : other = field
  · rw [if_pos same, if_pos same]
    rfl
  · rw [if_neg same, if_neg same]
    rfl

/-- Writing several scalar fields makes their values the last. -/
theorem LastWrites.setAll {record : Record} {values : List (String × Scalar)}
    (lasts : LastWrites record.scalars values) (later : List (String × Scalar)) :
    LastWrites (record.setAll later).scalars (values ++ later) := by
  induction later generalizing record values with
  | nil =>
    rw [List.append_nil]
    exact lasts
  | cons value later ih =>
    rw [List.append_cons]
    have written : LastWrites (record.set value.1 value.2).scalars (values ++ [value]) :=
      lasts.alter value.1 value.2
    exact ih written

/-- Writing scalar fields leaves the other three groups. -/
theorem setAll_others (record : Record) (values : List (String × Scalar)) :
    (record.setAll values).nested = record.nested ∧ (record.setAll values).lists = record.lists ∧
      (record.setAll values).nestedLists = record.nestedLists := by
  induction values generalizing record with
  | nil => exact ⟨rfl, rfl, rfl⟩
  | cons value later ih => exact ih (record.set value.1 value.2)

/-- The last values make the scalar fields. -/
theorem LastWrites.unique {first second : Directory Scalar} {values : List (String × Scalar)}
    (one : LastWrites first values) (other : LastWrites second values) : first = second := by
  refine one.ordered.ext other.ordered fun field => ?_
  rw [one.last, other.last]

/-! ## Lists of scalars -/

/-- No list is there without a value. -/
theorem allWrites_nil : AllWrites [] [] := ⟨Directory.ordered_nil, fun _ => rfl, fun _ => nofun⟩

/-- Appending a value to its list adds it at the end. -/
theorem AllWrites.alter {lists : Directory (List Scalar)} {values : List (String × Scalar)}
    (writes : AllWrites lists values) (field : String) (value : Scalar) :
    AllWrites (lists.alter field fun list => list.getD [] ++ [value])
      (values ++ [(field, value)]) := by
  have found := Directory.find?_alter writes.ordered field fun list => list.getD [] ++ [value]
  refine ⟨writes.ordered.alter field _, fun other => ?_, fun other => ?_⟩
  · rw [found, allOf_concat, ← writes.all]
    by_cases same : other = field
    · rw [if_pos same, if_pos same, same]
      rfl
    · rw [if_neg same, if_neg same, List.append_nil]
  · rw [found]
    by_cases same : other = field
    · rw [if_pos same]
      simp
    · rw [if_neg same]
      exact writes.begun other

/-- Appending several values adds them at the ends of their lists, in order. -/
theorem AllWrites.pushAll {record : Record} {values : List (String × Scalar)}
    (writes : AllWrites record.lists values) (later : List (String × Scalar)) :
    AllWrites (record.pushAll later).lists (values ++ later) := by
  induction later generalizing record values with
  | nil =>
    rw [List.append_nil]
    exact writes
  | cons value later ih =>
    rw [List.append_cons]
    have written : AllWrites (record.push value.1 value.2).lists (values ++ [value]) :=
      writes.alter value.1 value.2
    exact ih written

/-- Appending to lists of scalars leaves the other three groups. -/
theorem pushAll_others (record : Record) (values : List (String × Scalar)) :
    (record.pushAll values).scalars = record.scalars ∧
      (record.pushAll values).nested = record.nested ∧
      (record.pushAll values).nestedLists = record.nestedLists := by
  induction values generalizing record with
  | nil => exact ⟨rfl, rfl, rfl⟩
  | cons value later ih => exact ih (record.push value.1 value.2)

/-- Fields whose lists are equal, and are not there when empty, are the same. -/
theorem list_eq_of_getD {α : Type} {first second : Option (List α)}
    (same : first.getD [] = second.getD []) (one : first ≠ some []) (other : second ≠ some []) :
    first = second := by
  cases first with
  | none =>
    cases second with
    | none => rfl
    | some list => exact absurd (congrArg some same.symm) other
  | some list =>
    cases second with
    | none => exact absurd (congrArg some same) one
    | some list' => exact congrArg some same

/-- All values make the lists. -/
theorem AllWrites.unique {first second : Directory (List Scalar)}
    {values : List (String × Scalar)} (one : AllWrites first values)
    (other : AllWrites second values) : first = second := by
  refine one.ordered.ext other.ordered fun field => ?_
  exact list_eq_of_getD ((one.all field).trans (other.all field).symm) (one.begun field)
    (other.begun field)

/-! ## Nested records -/

/-- The record without fields holds no values. -/
theorem lasts_empty : empty.Lasts [] := ⟨lastWrites_nil, rfl, rfl, rfl⟩

/-- Writing more values into a record of scalar fields makes them the last. -/
theorem Lasts.setAll {record : Record} {values : List (String × Scalar)}
    (lasts : record.Lasts values) (later : List (String × Scalar)) :
    (record.setAll later).Lasts (values ++ later) := by
  obtain ⟨nested, lists, nestedLists⟩ := setAll_others record later
  refine ⟨lasts.scalars.setAll later, ?_⟩
  rw [nested, lists, nestedLists]
  exact lasts.plain

/-- Records with the same groups are the same. -/
theorem ext_groups {first second : Record} (scalars : first.scalars = second.scalars)
    (nested : first.nested = second.nested) (lists : first.lists = second.lists)
    (nestedLists : first.nestedLists = second.nestedLists) : first = second := by
  cases first
  cases second
  cases scalars
  cases nested
  cases lists
  cases nestedLists
  rfl

/-- The last values make a record of scalar fields. -/
theorem Lasts.unique {first second : Record} {values : List (String × Scalar)}
    (one : first.Lasts values) (other : second.Lasts values) : first = second := by
  obtain ⟨nested, lists, nestedLists⟩ := one.plain
  obtain ⟨nested', lists', nestedLists'⟩ := other.plain
  exact ext_groups (one.scalars.unique other.scalars) (nested.trans nested'.symm)
    (lists.trans lists'.symm) (nestedLists.trans nestedLists'.symm)

/-- No nested record is there without an entry. -/
theorem merges_nil : Merges [] fun _ => [] where
  ordered := Directory.ordered_nil
  begun field := by
    change false = true ↔ [] ≠ []
    simp
  inner field record found := by cases found

/-- Writing the values of an entry into a nested record, which is begun if it is absent. -/
theorem Merges.alter {nested : Directory Record}
    {entries : String → List (List (String × Scalar))} (merges : Merges nested entries)
    (field : String) (values : List (String × Scalar)) :
    Merges (nested.alter field fun _ => ((nested.find? field).getD empty).setAll values)
      fun other => entries other ++ if other = field then [values] else [] := by
  have found := Directory.find?_alter merges.ordered field fun _ =>
    ((nested.find? field).getD empty).setAll values
  refine ⟨merges.ordered.alter field _, fun other => ?_, fun other record => ?_⟩
  · rw [found]
    by_cases same : other = field
    · simp [same]
    · simp only [if_neg same, List.append_nil]
      exact merges.begun other
  · rw [found]
    by_cases same : other = field
    · subst same
      simp only [if_pos, List.flatten_append, List.flatten_singleton]
      rintro ⟨⟩
      cases old : nested.find? other with
      | none =>
        -- Without an earlier entry the nested record starts from the record without fields.
        have fresh : entries other = [] := by
          by_contra present
          simpa [old] using (merges.begun other).mpr present
        rw [fresh]
        exact lasts_empty.setAll values
      | some inner => exact (merges.inner other inner old).setAll values
    · simp only [if_neg same, List.append_nil]
      exact merges.inner other record

/-- The entries make the nested records. -/
theorem Merges.unique {first second : Directory Record}
    {entries : String → List (List (String × Scalar))} (one : Merges first entries)
    (other : Merges second entries) : first = second := by
  refine one.ordered.ext other.ordered fun field => ?_
  cases left : first.find? field with
  | none =>
    cases right : second.find? field with
    | none => rfl
    | some record =>
      have present := (other.begun field).mp (by rw [right]; rfl)
      rw [← one.begun, left] at present
      contradiction
  | some record =>
    cases right : second.find? field with
    | none =>
      have present := (one.begun field).mp (by rw [left]; rfl)
      rw [← other.begun, right] at present
      contradiction
    | some record' =>
      rw [(one.inner field record left).unique (other.inner field record' right)]

/-! ## Lists of records -/

/-- No list of records is there without an entry. -/
theorem collects_nil : Collects [] fun _ => [] :=
  ⟨Directory.ordered_nil, fun _ => .nil, fun _ => nofun⟩

/-- Appending an element with the values of an entry, and no others. -/
theorem Collects.alter {nestedLists : Directory (List Record)}
    {entries : String → List (List (String × Scalar))} (collects : Collects nestedLists entries)
    (field : String) (values : List (String × Scalar)) :
    Collects (nestedLists.alter field fun list => list.getD [] ++ [empty.setAll values])
      fun other => entries other ++ if other = field then [values] else [] := by
  have found := Directory.find?_alter collects.ordered field fun list =>
    list.getD [] ++ [empty.setAll values]
  refine ⟨collects.ordered.alter field _, fun other => ?_, fun other => ?_⟩
  · rw [found]
    by_cases same : other = field
    · simp only [same, if_pos, Option.getD_some]
      exact List.rel_append (collects.elements field) (.cons (lasts_empty.setAll values) .nil)
    · simp only [if_neg same, List.append_nil]
      exact collects.elements other
  · rw [found]
    by_cases same : other = field
    · rw [if_pos same]
      simp
    · rw [if_neg same]
      exact collects.begun other

/-- Values make one list of records. -/
theorem elements_unique {first second : List Record} {entries : List (List (String × Scalar))}
    (one : List.Forall₂ Lasts first entries) (other : List.Forall₂ Lasts second entries) :
    first = second := by
  induction one generalizing second with
  | nil =>
    cases other
    rfl
  | cons head _ ih =>
    cases other with
    | cons head' tail' => rw [head.unique head', ih tail']

/-- The entries make the lists of records. -/
theorem Collects.unique {first second : Directory (List Record)}
    {entries : String → List (List (String × Scalar))} (one : Collects first entries)
    (other : Collects second entries) : first = second := by
  refine one.ordered.ext other.ordered fun field => ?_
  exact list_eq_of_getD (elements_unique (one.elements field) (other.elements field))
    (one.begun field) (other.begun field)

/-! ## Records into which entries are entered -/

/-- The record without fields holds no entries. -/
theorem holds_empty : empty.Holds [] :=
  ⟨lastWrites_nil, allWrites_nil, merges_nil, collects_nil⟩

/-- Entering one more entry changes one group, where the entry comes last. -/
theorem Holds.enter {record : Record} {entries : List Entry} (holds : record.Holds entries)
    (entry : Entry) : (record.enter entry).Holds (entries ++ [entry]) := by
  obtain ⟨scalars, lists, nested, nestedLists⟩ := holds
  obtain ⟨target, values⟩ := entry
  cases target with
  | fields =>
    obtain ⟨nestedSame, listsSame, nestedListsSame⟩ := setAll_others record values
    change (record.setAll values).Holds _
    refine ⟨?_, ?_, ?_, ?_⟩
    · rw [valuesAt_concat]
      exact scalars.setAll values
    · rw [listsSame, valuesAt_concat_of_ne _ (by simp)]
      exact lists
    · simpa only [nestedSame, entriesAt_concat, reduceCtorEq, if_false, List.append_nil]
    · simpa only [nestedListsSame, entriesAt_concat, reduceCtorEq, if_false, List.append_nil]
  | lists =>
    obtain ⟨scalarsSame, nestedSame, nestedListsSame⟩ := pushAll_others record values
    change (record.pushAll values).Holds _
    refine ⟨?_, ?_, ?_, ?_⟩
    · rw [scalarsSame, valuesAt_concat_of_ne _ (by simp)]
      exact scalars
    · rw [valuesAt_concat]
      exact lists.pushAll values
    · simpa only [nestedSame, entriesAt_concat, reduceCtorEq, if_false, List.append_nil]
    · simpa only [nestedListsSame, entriesAt_concat, reduceCtorEq, if_false, List.append_nil]
  | nested field =>
    refine ⟨?_, ?_, ?_, ?_⟩
    · rw [valuesAt_concat_of_ne _ (by simp)]
      exact scalars
    · rw [valuesAt_concat_of_ne _ (by simp)]
      exact lists
    · simp only [entriesAt_concat, Target.nested.injEq]
      exact nested.alter field values
    · simpa only [entriesAt_concat, reduceCtorEq, if_false, List.append_nil]
  | elements field =>
    refine ⟨?_, ?_, ?_, ?_⟩
    · rw [valuesAt_concat_of_ne _ (by simp)]
      exact scalars
    · rw [valuesAt_concat_of_ne _ (by simp)]
      exact lists
    · simpa only [entriesAt_concat, reduceCtorEq, if_false, List.append_nil]
    · simp only [entriesAt_concat, Target.elements.injEq]
      exact nestedLists.alter field values

/-- Entering entries one after the other. -/
theorem holds_foldl (entries : List Entry) : (entries.foldl Record.enter empty).Holds entries := by
  induction entries using List.reverseRecOn with
  | nil => exact holds_empty
  | append_singleton entries entry ih =>
    rw [List.foldl_concat]
    exact ih.enter entry

/-- The entries make the record. -/
theorem Holds.unique {first second : Record} {entries : List Entry} (one : first.Holds entries)
    (other : second.Holds entries) : first = second :=
  ext_groups (one.scalars.unique other.scalars) (one.nested.unique other.nested)
    (one.lists.unique other.lists) (one.nestedLists.unique other.nestedLists)

end Record

end Switchboard
