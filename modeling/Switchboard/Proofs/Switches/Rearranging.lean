import Mathlib.Data.List.FinRange
import Mathlib.Data.List.Sort
import Switchboard.Proofs.Switches.Content
/-!
# Switches in another order

Users type switches in any order. That the order does not matter holds as far as it can: where two
occurrences write a common field of the record, the later one wins or comes later in a list, so
these must keep their order (`Rearranged`). All others can change places: whether a line is bound is
a question of which occurrences there are (`faultless_iff`), and what a field holds is a question of
the occurrences that write it (`Record.holds_of_writers`).
-/
namespace Switchboard

/-! ## Rearranged lists -/

section Rearranged

variable {α : Type} {conflicts : α → α → Prop} {first second : List α}

/-- The elements of a list take other places, but those that conflict keep their order. -/
def Rearranged (conflicts : α → α → Prop) (first second : List α) : Prop :=
  ∃ place : Fin first.length ≃ Fin second.length,
    (∀ index, second.get (place index) = first.get index) ∧
      ∀ earlier later, earlier < later → conflicts (first.get earlier) (first.get later) →
        place earlier < place later

/-- A rearranged list has the same elements, each as often. -/
theorem Rearranged.perm (rearranged : Rearranged conflicts first second) :
    first.Perm second := by
  obtain ⟨place, same, _⟩ := rearranged
  have places : ((List.finRange first.length).map place).Perm (List.finRange second.length) := by
    rw [List.perm_ext_iff_of_nodup ((List.nodup_finRange _).map place.injective)
      (List.nodup_finRange _)]
    intro index
    refine ⟨fun _ => List.mem_finRange index, fun _ => List.mem_map.mpr ?_⟩
    exact ⟨place.symm index, List.mem_finRange _, place.apply_symm_apply index⟩
  have moved : ((List.finRange first.length).map place).map second.get = first := by
    rw [List.map_map, show second.get ∘ place = first.get from funext same, List.map_get_finRange]
  have elements := places.map second.get
  rw [moved, List.map_get_finRange] at elements
  exact elements

/-- In a rearranged list, elements of which any two conflict stand in the same order. -/
theorem Rearranged.filter_eq (rearranged : Rearranged conflicts first second) {keep : α → Bool}
    (conflict : ∀ one other, keep one = true → keep other = true → conflicts one other) :
    first.filter keep = second.filter keep := by
  obtain ⟨place, same, ordered⟩ := rearranged
  have places : ((List.finRange first.length).filter (keep ∘ first.get)).map place =
      (List.finRange second.length).filter (keep ∘ second.get) := by
    have rising : (((List.finRange first.length).filter (keep ∘ first.get)).map place).Pairwise
        (· < ·) := by
      rw [List.pairwise_map, List.pairwise_filter]
      refine (List.pairwise_lt_finRange _).imp fun {earlier later} less one other => ?_
      exact ordered earlier later less (conflict _ _ one other)
    refine rising.sortedLT.eq_of_mem_iff
      ((List.pairwise_lt_finRange _).filter _).sortedLT fun index => ?_
    rw [List.mem_map, List.mem_filter]
    constructor
    · rintro ⟨source, member, rfl⟩
      refine ⟨List.mem_finRange _, ?_⟩
      rw [Function.comp_apply, same]
      exact (List.mem_filter.mp member).2
    · rintro ⟨_, kept⟩
      refine ⟨place.symm index, List.mem_filter.mpr ⟨List.mem_finRange _, ?_⟩,
        place.apply_symm_apply index⟩
      rw [Function.comp_apply, ← same, place.apply_symm_apply]
      exact kept
  calc first.filter keep
      = ((List.finRange first.length).filter (keep ∘ first.get)).map first.get := by
        rw [← List.filter_map, List.map_get_finRange]
    _ = (((List.finRange first.length).filter (keep ∘ first.get)).map place).map second.get := by
        rw [List.map_map, show second.get ∘ place = first.get from funext same]
    _ = second.filter keep := by
        rw [places, ← List.filter_map, List.map_get_finRange]

end Rearranged

/-! ## Fields that an occurrence writes -/

namespace Occurrence

variable {descriptor : Descriptor} {occurrence : Occurrence}

/-- The fields of the record that an occurrence writes: the field of a flag; and of a value the
record or list of records that it is for, or else the fields of its slots. -/
def fields : Occurrence → List String
  | flag _ field => [field]
  | valued parameter template _ => match parameter.composite with
    | some field => [field]
    | none => template.slots

/-- Two occurrences write a common field. -/
def Conflicts (one other : Occurrence) : Prop := ∃ field ∈ one.fields, field ∈ other.fields

instance : DecidableRel Conflicts := fun one other =>
  inferInstanceAs (Decidable (∃ field ∈ one.fields, field ∈ other.fields))

/-- The target and the values of an entry are those of the fields that its occurrence writes. -/
theorem fields_of_entry {entry : Entry} (found : occurrence.entry descriptor = .ok entry) :
    match entry.target with
    | .fields => entry.values.map Prod.fst = occurrence.fields
    | .lists => entry.values.map Prod.fst = occurrence.fields
    | .nested field => occurrence.fields = [field]
    | .elements field => occurrence.fields = [field] := by
  cases enters_of_entry found with
  | flag => rfl
  | @valued parameter template text captures values cut converted =>
    have names : values.map Prod.fst = template.slots := by
      rw [converted_names converted, ValueTemplate.capture_names cut]
    cases inner : parameter.composite with
    | none =>
      cases again : parameter.repeatable <;>
        simp only [Parameter.target, inner, again, fields, names, if_true, if_false,
          Bool.false_eq_true]
    | some field =>
      cases again : parameter.repeatable <;>
        simp only [Parameter.target, inner, again, fields, if_true, if_false, Bool.false_eq_true]

end Occurrence

/-! ## What a field holds -/

/-- What the occurrences that can be entered enter, in order. -/
def entriesOf (descriptor : Descriptor) (occurrences : List Occurrence) : List Entry :=
  occurrences.filterMap fun occurrence => (occurrence.entry descriptor).toOption

section Entries

variable {descriptor : Descriptor} {occurrences : List Occurrence} {entries : List Entry}

/-- The entries of occurrences that can all be entered. -/
theorem entriesOf_eq (entered : List.Forall₂
    (fun occurrence entry => occurrence.entry descriptor = .ok entry) occurrences entries) :
    entriesOf descriptor occurrences = entries := by
  induction entered with
  | nil => rfl
  | cons head _ ih => rw [← ih, entriesOf, List.filterMap_cons, head]; rfl

/-- A part that entries have in something comes from the occurrences that have one. -/
theorem flatMap_entriesOf_filter {β : Type} {part : Entry → List β} {keep : Occurrence → Bool}
    (kept : ∀ occurrence entry, occurrence.entry descriptor = .ok entry → part entry ≠ [] →
      keep occurrence = true) (occurrences : List Occurrence) :
    (entriesOf descriptor (occurrences.filter keep)).flatMap part =
      (entriesOf descriptor occurrences).flatMap part := by
  induction occurrences with
  | nil => rfl
  | cons occurrence rest ih =>
    cases found : occurrence.entry descriptor with
    | error fault =>
      have skipped : entriesOf descriptor (occurrence :: rest) = entriesOf descriptor rest := by
        rw [entriesOf, List.filterMap_cons, found]
        rfl
      rw [skipped, ← ih]
      cases keeps : keep occurrence with
      | false => rw [List.filter_cons_of_neg (by simp [keeps])]
      | true =>
        rw [List.filter_cons_of_pos keeps, entriesOf, List.filterMap_cons, found]
        rfl
    | ok entry =>
      have taken (later : List Occurrence) : (entriesOf descriptor (occurrence :: later)).flatMap
          part = part entry ++ (entriesOf descriptor later).flatMap part := by
        rw [entriesOf, List.filterMap_cons, found]
        rfl
      rw [taken, ← ih]
      cases keeps : keep occurrence with
      | true => rw [List.filter_cons_of_pos keeps, taken]
      | false =>
        have idle : part entry = [] := by
          by_contra busy
          rw [kept occurrence entry found busy] at keeps
          contradiction
        rw [List.filter_cons_of_neg (by simp [keeps]), idle, List.nil_append]

/-- The entries with a target, entry by entry. -/
theorem entriesAt_eq_flatMap (entries : List Entry) (target : Target) :
    entriesAt entries target =
      entries.flatMap fun entry => if entry.target = target then [entry.values] else [] := by
  induction entries with
  | nil => rfl
  | cons entry rest ih =>
    rw [List.flatMap_cons, ← ih]
    by_cases same : entry.target = target
    · simp [entriesAt, same]
    · simp [entriesAt, same]

/-- The values of a field in the entries with a target, entry by entry. -/
theorem allOf_valuesAt_eq_flatMap (entries : List Entry) (target : Target) (field : String) :
    allOf (valuesAt entries target) field =
      entries.flatMap fun entry =>
        if entry.target = target then allOf entry.values field else [] := by
  rw [valuesAt, entriesAt_eq_flatMap]
  induction entries with
  | nil => rfl
  | cons entry rest ih =>
    rw [List.flatMap_cons, List.flatMap_cons, ← ih]
    by_cases same : entry.target = target
    · simp [allOf, same]
    · simp [same]

end Entries

/-- The occurrences that write a field. -/
def writersOf (field : String) (occurrences : List Occurrence) : List Occurrence :=
  occurrences.filter fun occurrence => decide (field ∈ occurrence.fields)

section Writers

variable {descriptor : Descriptor} {field : String}

/-- The values of a field come from the occurrences that write it. -/
theorem allOf_writersOf {target : Target} (plain : target = .fields ∨ target = .lists)
    (occurrences : List Occurrence) :
    allOf (valuesAt (entriesOf descriptor (writersOf field occurrences)) target) field =
      allOf (valuesAt (entriesOf descriptor occurrences) target) field := by
  rw [allOf_valuesAt_eq_flatMap, allOf_valuesAt_eq_flatMap]
  refine flatMap_entriesOf_filter (fun occurrence entry found part => ?_) occurrences
  have written := occurrence.fields_of_entry found
  split at part
  · rename_i same
    have names : entry.values.map Prod.fst = occurrence.fields := by
      rw [same] at written
      rcases plain with rfl | rfl <;> exact written
    rw [decide_eq_true_eq, ← names]
    by_contra absent
    refine part (List.map_eq_nil_iff.mpr (List.filter_eq_nil_iff.mpr ?_))
    intro value member named
    exact absent (List.mem_map.mpr ⟨value, member, of_decide_eq_true named⟩)
  · contradiction

/-- The entries for a nested record or a list of records come from the occurrences that write it. -/
theorem entriesAt_writersOf {target : Target}
    (inner : target = .nested field ∨ target = .elements field) (occurrences : List Occurrence) :
    entriesAt (entriesOf descriptor (writersOf field occurrences)) target =
      entriesAt (entriesOf descriptor occurrences) target := by
  rw [entriesAt_eq_flatMap, entriesAt_eq_flatMap]
  refine flatMap_entriesOf_filter (fun occurrence entry found part => ?_) occurrences
  have written := occurrence.fields_of_entry found
  split at part
  · rename_i same
    have only : occurrence.fields = [field] := by
      rw [same] at written
      rcases inner with rfl | rfl <;> exact written
    rw [only]
    exact decide_eq_true List.mem_cons_self
  · contradiction

/-- A record holds what the occurrences enter that write each of its fields, in their order. -/
theorem Record.holds_of_writers {first second : List Occurrence}
    (same : ∀ field, writersOf field first = writersOf field second) {record : Record}
    (holds : record.Holds (entriesOf descriptor first)) :
    record.Holds (entriesOf descriptor second) := by
  have values {target : Target} (plain : target = .fields ∨ target = .lists) (field : String) :
      allOf (valuesAt (entriesOf descriptor first) target) field =
        allOf (valuesAt (entriesOf descriptor second) target) field := by
    rw [← allOf_writersOf plain first, same, allOf_writersOf plain]
  have entries {target : Target} (field : String)
      (inner : target = .nested field ∨ target = .elements field) :
      entriesAt (entriesOf descriptor first) target =
        entriesAt (entriesOf descriptor second) target := by
    rw [← entriesAt_writersOf inner first, same, entriesAt_writersOf inner]
  obtain ⟨scalars, lists, nested, nestedLists⟩ := holds
  refine ⟨⟨scalars.ordered, fun field => ?_⟩, ⟨lists.ordered, fun field => ?_, lists.begun⟩, ?_, ?_⟩
  · rw [scalars.last, values (.inl rfl)]
  · rw [lists.all, values (.inr rfl)]
  · have merged := funext fun field => entries field (.inl rfl)
    exact merged ▸ nested
  · have collected := funext fun field => entries field (.inr rfl)
    exact collected ▸ nestedLists

end Writers

/-! ## Lines that are bound -/

namespace SwitchedTemplate

variable {template : SwitchedTemplate} {descriptor : Descriptor}

/-- Two occurrences can stand on one line: they are of different parameters, or their parameter can
come again. -/
def Compatible (one other : Occurrence) : Prop :=
  one.parameter = other.parameter → one.parameter.repeatable = true

/-- An occurrence of an accepted parameter must be the only one unless its parameter can come
again. -/
theorem Admits.mustBeOnly {occurrence : Occurrence}
    (admits : template.Admits descriptor occurrence) :
    occurrence.mustBeOnly = !occurrence.parameter.repeatable := by
  obtain ⟨consistent, _, fits⟩ := admits
  cases occurrence with
  | valued parameter value text => rfl
  | flag parameter field =>
    change parameter.kind = .flag field at consistent
    change parameter.Fits descriptor at fits
    change true = !parameter.repeatable
    cases fits with
    | flag _ once => rw [once]; rfl
    | scalars kind | lists kind | nested kind | elements kind =>
      cases consistent.symm.trans kind

/-- A line is faultless when each of its occurrences can be entered and any two can stand on one
line, wherever they stand. -/
theorem faultless_iff {occurrences : List Occurrence}
    (admitted : ∀ occurrence ∈ occurrences, template.Admits descriptor occurrence) :
    Faultless descriptor occurrences ↔
      (∀ occurrence ∈ occurrences, ∃ entry, occurrence.entry descriptor = .ok entry) ∧
        occurrences.Pairwise Compatible := by
  induction occurrences using List.reverseRecOn with
  | nil => simp [faultless_nil]
  | append_singleton occurrences last ih =>
    have earlier : ∀ occurrence ∈ occurrences, template.Admits descriptor occurrence :=
      fun occurrence member => admitted occurrence (List.mem_append_left _ member)
    have admits := admitted last (List.mem_append_right _ (List.mem_singleton.mpr rfl))
    have own : (∀ fault, ¬ last.Faulty descriptor occurrences fault) ↔
        (∃ entry, last.entry descriptor = .ok entry) ∧
          ∀ occurrence ∈ occurrences, Compatible occurrence last := by
      rw [Occurrence.entry_ok_iff admits.consistent admits.fits]
      constructor
      · intro sound
        have fresh : ¬ last.Repeats occurrences := fun again => sound _ (.duplicate again)
        refine ⟨fun fault wrong => sound fault (.wrong fresh wrong), fun other member same => ?_⟩
        by_contra once
        refine fresh ⟨?_, other, member, same⟩
        rw [admits.mustBeOnly, ← same, Bool.eq_false_iff.mpr once]
        rfl
      · rintro ⟨right, compatible⟩ fault faulty
        cases faulty with
        | wrong _ wrong => exact right fault wrong
        | duplicate again =>
          obtain ⟨only, other, member, same⟩ := again
          rw [admits.mustBeOnly, ← same, compatible other member same] at only
          contradiction
    rw [faultless_concat, ih earlier, own, List.forall_mem_append, List.forall_mem_singleton,
      List.pairwise_append]
    simp only [List.forall_mem_singleton, List.pairwise_singleton, true_and]
    exact and_and_and_comm

/-- Tokens without an unknown switch are bound exactly when the line is faultless and no required
parameter is missing, and then the record is made of the entries of the occurrences. -/
theorem readSwitches_ok_iff (sound : template.Sound descriptor) {tokens : List String}
    {occurrences : List Occurrence} (split : template.Split tokens occurrences none)
    {record : Record} : template.readSwitches descriptor tokens = .ok record ↔
      Faultless descriptor occurrences ∧ template.unmet occurrences = [] ∧
        (entriesOf descriptor occurrences).foldl Record.enter .empty = record := by
  rw [readSwitches_of_split sound split]
  cases bound : occurrences.foldlM (Occurrence.bind descriptor) ⟨[], .empty⟩ with
  | error fault =>
    have faulty := (bindAll_error_iff sound.distinct (sound.admits split)).mp bound
    constructor
    · intro read
      cases read
    · rintro ⟨faultless, _⟩
      exact absurd faultless faulty.not_faultless
  | ok progress =>
    obtain ⟨faultless, entries, entered, rfl⟩ :=
      bindAll_ok sound.distinct (sound.admits split) bound
    change template.conclude none ⟨Occurrence.seenAfter occurrences, _⟩ = _ ↔ _
    rw [conclude_seenAfter sound.distinct split, entriesOf_eq entered]
    by_cases complete : template.unmet occurrences = []
    · rw [if_pos complete, Except.ok.injEq]
      exact ⟨fun same => ⟨faultless, complete, same⟩, fun all => all.2.2⟩
    · rw [if_neg complete]
      constructor
      · intro read
        cases read
      · rintro ⟨_, met, _⟩
        exact absurd met complete

/-- The missing parameters depend only on which occurrences there are. -/
theorem unmet_perm {first second : List Occurrence} (same : first.Perm second) :
    template.unmet first = template.unmet second := by
  simp only [unmet, same.mem_iff]

/-- The order of the switches on a line of an accepted command does not matter, as far as those that
write a common field keep theirs: one line is bound to a record exactly when the other is bound to
the same record. -/
theorem read?_rearranged {reserved : Bool} {declarations : List Declaration}
    (accepted : Validation.defect? reserved declarations = none)
    (member : ⟨.switched template, descriptor⟩ ∈ declarations) {first second : List String}
    {occurrences others : List Occurrence} (split : template.Split first occurrences none)
    (splits : template.Split second others none)
    (rearranged : Rearranged Occurrence.Conflicts occurrences others) (record : Record) :
    template.read? descriptor (template.keywords ++ first) = some (.ok record) ↔
      template.read? descriptor (template.keywords ++ second) = some (.ok record) := by
  have sound := Validation.switched_sound accepted member
  have perm := rearranged.perm
  have writers (field : String) : writersOf field occurrences = writersOf field others := by
    refine rearranged.filter_eq fun one other writes writes' => ?_
    exact ⟨field, of_decide_eq_true writes, of_decide_eq_true writes'⟩
  have faultless : Faultless descriptor occurrences ↔ Faultless descriptor others := by
    have symmetric {one other : Occurrence} (compatible : Compatible one other) :
        Compatible other one := fun same => same ▸ compatible same.symm
    rw [faultless_iff (sound.admits split), faultless_iff (sound.admits splits),
      perm.pairwise_iff symmetric]
    simp only [perm.mem_iff]
  have records : (entriesOf descriptor occurrences).foldl Record.enter .empty =
      (entriesOf descriptor others).foldl Record.enter .empty :=
    (Record.holds_of_writers writers (Record.holds_foldl _)).unique (Record.holds_foldl _)
  rw [read?_append, read?_append, Option.some.injEq, Option.some.injEq,
    readSwitches_ok_iff sound split, readSwitches_ok_iff sound splits, faultless, records,
    unmet_perm perm]

end SwitchedTemplate

namespace Sample

/-- Switches of the sample command, one of which comes again later on the line. -/
def envFirst : List String := ["-d", "-e", "A=1", "--name", "web", "--env", "B=2"]

/-- The same switches in another order, some of them in short and some in full. -/
def nameFirst : List String := ["-n", "web", "--env", "A=1", "--detach", "-e", "B=2"]

/-- The switch that comes again writes to one list in the same order on both lines, and so both are
bound to the same record. -/
theorem run_rearranged : ∃ occurrences others record,
    run.Split envFirst occurrences none ∧ run.Split nameFirst others none ∧
      Rearranged Occurrence.Conflicts occurrences others ∧
      run.read? runRecord (run.keywords ++ envFirst) = some (.ok record) ∧
      run.read? runRecord (run.keywords ++ nameFirst) = some (.ok record) := by
  have split := run.split_occurrences envFirst
  have splits := run.split_occurrences nameFirst
  have four : (run.occurrences envFirst).1.length = 4 := by decide +kernel
  have four' : (run.occurrences nameFirst).1.length = 4 := by decide +kernel
  have rearranged : Rearranged Occurrence.Conflicts (run.occurrences envFirst).1
      (run.occurrences nameFirst).1 :=
    ⟨(finCongr four).trans ((Equiv.swap 0 2).trans (finCongr four'.symm)),
      by decide +kernel +revert, by decide +kernel +revert⟩
  rw [show (run.occurrences envFirst).2 = none by decide +kernel] at split
  rw [show (run.occurrences nameFirst).2 = none by decide +kernel] at splits
  have same := SwitchedTemplate.read?_rearranged run_accepted (List.mem_singleton.mpr rfl)
    split splits rearranged
  have bound : ((run.read? runRecord (run.keywords ++ envFirst)).map Except.isOk) = some true := by
    decide +kernel
  cases read : run.read? runRecord (run.keywords ++ envFirst) with
  | none => simp [read] at bound
  | some reading =>
    cases reading with
    | error fault => simp [read, Except.isOk, Except.toBool] at bound
    | ok record => exact ⟨_, _, record, split, splits, rearranged, rfl, (same record).mp read⟩

end Sample

end Switchboard
