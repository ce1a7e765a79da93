import Mathlib.Data.List.Nodup
import Switchboard.Descriptor.Binding
import Switchboard.Proofs.Descriptor.Additions
import Switchboard.Proofs.Number.Rounding
import Switchboard.Registry.Commands
/-!
# Records that conform to their declaration

The fields of a registry declare what a record may hold. A record conforms to them if, at every
level, each key is declared, stands in the group of its shape and holds what is declared
(`Record.Conforms`). Every write through the descriptor that the fields make keeps a record so,
whether it succeeds or not (`Record.Conforms.perform`); hence so does any sequence of writes.
-/
namespace Switchboard

/-! ## Values of a type -/

/-- A value of a type: whole numbers are in its range, and floating point numbers of its format. -/
def Scalar.HasType : Scalar → ScalarType → Prop
  | bool _, .bool => True
  | integer value, .integer width =>
    -(Number.twoTo (width - 1) : Int) ≤ value ∧ value < (Number.twoTo (width - 1) : Int)
  | unsigned value, .unsigned width => value < Number.twoTo width
  | float format value, .float declared => format = declared ∧ value.Fits declared
  | char _, .char => True
  | text _, .text => True
  | _, _ => False

/-- A text is read as a value of the type. -/
theorem ScalarType.read_hasType {type : ScalarType} {text : String} {value : Scalar}
    (read : type.read text = some value) : value.HasType type := by
  cases type with
  | bool =>
    obtain ⟨truth, _, rfl⟩ := Option.map_eq_some_iff.mp read
    trivial
  | integer width =>
    obtain ⟨number, _, within⟩ := Option.bind_eq_some_iff.mp read
    obtain ⟨range, same⟩ := Option.ite_none_right_eq_some.mp within
    cases same
    exact range
  | unsigned width =>
    obtain ⟨number, _, within⟩ := Option.bind_eq_some_iff.mp read
    obtain ⟨range, same⟩ := Option.ite_none_right_eq_some.mp within
    cases same
    exact range
  | float format =>
    obtain ⟨number, converted, rfl⟩ := Option.map_eq_some_iff.mp read
    exact ⟨rfl, Number.readBinary_fits converted⟩
  | char =>
    simp only [ScalarType.read] at read
    cases characters : text.toList with
    | nil =>
      rw [characters] at read
      cases read
    | cons character rest =>
      rw [characters] at read
      cases rest with
      | nil =>
        cases read
        trivial
      | cons next rest => cases read
  | text =>
    cases read
    trivial

/-! ## The declared fields -/

namespace FieldSpec

/-- What a name is declared to hold; of several declarations the last one counts. -/
def declared? (fields : List (String × FieldSpec)) (name : String) : Option FieldSpec :=
  fields.reverse.lookup name

/-- The types of fields are taken one by one. -/
theorem types_eq_map (fields : List (String × FieldSpec)) :
    types fields = fields.map fun field => (field.1, field.2.type field.1) := by
  induction fields with
  | nil => rw [types, List.map_nil]
  | cons field rest ih =>
    obtain ⟨name, spec⟩ := field
    rw [types, ih, List.map_cons]

/-- The descriptor that fields make finds for each name the type of what is declared. -/
theorem descriptor_find? (typeName : String) (fields : List (String × FieldSpec)) (name : String) :
    (descriptor typeName fields).find? name =
      (declared? fields name).map (FieldSpec.type name) := by
  have looked : ∀ specs : List (String × FieldSpec),
      (specs.map fun field => (field.1, field.2.type field.1)).lookup name =
        (specs.lookup name).map (FieldSpec.type name) := by
    intro specs
    induction specs with
    | nil => rfl
    | cons field rest ih =>
      have first : (field :: rest).lookup name =
          if name = field.1 then some field.2 else rest.lookup name :=
        Directory.find?_cons field.1 field.2 rest name
      have mapped := Directory.find?_cons field.1 (field.2.type field.1)
        (rest.map fun field => (field.1, field.2.type field.1)) name
      unfold Directory.find? at mapped
      rw [List.map_cons, mapped, first, ih]
      by_cases same : name = field.1
      · rw [if_pos same, if_pos same, ← same]
        rfl
      · rw [if_neg same, if_neg same]
  rw [descriptor, Descriptor.find?_made, types_eq_map, ← List.map_reverse, looked, declared?]

/-- The declaration of the records of a field is the descriptor of its own fields. -/
theorem descriptor_eq (name : String) (fields : List (String × FieldSpec)) :
    Descriptor.mk name ((Descriptor.empty name).addAll (types fields)).fields =
      descriptor name fields := by
  have named := Descriptor.addAll_typeName (.empty name) (types fields)
  unfold descriptor
  generalize (Descriptor.empty name).addAll (types fields) = made at named ⊢
  obtain ⟨typeName, found⟩ := made
  cases named
  rfl

end FieldSpec

/-! ## Conforming records -/

/-- A group of a record holds what is declared: its names are in order, each is declared of the
group's shape, and each holds as declared. -/
structure AsDeclared {α β : Type} (fields : List (String × FieldSpec)) (shape : β → FieldSpec)
    (Holds : β → α → Prop) (group : Directory α) : Prop where
  /-- The names are in order. -/
  ordered : group.Ordered
  /-- Each is declared and holds so. -/
  declared : ∀ entry ∈ group, ∃ content,
    FieldSpec.declared? fields entry.1 = some (shape content) ∧ Holds content entry.2

namespace AsDeclared

variable {α β : Type} {fields : List (String × FieldSpec)} {shape : β → FieldSpec}
  {Holds : β → α → Prop} {group : Directory α}

/-- A group without entries holds what is declared. -/
theorem nil : AsDeclared fields shape Holds ([] : Directory α) :=
  ⟨Directory.ordered_nil, fun _ member => absurd member List.not_mem_nil⟩

/-- What is found in a group holds as its name is declared. -/
theorem found (declares : AsDeclared fields shape Holds group)
    (injective : Function.Injective shape) {name : String} {content : β}
    (named : FieldSpec.declared? fields name = some (shape content)) {entry : α}
    (found : group.find? name = some entry) : Holds content entry := by
  obtain ⟨other, named', holds⟩ :=
    declares.declared (name, entry) (Directory.mem_of_find? found)
  rw [named, Option.some.injEq] at named'
  rwa [injective named']

/-- Changing an entry of a name that is declared so keeps the group as declared. -/
theorem alter (declares : AsDeclared fields shape Holds group) {name : String} {content : β}
    (named : FieldSpec.declared? fields name = some (shape content)) {change : Option α → α}
    (holds : Holds content (change (group.find? name))) :
    AsDeclared fields shape Holds (group.alter name change) where
  ordered := declares.ordered.alter name change
  declared := declares.ordered.forall_alter
    (fun name entry => ∃ content,
      FieldSpec.declared? fields name = some (shape content) ∧ Holds content entry)
    declares.declared ⟨content, named, holds⟩

/-- Groups of different shapes have no name in common. -/
theorem disjoint {α' β' : Type} {shape' : β' → FieldSpec} {Holds' : β' → α' → Prop}
    {group' : Directory α'} (declares : AsDeclared fields shape Holds group)
    (declares' : AsDeclared fields shape' Holds' group')
    (differ : ∀ content content', shape content ≠ shape' content') :
    (group.map Prod.fst).Disjoint (group'.map Prod.fst) := by
  intro name member member'
  obtain ⟨entry, among, rfl⟩ := List.mem_map.mp member
  obtain ⟨entry', among', same⟩ := List.mem_map.mp member'
  obtain ⟨content, named, _⟩ := declares.declared entry among
  obtain ⟨content', named', _⟩ := declares'.declared entry' among'
  rw [same, named, Option.some.injEq] at named'
  exact differ content content' named'

end AsDeclared

namespace Record

/-- A record conforms to fields: at this level, and inside every nested record and every element of
a list of records, each key is a declared field, stands in the group of its declared shape, and
holds values of the declared type or records that conform to the declared fields. -/
inductive Conforms : List (String × FieldSpec) → Record → Prop where
  | of {fields : List (String × FieldSpec)} {record : Record}
      (scalars : AsDeclared fields .scalar
        (fun name value => value.HasType name.type) record.scalars)
      (lists : AsDeclared fields .scalarList
        (fun name values => ∀ value ∈ values, value.HasType name.type) record.lists)
      (nested : AsDeclared fields .composite (fun _ _ => True) record.nested)
      (inner : ∀ entry ∈ record.nested, ∀ specs,
        FieldSpec.declared? fields entry.1 = some (.composite specs) → Conforms specs entry.2)
      (nestedLists : AsDeclared fields .compositeList (fun _ _ => True) record.nestedLists)
      (elements : ∀ entry ∈ record.nestedLists, ∀ specs,
        FieldSpec.declared? fields entry.1 = some (.compositeList specs) →
          ∀ element ∈ entry.2, Conforms specs element) :
      Conforms fields record

/-- What a record that conforms to fields holds, group by group. -/
structure Level (fields : List (String × FieldSpec)) (record : Record) : Prop where
  /-- Scalar fields hold values of their type. -/
  scalars : AsDeclared fields .scalar (fun name value => value.HasType name.type) record.scalars
  /-- Record fields hold records that conform to the fields declared there. -/
  nested : AsDeclared fields .composite Conforms record.nested
  /-- Fields that hold lists of scalars hold values of their type. -/
  lists : AsDeclared fields .scalarList
    (fun name values => ∀ value ∈ values, value.HasType name.type) record.lists
  /-- Fields that hold lists of records hold records that conform to the fields declared there. -/
  nestedLists : AsDeclared fields .compositeList
    (fun specs elements => ∀ element ∈ elements, Conforms specs element) record.nestedLists

/-- A record conforms to fields exactly when its groups hold what the fields declare. -/
theorem conforms_iff {fields : List (String × FieldSpec)} {record : Record} :
    Conforms fields record ↔ Level fields record := by
  constructor
  · rintro ⟨scalars, lists, nested, inner, nestedLists, elements⟩
    refine ⟨scalars, ⟨nested.ordered, fun entry member => ?_⟩, lists,
      ⟨nestedLists.ordered, fun entry member => ?_⟩⟩
    · obtain ⟨specs, named, _⟩ := nested.declared entry member
      exact ⟨specs, named, inner entry member specs named⟩
    · obtain ⟨specs, named, _⟩ := nestedLists.declared entry member
      exact ⟨specs, named, elements entry member specs named⟩
  · rintro ⟨scalars, nested, lists, nestedLists⟩
    refine .of scalars lists ⟨nested.ordered, fun entry member => ?_⟩
      (fun entry member specs named => ?_) ⟨nestedLists.ordered, fun entry member => ?_⟩
      (fun entry member specs named => ?_)
    · obtain ⟨specs, named, _⟩ := nested.declared entry member
      exact ⟨specs, named, trivial⟩
    · exact nested.found (fun _ _ => FieldSpec.composite.inj) named
        (nested.ordered.find?_of_mem member)
    · obtain ⟨specs, named, _⟩ := nestedLists.declared entry member
      exact ⟨specs, named, trivial⟩
    · exact nestedLists.found (fun _ _ => FieldSpec.compositeList.inj) named
        (nestedLists.ordered.find?_of_mem member)

variable {fields : List (String × FieldSpec)} {record : Record}

/-- The record without fields conforms to any. -/
theorem conforms_empty (fields : List (String × FieldSpec)) : Conforms fields empty :=
  conforms_iff.mpr ⟨.nil, .nil, .nil, .nil⟩

namespace Level

variable (level : Level fields record) {field : String}

include level

/-- Writing a value of the declared type keeps the groups as declared. -/
theorem set {name : ScalarName} (named : FieldSpec.declared? fields field = some (.scalar name))
    {value : Scalar} (typed : value.HasType name.type) : Level fields (record.set field value) :=
  ⟨level.scalars.alter named typed, level.nested, level.lists, level.nestedLists⟩

/-- Appending a value of the declared type keeps the groups as declared. -/
theorem push {name : ScalarName}
    (named : FieldSpec.declared? fields field = some (.scalarList name)) {value : Scalar}
    (typed : value.HasType name.type) : Level fields (record.push field value) := by
  refine ⟨level.scalars, level.nested, level.lists.alter named ?_, level.nestedLists⟩
  intro other member
  rcases List.mem_append.mp member with old | last
  · cases found : record.lists.find? field with
    | none =>
      rw [found] at old
      cases old
    | some values =>
      rw [found] at old
      exact level.lists.found (fun _ _ => FieldSpec.scalarList.inj) named found other old
  · rw [List.mem_singleton.mp last]
    exact typed

/-- Writing a conforming record keeps the groups as declared. -/
theorem setNested {specs : List (String × FieldSpec)}
    (named : FieldSpec.declared? fields field = some (.composite specs)) {inner : Record}
    (conforms : Conforms specs inner) : Level fields (record.setNested field inner) :=
  ⟨level.scalars, level.nested.alter named conforms, level.lists, level.nestedLists⟩

/-- Appending a conforming record keeps the groups as declared. -/
theorem pushNested {specs : List (String × FieldSpec)}
    (named : FieldSpec.declared? fields field = some (.compositeList specs)) {element : Record}
    (conforms : Conforms specs element) : Level fields (record.pushNested field element) := by
  refine ⟨level.scalars, level.nested, level.lists, level.nestedLists.alter named ?_⟩
  intro other member
  rcases List.mem_append.mp member with old | last
  · cases found : record.nestedLists.find? field with
    | none =>
      rw [found] at old
      cases old
    | some elements =>
      rw [found] at old
      exact level.nestedLists.found (fun _ _ => FieldSpec.compositeList.inj) named found other old
  · rw [List.mem_singleton.mp last]
    exact conforms

/-- The nested record of a field conforms, also if it is begun only now. -/
theorem nestedAt {specs : List (String × FieldSpec)}
    (named : FieldSpec.declared? fields field = some (.composite specs)) :
    Conforms specs (record.nestedAt field) := by
  unfold Record.nestedAt
  cases found : record.nested.find? field with
  | none => exact conforms_empty specs
  | some inner => exact level.nested.found (fun _ _ => FieldSpec.composite.inj) named found

end Level

end Record

/-! ## Writes -/

/-- A write through a descriptor. -/
inductive Write where
  | set (field text : String)
  | push (field text : String)
  | flag (field : String)
  | nested (field : String) (captures : List (String × String))

namespace Descriptor

/-- What a write leaves behind. -/
def perform (descriptor : Descriptor) (record : Record) : Write → Written
  | .set field text => descriptor.setScalar record field text
  | .push field text => descriptor.pushScalar record field text
  | .flag field => descriptor.setFlag record field
  | .nested field captures => descriptor.assignNested record field captures

/-- The record after writes one after the other, those that fail among them. -/
def performAll (descriptor : Descriptor) (record : Record) (writes : List Write) : Record :=
  writes.foldl (fun record write => (descriptor.perform record write).record) record

/-- What each write of captures keeps is kept by all of them. -/
theorem writeAll_keeps (Keeps : Record → Prop) {write : Record → String → String → Written}
    (kept : ∀ record field text, Keeps record → Keeps (write record field text).record)
    (captures : List (String × String)) {record : Record} (start : Keeps record) :
    Keeps (writeAll write record captures).record := by
  induction captures generalizing record with
  | nil => exact start
  | cons capture rest ih =>
    obtain ⟨field, text⟩ := capture
    have first := kept record field text start
    rw [writeAll]
    cases stopped : (write record field text).error with
    | none => exact ih first
    | some error => exact first

/-- What a value of the type keeps is kept by writing a text. -/
theorem writeScalar_keeps {Keeps : Record → Prop} {type : ScalarType} {record : Record}
    (start : Keeps record) {write : Scalar → Record}
    (kept : ∀ value, value.HasType type → Keeps (write value)) (field text : String) :
    Keeps (writeScalar type record field text write).record := by
  unfold writeScalar
  cases read : type.read text with
  | none => exact start
  | some value => exact kept value (ScalarType.read_hasType read)

end Descriptor

namespace Record.Conforms

variable {typeName : String} {fields : List (String × FieldSpec)} {record : Record}
  (conforms : Conforms fields record)

include conforms

/-- Writing a scalar field keeps a record conforming. -/
theorem setScalar (typeName field text : String) : Conforms fields
    ((FieldSpec.descriptor typeName fields).setScalar record field text).record := by
  unfold Descriptor.setScalar
  rw [FieldSpec.descriptor_find?]
  cases named : FieldSpec.declared? fields field with
  | none => exact conforms
  | some spec =>
    cases spec with
    | scalar name =>
      exact Descriptor.writeScalar_keeps conforms
        (fun value typed => conforms_iff.mpr ((conforms_iff.mp conforms).set named typed)) field
        text
    | composite | scalarList | compositeList => exact conforms

/-- Appending to a list of scalars keeps a record conforming. -/
theorem pushScalar (typeName field text : String) : Conforms fields
    ((FieldSpec.descriptor typeName fields).pushScalar record field text).record := by
  unfold Descriptor.pushScalar
  rw [FieldSpec.descriptor_find?]
  cases named : FieldSpec.declared? fields field with
  | none => exact conforms
  | some spec =>
    cases spec with
    | scalarList name =>
      exact Descriptor.writeScalar_keeps conforms
        (fun value typed => conforms_iff.mpr ((conforms_iff.mp conforms).push named typed)) field
        text
    | scalar | composite | compositeList => exact conforms

/-- Setting a truth field keeps a record conforming. -/
theorem setFlag (typeName field : String) : Conforms fields
    ((FieldSpec.descriptor typeName fields).setFlag record field).record := by
  unfold Descriptor.setFlag
  rw [FieldSpec.descriptor_find?]
  cases named : FieldSpec.declared? fields field with
  | none => exact conforms
  | some spec =>
    cases spec with
    | scalar name =>
      cases name with
      | bool =>
        exact Descriptor.writeScalar_keeps conforms
          (fun value typed => conforms_iff.mpr ((conforms_iff.mp conforms).set named typed)) field
          "true"
      | int | uint | float | text => exact conforms
    | composite | scalarList | compositeList => exact conforms

/-- Writing captures to a nested record or to a new element keeps a record conforming, also where a
capture fails and an empty nested record was begun. -/
theorem assignNested (typeName field : String) (captures : List (String × String)) :
    Conforms fields
      ((FieldSpec.descriptor typeName fields).assignNested record field captures).record := by
  unfold Descriptor.assignNested
  rw [FieldSpec.descriptor_find?]
  have level := conforms_iff.mp conforms
  cases named : FieldSpec.declared? fields field with
  | none => exact conforms
  | some spec =>
    cases spec with
    | composite specs =>
      have inner := Descriptor.writeAll_keeps (Conforms specs)
        (fun _ capture text conforms => setScalar conforms field capture text) captures
        (level.nestedAt named)
      rw [← FieldSpec.descriptor_eq] at inner
      exact conforms_iff.mpr (level.setNested named inner)
    | compositeList specs =>
      have element := Descriptor.writeAll_keeps (Conforms specs)
        (fun _ capture text conforms => setScalar conforms field capture text) captures
        (conforms_empty specs)
      rw [← FieldSpec.descriptor_eq] at element
      simp only [Option.map_some, FieldSpec.type]
      cases stopped : (Descriptor.writeAll (Descriptor.setScalar
          ⟨field, ((Descriptor.empty field).addAll (FieldSpec.types specs)).fields⟩) empty
          captures).error with
      | none => exact conforms_iff.mpr (level.pushNested named element)
      | some error => exact conforms
    | scalar | scalarList => exact conforms

/-- Every write keeps a record conforming, whether it succeeds or not. -/
theorem perform (typeName : String) (write : Write) :
    Conforms fields ((FieldSpec.descriptor typeName fields).perform record write).record := by
  cases write with
  | set field text => exact conforms.setScalar typeName field text
  | push field text => exact conforms.pushScalar typeName field text
  | flag field => exact conforms.setFlag typeName field
  | nested field captures => exact conforms.assignNested typeName field captures

/-- Any writes keep a record conforming. -/
theorem performAll (typeName : String) (writes : List Write) :
    Conforms fields ((FieldSpec.descriptor typeName fields).performAll record writes) := by
  induction writes generalizing record with
  | nil => exact conforms
  | cons write rest ih => exact ih (conforms.perform typeName write)

end Record.Conforms

/-! ## Keys -/

namespace Record

/-- The keys of a record, as its JSON lists them. -/
def keys (record : Record) : List String :=
  record.scalars.map Prod.fst ++ record.nested.map Prod.fst ++ record.lists.map Prod.fst ++
    record.nestedLists.map Prod.fst

/-- A property of a record and of all records in it, at every level. -/
inductive Everywhere (Holds : Record → Prop) : Record → Prop where
  | of {record : Record} (here : Holds record)
      (nested : ∀ entry ∈ record.nested, Everywhere Holds entry.2)
      (elements : ∀ entry ∈ record.nestedLists, ∀ element ∈ entry.2, Everywhere Holds element) :
      Everywhere Holds record

/-- The groups of a record that conforms have no key in common, and none twice. -/
theorem Level.keys_nodup {fields : List (String × FieldSpec)} {record : Record}
    (level : Level fields record) : record.keys.Nodup := by
  obtain ⟨scalars, nested, lists, nestedLists⟩ := level
  have scalars_nested := scalars.disjoint nested fun _ _ => nofun
  have scalars_lists := scalars.disjoint lists fun _ _ => nofun
  have scalars_nestedLists := scalars.disjoint nestedLists fun _ _ => nofun
  have nested_lists := nested.disjoint lists fun _ _ => nofun
  have nested_nestedLists := nested.disjoint nestedLists fun _ _ => nofun
  have lists_nestedLists := lists.disjoint nestedLists fun _ _ => nofun
  rw [keys]
  refine List.Nodup.append ?_ nestedLists.ordered.names_nodup ?_
  · refine List.Nodup.append ?_ lists.ordered.names_nodup ?_
    · exact List.Nodup.append scalars.ordered.names_nodup nested.ordered.names_nodup scalars_nested
    · exact List.disjoint_append_left.mpr ⟨scalars_lists, nested_lists⟩
  · refine List.disjoint_append_left.mpr ⟨?_, lists_nestedLists⟩
    exact List.disjoint_append_left.mpr ⟨scalars_nestedLists, nested_nestedLists⟩

/-- A record that conforms repeats no key at any level. -/
theorem Conforms.keys_nodup {fields : List (String × FieldSpec)} {record : Record}
    (conforms : Conforms fields record) : record.Everywhere fun level => level.keys.Nodup := by
  induction conforms with
  | @of fields record scalars lists nested inner nestedLists elements ihInner ihElements =>
    have level : Level fields record :=
      conforms_iff.mp (.of scalars lists nested inner nestedLists elements)
    refine .of level.keys_nodup (fun entry member => ?_) (fun entry member => ?_)
    · obtain ⟨specs, named, _⟩ := nested.declared entry member
      exact ihInner entry member specs named
    · obtain ⟨specs, named, _⟩ := nestedLists.declared entry member
      exact ihElements entry member specs named

end Record

end Switchboard
