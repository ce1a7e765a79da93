import Switchboard.Proofs.Record.Legibility
import Switchboard.Proofs.Record.Members
import Switchboard.Proofs.Registry.Records
/-!
# A printed line tells its record

The groups of a record are not named in its JSON, and neither are the types of its numbers. The
fields that are declared settle both: a name has one shape and one type. So what a command prints
for a record that conforms to its fields tells the command and the record, if no field is a floating
point number, of which some are printed alike (`dispatchLine_tells`).
-/
namespace Switchboard

open Json

/-! ## Scalars -/

/-- Truth values are told by their words. -/
theorem Json.truth_legible :
    Legible (fun _ : Bool => True) fun value => (Scalar.bool value).json.toList := by
  refine Legible.words (fun value _ => ?_) (fun value _ => ?_) (fun first second _ _ same => ?_)
  · cases value <;> decide
  · have solid : (Scalar.bool value).json.toList.all (· ∉ closers) = true := by
      cases value <;> decide
    exact fun character member => of_decide_eq_true (List.all_eq_true.mp solid character member)
  · revert same
    cases first <;> cases second <;> decide

/-- Values of a declared type other than floating point numbers can be told. -/
theorem Scalar.legible {name : ScalarName} (other : name ≠ .float) :
    Legible (fun value : Scalar => value.HasType name.type) fun value => value.json.toList := by
  cases name with
  | bool =>
    refine truth_legible.image Scalar.bool fun value typed => ?_
    cases value with
    | bool value => exact ⟨value, trivial, rfl, rfl⟩
    | integer | unsigned | float | char | text => cases typed
  | int =>
    refine whole_legible.image Scalar.integer fun value typed => ?_
    cases value with
    | integer value => exact ⟨value, trivial, rfl, rfl⟩
    | bool | unsigned | float | char | text => cases typed
  | uint =>
    refine whole_legible.image (fun value => Scalar.unsigned value.toNat) fun value typed => ?_
    cases value with
    | unsigned value => exact ⟨value, trivial, rfl, rfl⟩
    | bool | integer | float | char | text => cases typed
  | float => exact absurd rfl other
  | text =>
    refine text_legible.image Scalar.text fun value typed => ?_
    cases value with
    | text value => exact ⟨value, trivial, rfl, rfl⟩
    | bool | integer | unsigned | float | char => cases typed

/-! ## Contents of fields -/

namespace Record

/-- What a field of a record holds. -/
inductive Content where
  | scalar (value : Scalar)
  | nested (record : Record)
  | list (values : List Scalar)
  | nestedList (elements : List Record)

namespace Content

/-- The JSON value that is written for what a field holds. -/
def tree : Content → Tree
  | scalar value => .scalar value
  | nested record => record.tree
  | list values => .array (values.map .scalar)
  | nestedList elements => .array (elements.map Record.tree)

/-- The scalar that a field holds. -/
def scalar? : Content → Option Scalar
  | scalar value => some value
  | _ => none

/-- The record that a field holds. -/
def nested? : Content → Option Record
  | nested record => some record
  | _ => none

/-- The list of scalars that a field holds. -/
def list? : Content → Option (List Scalar)
  | list values => some values
  | _ => none

/-- The list of records that a field holds. -/
def nestedList? : Content → Option (List Record)
  | nestedList elements => some elements
  | _ => none

end Content

/-- The fields of a record, group by group. -/
def contents (record : Record) : List (String × Content) :=
  record.scalars.map (Prod.map id .scalar) ++ record.nested.map (Prod.map id .nested) ++
    record.lists.map (Prod.map id .list) ++ record.nestedLists.map (Prod.map id .nestedList)

/-- The fields of one group. -/
def group {α : Type} (pick : Content → Option α) (contents : List (String × Content)) :
    List (String × α) :=
  contents.filterMap fun entry => (pick entry.2).map (entry.1, ·)

/-- The record of some fields. -/
def ofContents (contents : List (String × Content)) : Record :=
  of (group Content.scalar? contents) (group Content.nested? contents)
    (group Content.list? contents) (group Content.nestedList? contents)

/-- What is picked from entries that are made alike. -/
theorem group_map {α β : Type} (pick : Content → Option α) (make : β → Content)
    (entries : List (String × β)) : group pick (entries.map (Prod.map id make)) =
      entries.filterMap fun entry => (pick (make entry.2)).map (entry.1, ·) := by
  rw [group, List.filterMap_map]
  rfl

/-- A record is that of its fields. -/
theorem ofContents_contents (record : Record) : ofContents record.contents = record := by
  have split : ∀ {α : Type} (pick : Content → Option α) (front back : List (String × Content)),
      group pick (front ++ back) = group pick front ++ group pick back :=
    fun pick front back => List.filterMap_append
  obtain ⟨scalars, nested, lists, nestedLists⟩ := record
  simp [ofContents, contents, split, group_map, Content.scalar?, Content.nested?, Content.list?,
    Content.nestedList?, Record.scalars, Record.nested, Record.lists, Record.nestedLists]

/-- The object of a record has its fields as members. -/
theorem members_contents (record : Record) :
    record.members = record.contents.map (Prod.map id Content.tree) := by
  simp only [members, contents, List.map_append, List.map_map]
  rfl

end Record

/-! ## Fields of a declared shape -/

open Record

/-- A field holds what it is declared to hold. -/
def FieldSpec.Holds : FieldSpec → Content → Prop
  | scalar name, .scalar value => value.HasType name.type
  | composite fields, .nested record => Conforms fields record
  | scalarList name, .list values => ∀ value ∈ values, value.HasType name.type
  | compositeList fields, .nestedList elements => ∀ element ∈ elements, Conforms fields element
  | _, _ => False

/-- A declared field is one of the fields. -/
theorem FieldSpec.mem_of_declared {fields : List (String × FieldSpec)} {name : String}
    {spec : FieldSpec} (declared : declared? fields name = some spec) : (name, spec) ∈ fields :=
  List.mem_reverse.mp (Directory.mem_of_find? declared)

/-- A field is declared, and holds what it is declared to hold. -/
def FieldSpec.Declares (fields : List (String × FieldSpec)) (entry : String × Content) : Prop :=
  ∃ spec, declared? fields entry.1 = some spec ∧ spec.Holds entry.2

/-- The fields of a record that conforms hold what is declared. -/
theorem Record.Conforms.declares {fields : List (String × FieldSpec)} {record : Record}
    (conforms : Conforms fields record) :
    ∀ entry ∈ record.contents, FieldSpec.Declares fields entry := by
  obtain ⟨scalars, nested, lists, nestedLists⟩ := conforms_iff.mp conforms
  intro entry among
  simp only [contents, List.mem_append, List.mem_map] at among
  obtain ((⟨held, member, rfl⟩ | ⟨held, member, rfl⟩) | ⟨held, member, rfl⟩) |
    ⟨held, member, rfl⟩ := among
  · obtain ⟨name, declared, holds⟩ := scalars.declared held member
    exact ⟨.scalar name, declared, holds⟩
  · obtain ⟨specs, declared, holds⟩ := nested.declared held member
    exact ⟨.composite specs, declared, holds⟩
  · obtain ⟨name, declared, holds⟩ := lists.declared held member
    exact ⟨.scalarList name, declared, holds⟩
  · obtain ⟨specs, declared, holds⟩ := nestedLists.declared held member
    exact ⟨.compositeList specs, declared, holds⟩

/-! ## Records -/

/-- The characters that are written for what a field holds. -/
def Record.Content.characters (content : Content) : List Char := content.tree.written.toList

/-- The characters that are written for a field. -/
def Record.fieldCharacters (entry : String × Content) : List Char :=
  (Json.member entry.1 entry.2.tree.written).toList

variable {fields : List (String × FieldSpec)}

/-- Fields can be told if what each of them holds can. -/
theorem FieldSpec.Declares.legible
    (each : ∀ field ∈ fields, Legible field.2.Holds Content.characters) :
    Legible (FieldSpec.Declares fields) fieldCharacters where
  begins entry _ rest ends := by
    rw [fieldCharacters, toList_member] at ends
    exact text_legible.begins entry.1 trivial _ ends
  apart first second rest rest' declares declares' ends ends' same := by
    obtain ⟨name, content⟩ := first
    obtain ⟨name', content'⟩ := second
    obtain ⟨spec, declared, holds⟩ := declares
    obtain ⟨spec', declared', holds'⟩ := declares'
    rw [fieldCharacters, fieldCharacters, toList_member, toList_member] at same
    obtain ⟨rfl, follows⟩ := text_apart same
    -- Fields of one name are declared alike.
    obtain rfl : spec = spec' := Option.some.inj (declared.symm.trans declared')
    obtain ⟨rfl, tails⟩ := (each _ (FieldSpec.mem_of_declared declared)).apart content content' rest
      rest' holds holds' ends ends' (List.tail_eq_of_cons_eq follows)
    exact ⟨rfl, tails⟩

/-- Records that conform to fields can be told if what each of these holds can. -/
theorem Record.Conforms.legible
    (each : ∀ field ∈ fields, Legible field.2.Holds Content.characters) :
    Legible (Conforms fields) fun record => record.tree.written.toList := by
  have entries := (FieldSpec.Declares.legible each).bracketed (show '\x7b' ∉ closers by decide)
    (show '\x7d' ∈ closers by decide) (by decide)
  refine entries.image ofContents fun record conforms =>
    ⟨record.contents, conforms.declares, ofContents_contents record, ?_⟩
  rw [tree_eq, Tree.written, Tree.memberTexts_eq_map, toList_object, members_contents]
  simp only [List.map_map]
  rfl

/-- A field that holds no floating point number, at any depth. -/
inductive FieldSpec.FloatFree : FieldSpec → Prop where
  | scalar {name : ScalarName} (other : name ≠ .float) : FloatFree (.scalar name)
  | composite {fields : List (String × FieldSpec)}
      (inner : ∀ field ∈ fields, FloatFree field.2) : FloatFree (.composite fields)
  | scalarList {name : ScalarName} (other : name ≠ .float) : FloatFree (.scalarList name)
  | compositeList {fields : List (String × FieldSpec)}
      (inner : ∀ field ∈ fields, FloatFree field.2) : FloatFree (.compositeList fields)

/-- What a field holds can be told, if there is no floating point number in it. -/
theorem FieldSpec.FloatFree.legible {spec : FieldSpec} (free : spec.FloatFree) :
    Legible spec.Holds Content.characters := by
  induction free with
  | @scalar name other =>
    refine (Scalar.legible other).image Content.scalar fun content holds => ?_
    cases content with
    | scalar value =>
      refine ⟨value, holds, rfl, ?_⟩
      rw [Content.characters, Content.tree, Tree.written]
    | nested | list | nestedList => cases holds
  | composite inner ih =>
    refine (Conforms.legible ih).image Content.nested fun content holds => ?_
    cases content with
    | nested record => exact ⟨record, holds, rfl, rfl⟩
    | scalar | list | nestedList => cases holds
  | @scalarList name other =>
    have values := (Scalar.legible other).bracketed (show '[' ∉ closers by decide)
      (show ']' ∈ closers by decide) (by decide)
    refine values.image Content.list fun content holds => ?_
    cases content with
    | list values =>
      refine ⟨values, holds, rfl, ?_⟩
      rw [Content.characters, Content.tree, Tree.written, Tree.elementTexts_eq_map, toList_list]
      simp only [List.map_map, Function.comp_def, Tree.written]
    | scalar | nested | nestedList => cases holds
  | compositeList inner ih =>
    have elements := (Conforms.legible ih).bracketed (show '[' ∉ closers by decide)
      (show ']' ∈ closers by decide) (by decide)
    refine elements.image Content.nestedList fun content holds => ?_
    cases content with
    | nestedList elements =>
      refine ⟨elements, holds, rfl, ?_⟩
      rw [Content.characters, Content.tree, Tree.written, Tree.elementTexts_eq_map, toList_list]
      simp only [List.map_map, Function.comp_def]
    | scalar | nested | list => cases holds

/-! ## Printed lines -/

/-- The characters of what a command prints for a record. -/
theorem toList_dispatchLine (command : String) (record : Record) :
    (dispatchLine command record).toList = "\x7b\"command\":".toList ++ ((text command).toList ++
      (",\"fields\":".toList ++ (record.tree.written.toList ++ ['\x7d']))) := by
  have names : (text "command").toList = "\"command\"".toList ∧
      (text "fields").toList = "\"fields\"".toList := by decide
  have two : ∀ first second : List Char,
      [','].intercalate [first, second] = first ++ (',' :: second) := by
    intro first second
    rw [List.intercalate_cons_cons, List.intercalate_singleton, List.append_assoc]
    rfl
  rw [dispatchLine, toList_object, json_eq, List.map_cons, List.map_cons, List.map_nil, two,
    List.append_assoc, toList_member, List.cons_append, toList_member, names.1, names.2]
  simp

/-- The line that a command prints is told apart into the command and the text of the record. -/
theorem dispatchLine_apart {command command' : String} {record record' : Record}
    (same : dispatchLine command record = dispatchLine command' record') : command = command' ∧
      record.tree.written.toList ++ ['\x7d'] = record'.tree.written.toList ++ ['\x7d'] := by
  have characters := congrArg String.toList same
  rw [toList_dispatchLine, toList_dispatchLine] at characters
  obtain ⟨commands, records⟩ := text_apart (List.append_cancel_left characters)
  exact ⟨commands, List.append_cancel_left records⟩

/-- The line that a command prints for a record tells the command. For records that are written
through a descriptor of fields without floating point numbers it tells the record, too. -/
theorem dispatchLine_tells :
    (∀ command command' record record',
      dispatchLine command record = dispatchLine command' record' → command = command') ∧
    ∀ fields : List (String × FieldSpec), (∀ field ∈ fields, field.2.FloatFree) →
      ∀ typeName typeName' writes writes' command command',
        let record := (FieldSpec.descriptor typeName fields).performAll .empty writes
        let record' := (FieldSpec.descriptor typeName' fields).performAll .empty writes'
        dispatchLine command record = dispatchLine command' record' ↔
          command = command' ∧ record = record' := by
  refine ⟨fun command command' record record' same => (dispatchLine_apart same).1, ?_⟩
  intro fields free typeName typeName' writes writes' command command' record record'
  refine ⟨fun same => ?_, fun ⟨commands, records⟩ => by rw [commands, records]⟩
  obtain ⟨commands, characters⟩ := dispatchLine_apart same
  have legible := Conforms.legible fun field member => (free field member).legible
  have conforms : Conforms fields record := (conforms_empty fields).performAll typeName writes
  have conforms' : Conforms fields record' := (conforms_empty fields).performAll typeName' writes'
  have closed : Ends ['\x7d'] := ends_cons (by decide) []
  exact ⟨commands, (legible.apart _ _ _ _ conforms conforms' closed closed characters).1⟩

/-- A text that looks like two members is told from two members. -/
theorem dispatchLine_tells_quoted : (∀ field ∈ Sample.runFields, field.2.FloatFree) ∧
    dispatchLine "docker run" ((FieldSpec.descriptor "docker run" Sample.runFields).performAll
        .empty [.nested "Image" [("Name", "web\",\"Tag\":\"latest")]]) ≠
      dispatchLine "docker run" ((FieldSpec.descriptor "docker run" Sample.runFields).performAll
        .empty [.nested "Image" [("Name", "web"), ("Tag", "latest")]]) := by
  have free : ∀ field ∈ Sample.runFields, field.2.FloatFree := by
    have text : (FieldSpec.scalar .text).FloatFree := .scalar (by decide)
    have pair : ∀ first second : String, ∀ field ∈ [(first, FieldSpec.scalar .text),
        (second, FieldSpec.scalar .text)], field.2.FloatFree := by
      intro first second field member
      simp only [List.mem_cons, List.not_mem_nil, or_false] at member
      rcases member with rfl | rfl <;> exact text
    simp only [Sample.runFields, List.forall_mem_cons]
    exact ⟨text, .scalar (by decide), .scalarList (by decide), .composite (pair _ _),
      .compositeList (pair _ _), fun _ member => absurd member List.not_mem_nil⟩
  refine ⟨free, fun same => ?_⟩
  have records := ((dispatchLine_tells.2 Sample.runFields free _ _ _ _ _ _).mp same).2
  have names := congrArg (fun record : Record =>
    record.nested.map fun entry => entry.2.scalars.map Prod.fst) records
  revert names
  decide +kernel

end Switchboard
