import Switchboard.Proofs.Record.Conformance
import Switchboard.Record.Json
/-!
# The objects that are printed

The JSON of a record is a text; here it is given the objects, arrays and values that it writes
(`Record.tree`, `Record.json_eq`). So it can be said of the text of a dispatched line that no object
in it repeats a key, at any depth (`Record.Conforms.dispatchTree_distinct`).
-/
namespace Switchboard

namespace Json

/-- A JSON value as it is written: a scalar, an array, or an object with its members in order. -/
inductive Tree where
  | scalar (value : Scalar)
  | array (elements : List Tree)
  | object (members : List (String × Tree))

namespace Tree

mutual

/-- The text of a value. -/
def written : Tree → String
  | scalar value => value.json
  | array elements => Json.list (elementTexts elements)
  | object members => Json.object (memberTexts members)

/-- The texts of elements. -/
def elementTexts : List Tree → List String
  | [] => []
  | element :: rest => element.written :: elementTexts rest

/-- The texts of members. -/
def memberTexts : List (String × Tree) → List String
  | [] => []
  | (name, value) :: rest => Json.member name value.written :: memberTexts rest

end

/-- No object in a value repeats a key. -/
inductive Distinct : Tree → Prop where
  | scalar (value : Scalar) : Distinct (scalar value)
  | array {elements : List Tree} (inner : ∀ element ∈ elements, Distinct element) :
      Distinct (array elements)
  | object {members : List (String × Tree)} (names : (members.map Prod.fst).Nodup)
      (inner : ∀ member ∈ members, Distinct member.2) : Distinct (object members)

/-- The texts of elements are those of each. -/
theorem elementTexts_eq_map (elements : List Tree) :
    elementTexts elements = elements.map written := by
  induction elements with
  | nil => rw [elementTexts, List.map_nil]
  | cons element rest ih => rw [elementTexts, ih, List.map_cons]

/-- The texts of members are those of each. -/
theorem memberTexts_eq_map (members : List (String × Tree)) :
    memberTexts members = members.map fun member => Json.member member.1 member.2.written := by
  induction members with
  | nil => rw [memberTexts, List.map_nil]
  | cons member rest ih =>
    obtain ⟨name, value⟩ := member
    rw [memberTexts, ih, List.map_cons]

end Tree

end Json

namespace Record

open Json

mutual

/-- The object that a record is written as. -/
def tree : Record → Tree
  | of scalars nested lists nestedLists =>
    .object (scalars.map (fun entry => (entry.1, .scalar entry.2)) ++ nestedTrees nested ++
      lists.map (fun entry => (entry.1, .array (entry.2.map .scalar))) ++
      nestedListTrees nestedLists)

/-- The members that records are written as. -/
def nestedTrees : List (String × Record) → List (String × Tree)
  | [] => []
  | (name, record) :: rest => (name, record.tree) :: nestedTrees rest

/-- The members that lists of records are written as. -/
def nestedListTrees : List (String × List Record) → List (String × Tree)
  | [] => []
  | (name, records) :: rest => (name, .array (elementTrees records)) :: nestedListTrees rest

/-- The elements that records are written as. -/
def elementTrees : List Record → List Tree
  | [] => []
  | record :: rest => record.tree :: elementTrees rest

end

mutual

/-- The JSON of a record is the text of its object. -/
theorem json_eq : ∀ record : Record, record.json = record.tree.written
  | of scalars nested lists nestedLists => by
    have scalarTexts : ∀ values : List Scalar,
        Tree.elementTexts (values.map .scalar) = values.map Scalar.json := by
      intro values
      rw [Tree.elementTexts_eq_map, List.map_map]
      exact List.map_congr_left fun value _ => by rw [Function.comp_apply, Tree.written]
    rw [json, tree, Tree.written, Tree.memberTexts_eq_map, List.map_append, List.map_append,
      List.map_append, List.map_map, List.map_map, ← Tree.memberTexts_eq_map,
      ← Tree.memberTexts_eq_map, nestedMembers_eq nested, nestedListMembers_eq nestedLists]
    simp only [Function.comp_def, Tree.written, scalarTexts]

/-- The members of nested records are the texts of their objects. -/
theorem nestedMembers_eq : ∀ nested : List (String × Record),
    nestedMembers nested = Tree.memberTexts (nestedTrees nested)
  | [] => by rw [nestedMembers, nestedTrees, Tree.memberTexts]
  | (name, record) :: rest => by
    rw [nestedMembers, nestedTrees, Tree.memberTexts, json_eq record, nestedMembers_eq rest]

/-- The members of lists of records are the texts of their arrays. -/
theorem nestedListMembers_eq : ∀ nestedLists : List (String × List Record),
    nestedListMembers nestedLists = Tree.memberTexts (nestedListTrees nestedLists)
  | [] => by rw [nestedListMembers, nestedListTrees, Tree.memberTexts]
  | (name, records) :: rest => by
    rw [nestedListMembers, nestedListTrees, Tree.memberTexts, Tree.written, elements_eq records,
      nestedListMembers_eq rest]

/-- The elements of a list of records are the texts of their objects. -/
theorem elements_eq : ∀ records : List Record,
    elements records = Tree.elementTexts (elementTrees records)
  | [] => by rw [elements, elementTrees, Tree.elementTexts]
  | record :: rest => by
    rw [elements, elementTrees, Tree.elementTexts, json_eq record, elements_eq rest]

end

/-! ## Keys of objects -/

/-- The members of nested records have their names and their objects. -/
theorem nestedTrees_eq_map (nested : List (String × Record)) :
    nestedTrees nested = nested.map fun entry => (entry.1, entry.2.tree) := by
  induction nested with
  | nil => rw [nestedTrees, List.map_nil]
  | cons entry rest ih =>
    obtain ⟨name, record⟩ := entry
    rw [nestedTrees, ih, List.map_cons]

/-- The elements of a list of records are their objects. -/
theorem elementTrees_eq_map (records : List Record) : elementTrees records = records.map tree := by
  induction records with
  | nil => rw [elementTrees, List.map_nil]
  | cons record rest ih => rw [elementTrees, ih, List.map_cons]

/-- The members of lists of records have their names and the arrays of their objects. -/
theorem nestedListTrees_eq_map (nestedLists : List (String × List Record)) :
    nestedListTrees nestedLists =
      nestedLists.map fun entry => (entry.1, .array (entry.2.map tree)) := by
  induction nestedLists with
  | nil => rw [nestedListTrees, List.map_nil]
  | cons entry rest ih =>
    obtain ⟨name, records⟩ := entry
    rw [nestedListTrees, ih, elementTrees_eq_map, List.map_cons]

/-- The members of the object of a record, group by group. -/
def members (record : Record) : List (String × Tree) :=
  record.scalars.map (fun entry => (entry.1, .scalar entry.2)) ++
    record.nested.map (fun entry => (entry.1, entry.2.tree)) ++
    record.lists.map (fun entry => (entry.1, .array (entry.2.map .scalar))) ++
    record.nestedLists.map (fun entry => (entry.1, .array (entry.2.map tree)))

/-- The object of a record has these members. -/
theorem tree_eq (record : Record) : record.tree = .object record.members := by
  obtain ⟨scalars, nested, lists, nestedLists⟩ := record
  rw [tree, nestedTrees_eq_map, nestedListTrees_eq_map]
  rfl

/-- The keys of the object are those of the record. -/
theorem members_names (record : Record) : record.members.map Prod.fst = record.keys := by
  simp only [members, keys, List.map_append, List.map_map, Function.comp_def]

/-- If a record repeats no key at any level, then no object in its object does. -/
theorem Everywhere.tree_distinct {record : Record}
    (distinct : record.Everywhere fun level => level.keys.Nodup) : record.tree.Distinct := by
  induction distinct with
  | @of record here _ _ ihNested ihElements =>
    rw [tree_eq]
    refine .object (record.members_names ▸ here) fun member among => ?_
    simp only [members, List.mem_append, List.mem_map] at among
    obtain ((⟨entry, _, rfl⟩ | ⟨entry, among, rfl⟩) | ⟨entry, _, rfl⟩) | ⟨entry, among, rfl⟩ :=
      among
    · exact .scalar entry.2
    · exact ihNested entry among
    · refine .array fun element member => ?_
      obtain ⟨value, _, rfl⟩ := List.mem_map.mp member
      exact .scalar value
    · refine .array fun element member => ?_
      obtain ⟨inner, within, rfl⟩ := List.mem_map.mp member
      exact ihElements entry among inner within

/-- The object that is printed for a record, under the text by which its command is declared. -/
def dispatchTree (command : String) (record : Record) : Tree :=
  .object [("command", .scalar (.text command)), ("fields", record.tree)]

/-- What is printed for a record is the text of that object. -/
theorem dispatchLine_eq (command : String) (record : Record) :
    dispatchLine command record = (record.dispatchTree command).written := by
  rw [dispatchLine, json_eq, dispatchTree, Tree.written, Tree.memberTexts_eq_map]
  simp only [List.map_cons, List.map_nil, Tree.written]
  rfl

/-- No object that is printed for a conforming record repeats a key. -/
theorem Conforms.dispatchTree_distinct {fields : List (String × FieldSpec)} {record : Record}
    (conforms : Conforms fields record) (command : String) :
    (record.dispatchTree command).Distinct := by
  have names : ["command", "fields"].Nodup := by decide
  refine .object names fun member among => ?_
  rcases List.mem_cons.mp among with rfl | among
  · exact .scalar _
  · rw [List.mem_singleton.mp among]
    exact conforms.keys_nodup.tree_distinct

end Record

end Switchboard
