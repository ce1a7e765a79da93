import Mathlib.Data.List.Dedup
import Switchboard.Descriptor
import Switchboard.Proofs.Record.Directories
/-!
# Additions to a descriptor

A descriptor that is made by additions is a map in which the last addition of a name counts
(`Descriptor.LastWins`): it lists the names in the order of their last additions, and shows for each
the shape and the nested declaration of that addition. An addition withdraws its name from where it
stood, so what a descriptor finds and lists is said for one addition first, and for a whole run of
them by induction.
-/
namespace Switchboard

/-! ## Additions -/

/-- The last addition of a name is of a type. -/
def LastAdded (additions : List (String × FieldType)) (name : String) (type : FieldType) : Prop :=
  ∃ earlier later, additions = earlier ++ (name, type) :: later ∧ name ∉ later.map Prod.fst

/-- A name occurs for the last time before another does. -/
def LastBefore (names : List String) (name other : String) : Prop :=
  ∃ earlier later, names = earlier ++ name :: later ∧ name ∉ later ∧ other ∈ later

/-- The last addition of a name is the first that is found from the end. -/
theorem lastAdded_iff {additions : List (String × FieldType)} {name : String} {type : FieldType} :
    LastAdded additions name type ↔ additions.reverse.lookup name = some type := by
  rw [List.lookup_eq_some_iff]
  constructor
  · rintro ⟨earlier, later, rfl, fresh⟩
    refine ⟨later.reverse, earlier.reverse, by simp, fun addition among => ?_⟩
    have named : addition.1 ∈ later.map Prod.fst :=
      List.mem_map_of_mem (List.mem_reverse.mp among)
    exact bne_iff_ne.mpr fun same => fresh (same ▸ named)
  · rintro ⟨later, earlier, split, fresh⟩
    refine ⟨earlier.reverse, later.reverse, ?_, fun named => ?_⟩
    · rw [← List.reverse_reverse additions, split]
      simp
    · obtain ⟨addition, among, same⟩ := List.mem_map.mp named
      exact bne_iff_ne.mp (fresh addition (List.mem_reverse.mp among)) same.symm

/-- A name that is not added is not found from the end. -/
theorem lookup_reverse_none_iff {additions : List (String × FieldType)} {name : String} :
    additions.reverse.lookup name = none ↔ name ∉ additions.map Prod.fst := by
  rw [List.lookup_eq_none_iff]
  constructor
  · intro absent named
    obtain ⟨addition, among, same⟩ := List.mem_map.mp named
    exact bne_iff_ne.mp (absent addition (List.mem_reverse.mpr among)) same.symm
  · intro absent addition among
    exact bne_iff_ne.mpr fun same =>
      absent (same ▸ List.mem_map_of_mem (List.mem_reverse.mp among))

/-- Where the last occurrence of each name is kept, the names stand in the order of these. -/
theorem dedup_lastBefore (names : List String) : names.dedup.Pairwise (LastBefore names) := by
  induction names with
  | nil => exact List.Pairwise.nil
  | cons first rest ih =>
    have later : rest.dedup.Pairwise (LastBefore (first :: rest)) := by
      refine ih.imp ?_
      rintro name other ⟨earlier, after, rfl, fresh, among⟩
      exact ⟨first :: earlier, after, rfl, fresh, among⟩
    by_cases again : first ∈ rest
    · rw [List.dedup_cons_of_mem again]
      exact later
    · rw [List.dedup_cons_of_notMem again]
      refine later.cons fun other among => ?_
      exact ⟨[], rest, rfl, again, List.mem_dedup.mp among⟩

namespace Descriptor

/-! ## What additions leave -/

/-- What a descriptor finds after a field is declared: the field, and what it found before. -/
theorem find?_add (descriptor : Descriptor) (name : String) (type : FieldType) (other : String) :
    (descriptor.add name type).find? other =
      if other = name then some type else descriptor.find? other := by
  obtain ⟨typeName, fields⟩ := descriptor
  change (fields.filter _ ++ [(name, type)]).lookup other = _
  rw [List.lookup_append]
  induction fields with
  | nil => exact Directory.find?_cons name type [] other
  | cons field rest ih =>
    obtain ⟨first, held⟩ := field
    have found : find? ⟨typeName, (first, held) :: rest⟩ other =
        if other = first then some held else find? ⟨typeName, rest⟩ other :=
      Directory.find?_cons first held rest other
    rw [found]
    by_cases withdrawn : first = name
    · -- The earlier field of the name is withdrawn, so it is not found behind the new one either.
      rw [List.filter_cons_of_neg (by simpa using withdrawn), ih, withdrawn]
      by_cases same : other = name
      · rw [if_pos same, if_pos same]
      · rw [if_neg same, if_neg same, if_neg same]
    · have kept := Directory.find?_cons first held (rest.filter fun field => field.1 ≠ name) other
      unfold Directory.find? at kept
      rw [List.filter_cons_of_pos (by simpa using withdrawn), kept]
      by_cases same : other = first
      · have differ : other ≠ name := fun equal => withdrawn (same.symm.trans equal)
        rw [if_pos same, if_pos same, if_neg differ]
        rfl
      · rw [if_neg same, if_neg same]
        exact ih

/-- A descriptor finds the last of the fields that are declared under a name. -/
theorem find?_addAll (descriptor : Descriptor) (fields : List (String × FieldType))
    (name : String) : (descriptor.addAll fields).find? name =
      (fields.reverse.lookup name).or (descriptor.find? name) := by
  induction fields generalizing descriptor with
  | nil => rfl
  | cons field rest ih =>
    have later : (descriptor.addAll (field :: rest)).find? name =
        (rest.reverse.lookup name).or ((descriptor.add field.1 field.2).find? name) := ih _
    have last : [field].lookup name = if name = field.1 then some field.2 else none :=
      Directory.find?_cons field.1 field.2 [] name
    rw [later, find?_add, List.reverse_cons, List.lookup_append, Option.or_assoc, last]
    by_cases same : name = field.1
    · rw [if_pos same, if_pos same]
      rfl
    · rw [if_neg same, if_neg same]
      rfl

/-- Declaring fields leaves the name of the type. -/
theorem addAll_typeName (descriptor : Descriptor) (fields : List (String × FieldType)) :
    (descriptor.addAll fields).typeName = descriptor.typeName := by
  induction fields generalizing descriptor with
  | nil => rfl
  | cons field rest ih => exact ih (descriptor.add field.1 field.2)

/-- An addition puts its name behind the others. -/
theorem fieldNames_add (descriptor : Descriptor) (name : String) (type : FieldType) :
    (descriptor.add name type).fieldNames =
      descriptor.fieldNames.filter (· ≠ name) ++ [name] := by
  unfold add fieldNames
  rw [List.map_append, List.filter_map]
  rfl

/-- Additions leave the names that they do not add, and put theirs behind them, each where it is
added for the last time. -/
theorem fieldNames_addAll (descriptor : Descriptor) (additions : List (String × FieldType)) :
    (descriptor.addAll additions).fieldNames =
      descriptor.fieldNames.filter (· ∉ additions.map Prod.fst) ++
        (additions.map Prod.fst).dedup := by
  induction additions generalizing descriptor with
  | nil => simp [addAll]
  | cons addition rest ih =>
    have begun : (descriptor.addAll (addition :: rest)).fieldNames =
        ((descriptor.add addition.1 addition.2).addAll rest).fieldNames := rfl
    have kept : (descriptor.fieldNames.filter (· ≠ addition.1)).filter
          (· ∉ rest.map Prod.fst) =
        descriptor.fieldNames.filter (· ∉ (addition :: rest).map Prod.fst) := by
      rw [List.filter_filter]
      refine List.filter_congr fun name _ => ?_
      simp only [List.map_cons, List.mem_cons, not_or, Bool.decide_and, Bool.and_comm]
    rw [begun, ih, fieldNames_add, List.filter_append, kept, List.append_assoc, List.map_cons]
    congr 1
    -- A name that is added again is withdrawn from where this addition has put it.
    by_cases again : addition.1 ∈ rest.map Prod.fst
    · rw [List.dedup_cons_of_mem again, List.filter_cons_of_neg (by simpa using again)]
      rfl
    · rw [List.dedup_cons_of_notMem again, List.filter_cons_of_pos (by simpa using again)]
      rfl

variable (typeName : String) (additions : List (String × FieldType)) (name : String)

/-- What is found in a descriptor that is made by additions is the last of them. -/
theorem find?_made :
    ((empty typeName).addAll additions).find? name = additions.reverse.lookup name := by
  rw [find?_addAll]
  exact Option.or_none

/-- The names of a descriptor that is made by additions are theirs, each where it is added for the
last time. -/
theorem fieldNames_made :
    ((empty typeName).addAll additions).fieldNames = (additions.map Prod.fst).dedup :=
  fieldNames_addAll (empty typeName) additions

/-- What a descriptor shows is the last addition of each name. -/
structure LastWins (descriptor : Descriptor) (additions : List (String × FieldType)) : Prop where
  /-- No name is listed twice. -/
  once : descriptor.fieldNames.Nodup
  /-- The names that are listed are those that are added. -/
  listed : ∀ name, name ∈ descriptor.fieldNames ↔ name ∈ additions.map Prod.fst
  /-- They stand in the order of their last additions. -/
  inOrder : descriptor.fieldNames.Pairwise (LastBefore (additions.map Prod.fst))
  /-- The shape of a name is that of its last addition. -/
  shape : ∀ name shape, descriptor.shape? name = some shape ↔
    ∃ type, LastAdded additions name type ∧ type.shape = shape
  /-- The nested declaration of a name is that of its last addition. -/
  nested : ∀ name inner, descriptor.nested? name = some inner ↔
    LastAdded additions name (.composite inner.typeName inner.fields) ∨
      LastAdded additions name (.compositeList inner.typeName inner.fields)
  /-- Other names have neither. -/
  other : ∀ name, name ∉ additions.map Prod.fst →
    descriptor.shape? name = none ∧ descriptor.nested? name = none

end Descriptor

/-! ## What is shown of a name -/

/-- A type that is shown as a scalar is a scalar type of the kind. -/
theorem FieldType.shape_eq_scalar_iff {type : FieldType} {kind : ScalarKind} :
    type.shape = .scalar kind ↔ ∃ scalar, type = .scalar scalar ∧ scalar.kind = kind := by
  cases type <;> simp [shape]

/-- A type that is shown as a list of scalars is a list of a scalar type of the kind. -/
theorem FieldType.shape_eq_scalarList_iff {type : FieldType} {kind : ScalarKind} :
    type.shape = .scalarList kind ↔ ∃ scalar, type = .list scalar ∧ scalar.kind = kind := by
  cases type <;> simp [shape]

/-- The truth values are a kind of their own. -/
theorem ScalarType.kind_eq_bool_iff {type : ScalarType} : type.kind = .bool ↔ type = .bool := by
  cases type <;> simp [kind]

/-- A type that is shown as a truth field is that of truth values. -/
theorem FieldType.shape_eq_bool_iff {type : FieldType} :
    type.shape = .scalar .bool ↔ type = .scalar .bool := by
  rw [shape_eq_scalar_iff]
  constructor
  · rintro ⟨scalar, rfl, kind⟩
    rw [ScalarType.kind_eq_bool_iff.mp kind]
  · rintro rfl
    exact ⟨.bool, rfl, rfl⟩

namespace Descriptor

variable {descriptor : Descriptor} {name : String}

/-- A name has a shape if it is found with a type of the shape. -/
theorem shape?_eq_some_iff {shape : FieldShape} :
    descriptor.shape? name = some shape ↔
      ∃ type, descriptor.find? name = some type ∧ type.shape = shape :=
  Option.map_eq_some_iff

/-- A name is shown as a truth field if it is found as one. -/
theorem shape?_eq_bool_iff :
    descriptor.shape? name = some (.scalar .bool) ↔
      descriptor.find? name = some (.scalar .bool) := by
  rw [shape?_eq_some_iff]
  simp only [FieldType.shape_eq_bool_iff, exists_eq_right]

/-- A nested declaration is that of a record or of the elements of a list of records. -/
theorem nested?_eq_some_iff {inner : Descriptor} :
    descriptor.nested? name = some inner ↔
      descriptor.find? name = some (.composite inner.typeName inner.fields) ∨
        descriptor.find? name = some (.compositeList inner.typeName inner.fields) := by
  obtain ⟨innerName, innerFields⟩ := inner
  unfold nested?
  cases descriptor.find? name with
  | none => simp
  | some type => cases type <;> simp

/-- Records and lists of records are the shapes with a nested declaration. -/
theorem nested?_isSome_iff :
    (descriptor.nested? name).isSome ↔
      descriptor.shape? name = some .composite ∨ descriptor.shape? name = some .compositeList := by
  unfold nested? shape?
  cases descriptor.find? name with
  | none => simp
  | some type => cases type <;> simp [FieldType.shape]

/-- What a descriptor that is made by additions shows is the last of them. -/
theorem lastWins_made (typeName : String) (additions : List (String × FieldType)) :
    ((empty typeName).addAll additions).LastWins additions := by
  have names := fieldNames_made typeName additions
  have found := find?_made typeName additions
  constructor
  · rw [names]
    exact List.nodup_dedup _
  · intro name
    rw [names]
    exact List.mem_dedup
  · rw [names]
    exact dedup_lastBefore _
  · intro name shape
    simp only [shape?_eq_some_iff, found, lastAdded_iff]
  · intro name inner
    simp only [nested?_eq_some_iff, found, lastAdded_iff]
  · intro name absent
    have missed := (found name).trans (lookup_reverse_none_iff.mpr absent)
    constructor
    · rw [shape?, missed]
      rfl
    · rw [nested?, missed]

end Descriptor

end Switchboard
