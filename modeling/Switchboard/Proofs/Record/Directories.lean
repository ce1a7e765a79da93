import Mathlib.Data.String.Basic
import Switchboard.Directory
/-!
# Directories as maps

A directory that is built by `alter` alone has its names in strictly rising order. Under that
invariant `alter` changes one name and no other (`find?_alter`), and a directory is known by what
its names hold (`Ordered.ext`), so statements about single names are statements about the whole.
-/
namespace Switchboard.Directory

variable {α : Type}

/-- The names of a directory rise strictly; so none stands there twice. -/
def Ordered (directory : Directory α) : Prop :=
  directory.Pairwise fun first later => first.1 < later.1

/-- The directory without entries is in order. -/
theorem ordered_nil : Ordered ([] : Directory α) := List.Pairwise.nil

/-- The entry of a name is the first entry, or one of the rest. -/
theorem find?_cons (first : String) (entry : α) (rest : Directory α) (name : String) :
    find? ((first, entry) :: rest) name = if name = first then some entry else find? rest name := by
  unfold find?
  rw [List.lookup_cons]
  by_cases same : name = first
  · have hit : (name == first) = true := beq_iff_eq.mpr same
    rw [hit, if_pos same]
  · have miss : (name == first) = false := beq_eq_false_iff_ne.mpr same
    rw [miss, if_neg same]

/-- A name before all others has no entry. -/
theorem find?_none_of_lt {directory : Directory α} {name : String}
    (least : ∀ entry ∈ directory, name < entry.1) : find? directory name = none := by
  induction directory with
  | nil => rfl
  | cons head rest ih =>
    obtain ⟨first, entry⟩ := head
    have smaller : name < first := least (first, entry) List.mem_cons_self
    rw [find?_cons, if_neg (ne_of_lt smaller)]
    exact ih fun other member => least other (List.mem_cons_of_mem _ member)

/-- In a directory in order, the first name is before all others. -/
theorem Ordered.head_lt {first : String} {entry : α} {rest : Directory α}
    (ordered : Ordered ((first, entry) :: rest)) : ∀ other ∈ rest, first < other.1 :=
  fun _ member => List.rel_of_pairwise_cons ordered member

/-- Changing the entry of a name changes what is found for that name, and for no other. -/
theorem find?_alter {directory : Directory α} (ordered : directory.Ordered)
    (name : String) (change : Option α → α) (other : String) :
    (directory.alter name change).find? other =
      if other = name then some (change (directory.find? name)) else directory.find? other := by
  induction directory with
  | nil => exact find?_cons name _ [] other
  | cons head rest ih =>
    obtain ⟨first, entry⟩ := head
    unfold alter
    by_cases before : name < first
    · have fresh : find? ((first, entry) :: rest) name = none := by
        apply find?_none_of_lt
        intro later member
        cases member with
        | head => exact before
        | tail _ member => exact lt_trans before (ordered.head_lt later member)
      rw [if_pos before, find?_cons, fresh]
    · rw [if_neg before]
      by_cases same : name = first
      · rw [if_pos same, find?_cons, find?_cons, find?_cons, same, if_pos rfl]
        by_cases hit : other = first
        · rw [if_pos hit, if_pos hit]
        · rw [if_neg hit, if_neg hit, if_neg hit]
      · rw [if_neg same, find?_cons, find?_cons, find?_cons, ih ordered.of_cons, if_neg same]
        by_cases hit : other = first
        · rw [if_pos hit, if_pos hit, if_neg fun named => same (named.symm.trans hit)]
        · rw [if_neg hit, if_neg hit]

/-- The names after a change are those there were and the name that is changed. -/
theorem mem_alter {directory : Directory α} {name : String} {change : Option α → α}
    {found : String × α} (member : found ∈ directory.alter name change) :
    found.1 = name ∨ ∃ entry ∈ directory, entry.1 = found.1 := by
  induction directory with
  | nil =>
    cases List.mem_singleton.mp member
    exact .inl rfl
  | cons head rest ih =>
    obtain ⟨first, entry⟩ := head
    unfold alter at member
    by_cases before : name < first
    · rw [if_pos before] at member
      cases member with
      | head => exact .inl rfl
      | tail _ member => exact .inr ⟨found, member, rfl⟩
    · rw [if_neg before] at member
      by_cases same : name = first
      · rw [if_pos same] at member
        cases member with
        | head => exact .inl same.symm
        | tail _ member => exact .inr ⟨found, List.mem_cons_of_mem _ member, rfl⟩
      · rw [if_neg same] at member
        cases member with
        | head => exact .inr ⟨(first, entry), List.mem_cons_self, rfl⟩
        | tail _ member =>
          rcases ih member with changed | ⟨old, among, named⟩
          · exact .inl changed
          · exact .inr ⟨old, List.mem_cons_of_mem _ among, named⟩

/-- Changing an entry keeps a directory in order. -/
theorem Ordered.alter {directory : Directory α} (ordered : directory.Ordered) (name : String)
    (change : Option α → α) : (directory.alter name change).Ordered := by
  induction directory with
  | nil => exact List.pairwise_singleton _ _
  | cons head rest ih =>
    obtain ⟨first, entry⟩ := head
    unfold Directory.alter
    by_cases before : name < first
    · rw [if_pos before]
      refine List.Pairwise.cons (fun later member => ?_) ordered
      cases member with
      | head => exact before
      | tail _ member => exact lt_trans before (ordered.head_lt later member)
    · rw [if_neg before]
      by_cases same : name = first
      · rw [if_pos same]
        exact List.Pairwise.cons ordered.head_lt ordered.of_cons
      · rw [if_neg same]
        refine List.Pairwise.cons (fun later member => ?_) (ih ordered.of_cons)
        rcases mem_alter member with changed | ⟨old, among, named⟩
        · rw [changed]
          exact lt_of_le_of_ne (not_lt.mp before) fun equal => same equal.symm
        · rw [← named]
          exact ordered.head_lt old among

/-- The first name of a directory is found. -/
theorem find?_head (first : String) (entry : α) (rest : Directory α) :
    find? ((first, entry) :: rest) first = some entry := by
  rw [find?_cons, if_pos rfl]

/-- Directories in order in which the same is found for every name are the same. -/
theorem Ordered.ext {left right : Directory α} (first : left.Ordered) (second : right.Ordered)
    (same : ∀ name, left.find? name = right.find? name) : left = right := by
  induction left generalizing right with
  | nil =>
    cases right with
    | nil => rfl
    | cons head rest =>
      have found := same head.1
      rw [find?_head] at found
      contradiction
  | cons head rest ih =>
    obtain ⟨name, entry⟩ := head
    cases right with
    | nil =>
      have found := same name
      rw [find?_head] at found
      contradiction
    | cons other later =>
      obtain ⟨name', entry'⟩ := other
      -- The first names agree: the lesser of the two would be found on one side only.
      have agree : name = name' := by
        rcases lt_trichotomy name name' with less | equal | greater
        · have absent : find? ((name', entry') :: later) name = none := by
            refine find?_none_of_lt fun found member => ?_
            cases member with
            | head => exact less
            | tail _ member => exact lt_trans less (second.head_lt found member)
          rw [← same, find?_head] at absent
          contradiction
        · exact equal
        · have absent : find? ((name, entry) :: rest) name' = none := by
            refine find?_none_of_lt fun found member => ?_
            cases member with
            | head => exact greater
            | tail _ member => exact lt_trans greater (first.head_lt found member)
          rw [same, find?_head] at absent
          contradiction
      subst agree
      have values := same name
      rw [find?_head, find?_head] at values
      cases values
      have tails : rest = later := by
        refine ih first.of_cons second.of_cons fun other => ?_
        by_cases hit : other = name
        · rw [hit, find?_none_of_lt first.head_lt, find?_none_of_lt second.head_lt]
        · have found := same other
          rwa [find?_cons, find?_cons, if_neg hit, if_neg hit] at found
      rw [tails]

/-- An entry that is found stands there. -/
theorem mem_of_find? {directory : Directory α} {name : String} {entry : α}
    (found : directory.find? name = some entry) : (name, entry) ∈ directory := by
  induction directory with
  | nil => cases found
  | cons head rest ih =>
    obtain ⟨first, other⟩ := head
    rw [find?_cons] at found
    by_cases same : name = first
    · rw [if_pos same, Option.some.injEq] at found
      rw [same, found]
      exact List.mem_cons_self
    · rw [if_neg same] at found
      exact List.mem_cons_of_mem _ (ih found)

/-- In a directory in order, an entry that stands there is found. -/
theorem Ordered.find?_of_mem {directory : Directory α} (ordered : directory.Ordered)
    {name : String} {entry : α} (member : (name, entry) ∈ directory) :
    directory.find? name = some entry := by
  induction directory with
  | nil => cases member
  | cons head rest ih =>
    obtain ⟨first, other⟩ := head
    rw [find?_cons]
    cases member with
    | head => rw [if_pos rfl]
    | tail _ member =>
      have later : first < name := ordered.head_lt (name, entry) member
      rw [if_neg (ne_of_gt later)]
      exact ih ordered.of_cons member

/-- What is so of all entries and of the changed one is so of all entries after the change. -/
theorem Ordered.forall_alter {directory : Directory α} (ordered : directory.Ordered)
    (Holds : String → α → Prop) (all : ∀ entry ∈ directory, Holds entry.1 entry.2) {name : String}
    {change : Option α → α} (changed : Holds name (change (directory.find? name))) :
    ∀ entry ∈ directory.alter name change, Holds entry.1 entry.2 := by
  rintro ⟨other, entry⟩ member
  have found := (ordered.alter name change).find?_of_mem member
  rw [find?_alter ordered] at found
  by_cases same : other = name
  · rw [if_pos same, Option.some.injEq] at found
    rw [same, ← found]
    exact changed
  · rw [if_neg same] at found
    exact all (other, entry) (mem_of_find? found)

/-- No name stands twice in a directory in order. -/
theorem Ordered.names_nodup {directory : Directory α} (ordered : directory.Ordered) :
    (directory.map Prod.fst).Nodup :=
  (List.pairwise_map.mpr ordered).imp fun less => ne_of_lt less

end Switchboard.Directory
