import Mathlib.Data.List.Lattice
import Mathlib.Data.List.Nodup
import Mathlib.Data.List.Pairwise
import Switchboard.Proofs.Switches.Values
/-!
# How a line splits into switches

`SwitchedTemplate.Split` says what the occurrences on a line are, token by token and without a
search: a token names the parameter whose name or shorthand it is. The scan of the program looks
first for a name and then for a shorthand; where all switches differ, as on accepted commands, the
two agree (`split_iff`), and a line splits in one way only.
-/
namespace Switchboard

namespace SwitchedTemplate

variable {template : SwitchedTemplate}

/-- A token names a parameter, in full or in short. -/
structure Names (template : SwitchedTemplate) (token : String) (parameter : Parameter) : Prop where
  /-- The parameter is one of the template. -/
  declared : parameter ∈ template.parameters
  /-- The token is its name or its shorthand. -/
  typed : parameter.name = token ∨ parameter.shorthand = some token

/-- The occurrences on a line, up to the first token in the place of a switch that names no
parameter, and that token. -/
inductive Split (template : SwitchedTemplate) :
    List String → List Occurrence → Option String → Prop where
  /-- A line without tokens has no occurrences. -/
  | done : Split template [] [] none
  /-- A token in the place of a switch names no parameter. -/
  | unknown {token : String} {rest : List String}
      (nameless : ∀ parameter, ¬ template.Names token parameter) :
      Split template (token :: rest) [] (some token)
  /-- A valued switch that ends the line is dropped. -/
  | dangling {token : String} {parameter : Parameter} {value : ValueTemplate}
      (named : template.Names token parameter) (kind : parameter.kind = .valued value) :
      Split template [token] [] none
  /-- A flag takes nothing more. -/
  | flag {token : String} {parameter : Parameter} {field : String} {rest : List String}
      {later : List Occurrence} {ending : Option String}
      (named : template.Names token parameter) (kind : parameter.kind = .flag field)
      (split : Split template rest later ending) :
      Split template (token :: rest) (.flag parameter field :: later) ending
  /-- A valued switch takes the next token, whatever it looks like. -/
  | valued {token text : String} {parameter : Parameter} {value : ValueTemplate}
      {rest : List String} {later : List Occurrence} {ending : Option String}
      (named : template.Names token parameter) (kind : parameter.kind = .valued value)
      (split : Split template rest later ending) :
      Split template (token :: text :: rest) (.valued parameter value text :: later) ending

/-- A token that names a parameter is one of its switches. -/
theorem Names.mem_switchesOf {token : String} {parameter : Parameter}
    (named : template.Names token parameter) : token ∈ Validation.switchesOf parameter := by
  rw [Validation.switchesOf, List.mem_cons]
  cases named.typed with
  | inl full => exact .inl full.symm
  | inr short => exact .inr (by rw [short]; exact List.mem_singleton.mpr rfl)

/-- Where all switches differ, a token names one parameter at most. -/
theorem Names.unique (distinct : template.Distinct) {token : String} {first second : Parameter}
    (one : template.Names token first) (other : template.Names token second) : first = second := by
  by_contra differ
  have disjoint := (List.nodup_flatMap.mp distinct).2
  have : Std.Symm (Function.onFun List.Disjoint Validation.switchesOf) :=
    ⟨fun _ _ apart => List.Disjoint.symm apart⟩
  exact disjoint.forall one.declared other.declared differ one.mem_switchesOf other.mem_switchesOf

/-- The search of the program finds only parameters that the token names. -/
theorem names_of_findParameter {token : String} {parameter : Parameter}
    (found : template.findParameter token = some parameter) : template.Names token parameter := by
  unfold findParameter at found
  rw [Option.or_eq_some_iff] at found
  rcases found with full | ⟨_, short⟩
  · exact ⟨List.mem_of_find?_eq_some full, .inl (by simpa using List.find?_some full)⟩
  · exact ⟨List.mem_of_find?_eq_some short, .inr (by simpa using List.find?_some short)⟩

/-- The search of the program fails only on a token that names no parameter. -/
theorem findParameter_none {token : String} :
    template.findParameter token = none ↔ ∀ parameter, ¬ template.Names token parameter := by
  constructor
  · intro missing parameter named
    simp only [findParameter, Option.or_eq_none_iff, List.find?_eq_none, decide_eq_true_eq]
      at missing
    cases named.typed with
    | inl full => exact missing.1 parameter named.declared full
    | inr short => exact missing.2 parameter named.declared short
  · intro nameless
    cases found : template.findParameter token with
    | none => rfl
    | some parameter => exact absurd (names_of_findParameter found) (nameless parameter)

/-- Where all switches differ, the search of the program finds what the token names. -/
theorem findParameter_some (distinct : template.Distinct) {token : String}
    {parameter : Parameter} :
    template.findParameter token = some parameter ↔ template.Names token parameter := by
  refine ⟨names_of_findParameter, fun named => ?_⟩
  cases found : template.findParameter token with
  | none => exact absurd named (findParameter_none.mp found parameter)
  | some other => rw [Names.unique distinct named (names_of_findParameter found)]

/-- The scan of the program splits the line. -/
theorem split_occurrences (template : SwitchedTemplate) (tokens : List String) :
    template.Split tokens (template.occurrences tokens).1 (template.occurrences tokens).2 := by
  fun_induction template.occurrences tokens with
  | case1 => exact .done
  | case2 token rest missing => exact .unknown (findParameter_none.mp missing)
  | case3 token rest parameter found field kind later ending scanned ih =>
    rw [scanned] at ih
    exact .flag (names_of_findParameter found) kind ih
  | case4 token parameter found value kind =>
    exact .dangling (names_of_findParameter found) kind
  | case5 token parameter found value kind text rest later ending scanned ih =>
    rw [scanned] at ih
    exact .valued (names_of_findParameter found) kind ih

/-- Where all switches differ, a line splits in one way, and the scan of the program finds it. -/
theorem split_iff (distinct : template.Distinct) {tokens : List String}
    {occurrences : List Occurrence} {ending : Option String} :
    template.Split tokens occurrences ending ↔
      template.occurrences tokens = (occurrences, ending) := by
  constructor
  · intro split
    induction split with
    | done => rw [SwitchedTemplate.occurrences]
    | unknown nameless =>
      rw [SwitchedTemplate.occurrences, findParameter_none.mpr nameless]
    | dangling named kind =>
      rw [SwitchedTemplate.occurrences, (findParameter_some distinct).mpr named]
      simp only [kind]
    | flag named kind _ ih =>
      rw [SwitchedTemplate.occurrences, (findParameter_some distinct).mpr named]
      simp only [kind, ih]
    | valued named kind _ ih =>
      rw [SwitchedTemplate.occurrences, (findParameter_some distinct).mpr named]
      simp only [kind, ih]
  · intro scanned
    have split := split_occurrences template tokens
    rw [scanned] at split
    exact split

/-- The occurrences of a line belong to parameters of the template and are of their kinds. -/
theorem Split.consistent {tokens : List String} {occurrences : List Occurrence}
    {ending : Option String} (split : template.Split tokens occurrences ending) :
    ∀ occurrence ∈ occurrences,
      occurrence.Consistent ∧ occurrence.parameter ∈ template.parameters := by
  induction split with
  | done | unknown | dangling => simp
  | flag named kind _ ih | valued named kind _ ih =>
    intro occurrence member
    cases member with
    | head => exact ⟨kind, named.declared⟩
    | tail _ member => exact ih occurrence member

end SwitchedTemplate

end Switchboard
