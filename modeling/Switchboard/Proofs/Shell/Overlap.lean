import Mathlib.Data.List.Sort
import Switchboard.Proofs.Registration.Keywords
import Switchboard.Proofs.Shell.Processing
/-!
# Lines of more than one command

The keywords of a switched command only have to begin a line, so a line can be one of several
commands. Accepted switched commands have a line in common exactly when the keywords of one begin
those of the other (`SwitchedTemplate.overlap_iff`). The keywords of all the commands that a line is
one of are therefore a chain, and of each length there is one command at most.
-/
namespace Switchboard

/-! ## Proper prefixes -/

/-- Some keywords begin others, which go on after them. -/
def ProperPrefix (shorter longer : List String) : Prop := shorter <+: longer ∧ shorter ≠ longer

/-- One of two lists of keywords goes on after the other. -/
def Comparable (first second : List String) : Prop :=
  ProperPrefix first second ∨ ProperPrefix second first

/-- Keywords that go on after others are longer. -/
theorem ProperPrefix.length_lt {shorter longer : List String}
    (goesOn : ProperPrefix shorter longer) : shorter.length < longer.length := by
  obtain ⟨leads, differ⟩ := goesOn
  apply Nat.lt_of_le_of_ne leads.length_le
  intro same
  exact differ (leads.eq_of_length same)

/-- Of keywords that go on one after the other, the lengths differ. -/
theorem Comparable.length_ne {first second : List String} (comparable : Comparable first second) :
    first.length ≠ second.length := by
  cases comparable with
  | inl goesOn => exact Nat.ne_of_lt goesOn.length_lt
  | inr goesOn => exact Nat.ne_of_gt goesOn.length_lt

/-- Of different keywords that begin the same line, one begin the others. -/
theorem properPrefix_of_prefixes {first second tokens : List String} (leads : first <+: tokens)
    (leads' : second <+: tokens) (differ : first ≠ second) : Comparable first second := by
  rcases Nat.le_total first.length second.length with short | long
  · exact .inl ⟨List.prefix_of_prefix_length_le leads leads' short, differ⟩
  · exact .inr ⟨List.prefix_of_prefix_length_le leads' leads long, differ.symm⟩

/-- Lists of which always one goes on after the other are a chain when the shorter come first. -/
theorem exists_chain {lists : List (List String)} (comparable : lists.Pairwise Comparable) :
    ∃ chain : List (List String), chain.Perm lists ∧ chain.Pairwise ProperPrefix := by
  have sorted := @List.pairwise_mergeSort (List String)
    (fun first second => first.length ≤ second.length)
    (fun first second third => by simpa using Nat.le_trans)
    (fun first second => by simpa using Nat.le_total _ _) lists
  have perm := List.mergeSort_perm lists fun first second => first.length ≤ second.length
  have apart := (perm.pairwise_iff fun {first second} => Or.symm).mpr comparable
  refine ⟨_, perm, (sorted.and apart).imp fun {first second} both => ?_⟩
  obtain ⟨short, goesOn | goesOn⟩ := both
  · exact goesOn
  · exact absurd goesOn.length_lt (Nat.not_lt.mpr (of_decide_eq_true short))

/-! ## Switched commands that match -/

namespace SwitchedTemplate

/-- The tokens are a line of a switched command exactly when they begin with its keywords. -/
theorem read?_isSome {template : SwitchedTemplate} {descriptor : Descriptor}
    {tokens : List String} :
    (template.read? descriptor tokens).isSome ↔ template.keywords <+: tokens := by
  rw [Option.isSome_iff_ne_none, Ne, read?_none_iff, not_not]

end SwitchedTemplate

/-- The keywords of a switched command, if the tokens are one of its lines. -/
def Declaration.matchedKeywords? (tokens : List String) (declaration : Declaration) :
    Option (List String) :=
  match declaration.template with
  | .fixed _ => none
  | .switched template =>
    if (template.read? declaration.descriptor tokens).isSome then some template.keywords else none

/-- A switched command stands at a place and the tokens are one of its lines. -/
def MatchesAt (declarations : List Declaration) (tokens : List String) (place : Nat)
    (template : SwitchedTemplate) : Prop :=
  ∃ descriptor, declarations[place]? = some ⟨.switched template, descriptor⟩ ∧
    (template.read? descriptor tokens).isSome

/-- Keywords that match are those of a switched command at its place. -/
theorem MatchesAt.of_matchedKeywords? {declarations : List Declaration}
    {tokens keywords : List String} {place : Nat} {declaration : Declaration}
    (stands : declarations[place]? = some declaration)
    (matched : declaration.matchedKeywords? tokens = some keywords) :
    ∃ template, MatchesAt declarations tokens place template ∧ template.keywords = keywords := by
  obtain ⟨template, descriptor⟩ := declaration
  cases template with
  | fixed template => cases matched
  | switched template =>
    rw [Declaration.matchedKeywords?, Option.ite_none_right_eq_some] at matched
    obtain ⟨reads, same⟩ := matched
    exact ⟨template, ⟨descriptor, stands, reads⟩, Option.some.inj same⟩

section Accepted

variable {reserved : Bool} {declarations : List Declaration}
  (accepted : Validation.defect? reserved declarations = none)

include accepted

/-- Of two accepted switched commands that match the same tokens, the keywords of one go on after
those of the other. -/
theorem MatchesAt.comparable {tokens : List String} {place place' : Nat}
    {template other : SwitchedTemplate} (matched : MatchesAt declarations tokens place template)
    (matched' : MatchesAt declarations tokens place' other) (apart : place ≠ place') :
    Comparable template.keywords other.keywords := by
  obtain ⟨descriptor, stands, reads⟩ := matched
  obtain ⟨descriptor', stands', reads'⟩ := matched'
  have differ := Validation.keyword_ne accepted stands stands' apart
  apply properPrefix_of_prefixes (SwitchedTemplate.read?_isSome.mp reads)
    (SwitchedTemplate.read?_isSome.mp reads')
  intro same
  exact differ (congrArg " ".intercalate same)

/-- Accepted switched commands have a line in common exactly when the keywords of one go on after
those of the other. -/
theorem SwitchedTemplate.overlap_iff {place place' : Nat} {template other : SwitchedTemplate}
    {descriptor descriptor' : Descriptor}
    (stands : declarations[place]? = some ⟨.switched template, descriptor⟩)
    (stands' : declarations[place']? = some ⟨.switched other, descriptor'⟩)
    (apart : place ≠ place') :
    (∃ tokens, (template.read? descriptor tokens).isSome ∧
      (other.read? descriptor' tokens).isSome) ↔ Comparable template.keywords other.keywords := by
  constructor
  · intro common
    obtain ⟨tokens, reads, reads'⟩ := common
    have matched : MatchesAt declarations tokens place template := ⟨descriptor, stands, reads⟩
    exact matched.comparable accepted ⟨descriptor', stands', reads'⟩ apart
  · intro comparable
    cases comparable with
    | inl goesOn =>
      exact ⟨other.keywords, read?_isSome.mpr goesOn.1, read?_isSome.mpr (List.prefix_refl _)⟩
    | inr goesOn =>
      exact ⟨template.keywords, read?_isSome.mpr (List.prefix_refl _), read?_isSome.mpr goesOn.1⟩

/-- Of the keywords of two accepted switched commands that match the same tokens, one always go on
after the other. -/
theorem matchedKeywords_comparable (tokens : List String) :
    (declarations.filterMap (Declaration.matchedKeywords? tokens)).Pairwise Comparable := by
  rw [List.pairwise_filterMap, List.pairwise_iff_getElem]
  intro place place' inside inside' less keywords matched keywords' matched'
  obtain ⟨template, own, rfl⟩ :=
    MatchesAt.of_matchedKeywords? (List.getElem?_eq_getElem inside) matched
  obtain ⟨other, own', rfl⟩ :=
    MatchesAt.of_matchedKeywords? (List.getElem?_eq_getElem inside') matched'
  exact own.comparable accepted own' (Nat.ne_of_lt less)

end Accepted

/-- The switched command that the program settles on matches at its place, and none does before. -/
theorem Shell.firstMatch?_matchesAt {γ σ : Type} {commands : List (Command γ σ)}
    {tokens : List String} {found : Match γ σ} {template : SwitchedTemplate}
    (matched : firstMatch? tokens commands = some found)
    (switched : found.command.template = .switched template) :
    MatchesAt (commands.map Command.declaration) tokens found.place template ∧
      ∀ place other, MatchesAt (commands.map Command.declaration) tokens place other →
        found.place ≤ place := by
  obtain ⟨stands, _, first⟩ := firstMatch?_some matched
  constructor
  · refine ⟨found.command.descriptor, ?_, ?_⟩
    · rw [List.getElem?_map, stands, Option.map_some, Command.declaration, switched]
    · have fits := first.fits
      rw [switched] at fits
      exact SwitchedTemplate.read?_isSome.mpr fits
  · intro place other matches'
    obtain ⟨descriptor, stands', reads⟩ := matches'
    rw [List.getElem?_map, Option.map_eq_some_iff] at stands'
    obtain ⟨command, among, same⟩ := stands'
    have same' : command.template = .switched other := congrArg Declaration.template same
    by_contra before
    refine first.earlier place (.switched other) (Nat.lt_of_not_le before) ?_ ?_
    · rw [List.getElem?_map, among, Option.map_some, same']
    · exact SwitchedTemplate.read?_isSome.mp reads

/-- The keywords of the accepted switched commands that match the same tokens differ in length, and
in a suitable order each begin the next. Of each length one command at most matches. Where the
program settles on a switched command, all others that match come later, and their keywords go on
after its own or its own after theirs. -/
theorem overlap_only_by_extension {γ σ : Type} {reserved : Bool} {declarations : List Declaration}
    (accepted : Validation.defect? reserved declarations = none) (tokens : List String) :
    ((declarations.filterMap (Declaration.matchedKeywords? tokens)).map List.length).Nodup ∧
    (∃ chain : List (List String),
      chain.Perm (declarations.filterMap (Declaration.matchedKeywords? tokens)) ∧
        chain.Pairwise ProperPrefix) ∧
    (∀ place place' template other, MatchesAt declarations tokens place template →
      MatchesAt declarations tokens place' other →
      template.keywords.length = other.keywords.length → place = place') ∧
    ∀ (commands : List (Command γ σ)) found template,
      commands.map Command.declaration = declarations →
      Shell.firstMatch? tokens commands = some found →
      found.command.template = .switched template →
      ∀ place other, MatchesAt declarations tokens place other → place ≠ found.place →
        found.place < place ∧ (ProperPrefix template.keywords other.keywords ∨
          ProperPrefix other.keywords template.keywords) := by
  have comparable := matchedKeywords_comparable accepted tokens
  refine ⟨?_, exists_chain comparable, ?_, ?_⟩
  · rw [List.Nodup, List.pairwise_map]
    exact comparable.imp fun {first second} => Comparable.length_ne
  · intro place place' template other matched matched' same
    by_contra apart
    exact (matched.comparable accepted matched' apart).length_ne same
  · intro commands found template declared settled switched place other matched apart
    subst declared
    obtain ⟨own, first⟩ := Shell.firstMatch?_matchesAt settled switched
    exact ⟨Nat.lt_of_le_of_ne (first place other matched) apart.symm,
      own.comparable accepted matched apart.symm⟩

namespace Sample

/-- Commands of which some go on after others, with a fixed command before them. -/
def remotes : List (Command Nat Nat) := [
  ⟨.fixed ⟨"git status"⟩, .empty "Status", none, counting, 0⟩,
  ⟨.switched ⟨"git remote", []⟩, .empty "Remote", none, counting, 0⟩,
  ⟨.switched ⟨"git", []⟩, .empty "Git", none, counting, 0⟩,
  ⟨.switched ⟨" git remote  add", [{ name := "--fetch", kind := .flag "Fetch" }]⟩,
    ⟨"Add", [("Fetch", .scalar .bool)]⟩, none, counting, 0⟩]

/-- The commands are accepted. -/
theorem remotes_accepted :
    Validation.defect? true (remotes.map Command.declaration) = none := by decide +kernel

/-- A line that three of the commands match. The program settles on the first of them, which has
neither the fewest nor the most keywords. -/
theorem remotes_overlap :
    Validation.defect? true (remotes.map Command.declaration) = none ∧
    ((remotes.map Command.declaration).filterMap
      (Declaration.matchedKeywords? ["git", "remote", "add", "--fetch"])) =
        [["git", "remote"], ["git"], ["git", "remote", "add"]] ∧
    (∃ chain : List (List String),
      chain.Perm [["git", "remote"], ["git"], ["git", "remote", "add"]] ∧
        chain.Pairwise ProperPrefix) ∧
    ∃ found, Shell.firstMatch? ["git", "remote", "add", "--fetch"] remotes = some found ∧
      found.command.template = .switched ⟨"git remote", []⟩ ∧ found.place < 3 ∧
      Comparable ["git", "remote"] ["git", "remote", "add"] := by
  have keywords : (remotes.map Command.declaration).filterMap
      (Declaration.matchedKeywords? ["git", "remote", "add", "--fetch"]) =
        [["git", "remote"], ["git"], ["git", "remote", "add"]] := by decide +kernel
  have settled : (Shell.firstMatch? ["git", "remote", "add", "--fetch"] remotes).map
      (fun found => (found.place, found.command.template)) =
        some (1, .switched ⟨"git remote", []⟩) := by decide +kernel
  obtain ⟨found, first, same⟩ := Option.map_eq_some_iff.mp settled
  have place : found.place = 1 := congrArg Prod.fst same
  have switched : found.command.template = .switched ⟨"git remote", []⟩ := congrArg Prod.snd same
  obtain ⟨_, chain, _, later⟩ := @overlap_only_by_extension Nat Nat _ _ remotes_accepted
    ["git", "remote", "add", "--fetch"]
  have last : MatchesAt (remotes.map Command.declaration) ["git", "remote", "add", "--fetch"] 3
      ⟨" git remote  add", [{ name := "--fetch", kind := .flag "Fetch" }]⟩ :=
    ⟨⟨"Add", [("Fetch", .scalar .bool)]⟩, rfl, by decide +kernel⟩
  have after := later remotes found _ rfl first switched 3 _ last (by rw [place]; decide)
  refine ⟨remotes_accepted, keywords, ?_, found, first, switched, after.1, ?_⟩
  · rw [← keywords]
    exact chain
  · have one : (⟨"git remote", []⟩ : SwitchedTemplate).keywords = ["git", "remote"] := by
      decide +kernel
    have three : SwitchedTemplate.keywords
        ⟨" git remote  add", [{ name := "--fetch", kind := .flag "Fetch" }]⟩ =
          ["git", "remote", "add"] := by decide +kernel
    have goesOn := after.2
    rw [one, three] at goesOn
    exact goesOn

end Sample

end Switchboard
