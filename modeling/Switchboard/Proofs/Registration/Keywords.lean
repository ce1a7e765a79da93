import Mathlib.Data.List.Nodup
import Switchboard.Proofs.Registration.Acceptance
import Switchboard.Proofs.Template.SlotNames
import Switchboard.Proofs.Text.LowerCase
/-!
# Keywords that clash

The keywords of accepted commands all differ as they are written (`keywords_nodup`). Fixed commands
match in any letter case, though, so this keeps commands without slots apart only up to letter case:
two of them match a common line, and then the same lines, exactly when their keywords agree in lower
case (`slotFree_clash_iff`). The later of two such commands is accepted and never reached
(`stop_clashes`).
-/
namespace Switchboard

namespace Validation

/-- The keywords of commands accepted after others differ from theirs and from each other. -/
theorem keywords_fresh {reserved : Bool} {earlier : List String} {declarations : List Declaration}
    (sound : commandsDefect? reserved earlier declarations = none) :
    (declarations.map fun declaration => declaration.template.keyword).Nodup ∧
      ∀ declaration ∈ declarations, declaration.template.keyword ∉ earlier := by
  induction declarations generalizing earlier with
  | nil => simp
  | cons first rest ih =>
    rw [commandsDefect?, Option.or_eq_none_iff, commandDefect?_none] at sound
    obtain ⟨⟨_, _, fresh, _⟩, later⟩ := sound
    obtain ⟨distinct, others⟩ := ih later
    rw [List.map_cons, List.nodup_cons, List.mem_map, List.forall_mem_cons]
    refine ⟨⟨?_, distinct⟩, fresh, fun declaration member taken => ?_⟩
    · rintro ⟨declaration, member, same⟩
      exact others declaration member (same ▸ List.mem_cons_self)
    · exact others declaration member (List.mem_cons_of_mem _ taken)

/-- The keywords of accepted commands differ from each other. -/
theorem keywords_nodup {reserved : Bool} {declarations : List Declaration}
    (accepted : defect? reserved declarations = none) :
    (declarations.map fun declaration => declaration.template.keyword).Nodup := by
  unfold defect? at accepted
  split at accepted
  · contradiction
  · exact (keywords_fresh accepted).1

/-- Accepted commands at different places have different keywords. -/
theorem keyword_ne {reserved : Bool} {declarations : List Declaration}
    (accepted : defect? reserved declarations = none) {place place' : Nat}
    {first second : Declaration} (stands : declarations[place]? = some first)
    (stands' : declarations[place']? = some second) (apart : place ≠ place') :
    first.template.keyword ≠ second.template.keyword := by
  have distinct := List.nodup_iff_getElem?_ne_getElem?.mp (keywords_nodup accepted)
  obtain ⟨inside, _⟩ := List.getElem?_eq_some_iff.mp stands
  obtain ⟨inside', _⟩ := List.getElem?_eq_some_iff.mp stands'
  intro same
  rcases Nat.lt_or_gt_of_ne apart with less | greater
  · refine distinct place place' less (by rwa [List.length_map]) ?_
    rw [List.getElem?_map, List.getElem?_map, stands, stands', Option.map_some, Option.map_some,
      same]
  · refine distinct place' place greater (by rwa [List.length_map]) ?_
    rw [List.getElem?_map, List.getElem?_map, stands, stands', Option.map_some, Option.map_some,
      same]

end Validation

namespace FixedTemplate

/-! ## Templates without slots -/

/-- The keywords before the first slot are among the words. -/
theorem mem_of_mem_leadingLiterals {words : List FixedWord} {text : String}
    (member : text ∈ leadingLiterals words) : .literal text ∈ words := by
  induction words with
  | nil => contradiction
  | cons word rest ih =>
    cases word with
    | slot name => contradiction
    | literal first =>
      rw [leadingLiterals, List.mem_cons] at member
      rcases member with rfl | later
      · exact List.mem_cons_self
      · exact List.mem_cons_of_mem _ (ih later)

/-- A keyword is written as it is. -/
theorem ofText_literal {written text : String} (read : FixedWord.ofText written = .literal text) :
    written = text := by
  unfold FixedWord.ofText at read
  split at read
  · split at read
    · contradiction
    · cases read
      rfl
  · cases read
    rfl

/-- The keywords of a fixed template are words. -/
theorem leadingLiterals_isWord (template : FixedTemplate) :
    ∀ text ∈ leadingLiterals template.words, Text.IsWord text.toList := by
  intro text member
  obtain ⟨written, among, read⟩ := List.mem_map.mp (mem_of_mem_leadingLiterals member)
  rw [← ofText_literal read]
  exact Text.words_isWord among

/-- Words without slots are keywords. -/
theorem words_literals {words : List FixedWord} (free : slotNames words = []) :
    words = (leadingLiterals words).map .literal := by
  induction words with
  | nil => rfl
  | cons word rest ih =>
    cases word with
    | slot name => contradiction
    | literal text => rw [leadingLiterals, List.map_cons, ← ih free]

/-- Keywords match the tokens that agree with them in lower case, one by one. -/
theorem matchWords_literals (texts tokens : List String) :
    matchWords (texts.map .literal) tokens =
      if texts.map Text.lowerCase = tokens.map Text.lowerCase then some [] else none := by
  induction texts generalizing tokens with
  | nil => cases tokens <;> simp [matchWords]
  | cons text texts ih =>
    cases tokens with
    | nil => simp [matchWords]
    | cons token tokens =>
      rw [List.map_cons, matchWords, ih]
      by_cases same : Text.lowerCase text = Text.lowerCase token
      · simp [same]
      · simp [same]

variable {template other : FixedTemplate}

/-- A template without slots matches the tokens that agree with its keywords in lower case. -/
theorem capture_isSome_iff (free : template.slots = []) (tokens : List String) :
    (template.capture tokens).isSome ↔
      (leadingLiterals template.words).map Text.lowerCase = tokens.map Text.lowerCase := by
  rw [capture, words_literals free, matchWords_literals, ← words_literals free]
  split
  · rename_i same
    exact ⟨fun _ => same, fun _ => rfl⟩
  · rename_i differ
    exact ⟨fun matched => by contradiction, fun same => absurd same differ⟩

/-- Keywords of fixed templates agree in lower case exactly when they do so one by one. -/
theorem keyword_lowerCase_eq_iff (template other : FixedTemplate) :
    Text.lowerCase template.keyword = Text.lowerCase other.keyword ↔
      (leadingLiterals template.words).map Text.lowerCase =
        (leadingLiterals other.words).map Text.lowerCase :=
  Text.lowerCase_intercalate_eq_iff template.leadingLiterals_isWord other.leadingLiterals_isWord

/-- A template without slots matches its own keywords. -/
theorem capture_own (free : template.slots = []) :
    (template.capture (leadingLiterals template.words)).isSome :=
  (capture_isSome_iff free _).mpr rfl

/-! ## Accepted templates without slots -/

/-- Of accepted commands, two fixed ones without slots differ in their keywords as these are
written. A common line matches both exactly when the keywords agree in lower case; and exactly then
either is out of reach behind the other, since it matches no line that the other does not. -/
theorem slotFree_clash_iff {reserved : Bool} {declarations : List Declaration}
    (accepted : Validation.defect? reserved declarations = none) {place place' : Nat}
    {descriptor descriptor' : Descriptor}
    (stands : declarations[place]? = some ⟨.fixed template, descriptor⟩)
    (stands' : declarations[place']? = some ⟨.fixed other, descriptor'⟩) (apart : place ≠ place')
    (free : template.slots = []) (free' : other.slots = []) :
    template.keyword ≠ other.keyword ∧
      ((∃ tokens, (template.capture tokens).isSome ∧ (other.capture tokens).isSome) ↔
        Text.lowerCase template.keyword = Text.lowerCase other.keyword) ∧
      ((∀ tokens, (other.capture tokens).isSome → (template.capture tokens).isSome) ↔
        Text.lowerCase template.keyword = Text.lowerCase other.keyword) := by
  refine ⟨Validation.keyword_ne accepted stands stands' apart, ?_, ?_⟩
  · rw [keyword_lowerCase_eq_iff]
    constructor
    · rintro ⟨tokens, matched, matched'⟩
      rw [capture_isSome_iff free] at matched
      rw [capture_isSome_iff free'] at matched'
      exact matched.trans matched'.symm
    · intro same
      refine ⟨leadingLiterals template.words, capture_own free, ?_⟩
      exact (capture_isSome_iff free' _).mpr same.symm
  · rw [keyword_lowerCase_eq_iff]
    constructor
    · intro hidden
      exact (capture_isSome_iff free _).mp (hidden _ (capture_own free'))
    · intro same tokens matched
      rw [capture_isSome_iff free'] at matched
      exact (capture_isSome_iff free tokens).mpr (same.trans matched)

end FixedTemplate

namespace Sample

/-- Commands without slots, of which the first two differ in letter case only. -/
def stops : List Declaration :=
  [⟨.fixed ⟨"stop"⟩, .empty "Stop"⟩, ⟨.fixed ⟨"STOP"⟩, .empty "Stop"⟩,
    ⟨.fixed ⟨"halt NOW"⟩, .empty "Halt"⟩]

/-- The commands are accepted. -/
theorem stops_accepted : Validation.defect? true stops = none := by decide +kernel

end Sample

/-- Commands that differ in more than letter case match no common line, and the later is reached. -/
theorem FixedTemplate.slotFree_clash_iff_halt :
    Validation.defect? true Sample.stops = none ∧
      (¬ ∃ tokens, ((⟨"STOP"⟩ : FixedTemplate).capture tokens).isSome ∧
        ((⟨"halt NOW"⟩ : FixedTemplate).capture tokens).isSome) ∧
      ∃ tokens, ((⟨"halt NOW"⟩ : FixedTemplate).capture tokens).isSome ∧
        ¬ ((⟨"STOP"⟩ : FixedTemplate).capture tokens).isSome := by
  have stands : Sample.stops[1]? = some ⟨.fixed ⟨"STOP"⟩, .empty "Stop"⟩ := rfl
  have stands' : Sample.stops[2]? = some ⟨.fixed ⟨"halt NOW"⟩, .empty "Halt"⟩ := rfl
  obtain ⟨_, common, hidden⟩ := slotFree_clash_iff Sample.stops_accepted stands stands'
    (by decide) (by decide) (by decide)
  have differ : Text.lowerCase (⟨"STOP"⟩ : FixedTemplate).keyword ≠
      Text.lowerCase (⟨"halt NOW"⟩ : FixedTemplate).keyword := by decide +kernel
  refine ⟨Sample.stops_accepted, fun shared => differ (common.mp shared), ?_⟩
  by_contra reached
  push Not at reached
  exact differ (hidden.mp reached)

/-- An accepted command without slots that is never reached, because the one before it matches the
same lines: the check compares keywords as they are written, but lines match in any letter case. -/
theorem Sample.stop_clashes : Validation.defect? true Sample.stops = none ∧
    ((⟨"stop"⟩ : FixedTemplate).capture ["STOP"]).isSome ∧
    ((⟨"STOP"⟩ : FixedTemplate).capture ["STOP"]).isSome ∧
    ∀ tokens, ((⟨"STOP"⟩ : FixedTemplate).capture tokens).isSome →
      ((⟨"stop"⟩ : FixedTemplate).capture tokens).isSome := by
  refine ⟨stops_accepted, by decide +kernel, by decide +kernel, fun tokens matched => ?_⟩
  rw [FixedTemplate.capture_isSome_iff (by decide)] at matched ⊢
  rw [← matched]
  decide +kernel

end Switchboard
