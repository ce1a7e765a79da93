import Switchboard.Proofs.Registration.Rules
import Switchboard.Proofs.Switches.Verdict
/-!
# The order of declarations

Commands and parameters are looked for from the first to the last, and checked in that order. All
the same, in which order they are declared decides neither whether a set of commands is accepted
(`Validation.acceptable_reordered_iff`) nor what the switches of an accepted command mean
(`SwitchedTemplate.readSwitches_reordered`): no two parameters have a switch in common, so a token
names the same parameter wherever that is declared. The order is seen only in the list of required
parameters that are missing.
-/
namespace Switchboard

/-! ## Sets of commands in another order -/

/-- A template with its parameters declared in another order. -/
inductive Template.Reordered : Template → Template → Prop where
  /-- A fixed template has no parameters. -/
  | fixed (template : FixedTemplate) : Reordered (.fixed template) (.fixed template)
  /-- The parameters of a switched template change places. -/
  | switched (template : SwitchedTemplate) {parameters : List Parameter}
      (perm : template.parameters.Perm parameters) :
      Reordered (.switched template) (.switched { template with parameters })

/-- A template whose parameters change places is one that they change back to. -/
theorem Template.Reordered.symm {template other : Template} (reordered : template.Reordered other) :
    other.Reordered template := by
  cases reordered with
  | fixed template => exact .fixed template
  | switched template perm => exact .switched _ perm.symm

/-- A command with its parameters declared in another order. -/
structure Declaration.Reordered (declaration other : Declaration) : Prop where
  /-- The parameters change places. -/
  template : declaration.template.Reordered other.template
  /-- The record type is the same. -/
  descriptor : declaration.descriptor = other.descriptor

/-- A switched template with its parameters in another order is as sound as it was. -/
theorem SwitchedTemplate.Sound.reordered {template : SwitchedTemplate} {descriptor : Descriptor}
    {parameters : List Parameter} (sound : template.Sound descriptor)
    (perm : template.parameters.Perm parameters) :
    SwitchedTemplate.Sound { template with parameters } descriptor where
  distinct := (perm.flatMap_right Validation.switchesOf).nodup_iff.mp sound.distinct
  fits parameter member := sound.fits parameter (perm.mem_iff.mpr member)

namespace Validation

/-- Commands that are declared in another order, each with its parameters in another order. -/
def Reordered (declarations others : List Declaration) : Prop :=
  ∃ middle, declarations.Perm middle ∧ List.Forall₂ Declaration.Reordered middle others

variable {reserved : Bool} {declarations others : List Declaration}

/-- Commands that change places keep the rules. -/
theorem Acceptable.perm (acceptable : Acceptable reserved declarations)
    (perm : declarations.Perm others) : Acceptable reserved others where
  filled empty := by
    rw [empty, List.perm_nil] at perm
    exact acceptable.filled perm
  unreserved beside declaration member :=
    acceptable.unreserved beside declaration (perm.mem_iff.mpr member)
  keyed declaration member := acceptable.keyed declaration (perm.mem_iff.mpr member)
  distinct := (perm.map _).nodup_iff.mp acceptable.distinct
  sound declaration member := acceptable.sound declaration (perm.mem_iff.mpr member)

/-- What holds of every command holds of every command after its parameters change places, if it
does not depend on their order. -/
theorem forall_mem_reordered {holds : Declaration → Prop}
    (kept : ∀ declaration other, declaration.Reordered other → holds declaration → holds other)
    (reordered : List.Forall₂ Declaration.Reordered declarations others)
    (each : ∀ declaration ∈ declarations, holds declaration) :
    ∀ declaration ∈ others, holds declaration := by
  induction reordered with
  | nil => exact fun _ member => absurd member List.not_mem_nil
  | cons first _ ih =>
    obtain ⟨own, rest⟩ := List.forall_mem_cons.mp each
    exact List.forall_mem_cons.mpr ⟨kept _ _ first own, ih rest⟩

/-- Parameters have no part in the keywords of a command. -/
theorem keyword_reordered {declaration other : Declaration}
    (reordered : declaration.Reordered other) :
    declaration.template.keyword = other.template.keyword ∧
      (declaration.template.TakesHelp ↔ other.template.TakesHelp) := by
  obtain ⟨template, descriptor⟩ := declaration
  obtain ⟨template', descriptor'⟩ := other
  have parameters : template.Reordered template' := reordered.template
  cases parameters with
  | fixed template => exact ⟨rfl, Iff.rfl⟩
  | switched template perm => exact ⟨rfl, Iff.rfl⟩

/-- The keywords of commands do not change with the places of their parameters. -/
theorem keywords_reordered (reordered : List.Forall₂ Declaration.Reordered declarations others) :
    (declarations.map fun declaration => declaration.template.keyword) =
      others.map fun declaration => declaration.template.keyword := by
  induction reordered with
  | nil => rfl
  | cons first _ ih => rw [List.map_cons, List.map_cons, ih, (keyword_reordered first).1]

/-- A command is as sound as it was. -/
theorem sound_reordered {declaration other : Declaration} (reordered : declaration.Reordered other)
    (sound : declaration.Sound) : other.Sound := by
  obtain ⟨template, descriptor⟩ := declaration
  obtain ⟨template', descriptor'⟩ := other
  obtain ⟨parameters, same⟩ := reordered
  change template.Reordered template' at parameters
  change descriptor = descriptor' at same
  subst same
  cases parameters with
  | fixed template => exact sound
  | switched template perm => exact SwitchedTemplate.Sound.reordered sound perm

/-- Commands whose parameters change places keep the rules. -/
theorem Acceptable.reordered (acceptable : Acceptable reserved declarations)
    (reordered : List.Forall₂ Declaration.Reordered declarations others) :
    Acceptable reserved others where
  filled empty := by
    rw [empty, List.forall₂_nil_right_iff] at reordered
    exact acceptable.filled reordered
  unreserved beside := by
    refine forall_mem_reordered (fun declaration other moved free => ?_) reordered
      (acceptable.unreserved beside)
    rw [← (keyword_reordered moved).2]
    exact free
  keyed := by
    refine forall_mem_reordered (fun declaration other moved keyed => ?_) reordered
      acceptable.keyed
    rw [← (keyword_reordered moved).1]
    exact keyed
  distinct := by
    rw [← keywords_reordered reordered]
    exact acceptable.distinct
  sound := forall_mem_reordered (fun _ _ => sound_reordered) reordered acceptable.sound

/-- Whether a set of commands keeps the rules does not depend on the order of declaration. -/
theorem acceptable_reordered_iff (reordered : Reordered declarations others) :
    Acceptable reserved declarations ↔ Acceptable reserved others := by
  obtain ⟨middle, perm, parameters⟩ := reordered
  have back : List.Forall₂ Declaration.Reordered others middle := by
    refine parameters.flip.imp fun other declaration moved => ?_
    exact ⟨moved.template.symm, moved.descriptor.symm⟩
  constructor
  · intro acceptable
    exact (acceptable.perm perm).reordered parameters
  · intro acceptable
    exact (acceptable.reordered back).perm perm.symm

end Validation

/-! ## Lines of a command with its parameters in another order -/

/-- A fault in which missing parameters are listed in a given order. -/
def Fault.listedIn (order : List String) : Fault → Fault
  | .rejected (.missingRequired names) =>
    .rejected (.missingRequired (order.filter fun name => name ∈ names))
  | fault => fault

/-- Nothing is listed in the fault of an occurrence. -/
theorem Occurrence.Faulty.listedIn {descriptor : Descriptor} {earlier : List Occurrence}
    {occurrence : Occurrence} {fault : Fault} (faulty : occurrence.Faulty descriptor earlier fault)
    (order : List String) : fault.listedIn order = fault := by
  cases faulty with
  | duplicate again => rfl
  | wrong fresh wrong =>
    cases wrong with
    | malformed unfit => rfl
    | unconvertible fit converted declared refused => rfl

namespace SwitchedTemplate

variable {template : SwitchedTemplate} {descriptor : Descriptor} {parameters : List Parameter}

section Permuted

variable (perm : template.parameters.Perm parameters)

include perm

/-- A token names the same parameters wherever they are declared. -/
theorem names_reordered {token : String} {parameter : Parameter} :
    ({ template with parameters } : SwitchedTemplate).Names token parameter ↔
      template.Names token parameter := by
  constructor
  · intro named
    exact ⟨perm.mem_iff.mpr named.declared, named.typed⟩
  · intro named
    exact ⟨perm.mem_iff.mp named.declared, named.typed⟩

/-- A line splits as it did. -/
theorem Split.reordered {tokens : List String} {occurrences : List Occurrence}
    {ending : Option String} (split : template.Split tokens occurrences ending) :
    ({ template with parameters } : SwitchedTemplate).Split tokens occurrences ending := by
  induction split with
  | done => exact .done
  | unknown nameless =>
    exact .unknown fun parameter named => nameless parameter ((names_reordered perm).mp named)
  | dangling named kind => exact .dangling ((names_reordered perm).mpr named) kind
  | flag named kind _ ih => exact .flag ((names_reordered perm).mpr named) kind ih
  | valued named kind _ ih => exact .valued ((names_reordered perm).mpr named) kind ih

/-- The same required parameters are missing. -/
theorem unmet_reordered_perm (occurrences : List Occurrence) :
    (({ template with parameters } : SwitchedTemplate).unmet occurrences).Perm
      (template.unmet occurrences) :=
  ((perm.filter _).map Parameter.name).symm

/-- Missing parameters are listed in the order in which they are declared. -/
theorem unmet_reordered (distinct : template.Distinct) (occurrences : List Occurrence) :
    ({ template with parameters } : SwitchedTemplate).unmet occurrences =
      (parameters.map Parameter.name).filter fun name => name ∈ template.unmet occurrences := by
  rw [List.filter_map]
  apply congrArg (List.map Parameter.name)
  apply List.filter_congr
  intro parameter member
  have declared : parameter ∈ template.parameters := perm.mem_iff.mpr member
  rw [Bool.eq_iff_iff, decide_eq_true_eq, Function.comp_apply, decide_eq_true_eq, unmet,
    List.mem_map]
  constructor
  · intro lacking
    exact ⟨parameter, List.mem_filter.mpr ⟨declared, decide_eq_true lacking⟩, rfl⟩
  · intro listed
    obtain ⟨other, among, same⟩ := listed
    obtain ⟨one, lacking⟩ := List.mem_filter.mp among
    rw [distinct.parameter_eq one declared same] at lacking
    exact of_decide_eq_true lacking

end Permuted

/-- The tokens after the keywords come to the same, but that missing parameters are listed in the
order in which they are declared. -/
theorem readSwitches_reordered (sound : template.Sound descriptor)
    (perm : template.parameters.Perm parameters) (tokens : List String) :
    ({ template with parameters } : SwitchedTemplate).readSwitches descriptor tokens =
      (template.readSwitches descriptor tokens).mapError
        (Fault.listedIn (parameters.map Parameter.name)) := by
  have split := split_occurrences template tokens
  have moved := split.reordered perm
  generalize (template.occurrences tokens).1 = occurrences at split moved
  generalize (template.occurrences tokens).2 = ending at split moved
  rw [readSwitches_of_split sound split, readSwitches_of_split (sound.reordered perm) moved]
  cases bound : occurrences.foldlM (Occurrence.bind descriptor) ⟨[], .empty⟩ with
  | error fault =>
    obtain ⟨_, _, _, _, _, faulty⟩ :=
      (bindAll_error_iff sound.distinct (sound.admits split)).mp bound
    exact congrArg Except.error (faulty.listedIn _).symm
  | ok progress =>
    obtain ⟨faultless, entries, entered, rfl⟩ :=
      bindAll_ok sound.distinct (sound.admits split) bound
    cases ending with
    | some token => rfl
    | none =>
      have before := conclude_seenAfter sound.distinct split
      have after := conclude_seenAfter (sound.reordered perm).distinct moved
      have same := unmet_reordered_perm perm occurrences
      rw [Except.bind, Except.bind, before, after]
      by_cases complete : template.unmet occurrences = []
      · rw [complete, List.perm_nil] at same
        rw [if_pos complete, if_pos same]
        rfl
      · have lacking :
            ({ template with parameters } : SwitchedTemplate).unmet occurrences ≠ [] := by
          intro empty
          rw [empty, List.nil_perm] at same
          exact complete same
        rw [if_neg complete, if_neg lacking, unmet_reordered perm sound.distinct]
        rfl

/-- A line comes to the same, but that missing parameters are listed in the order in which they are
declared. -/
theorem read?_reordered (sound : template.Sound descriptor)
    (perm : template.parameters.Perm parameters) (tokens : List String) :
    ({ template with parameters } : SwitchedTemplate).read? descriptor tokens =
      (template.read? descriptor tokens).map
        (Except.mapError (Fault.listedIn (parameters.map Parameter.name))) := by
  by_cases leads : template.keywords <+: tokens
  · obtain ⟨switches, rfl⟩ := leads
    have moved := read?_append { template with parameters } descriptor switches
    rw [readSwitches_reordered sound perm] at moved
    rw [read?_append, Option.map_some, ← moved]
    rfl
  · have before : template.read? descriptor tokens = none := read?_none_iff.mpr leads
    have after : ({ template with parameters } : SwitchedTemplate).read? descriptor tokens =
        none := read?_none_iff.mpr leads
    rw [before, after, Option.map_none]

/-- The parameters that are missing on a line are the required ones that do not occur there. -/
theorem missing_eq_unmet (sound : template.Sound descriptor) {tokens names : List String}
    (missing : template.read? descriptor tokens =
      some (.error (.rejected (.missingRequired names)))) :
    ∃ occurrences, names = template.unmet occurrences := by
  have leads : template.keywords <+: tokens := by
    by_contra apart
    rw [read?_none_iff.mpr apart] at missing
    cases missing
  obtain ⟨switches, rfl⟩ := leads
  rw [read?_append, Option.some.injEq] at missing
  have verdict : template.Verdict descriptor switches
      (some (.rejected (.missingRequired names))) := by
    rw [readSwitches_verdict sound, missing]
    rfl
  cases verdict with
  | faulty split leftmost =>
    obtain ⟨_, _, _, _, _, faulty⟩ := leftmost
    cases faulty with
    | wrong fresh wrong => cases wrong
  | missing split faultless lacking => exact ⟨_, rfl⟩

/-- In the order in which they are declared, the missing parameters are the same. -/
theorem missing_reordered (sound : template.Sound descriptor)
    (perm : template.parameters.Perm parameters) {tokens names : List String}
    (missing : template.read? descriptor tokens =
      some (.error (.rejected (.missingRequired names)))) :
    ((parameters.map Parameter.name).filter fun name => name ∈ names).Perm names := by
  obtain ⟨occurrences, rfl⟩ := missing_eq_unmet sound missing
  rw [← unmet_reordered perm sound.distinct]
  exact unmet_reordered_perm perm occurrences

end SwitchedTemplate

namespace Sample

/-- The command that copies a file. -/
def copy : SwitchedTemplate where
  written := "copy"
  parameters := [
    { name := "--from", shorthand := some "-f", required := true, kind := .valued ⟨"[[Source]]"⟩ },
    { name := "--to", required := true, kind := .valued ⟨"[[Target]]"⟩ },
    { name := "--force", kind := .flag "Force" }]

/-- The record type of the command. -/
def copyRecord : Descriptor where
  typeName := "Copy"
  fields := [("Source", .scalar .text), ("Target", .scalar .text), ("Force", .scalar .bool)]

/-- The command beside another. -/
def copies : List Declaration :=
  [⟨.switched copy, copyRecord⟩, ⟨.fixed ⟨"stop"⟩, .empty "Stop"⟩]

/-- The parameters of the command in another order. -/
def copyReversed : List Parameter := copy.parameters.reverse

/-- The commands are accepted. -/
theorem copies_accepted : Validation.defect? true copies = none := by decide +kernel

end Sample

/-- In which order commands are declared, and in which order the parameters of each, does not decide
whether they are accepted. A line of an accepted switched command comes to the same whatever the
order of its parameters: nothing, a record or a fault. Only the names of missing parameters are
listed as they are declared. -/
theorem Validation.declared_in_any_order (reserved : Bool) (declarations : List Declaration) :
    (∀ others, Reordered declarations others →
      (defect? reserved declarations = none ↔ defect? reserved others = none)) ∧
    (defect? reserved declarations = none → ∀ template descriptor,
      ⟨.switched template, descriptor⟩ ∈ declarations →
      ∀ parameters, template.parameters.Perm parameters → ∀ tokens,
        ({ template with parameters } : SwitchedTemplate).read? descriptor tokens =
          (template.read? descriptor tokens).map
            (Except.mapError (Fault.listedIn (parameters.map Parameter.name))) ∧
        ∀ names, template.read? descriptor tokens =
            some (.error (.rejected (.missingRequired names))) →
          ((parameters.map Parameter.name).filter fun name => name ∈ names).Perm names) := by
  constructor
  · intro others reordered
    rw [defect?_none, defect?_none]
    exact acceptable_reordered_iff reordered
  · intro accepted template descriptor member parameters perm tokens
    have sound := switched_sound accepted member
    refine ⟨SwitchedTemplate.read?_reordered sound perm tokens, fun names missing => ?_⟩
    exact SwitchedTemplate.missing_reordered sound perm missing

/-- With commands and parameters the other way round, the two parameters that are missing on a line
are listed the other way round. -/
theorem Sample.copies_reversed :
    Validation.Reordered copies
        [⟨.fixed ⟨"stop"⟩, .empty "Stop"⟩,
          ⟨.switched { copy with parameters := copyReversed }, copyRecord⟩] ∧
      Validation.defect? true
        [⟨.fixed ⟨"stop"⟩, .empty "Stop"⟩,
          ⟨.switched { copy with parameters := copyReversed }, copyRecord⟩] = none ∧
      copy.read? copyRecord ["copy", "--force"] =
        some (.error (.rejected (.missingRequired ["--from", "--to"]))) ∧
      ({ copy with parameters := copyReversed } : SwitchedTemplate).read? copyRecord
          ["copy", "--force"] =
        some (.error (.rejected (.missingRequired ["--to", "--from"]))) := by
  have perm : copy.parameters.Perm copyReversed := (List.reverse_perm _).symm
  have reordered : Validation.Reordered copies
      [⟨.fixed ⟨"stop"⟩, .empty "Stop"⟩,
        ⟨.switched { copy with parameters := copyReversed }, copyRecord⟩] := by
    refine ⟨_, .swap _ _ _, .cons ⟨.fixed _, rfl⟩ (.cons ⟨.switched copy perm, rfl⟩ .nil)⟩
  obtain ⟨accepted, lines⟩ := Validation.declared_in_any_order true copies
  have line := lines copies_accepted copy copyRecord List.mem_cons_self copyReversed perm
    ["copy", "--force"]
  have missing : copy.read? copyRecord ["copy", "--force"] =
      some (.error (.rejected (.missingRequired ["--from", "--to"]))) := by
    have computed : (copy.read? copyRecord ["copy", "--force"]).map SwitchedTemplate.faultOf =
        some (some (.rejected (.missingRequired ["--from", "--to"]))) := by decide +kernel
    cases read : copy.read? copyRecord ["copy", "--force"] with
    | none => simp [read] at computed
    | some reading =>
      rw [read, Option.map_some, Option.some.injEq] at computed
      cases reading with
      | ok record => cases computed
      | error fault => rw [Option.some.inj computed]
  refine ⟨reordered, (accepted _ reordered).mp copies_accepted, missing, ?_⟩
  rw [line.1, missing]
  rfl

end Switchboard
