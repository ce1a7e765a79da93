import Switchboard.Proofs.Registry.Writing
/-!
# What is written is loaded

The document of a registry is loaded as that registry (`Registry.load_document`): the document of a
field is not read as a field of a kind that is tried before its own, whatever the names in it, and
the document of a switched command is no fixed command. What cannot be loaded was not written: keys
that are foreign to an object are refused with it. Numbers can stand for names, though, and then a
command can be of both kinds (`CommandSpec.load_numbered`).
-/
namespace Switchboard

/-! ## Fields -/

open Document

/-- A scalar type is loaded from its name. -/
theorem ScalarName.load?_label (name : ScalarName) : load? (.text name.label) = some name := by
  cases name <;> rfl

/-- A table is no scalar type if nothing in it stands for nothing. -/
theorem ScalarName.load?_ofEntries {entries : List (String × Document)}
    (each : ∀ entry ∈ entries, entry.2.isNothing = false) : load? (.ofEntries entries) = none := by
  match entries with
  | [] => rfl
  | [(key, value)] =>
    -- A single key may name a scalar type, but the value has to stand for nothing then.
    have filled : value.isNothing = false := each (key, value) List.mem_cons_self
    simp only [ofEntries, List.map_cons, List.map_nil, load?, filled]
    cases ((Document.text key).nameAmong? (all.map label)).join <;> rfl
  | first :: second :: rest => rfl

namespace FieldSpec

/-- The entries of fields are their documents under their names. -/
theorem entries_eq_map (fields : List (String × FieldSpec)) :
    entries fields = fields.map fun field => (field.1, field.2.document) := by
  induction fields with
  | nil => rw [entries, List.map_nil]
  | cons field rest ih =>
    obtain ⟨name, spec⟩ := field
    rw [entries, ih, List.map_cons]

/-- The document of a field does not stand for nothing. -/
theorem isNothing_document (spec : FieldSpec) : spec.document.isNothing = false := by
  cases spec with
  | scalar name =>
    rw [document]
    rfl
  | composite fields =>
    rw [document]
    rfl
  | scalarList name =>
    rw [document]
    rfl
  | compositeList fields =>
    rw [document]
    rfl

/-- The documents of fields are no scalar type. -/
theorem load?_entries (fields : List (String × FieldSpec)) :
    ScalarName.load? (.ofEntries (entries fields)) = none := by
  refine ScalarName.load?_ofEntries fun entry among => ?_
  rw [entries_eq_map] at among
  obtain ⟨field, _, rfl⟩ := List.mem_map.mp among
  exact field.2.isNothing_document

/-- A table with one entry, under which there is something, is a record or a list. -/
theorem load_single {key : String} {value : Document} (filled : value.isNothing = false) :
    load (.ofEntries [(key, value)]) =
      ((loadComposite [(Document.text key, value)]).map composite).or
        (loadList [(Document.text key, value)]) := by
  have each : ∀ entry ∈ [(key, value)], entry.2.isNothing = false :=
    List.forall_mem_singleton.mpr filled
  have scalarless := ScalarName.load?_ofEntries each
  rw [ofEntries, List.map_singleton] at scalarless
  rw [ofEntries, List.map_singleton, load, scalarless]
  rfl

/-- A record is loaded from its fields. -/
theorem loadComposite_composite (value : Document) :
    loadComposite [(Document.text "composite", value)] = loadFields value := by
  have key : (Document.text "composite").nameAmong? ["composite"] = some (some "composite") := by
    decide
  rw [loadComposite, key]
  rfl

/-- A list is no record. -/
theorem loadComposite_list (value : Document) :
    loadComposite [(Document.text "list", value)] = none := by
  have key : (Document.text "list").nameAmong? ["composite"] = some none := by decide
  rw [loadComposite, key]
  rw [loadComposite]

/-- A list is loaded from its elements. -/
theorem loadList_list (value : Document) :
    loadList [(Document.text "list", value)] = loadElements value := by
  have key : (Document.text "list").nameAmong? ["list"] = some (some "list") := by decide
  rw [loadList, key]
  rfl

mutual

/-- The document of a field is loaded as that field. -/
theorem load_document : ∀ spec : FieldSpec, load spec.document = some spec
  | scalar name => by
    rw [document, Document.text, load, ← Document.text, ScalarName.load?_label]
    · rfl
    · nofun
  | composite fields => by
    rw [document, load_single rfl, loadComposite_composite, ofEntries,
      loadFields, loadEntries_entries fields]
    rfl
  | scalarList name => by
    rw [document, load_single rfl, loadComposite_list, loadList_list,
      Document.text, loadElements, ← Document.text, ScalarName.load?_label]
    · rfl
    · nofun
  | compositeList fields => by
    -- The table of the fields itself is first tried as the name of a scalar type.
    have scalarless := load?_entries fields
    rw [ofEntries] at scalarless
    rw [document, load_single rfl, loadComposite_list, loadList_list,
      ofEntries, loadElements, scalarless, loadEntries_entries fields]
    rfl

/-- The entries of fields are loaded as these fields. -/
theorem loadEntries_entries : ∀ fields : List (String × FieldSpec),
    loadEntries ((entries fields).map fun entry => (Document.text entry.1, entry.2)) = some fields
  | [] => by rw [entries, List.map_nil, loadEntries]
  | (name, spec) :: rest => by
    rw [entries, List.map_cons, loadEntries, load_document spec, loadEntries_entries rest]
    rfl

end

mutual

/-- The document of a field is meaningful. -/
theorem isMeaningful_document : ∀ spec : FieldSpec, spec.document.isMeaningful = true
  | scalar name => by
    rw [document]
    exact isMeaningful_text name.label
  | composite fields => by
    rw [document]
    have inner := isMeaningful_ofEntries (isMeaningful_entries fields)
    exact isMeaningful_ofEntries (List.forall_mem_singleton.mpr inner)
  | scalarList name => by
    rw [document]
    exact isMeaningful_ofEntries (List.forall_mem_singleton.mpr (isMeaningful_text name.label))
  | compositeList fields => by
    rw [document]
    have inner := isMeaningful_ofEntries (isMeaningful_entries fields)
    exact isMeaningful_ofEntries (List.forall_mem_singleton.mpr inner)

/-- The entries of fields are meaningful. -/
theorem isMeaningful_entries : ∀ fields : List (String × FieldSpec),
    ∀ entry ∈ entries fields, entry.2.isMeaningful = true
  | [] => by
    rw [entries]
    exact fun _ among => absurd among List.not_mem_nil
  | (name, spec) :: rest => by
    rw [entries]
    exact List.forall_mem_cons.mpr ⟨isMeaningful_document spec, isMeaningful_entries rest⟩

end

/-- The document of fields, if there are any. -/
def fieldsDocument? (fields : List (String × FieldSpec)) : Option Document :=
  if fields.isEmpty then none else some (.ofEntries (entries fields))

/-- Fields are given if there are any. -/
theorem fieldsEntry_eq (fields : List (String × FieldSpec)) :
    fieldsEntry fields = given [("fields", fieldsDocument? fields)] := by
  cases fields <;> rfl

/-- Fields that are given are meaningful. -/
theorem isMeaningful_fieldsDocument (fields : List (String × FieldSpec)) :
    ∀ document ∈ fieldsDocument? fields, document.isMeaningful = true := by
  intro document held
  obtain ⟨_, same⟩ := Option.ite_none_left_eq_some.mp held
  cases same
  exact isMeaningful_ofEntries (isMeaningful_entries fields)

end FieldSpec

/-- The fields of a command are read back. -/
theorem loadCommandFields_of_lookup {members : List (String × Document)}
    {fields : List (String × FieldSpec)}
    (found : members.lookup "fields" = FieldSpec.fieldsDocument? fields) :
    loadCommandFields members = some fields := by
  rw [loadCommandFields, found]
  cases fields with
  | nil => rfl
  | cons field rest => exact FieldSpec.loadEntries_entries (field :: rest)

/-! ## Parameters -/

namespace ParameterSpec

/-- The members of a parameter. -/
def members (spec : ParameterSpec) : List (String × Option Document) := [
  ("name", some (.text spec.name)),
  ("alias", spec.shorthand.map .text),
  ("required", truthDocument? spec.required),
  ("repeatable", truthDocument? spec.repeatable),
  ("composite", spec.composite.map .text),
  ("value", spec.value.map .text),
  ("flag", spec.flag.map .text),
  ("description", spec.description.map .text)]

/-- The document of a parameter gives its members. -/
theorem document_eq (spec : ParameterSpec) : spec.document = .ofEntries (given spec.members) := by
  have name : [("name", Document.text spec.name)] = given [("name", some (.text spec.name))] := rfl
  simp only [document, name, textEntry_eq, truthEntry_eq, ← given_append]
  rfl

/-- No two members have the same name. -/
theorem members_distinct (spec : ParameterSpec) : (spec.members.map Prod.fst).Nodup :=
  (by decide : memberNames.Nodup)

/-- What is found under the name of a member. -/
theorem lookup_members (spec : ParameterSpec) :
    let found := fun name => (given spec.members).lookup name
    found "name" = some (.text spec.name) ∧ found "alias" = spec.shorthand.map .text ∧
      found "required" = truthDocument? spec.required ∧
      found "repeatable" = truthDocument? spec.repeatable ∧
      found "composite" = spec.composite.map .text ∧ found "value" = spec.value.map .text ∧
      found "flag" = spec.flag.map .text ∧ found "description" = spec.description.map .text := by
  refine ⟨?_, ?_, ?_, ?_, ?_, ?_, ?_, ?_⟩ <;>
    exact lookup_given spec.members_distinct (by simp [members])

/-- The document of a parameter is loaded as that parameter. -/
theorem load_document (spec : ParameterSpec) : load spec.document = some spec := by
  have read : spec.document.members memberNames = some (given spec.members) := by
    rw [document_eq]
    exact members_given spec.members_distinct
  obtain ⟨name, shorthand, required, repeatable, composite, value, flag, description⟩ :=
    spec.lookup_members
  rw [load, read]
  simp only [Option.bind_eq_bind, Option.bind_some, requiredText_of_lookup name,
    optionalText_of_lookup shorthand, truthOf_of_lookup required, truthOf_of_lookup repeatable,
    optionalText_of_lookup composite, optionalText_of_lookup value, optionalText_of_lookup flag,
    optionalText_of_lookup description]

/-- The document of a parameter is meaningful. -/
theorem isMeaningful_document (spec : ParameterSpec) : spec.document.isMeaningful = true := by
  rw [document_eq]
  refine isMeaningful_given ?_
  simp only [members, List.forall_mem_cons]
  exact ⟨isMeaningful_textDocument (some spec.name), isMeaningful_textDocument _,
    isMeaningful_truthDocument _, isMeaningful_truthDocument _, isMeaningful_textDocument _,
    isMeaningful_textDocument _, isMeaningful_textDocument _, isMeaningful_textDocument _,
    fun _ among => absurd among List.not_mem_nil⟩

/-- The document of parameters, if there are any. -/
def parametersDocument? (parameters : List ParameterSpec) : Option Document :=
  if parameters.isEmpty then none else some (.ofItems (parameters.map document))

/-- Parameters are given if there are any. -/
theorem parametersEntry_eq (parameters : List ParameterSpec) :
    parametersEntry parameters = given [("parameters", parametersDocument? parameters)] := by
  cases parameters <;> rfl

/-- Parameters that are given are meaningful. -/
theorem isMeaningful_parametersDocument (parameters : List ParameterSpec) :
    ∀ document ∈ parametersDocument? parameters, document.isMeaningful = true := by
  intro document held
  obtain ⟨_, same⟩ := Option.ite_none_left_eq_some.mp held
  cases same
  refine isMeaningful_ofItems fun item among => ?_
  obtain ⟨spec, _, rfl⟩ := List.mem_map.mp among
  exact spec.isMeaningful_document

/-- The parameters of a command are read back. -/
theorem loadAll_of_lookup {members : List (String × Document)} {parameters : List ParameterSpec}
    (found : members.lookup "parameters" = parametersDocument? parameters) :
    loadAll members = some parameters := by
  rw [loadAll, found]
  cases parameters with
  | nil => rfl
  | cons parameter rest => exact mapM_map_some fun spec _ => spec.load_document

end ParameterSpec

/-! ## Commands -/

namespace CommandSpec

/-- The members of a command. -/
def members : CommandSpec → List (String × Option Document)
  | fixed template description fields => [
    ("template", some (.text template)),
    ("description", description.map .text),
    ("fields", FieldSpec.fieldsDocument? fields)]
  | switched name description fields parameters => [
    ("name", some (.text name)),
    ("description", description.map .text),
    ("fields", FieldSpec.fieldsDocument? fields),
    ("parameters", ParameterSpec.parametersDocument? parameters)]

/-- The document of a command gives its members. -/
theorem document_eq (spec : CommandSpec) : spec.document = .ofEntries (given spec.members) := by
  have first : ∀ key value, [(key, Document.text value)] = given [(key, some (.text value))] :=
    fun _ _ => rfl
  cases spec with
  | fixed template description fields =>
    simp only [document, first, textEntry_eq, FieldSpec.fieldsEntry_eq, ← given_append]
    rfl
  | switched name description fields parameters =>
    simp only [document, first, textEntry_eq, FieldSpec.fieldsEntry_eq,
      ParameterSpec.parametersEntry_eq, ← given_append]
    rfl

/-- No two members have the same name. -/
theorem members_distinct (spec : CommandSpec) : (spec.members.map Prod.fst).Nodup := by
  cases spec with
  | fixed => exact (by decide : fixedMemberNames.Nodup)
  | switched => exact (by decide : switchedMemberNames.Nodup)

/-- The document of a fixed command is loaded as that command. -/
theorem loadFixed_document (template : String) (description : Option String)
    (fields : List (String × FieldSpec)) :
    let spec := fixed template description fields
    loadFixed spec.document = some spec := by
  intro spec
  have found : ∀ {name value}, (name, value) ∈ spec.members →
      (given spec.members).lookup name = value := lookup_given spec.members_distinct
  refine loadFixed_iff.mpr ⟨given spec.members, template, description, fields, ?_, ?_, ?_, ?_, rfl⟩
  · rw [document_eq]
    exact members_given spec.members_distinct
  · exact requiredText_of_lookup (found (by simp [spec, members]))
  · exact optionalText_of_lookup (found (by simp [spec, members]))
  · exact loadCommandFields_of_lookup (found (by simp [spec, members]))

/-- The document of a switched command is loaded as that command. -/
theorem loadSwitched_document (name : String) (description : Option String)
    (fields : List (String × FieldSpec)) (parameters : List ParameterSpec) :
    let spec := switched name description fields parameters
    loadSwitched spec.document = some spec := by
  intro spec
  have found : ∀ {name value}, (name, value) ∈ spec.members →
      (given spec.members).lookup name = value := lookup_given spec.members_distinct
  refine loadSwitched_iff.mpr
    ⟨given spec.members, name, description, fields, parameters, ?_, ?_, ?_, ?_, ?_, rfl⟩
  · rw [document_eq]
    exact members_given spec.members_distinct
  · exact requiredText_of_lookup (found (by simp [spec, members]))
  · exact optionalText_of_lookup (found (by simp [spec, members]))
  · exact loadCommandFields_of_lookup (found (by simp [spec, members]))
  · exact ParameterSpec.loadAll_of_lookup (found (by simp [spec, members]))

/-- The document of a switched command is no fixed command. -/
theorem loadFixed_switched (name : String) (description : Option String)
    (fields : List (String × FieldSpec)) (parameters : List ParameterSpec) :
    loadFixed (switched name description fields parameters).document = none := by
  refine Option.eq_none_iff_forall_ne_some.mpr fun spec loaded => ?_
  obtain ⟨members, _, _, _, read, _⟩ := loadFixed_iff.mp loaded
  rw [document_eq] at read
  have foreign : (Document.text "name").IsForeign fixedMemberNames :=
    isForeign_of_text rfl (by decide)
  exact not_isForeign read List.mem_cons_self foreign

/-- The document of a command is meaningful. -/
theorem isMeaningful_document (spec : CommandSpec) : spec.document.isMeaningful = true := by
  rw [document_eq]
  refine isMeaningful_given ?_
  cases spec with
  | fixed template description fields =>
    simp only [members, List.forall_mem_cons]
    exact ⟨isMeaningful_textDocument (some template), isMeaningful_textDocument _,
      FieldSpec.isMeaningful_fieldsDocument _, fun _ among => absurd among List.not_mem_nil⟩
  | switched name description fields parameters =>
    simp only [members, List.forall_mem_cons]
    exact ⟨isMeaningful_textDocument (some name), isMeaningful_textDocument _,
      FieldSpec.isMeaningful_fieldsDocument _, ParameterSpec.isMeaningful_parametersDocument _,
      fun _ among => absurd among List.not_mem_nil⟩

/-- The document of a command is loaded as that command. -/
theorem load_document (spec : CommandSpec) : load spec.document = some spec := by
  rw [load, if_pos spec.isMeaningful_document]
  cases spec with
  | fixed template description fields => rw [loadFixed_document, Option.some_or]
  | switched name description fields parameters =>
    rw [loadFixed_switched, loadSwitched_document, Option.none_or]

end CommandSpec

/-! ## Registries -/

namespace Registry

/-- The members of a registry. -/
def members (registry : Registry) : List (String × Option Document) := [
  ("help", truthDocument? registry.help),
  ("exit_command", registry.exitCommand.map .text),
  ("commands", some (.ofItems (registry.commands.map CommandSpec.document)))]

/-- The document of a registry gives its members. -/
theorem document_eq (registry : Registry) :
    registry.document = .ofEntries (given registry.members) := by
  have last : ∀ value : Document, [("commands", value)] = given [("commands", some value)] :=
    fun _ => rfl
  simp only [document, last, textEntry_eq, truthEntry_eq, ← given_append]
  rfl

/-- The document of a registry is loaded as that registry. -/
theorem load_document (registry : Registry) : load registry.document = some registry := by
  have distinct : (registry.members.map Prod.fst).Nodup := (by decide : memberNames.Nodup)
  have found : ∀ {name value}, (name, value) ∈ registry.members →
      (given registry.members).lookup name = value := lookup_given distinct
  rw [document_eq]
  refine load_table_iff.mpr
    ⟨given registry.members, registry.help, registry.exitCommand, registry.commands, ?_, ?_, ?_, ?_,
      rfl⟩
  · refine named_text (fun entry among => ?_) (distinct.sublist (given_names _))
    have known : entry.1 ∈ memberNames :=
      (given_names registry.members).subset (List.mem_map_of_mem among)
    exact if_pos (List.contains_iff_mem.mpr known)
  · have help : (given registry.members).lookup "help" = truthDocument? registry.help :=
      found (by simp [members])
    rw [loadHelp, help]
    cases registry.help <;> rfl
  · have exitCommand : (given registry.members).lookup "exit_command" =
        registry.exitCommand.map .text := found (by simp [members])
    rw [loadExitCommand, exitCommand]
    cases registry.exitCommand <;> rfl
  · have commands : (given registry.members).lookup "commands" =
        some (.ofItems (registry.commands.map CommandSpec.document)) := found (by simp [members])
    rw [loadCommands, commands]
    exact mapM_map_some fun spec _ => spec.load_document

end Registry

/-! ## Keys that are numbers -/

/-- A text under the number of the first member is a fixed command as well as a switched one. -/
theorem CommandSpec.loads_numbered {key : Document} (first : key.meaning? = some (.natural 0))
    (tag : Option Tag) (value : String) :
    loadFixed (.table tag [(key, .text value)]) = some (fixed value none []) ∧
      loadSwitched (.table tag [(key, .text value)]) = some (switched value none [] []) := by
  have read : ∀ {names : List String} {name : String}, names[0]? = some name →
      (Document.table tag [(key, .text value)]).members names = some [(name, .text value)] := by
    intro names name leads
    rw [members_table]
    refine named_iff.mpr ⟨.cons ⟨?_, rfl⟩ .nil, by simp⟩
    exact join_nameAmong?_iff.mpr (.inr ⟨0, first, leads⟩)
  exact ⟨loadFixed_iff.mpr ⟨_, _, _, _, read rfl, rfl, rfl, rfl, rfl⟩,
    loadSwitched_iff.mpr ⟨_, _, _, _, _, read rfl, rfl, rfl, rfl, rfl, rfl⟩⟩

/-- A command is of both kinds, and not refused, with a key that is none of the names of its
members: the number of the first of them. -/
theorem CommandSpec.load_numbered :
    let key := Document.scalar .plain none "0"
    let document := Document.table none [(key, .text "stop")]
    key.text? = none ∧ loadFixed document = some (fixed "stop" none []) ∧
      loadSwitched document = some (switched "stop" none [] []) ∧
      load document = some (fixed "stop" none []) := by
  intro key document
  have first : key.meaning? = some (.natural 0) := by decide +kernel
  have meaningful : document.isMeaningful = true := by decide +kernel
  obtain ⟨fixedly, switchedly⟩ := loads_numbered first none "stop"
  refine ⟨by decide +kernel, fixedly, switchedly, ?_⟩
  rw [load, if_pos meaningful, fixedly, Option.some_or]

/-- Loading undoes writing: what is written for a registry is loaded as that registry. Only a
command that gives the first of its members by the place is of both kinds, so for all others it is
the same which kind is tried first. A command is refused with a key that is foreign to a fixed
command and one that is foreign to a switched command, and so it is with both a template and a name;
a parameter is refused with a key that is foreign to parameters. A registry is refused with a
command, and a command with a parameter, that is refused. -/
theorem Registry.loading_undoes_writing :
    (∀ registry : Registry, load registry.document = some registry) ∧
    (∀ document fixedly switchedly, CommandSpec.loadFixed document = some fixedly →
      CommandSpec.loadSwitched document = some switchedly → CommandSpec.StartsByPlace document) ∧
    (∀ document, ¬ CommandSpec.StartsByPlace document → CommandSpec.load document =
      if document.isMeaningful then
        (CommandSpec.loadSwitched document).or (CommandSpec.loadFixed document)
      else none) ∧
    (∀ tag, ∀ entries : List (Document × Document),
      (∃ entry ∈ entries, entry.1.IsForeign CommandSpec.fixedMemberNames) →
      (∃ entry ∈ entries, entry.1.IsForeign CommandSpec.switchedMemberNames) →
        CommandSpec.load (.table tag entries) = none) ∧
    (∀ tag, ∀ entries : List (Document × Document),
      (∃ entry ∈ entries, entry.1.text? = some "template") →
      (∃ entry ∈ entries, entry.1.text? = some "name") →
        CommandSpec.load (.table tag entries) = none) ∧
    (∀ tag, ∀ entries : List (Document × Document),
      (∃ entry ∈ entries, entry.1.IsForeign ParameterSpec.memberNames) →
        ParameterSpec.load (.table tag entries) = none) ∧
    (∀ document item, CommandSpec.Lists document item → ParameterSpec.load item = none →
      CommandSpec.load document = none) ∧
    ∀ document item, Lists document item → CommandSpec.load item = none →
      load document = none := by
  refine ⟨load_document, fun _ _ _ => CommandSpec.startsByPlace_of_both, fun document named => ?_,
    ?_, ?_, ?_, fun _ _ => CommandSpec.load_none_of_parameter, fun _ _ => load_none_of_command⟩
  · rw [CommandSpec.load, CommandSpec.load_comm named]
  · rintro tag entries ⟨entry, among, foreign⟩ ⟨entry', among', foreign'⟩
    exact CommandSpec.load_none_of_foreign among foreign among' foreign'
  · rintro tag entries ⟨entry, among, template⟩ ⟨entry', among', name⟩
    exact CommandSpec.load_none_of_template_and_name among template among' name
  · rintro tag entries ⟨entry, among, foreign⟩
    exact ParameterSpec.load_none_of_foreign among foreign

/-- A registry is refused for one misspelt key of a parameter. -/
theorem Registry.loading_undoes_writing_misspelt :
    let parameter := Document.ofEntries [("name", .text "--name"), ("vale", .text "[[Name]]")]
    let command := Document.ofEntries [("name", .text "run"), ("parameters", .ofItems [parameter])]
    let numbered := Document.table none [(.scalar .plain none "0", .text "stop")]
    let fixedly := Document.ofEntries [("template", .text "stop"), ("parameters", .ofItems [])]
    let mixed := Document.ofEntries [("template", .text "stop"), ("name", .text "stop")]
    load (.ofEntries [("commands", .ofItems [command])]) = none ∧
      CommandSpec.StartsByPlace numbered ∧ CommandSpec.load fixedly = none ∧
      CommandSpec.load mixed = none ∧ CommandSpec.load mixed = if mixed.isMeaningful then
        (CommandSpec.loadSwitched mixed).or (CommandSpec.loadFixed mixed) else none := by
  intro parameter command numbered fixedly mixed
  obtain ⟨_, both, order, foreign, double, misspelt, spreads, refuses⟩ := loading_undoes_writing
  have refused : ParameterSpec.load parameter = none := misspelt none _
    ⟨_, List.mem_cons_of_mem _ List.mem_cons_self, isForeign_of_text rfl (by decide)⟩
  have refused' : CommandSpec.load command = none := by
    refine spreads command parameter (.table (List.mem_cons_of_mem _ List.mem_cons_self) ?_
      List.mem_cons_self) refused
    exact .inl ⟨rfl, by decide⟩
  obtain ⟨first, second⟩ := CommandSpec.loads_numbered
    (show (Document.scalar .plain none "0").meaning? = some (.natural 0) by decide +kernel) none
    "stop"
  refine ⟨refuses _ command (.table List.mem_cons_self rfl List.mem_cons_self) refused',
    both numbered _ _ first second, ?_, ?_, order mixed ?_⟩
  · exact foreign none _
      ⟨_, List.mem_cons_of_mem _ List.mem_cons_self, isForeign_of_text rfl (by decide)⟩
      ⟨_, List.mem_cons_self, isForeign_of_text rfl (by decide)⟩
  · exact double none _ ⟨_, List.mem_cons_self, rfl⟩
      ⟨_, List.mem_cons_of_mem _ List.mem_cons_self, rfl⟩
  · rintro ⟨entry, among, meaning⟩
    simp only [List.map_cons, List.map_nil, List.mem_cons, List.not_mem_nil, or_false] at among
    rcases among with rfl | rfl <;> cases meaning

end Switchboard
