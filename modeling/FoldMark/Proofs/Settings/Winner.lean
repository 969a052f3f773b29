import FoldMark.CommandLine
import FoldMark.Proofs.Chain
import FoldMark.Proofs.Text.CodePoint
import FoldMark.Settings.Source
import Mathlib

/-!
# The value that counts

Of the values that the sources of settings hold for a field one counts, the winner: that of the
command line, else that of the environment, else that of the file, else the default. Settings are
read from the winners alone, so what loses has no influence, whether it would be valid or not, and
neither has an entry of a file that is no field (`settings_of_winners`).
-/

namespace FoldMark.Settings

open Fields Text

variable {name : String}

/-! ## Winners -/

/-- Whether a value sets a field. -/
def isGiven : Value → Bool
  | .null => false
  | _ => true

/-- The value that overriding entries give a field. -/
def overriding? (overrides : Entries) (name : String) : Option Value :=
  (overrides.find? fun entry => entry.1 == name && isGiven entry.2).map (·.2)

/-- The value that the environment gives a field: a text that is not empty. -/
def environmental? (environment : List (String × String)) (name : String) : Option Value :=
  match environment.lookup (variableStart ++ String.ofList (upper name.toList)) with
  | some text => if text.isEmpty then none else some (.str text)
  | none => none

/-- The values of the fields where no source gives one. -/
def defaults : Entries :=
  [("root", .str "."), ("host", .str "127.0.0.1"), ("port", .int 8083),
    ("index_file", .str "index.md"), ("output_dir", .str "dist"), ("output_format", .str "html"),
    ("log_level", .str "INFO"), ("tables", .bool false), ("footnotes", .bool false),
    ("strikethrough", .bool false), ("tasklists", .bool false),
    ("smart_punctuation", .bool false), ("header_attributes", .bool false),
    ("emoji_shortcodes", .bool false), ("front_matter", .null), ("collapsible_headers", .null),
    ("strict_front_matter", .bool false)]

/-- The sources of the settings of a run. -/
structure Sources where
  /-- What the command line gives. -/
  overrides : Entries
  /-- The variables of the environment. -/
  environment : List (String × String)
  /-- What the file gives. -/
  file : Entries

namespace Sources

/-- The value that the sources give a field. -/
def given? (sources : Sources) (name : String) : Option Value :=
  ((overriding? sources.overrides name).or (environmental? sources.environment name)).or
    (sources.file.lookup name)

/-- The value that counts for a field. -/
def winner (sources : Sources) (name : String) : Value :=
  (sources.given? name).getD ((defaults.lookup name).getD .null)

/-- The values that count. -/
def winners (sources : Sources) : Entries := fieldNames.map fun name => (name, sources.winner name)

/-- All entries of the sources, those that win first. -/
def layers (sources : Sources) : Entries :=
  overridingEntries sources.overrides ++ environmentEntries sources.environment ++ sources.file

end Sources

/-! ## Looking a field up -/

/-- Overriding entries give a field the first value for it that is one. -/
theorem lookup_overridingEntries (overrides : Entries) (name : String) :
    (overridingEntries overrides).lookup name = overriding? overrides name := by
  induction overrides with
  | nil => rfl
  | cons entry rest hypothesis =>
    obtain ⟨field, value⟩ := entry
    rw [overridingEntries] at hypothesis ⊢
    rw [overriding?] at hypothesis ⊢
    by_cases same : field = name
    · subst same
      cases value <;> simp [isGiven, hypothesis]
    · have other : (name == field) = false := beq_eq_false_iff_ne.mpr (Ne.symm same)
      cases value <;> simp [isGiven, hypothesis, same, other, List.lookup_cons]

/-- Entries that are made of names have one for a name if it is among them and gives a value. -/
theorem lookup_filterMap (names : List String) (give : String → Option Value) (name : String) :
    (names.filterMap fun field => (give field).map fun value => (field, value)).lookup name =
      if name ∈ names then give name else none := by
  induction names with
  | nil => rfl
  | cons field names hypothesis =>
    by_cases same : field = name
    · subst same
      cases found : give field with
      | none => simp [found, hypothesis]
      | some value => simp [found]
    · have other : (name == field) = false := beq_eq_false_iff_ne.mpr (Ne.symm same)
      cases found : give field <;>
        simp [found, hypothesis, List.lookup_cons, other, Ne.symm same]

/-- The environment gives a field the value of its variable. -/
theorem lookup_environmentEntries (environment : List (String × String))
    (known : name ∈ fieldNames) :
    (environmentEntries environment).lookup name = environmental? environment name := by
  have made : environmentEntries environment = fieldNames.filterMap fun field =>
      (environmental? environment field).map fun value => (field, value) := by
    rw [environmentEntries]
    refine List.filterMap_congr fun field _ => ?_
    rw [environmental?]
    cases environment.lookup (variableStart ++ String.ofList (upper field.toList)) with
    | none => rfl
    | some text => cases empty : text.isEmpty <;> simp [empty]
  rw [made, lookup_filterMap, if_pos known]

namespace Sources

variable (sources : Sources)

/-- A field that is looked up in all entries has the value that the sources give it. -/
theorem lookup_layers (known : name ∈ fieldNames) :
    sources.layers.lookup name = sources.given? name := by
  rw [layers, List.lookup_append, List.lookup_append, lookup_overridingEntries,
    lookup_environmentEntries sources.environment known, given?]

/-- A field that is looked up among the winners has the one that counts. -/
theorem lookup_winners (known : name ∈ fieldNames) :
    sources.winners.lookup name = some (sources.winner name) := by
  have made : sources.winners = fieldNames.filterMap fun field =>
      (some (sources.winner field)).map fun value => (field, value) := by
    rw [winners, ← List.filterMap_eq_map]
    rfl
  rw [made, lookup_filterMap _ (fun field => some (sources.winner field)), if_pos known]

/-- A field is read from its winner, if its default value is read as what it is without one. -/
theorem readField_winners {ε α : Type} (name : String) (reader : Value → Except ε α) (absent : α)
    (known : name ∈ fieldNames)
    (fits : reader ((defaults.lookup name).getD .null) = .ok absent) :
    readField sources.layers name reader absent = readField sources.winners name reader absent := by
  rw [readField, readField, sources.lookup_layers known, sources.lookup_winners known, winner]
  cases sources.given? name with
  | some value => rfl
  | none =>
    dsimp only [Option.getD_none]
    rw [fits]

/-- Settings are read from the winners. -/
theorem ofEntries_winners : ofEntries sources.layers = ofEntries sources.winners := by
  simp only [ofEntries, Extensions.readFeatures]
  rw [sources.readField_winners "root" text ".".toList (by decide) rfl,
    sources.readField_winners "host" text "127.0.0.1".toList (by decide) rfl,
    sources.readField_winners "port" readPort ⟨8083, by decide⟩ (by decide) rfl,
    sources.readField_winners "index_file" text "index.md".toList (by decide) rfl,
    sources.readField_winners "output_dir" text "dist".toList (by decide) rfl,
    sources.readField_winners "output_format" outputFormat .html (by decide) rfl,
    sources.readField_winners "log_level" readLogLevel .info (by decide) rfl,
    sources.readField_winners "tables" switch false (by decide) rfl,
    sources.readField_winners "footnotes" switch false (by decide) rfl,
    sources.readField_winners "strikethrough" switch false (by decide) rfl,
    sources.readField_winners "tasklists" switch false (by decide) rfl,
    sources.readField_winners "smart_punctuation" switch false (by decide) rfl,
    sources.readField_winners "header_attributes" switch false (by decide) rfl,
    sources.readField_winners "emoji_shortcodes" switch false (by decide) rfl,
    sources.readField_winners "front_matter" kind none (by decide) rfl,
    sources.readField_winners "collapsible_headers" optionalText none (by decide) rfl,
    sources.readField_winners "strict_front_matter" switch false (by decide) rfl]

end Sources

/-! ## What a command line gives -/

/-- The first entries for a field count. -/
theorem overriding?_append (front back : Entries) (name : String) :
    overriding? (front ++ back) name = (overriding? front name).or (overriding? back name) := by
  rw [overriding?, List.find?_append, Option.map_or]
  rfl

/-- An entry counts for its field if it has a value. -/
theorem overriding?_cons (field : String) (value : Value) (rest : Entries) (name : String) :
    overriding? ((field, value) :: rest) name =
      (if field = name ∧ isGiven value then some value else none).or (overriding? rest name) := by
  rw [overriding?, List.find?_cons]
  by_cases own : field = name ∧ isGiven value = true
  · simp [own]
  · rw [if_neg own, Option.none_or]
    have passed : (field == name && isGiven value) = false := by simpa using own
    simp only [passed, overriding?]

end FoldMark.Settings

namespace FoldMark.CommandLine

open Fields Settings

variable {line : Line Purpose} {fields : List (Purpose × String)} {overrides : Entries}

/-- The value that an option gives a field. -/
def optionValue? (line : Line Purpose) (name : String) : Purpose × String → Option Value
  | (purpose, field) =>
    if field = name then (line.value? purpose).bind (fieldValue? purpose) else none

/-- The value that a command line gives a field: the value of its option, and for a switch, that it
is on if it is turned on. -/
def fieldOf? (line : Line Purpose) (name : String) : Option Value :=
  (valueFields.findSome? (optionValue? line name)).or
    (if line.has (.turnOn name) then some (.bool true) else none)

/-- The value of an option sets its field. -/
theorem isGiven_of_fieldValue? {purpose : Purpose} {word : Word} {value : Value}
    (found : fieldValue? purpose word = some value) : isGiven value = true := by
  cases purpose with
  | format | frontMatter | port =>
    obtain ⟨_, -, rfl⟩ := Option.map_eq_some_iff.mp found
    rfl
  | help | settings | output | root | host | selector | turnOn field =>
    obtain rfl := Option.some.inj found
    rfl

/-- Options give their fields what their words stand for. -/
theorem overriding?_values {values : Entries}
    (read : (fields.filterMapM fun (purpose, field) =>
      match line.value? purpose with
      | none => some none
      | some word => (fieldValue? purpose word).map fun value => some (field, value)) = some values)
    (name : String) :
    overriding? values name = fields.findSome? (optionValue? line name) := by
  induction fields generalizing values with
  | nil =>
    obtain rfl := Option.some.inj read
    rfl
  | cons entry fields hypothesis =>
    obtain ⟨purpose, field⟩ := entry
    rw [List.filterMapM_cons] at read
    obtain ⟨first, own, rest⟩ := Option.bind_eq_some_iff.mp read
    dsimp only at own
    cases word : line.value? purpose with
    | none =>
      rw [word] at own
      obtain rfl := Option.some.inj own
      have nothing : optionValue? line name (purpose, field) = none := by
        simp [optionValue?, word]
      rw [hypothesis rest, List.findSome?_cons, nothing]
    | some word' =>
      rw [word] at own
      obtain ⟨value, found, rfl⟩ := Option.map_eq_some_iff.mp own
      obtain ⟨others, later, same⟩ := Option.bind_eq_some_iff.mp rest
      obtain rfl := Option.some.inj same
      have given : optionValue? line name (purpose, field) =
          if field = name ∧ isGiven value then some value else none := by
        simp [optionValue?, word, found, isGiven_of_fieldValue? found]
      rw [overriding?_cons, hypothesis later, ← given, List.findSome?_cons]
      cases optionValue? line name (purpose, field) <;> rfl

/-- Switches that are turned on are on, and give nothing else. -/
theorem overriding?_turnedOn (given : Given Purpose) (name : String) :
    overriding? (given.filterMap fun (purpose, _) =>
      match purpose with
      | .turnOn field => some (field, Value.bool true)
      | _ => none) name =
        if given.any (·.1 == .turnOn name) then some (.bool true) else none := by
  induction given with
  | nil => rfl
  | cons option given hypothesis =>
    obtain ⟨purpose, word⟩ := option
    cases purpose with
    | turnOn field =>
      rw [List.filterMap_cons]
      dsimp only
      rw [overriding?_cons, hypothesis]
      by_cases same : field = name
      · simp [same, isGiven]
      · have other : (Purpose.turnOn field == .turnOn name) = false :=
          beq_eq_false_iff_ne.mpr fun both => same (Purpose.turnOn.inj both)
        rw [if_neg fun both => same both.1, Option.none_or, List.any_cons, other, Bool.false_or]
    | help | settings | output | format | root | host | port | frontMatter | selector =>
      rw [List.filterMap_cons_none rfl, hypothesis]
      rfl

/-- A command line overrides the fields of its options, and of switches only those that it turns
on. -/
theorem overriding?_overrides? (read : overrides? line = some overrides) (name : String) :
    overriding? overrides name = fieldOf? line name := by
  obtain ⟨values, options, same⟩ := Option.bind_eq_some_iff.mp read
  obtain rfl := Option.some.inj same
  rw [overriding?_append, overriding?_values options, fieldOf?]
  exact congrArg (Option.or _) (overriding?_turnedOn line.given name)

end FoldMark.CommandLine

namespace FoldMark.Settings

open Fields Text

/-! ## The law -/

/-- Entries with the texts that are their keys. -/
def textKeyed (entries : Entries) : List (Value × Value) :=
  entries.map fun entry => (.str entry.1, entry.2)

/-- Keys that are texts name fields. -/
theorem namedEntries_textKeyed (entries : Entries) :
    namedEntries (textKeyed entries) = .ok entries := by
  induction entries with
  | nil => rfl
  | cons entry entries hypothesis =>
    rw [namedEntries, textKeyed, List.map_cons, List.mapM_cons]
    refine bind_eq_ok rfl (bind_eq_ok hypothesis ?_)
    rw [CodeText.toString_ofString]
    rfl

/-- Settings are read from all entries of their sources. -/
theorem load_of_fileEntries {tree : Tree} {named : Option (List Char)} {sources : Sources}
    (reads : fileEntries tree named = .ok (textKeyed sources.file)) :
    load tree sources.environment named sources.overrides =
      (ofEntries sources.layers).mapError .fields := by
  rw [load, reads]
  change (namedEntries (textKeyed sources.file) >>= fun entries =>
    (ofEntries (overridingEntries sources.overrides ++ environmentEntries sources.environment ++
      entries)).mapError .fields) = _
  rw [namedEntries_textKeyed]
  rfl

/-- Where the file is a mapping with texts as its keys, settings are what is read from the winners
alone, or fail as these do. So two runs whose winners are the same have the same settings, or fail
alike. The command line gives a field the value of its option, and of the switches it gives those
that it turns on. -/
theorem settings_of_winners (tree : Tree) (named : Option (List Char)) (sources : Sources)
    (reads : fileEntries tree named = .ok (textKeyed sources.file)) :
    load tree sources.environment named sources.overrides =
        (ofEntries sources.winners).mapError .fields ∧
      (∀ (other : Tree) (otherNamed : Option (List Char)) (others : Sources),
        fileEntries other otherNamed = .ok (textKeyed others.file) →
        (∀ name ∈ fieldNames, sources.winner name = others.winner name) →
          load tree sources.environment named sources.overrides =
            load other others.environment otherNamed others.overrides) ∧
      ∀ line, CommandLine.overrides? line = some sources.overrides →
        ∀ name, overriding? sources.overrides name = CommandLine.fieldOf? line name := by
  have winnersOf : ∀ {tree named} {sources : Sources},
      fileEntries tree named = .ok (textKeyed sources.file) →
        load tree sources.environment named sources.overrides =
          (ofEntries sources.winners).mapError .fields := fun reads => by
    rw [load_of_fileEntries reads, Sources.ofEntries_winners]
  refine ⟨winnersOf reads, fun other otherNamed others readsOther same => ?_,
    fun line read name => CommandLine.overriding?_overrides? read name⟩
  have winners : sources.winners = others.winners :=
    List.map_congr_left fun name known => by rw [same name known]
  rw [winnersOf reads, winnersOf readsOther, winners]

/-- The text of a file with a port that is none and an unknown entry. -/
def portText : List Char := "\x7b\"port\": \"x\", \"host\": \"h\", \"size\": 1\x7d".toList

/-- A tree with that file. -/
def portTree : Tree := ⟨[(["c.json".toList], .file (Text.Utf8.encode portText))], []⟩

/-- The sources of a run with that file, an empty variable and an overriding port. -/
def portSources : Sources where
  overrides := [("port", .int 9000), ("root", .null)]
  environment := [("MDSERVE_HOST", "")]
  file := [("port", .str "x"), ("host", .str "h"), ("size", .int 1)]

/-- The file of that run is read. -/
theorem fileEntries_portTree :
    fileEntries portTree (some "c.json".toList) = .ok (textKeyed portSources.file) := by
  have present : portTree.isPresent (Path.parse "c.json".toList) = .ok true := by cbv
  have bytes : portTree.read (Path.parse "c.json".toList) = .ok (Text.Utf8.encode portText) := by
    cbv
  have decoded : Text.Utf8.decode (Text.Utf8.encode portText) = .ok portText := by cbv
  have value : Json.read? portText = some (.map none (textKeyed portSources.file)) := by cbv
  have chars : portTree.readText (Path.parse "c.json".toList) = .ok portText :=
    bind_eq_ok (mapError_eq_ok_iff.mpr bytes) (bind_eq_ok (mapError_eq_ok_iff.mpr decoded) rfl)
  have entries : readFile portTree (Path.parse "c.json".toList) =
      .ok (textKeyed portSources.file) := by
    refine bind_eq_ok (mapError_eq_ok_iff.mpr chars) ?_
    rw [readNotation, value]
    rfl
  exact bind_eq_ok (mapError_eq_ok_iff.mpr present) entries

/-- What loses does not count: neither the port of the file nor its unknown entry, an empty
variable or a value that is missing. -/
theorem settings_of_portSources :
    portSources.winner "port" = .int 9000 ∧ portSources.winner "host" = .str "h" ∧
      portSources.winner "root" = .str "." ∧
      load portTree portSources.environment (some "c.json".toList) portSources.overrides =
        (ofEntries portSources.winners).mapError .fields ∧
      (ofEntries portSources.winners).toOption.map (·.port) = some 9000 :=
  ⟨by cbv, by cbv, by cbv,
    (settings_of_winners portTree _ portSources fileEntries_portTree).1, by decide +kernel⟩

end FoldMark.Settings
