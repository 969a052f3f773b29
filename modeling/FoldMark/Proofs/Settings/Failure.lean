import FoldMark.Proofs.Chain
import FoldMark.Proofs.Page.Failure
import FoldMark.Proofs.Tree.LongNames
import FoldMark.Settings.Source
import Mathlib

/-!
# Failures of settings

Reading settings gives them or tells what is wrong with them, with three exceptions in which it
stops: `load_stops_exactly`. The place of the file cannot be probed, which takes a name that is too
long; the reader of YAML stops at the file; or the file is a mapping in YAML with a key that is no
text. Files in the other notations have texts as keys, whatever they hold.
-/

namespace FoldMark

/-- Whether the keys of a mapping are texts. -/
def HasTextKeys (entries : List (Value × Value)) : Prop :=
  ∀ entry ∈ entries, ∃ name, entry.1 = .str name

namespace Json

variable {entries members : List (Value × Value)}

/-- Giving a text a value. -/
theorem hasTextKeys_insert (keys : HasTextKeys entries) (name : CodeText) (value : Value) :
    HasTextKeys (Value.insert entries (.str name) value) := by
  intro entry member
  rw [Value.insert] at member
  split at member
  · obtain ⟨old, listed, rfl⟩ := List.mem_map.mp member
    split <;> exact keys old listed
  · rcases List.mem_append.mp member with before | last
    · exact keys entry before
    · exact ⟨name, by rw [List.mem_singleton.mp last]⟩

/-- The members of a mapping have texts as keys. -/
theorem hasTextKeys_readMembers? {fuel : Nat} {text rest : List Char} (keys : HasTextKeys entries)
    (read : readMembers? fuel entries text = some (members, rest)) : HasTextKeys members := by
  induction fuel generalizing entries text with
  | zero => simp [readMembers?] at read
  | succ fuel hypothesis =>
    rw [readMembers?.eq_def] at read
    dsimp only at read
    split at read
    · obtain ⟨⟨name, afterName⟩, -, read⟩ := Option.bind_eq_some_iff.mp read
      dsimp only at read
      split at read
      · obtain ⟨⟨value, afterValue⟩, -, read⟩ := Option.bind_eq_some_iff.mp read
        dsimp only at read
        have added := hasTextKeys_insert keys name value
        split at read
        · exact hypothesis added read
        · obtain ⟨rfl, -⟩ := Prod.mk.inj (Option.some.inj read)
          exact added
        · cases read
      · cases read
    · cases read

/-- No word or number is a mapping. -/
theorem readScalar?_ne_map {text rest : List Char} {id : Option Nat} :
    readScalar? text ≠ some (.map id entries, rest) := by
  have word : ∀ {left : Option (List Char)} {value : Value},
      left.map (value, ·) = some (.map id entries, rest) → value = .map id entries := by
    intro left value same
    obtain ⟨_, -, same⟩ := Option.map_eq_some_iff.mp same
    exact congrArg Prod.fst same
  have magnitude : ∀ {isNegative : Bool} {text : List Char},
      readMagnitude? isNegative text ≠ some (.map id entries, rest) := by
    intro isNegative text same
    unfold readMagnitude? at same
    grind
  intro same
  rw [readScalar?.eq_def] at same
  split at same
  · cases word same
  · cases word same
  · cases word same
  · cases word same
  · cases word same
  · cases word same
  · exact magnitude same
  · exact magnitude same

/-- A document that is a mapping has texts as keys. -/
theorem hasTextKeys_of_read? {text : List Char} {id : Option Nat}
    (read : read? text = some (.map id entries)) : HasTextKeys entries := by
  obtain ⟨⟨value, rest⟩, front, read⟩ := Option.bind_eq_some_iff.mp read
  obtain rfl : value = .map id entries := by
    dsimp only at read
    split at read
    · exact Option.some.inj read
    · cases read
  rw [readValue?.eq_def] at front
  dsimp only at front
  split at front
  · obtain ⟨_, -, same⟩ := Option.map_eq_some_iff.mp front
    cases same
  · split at front
    · cases front
    · obtain ⟨_, -, same⟩ := Option.map_eq_some_iff.mp front
      cases same
  · split at front
    · cases front
      exact nofun
    · obtain ⟨⟨members, after⟩, inner, same⟩ := Option.map_eq_some_iff.mp front
      cases same
      exact hasTextKeys_readMembers? (List.forall_mem_nil _) inner
  · exact absurd front readScalar?_ne_map

end Json

namespace Toml

/-- The keys of a table are texts. -/
theorem hasTextKeys_entryValues (table : Table) : HasTextKeys (Item.entryValues table) := by
  induction table with
  | nil => exact nofun
  | cons entry rest hypothesis =>
    obtain ⟨key, item⟩ := entry
    exact List.forall_mem_cons.mpr ⟨⟨_, rfl⟩, hypothesis⟩

/-- A document is a mapping with texts as keys. -/
theorem hasTextKeys_of_read? {text : List Char} {id : Option Nat} {entries : List (Value × Value)}
    (read : read? text = some (.map id entries)) : HasTextKeys entries := by
  obtain ⟨statements, -, built⟩ := Option.bind_eq_some_iff.mp read
  obtain ⟨draft, -, same⟩ := Option.bind_eq_some_iff.mp built
  cases Option.some.inj same
  exact hasTextKeys_entryValues draft.root

end Toml

namespace Settings

open Fields Text

variable {tree : Tree} {environment : List (String × String)} {named : Option (List Char)}
  {overrides : Entries} {path : Path} {chars : List Char} {entries : List (Value × Value)}
  {fault : Fault}

/-- A text that is the content of a file in YAML. -/
structure IsYaml (tree : Tree) (path : Path) (chars : List Char) : Prop where
  /-- The name of the file has a suffix of the notation. -/
  form : notationSuffixes.lookup (String.ofList (lower path.suffix)) = some .yaml
  /-- The text is that of the file. -/
  text : tree.readText path = .ok chars

/-! ## One file -/

/-- How the file at a path is read: something is told of it, or it is a mapping with texts as keys,
or it is a mapping in YAML with any keys, or the reader of YAML stops at it. -/
inductive FileOutcome (tree : Tree) (path : Path) : Except LoadError (List (Value × Value)) → Prop
  /-- What is wrong with the file is told. -/
  | told (error : LoadError) (message : error.message?.isSome = true) :
    FileOutcome tree path (.error error)
  /-- The keys are texts. -/
  | textKeyed (entries : List (Value × Value)) (keys : HasTextKeys entries) :
    FileOutcome tree path (.ok entries)
  /-- The file is a mapping in YAML. -/
  | yaml (chars : List Char) (id : Option Nat) (entries : List (Value × Value))
    (isYaml : IsYaml tree path chars) (read : Yaml.read chars = .ok (.map id entries)) :
    FileOutcome tree path (.ok entries)
  /-- The reader of YAML stops. -/
  | stopped (chars : List Char) (error : Yaml.ReadError) (isYaml : IsYaml tree path chars)
    (read : Yaml.read chars = .error error) (isFault : error.isFault = true) :
    FileOutcome tree path (.error (.stopped (.settings error)))

/-- The entries of a value, or that it is no mapping. -/
def entriesOrError (name : Name) : Value → Except LoadError (List (Value × Value))
  | .map _ entries => .ok entries
  | value => .error (.noMapping name value)

/-- A file that can be read is its value. -/
theorem readFile_of_readText {form : Notation}
    (suffix : notationSuffixes.lookup (String.ofList (lower path.suffix)) = some form)
    (text : tree.readText path = .ok chars) :
    readFile tree path =
      readNotation path.name form chars >>= entriesOrError path.name := by
  rw [readFile, suffix]
  dsimp only
  rw [text]
  rfl

/-- Of a value that is no mapping it is told that it is none. -/
theorem fileOutcome_of_value (value : Value)
    (mapping : ∀ id entries, value = .map id entries → FileOutcome tree path (.ok entries)) :
    FileOutcome tree path (entriesOrError path.name value) := by
  cases value with
  | map id entries => exact mapping id entries rfl
  | _ => exact .told _ rfl

/-- Of a text without a value it is told that it has none. -/
theorem fileOutcome_of_orInvalid {value : Option Value}
    (keys : ∀ id entries, value = some (.map id entries) → HasTextKeys entries) :
    FileOutcome tree path
      (readNotation.orInvalid path.name value >>= entriesOrError path.name) := by
  cases value with
  | none => exact .told (.invalid path.name) rfl
  | some value =>
    exact fileOutcome_of_value value fun id entries same =>
      .textKeyed entries (keys id entries (congrArg some same))

/-- A file is read in one of these ways. -/
theorem readFile_spec (tree : Tree) (path : Path) :
    FileOutcome tree path (readFile tree path) := by
  cases suffix : notationSuffixes.lookup (String.ofList (lower path.suffix)) with
  | none =>
    rw [readFile, suffix]
    exact .told (.unsupported path.name) rfl
  | some form =>
    cases text : tree.readText path with
    | error error =>
      rw [readFile, suffix]
      dsimp only
      rw [text]
      exact .told (.invalid path.name) rfl
    | ok chars =>
      rw [readFile_of_readText suffix text]
      cases form with
      | json => exact fileOutcome_of_orInvalid fun _ _ => Json.hasTextKeys_of_read?
      | toml => exact fileOutcome_of_orInvalid fun _ _ => Toml.hasTextKeys_of_read?
      | yaml =>
        cases read : Yaml.read chars with
        | error error =>
          rw [readNotation, read]
          dsimp only
          cases isFault : error.isFault with
          | true => exact .stopped chars error ⟨suffix, text⟩ read isFault
          | false => exact .told (.invalid path.name) rfl
        | ok value =>
          rw [readNotation, read]
          refine fileOutcome_of_value _ fun id entries same => ?_
          cases nothing : value.isNothing with
          | true =>
            rw [nothing] at same
            cases same
            exact .textKeyed [] (List.forall_mem_nil _)
          | false =>
            rw [nothing] at same
            exact .yaml chars id entries ⟨suffix, text⟩ (same ▸ read)

/-- A file in YAML at which the reader stops. -/
theorem readFile_of_fault {error : Yaml.ReadError} (isYaml : IsYaml tree path chars)
    (read : Yaml.read chars = .error error) (isFault : error.isFault = true) :
    readFile tree path = .error (.stopped (.settings error)) := by
  rw [readFile_of_readText isYaml.form isYaml.text, readNotation, read]
  dsimp only
  rw [if_pos isFault]
  rfl

/-- A file in YAML that is a mapping. -/
theorem readFile_of_map {id : Option Nat} (isYaml : IsYaml tree path chars)
    (read : Yaml.read chars = .ok (.map id entries)) : readFile tree path = .ok entries := by
  rw [readFile_of_readText isYaml.form isYaml.text, readNotation, read]
  cases entries <;> rfl

/-! ## Settings -/

/-- Keys are taken for names of fields if they are texts, and reading stops if one is not. -/
theorem namedEntries_cases (entries : List (Value × Value)) :
    (HasTextKeys entries ∧ ∃ named, namedEntries entries = .ok named) ∨
      (¬HasTextKeys entries ∧ namedEntries entries = .error (.stopped .keyNotText)) := by
  induction entries with
  | nil => exact Or.inl ⟨List.forall_mem_nil _, [], rfl⟩
  | cons entry entries hypothesis =>
    obtain ⟨key, value⟩ := entry
    rw [namedEntries, List.mapM_cons, HasTextKeys, List.forall_mem_cons]
    cases key with
    | str name =>
      rcases hypothesis with ⟨keys, named, found⟩ | ⟨keys, failed⟩
      · exact Or.inl ⟨⟨⟨name, rfl⟩, keys⟩, (name.toString, value) :: named,
          bind_eq_ok rfl (bind_eq_ok found rfl)⟩
      · exact Or.inr ⟨fun texts => keys texts.2, bind_eq_error_iff.mpr
          (Or.inr ⟨(name.toString, value), rfl, bind_eq_error_iff.mpr (Or.inl failed)⟩)⟩
    | _ =>
      refine Or.inr ⟨fun texts => ?_, rfl⟩
      obtain ⟨_, same⟩ := texts.1
      cases same

/-- Where the file is looked for. -/
def filePath (named : Option (List Char)) : Path := Path.parse (named.getD fileName)

/-- What is read where the file is not there. -/
def missingEntries : Option (List Char) → Except LoadError (List (Value × Value))
  | some name => .error (.missing name)
  | none => .ok []

/-- The file is probed, and read if it is there. -/
theorem fileEntries_eq (tree : Tree) (named : Option (List Char)) :
    fileEntries tree named =
      (tree.isPresent (filePath named)).mapError (.stopped <| .file ·) >>= fun isPresent =>
        if isPresent then readFile tree (filePath named) else missingEntries named := by
  cases named <;> rfl

/-- A file that is there is read. -/
theorem fileEntries_of_present (present : tree.isPresent (filePath named) = .ok true) :
    fileEntries tree named = readFile tree (filePath named) := by
  rw [fileEntries_eq, present]
  rfl

/-- The file cannot be probed, is not there, or is read. -/
theorem fileEntries_cases (tree : Tree) (named : Option (List Char)) :
    (∃ error, tree.isPresent (filePath named) = .error error ∧
      fileEntries tree named = .error (.stopped (.file error))) ∨
    (tree.isPresent (filePath named) = .ok false ∧
      fileEntries tree named = missingEntries named) ∨
    (tree.isPresent (filePath named) = .ok true ∧
      fileEntries tree named = readFile tree (filePath named)) := by
  cases present : tree.isPresent (filePath named) with
  | error cause => exact Or.inl ⟨cause, rfl, by rw [fileEntries_eq, present]; rfl⟩
  | ok isPresent =>
    cases isPresent with
    | false => exact Or.inr (Or.inl ⟨rfl, by rw [fileEntries_eq, present]; rfl⟩)
    | true => exact Or.inr (Or.inr ⟨rfl, fileEntries_of_present present⟩)

/-- The settings are those of the entries of the file, if nothing else is wrong. -/
theorem load_of_fileEntries_ok (found : fileEntries tree named = .ok entries) :
    load tree environment named overrides =
      namedEntries entries >>= fun entries =>
        (ofEntries (overridingEntries overrides ++ environmentEntries environment ++
          entries)).mapError .fields := by
  rw [load, found]
  rfl

/-- How reading settings stops, where the file is looked for at a path. -/
inductive Stops (tree : Tree) (path : Path) : Fault → Prop
  /-- The path cannot be probed. -/
  | probe (error : FileError) (failed : tree.isPresent path = .error error) :
    Stops tree path (.file error)
  /-- The reader of YAML stops. -/
  | reader (chars : List Char) (error : Yaml.ReadError)
    (present : tree.isPresent path = .ok true) (isYaml : IsYaml tree path chars)
    (read : Yaml.read chars = .error error) (isFault : error.isFault = true) :
    Stops tree path (.settings error)
  /-- A mapping in YAML has a key that is no text. -/
  | key (chars : List Char) (id : Option Nat) (entries : List (Value × Value))
    (present : tree.isPresent path = .ok true) (isYaml : IsYaml tree path chars)
    (read : Yaml.read chars = .ok (.map id entries)) (others : ¬HasTextKeys entries) :
    Stops tree path .keyNotText

/-- Settings are not read where reading them stops. -/
theorem load_of_stops (stops : Stops tree (filePath named) fault) :
    load tree environment named overrides = .error (.stopped fault) := by
  cases stops with
  | probe error failed =>
    rw [load, fileEntries_eq, failed]
    rfl
  | reader chars error present isYaml read isFault =>
    rw [load, fileEntries_of_present present, readFile_of_fault isYaml read isFault]
    rfl
  | key chars id entries present isYaml read others =>
    have found : fileEntries tree named = .ok entries :=
      (fileEntries_of_present present).trans (readFile_of_map isYaml read)
    rcases namedEntries_cases entries with ⟨texts, -⟩ | ⟨-, failed⟩
    · exact absurd texts others
    · rw [load_of_fileEntries_ok found, failed]
      rfl

/-- Where the file is looked for and has no entries, it is told what is wrong, or reading settings
stops. -/
theorem stops_of_fileEntries {error : LoadError} (failed : fileEntries tree named = .error error) :
    error.message?.isSome = true ∨
      ∃ fault, error = .stopped fault ∧ Stops tree (filePath named) fault := by
  rcases fileEntries_cases tree named with ⟨cause, probed, same⟩ | ⟨-, same⟩ | ⟨present, same⟩
  · rw [same] at failed
    cases failed
    exact Or.inr ⟨_, rfl, .probe cause probed⟩
  · rw [same] at failed
    cases named with
    | none => cases failed
    | some name =>
      cases failed
      exact Or.inl rfl
  · have outcome := readFile_spec tree (filePath named)
    rw [← same, failed] at outcome
    cases outcome with
    | told _ message => exact Or.inl message
    | stopped chars cause isYaml read isFault =>
      exact Or.inr ⟨_, rfl, .reader chars cause present isYaml read isFault⟩

/-- A file with a key that is no text is a mapping in YAML. -/
theorem stops_of_key (found : fileEntries tree named = .ok entries)
    (others : ¬HasTextKeys entries) : Stops tree (filePath named) .keyNotText := by
  rcases fileEntries_cases tree named with ⟨cause, -, same⟩ | ⟨-, same⟩ | ⟨present, same⟩
  · rw [same] at found
    cases found
  · rw [same] at found
    cases named with
    | none =>
      cases found
      exact absurd (List.forall_mem_nil _) others
    | some name => cases found
  · have outcome := readFile_spec tree (filePath named)
    rw [← same, found] at outcome
    cases outcome with
    | textKeyed _ texts => exact absurd texts others
    | yaml chars id _ isYaml read => exact .key chars id entries present isYaml read others

/-- Of settings that are not read it is told what is wrong, unless reading them stops. -/
theorem stops_of_load {error : LoadError}
    (failed : load tree environment named overrides = .error error) :
    error.message?.isSome = true ∨
      ∃ fault, error = .stopped fault ∧ Stops tree (filePath named) fault := by
  rcases bind_eq_error_iff.mp failed with file | ⟨entries, found, later⟩
  · exact stops_of_fileEntries file
  · rcases namedEntries_cases entries with ⟨-, fields, texts⟩ | ⟨others, odd⟩
    · rw [texts] at later
      obtain ⟨problems, -, rfl⟩ := mapError_eq_error_iff.mp later
      exact Or.inl rfl
    · rw [odd] at later
      cases later
      exact Or.inr ⟨_, rfl, stops_of_key found others⟩

/-! ## Extensions -/

/-- Settings have extensions, or it is told of one thing what is wrong: the text of the selector is
none, or closing is asked for where no front matter is looked for. -/
theorem extensions_cases (settings : Settings) :
    (∃ extensions, settings.extensions = .ok extensions) ∨
      (∃ cause, Extensions.selectorOfText (settings.selector.getD []) = .error cause ∧
        settings.extensions = .error [⟨["collapsible_headers"], cause⟩]) ∨
      (settings.isStrict = true ∧ settings.frontMatter = none ∧
        settings.extensions = .error [⟨[], .strictWithoutKind⟩]) := by
  rw [extensions]
  cases selected : Extensions.selectorOfText (settings.selector.getD []) with
  | error cause => exact Or.inr (Or.inl ⟨cause, rfl, rfl⟩)
  | ok selector =>
    dsimp only
    rw [Extensions.combine]
    split
    · exact Or.inl ⟨_, rfl⟩
    · rename_i unsuited
      have strict : settings.isStrict = true ∧ settings.frontMatter = none := by
        simpa using unsuited
      exact Or.inr (Or.inr ⟨strict.1, strict.2, rfl⟩)

/-! ## The law -/

/-- A file of settings with a word that is no truth value. -/
def untruthText : List Char := "tables: !!bool maybe\n".toList

/-- A directory with that file. -/
def untruthTree : Tree := ⟨[([fileName], .file (Text.Utf8.encode untruthText))], []⟩

end Settings

end FoldMark
