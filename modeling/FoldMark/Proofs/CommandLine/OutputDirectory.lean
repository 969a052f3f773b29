import FoldMark.CommandLine.Run
import FoldMark.Proofs.Chain
import FoldMark.Proofs.Text.CodePoint

/-!
# Naming the output directory

Two command lines may be alike but for the directory that the second one names (`Directs`). Then
the second one asks for the same with that directory (`read_of_directs`), and its settings and
extensions are those of the first one but for it (`configure_output`), whatever the sources of
settings say about the directory.
-/

namespace FoldMark

open Fields

/-! ## Checked values -/

namespace Checked

variable {ε α β : Type} {checked : Checked ε α} {value : α} {result : β}

/-- What was checked is a value if it is good. -/
theorem toExcept_eq_ok_iff : checked.toExcept = .ok value ↔ checked = .good value := by
  cases checked <;> simp [toExcept]

/-- A value is changed if it is good. -/
theorem map_eq_good_iff {change : α → β} :
    change <$> checked = .good result ↔
      ∃ value, checked = .good value ∧ change value = result := by
  cases checked <;> simp [Functor.map, apply]

/-- A function is applied to a value if both are good. -/
theorem seq_eq_good_iff {change : Checked ε (α → β)} :
    change <*> checked = .good result ↔
      ∃ apply value, change = .good apply ∧ checked = .good value ∧ apply value = result := by
  cases change <;> cases checked <;> simp [Seq.seq, apply]

end Checked

/-! ## Settings -/

namespace Settings

variable {entries overrides : Entries} {settings : Settings}

/-- An entry sets no other field. -/
theorem readField_cons_of_ne {ε α : Type} {field name : String} (apart : name ≠ field)
    (value : Value) (entries : Entries) (reader : Value → Except ε α) (absent : α) :
    readField ((field, value) :: entries) name reader absent =
      readField entries name reader absent := by
  have other : (name == field) = false := beq_eq_false_iff_ne.mpr apart
  rw [readField, readField, List.lookup_cons, other]

/-- Entries that name an output directory first are settings with it if they are without it. -/
theorem ofEntries_output (reads : ofEntries entries = .ok settings) (directory : List Char) :
    ofEntries (("output_dir", .str directory) :: entries) =
      .ok { settings with output := directory } := by
  have own (absent : List Char) : readField (("output_dir", .str directory) ::
      entries) "output_dir" text absent = .good directory := by
    simp [readField, text, text?]
  simp only [ofEntries, Checked.toExcept_eq_ok_iff] at reads ⊢
  rw [own]
  simp (disch := decide) only [Extensions.readFeatures, readField_cons_of_ne] at reads ⊢
  obtain ⟨_, isStrict, toSelector, strictReads, made⟩ := Checked.seq_eq_good_iff.mp reads
  obtain ⟨_, selector, toKind, selectorReads, rfl⟩ := Checked.seq_eq_good_iff.mp toSelector
  obtain ⟨_, frontMatter, toFeatures, kindReads, rfl⟩ := Checked.seq_eq_good_iff.mp toKind
  obtain ⟨_, features, toLevel, featuresRead, rfl⟩ := Checked.seq_eq_good_iff.mp toFeatures
  obtain ⟨_, logLevel, toFormat, levelReads, rfl⟩ := Checked.seq_eq_good_iff.mp toLevel
  obtain ⟨_, format, toOutput, formatReads, rfl⟩ := Checked.seq_eq_good_iff.mp toFormat
  obtain ⟨_, output, toIndex, -, rfl⟩ := Checked.seq_eq_good_iff.mp toOutput
  obtain ⟨_, index, toPort, indexReads, rfl⟩ := Checked.seq_eq_good_iff.mp toIndex
  obtain ⟨_, port, toHost, portReads, rfl⟩ := Checked.seq_eq_good_iff.mp toPort
  obtain ⟨_, host, toRoot, hostReads, rfl⟩ := Checked.seq_eq_good_iff.mp toHost
  obtain ⟨root, rootReads, rfl⟩ := Checked.map_eq_good_iff.mp toRoot
  rw [rootReads, hostReads, portReads, indexReads, formatReads, levelReads, featuresRead, kindReads,
    selectorReads, strictReads, ← made]
  rfl

/-- Settings are loaded with the output directory that overriding entries name first. -/
theorem load_output {tree : Tree} {environment : List (String × String)}
    {named : Option (List Char)} (loads : load tree environment named overrides = .ok settings)
    (directory : List Char) :
    load tree environment named (("output_dir", .str directory) :: overrides) =
      .ok { settings with output := directory } := by
  obtain ⟨found, ofFile, loads⟩ := exists_of_bind_eq_ok loads
  obtain ⟨entries, named, loads⟩ := exists_of_bind_eq_ok loads
  refine bind_eq_ok ofFile (bind_eq_ok named (mapError_eq_ok_iff.mpr ?_))
  exact ofEntries_output (mapError_eq_ok_iff.mp loads) directory

end Settings

namespace CommandLine

/-! ## Command lines -/

variable {words placed : List Word} {name directory : Word} {file : Option Word}
  {overrides : Entries} {line other : Line Purpose}

/-- Two lines are alike but for the output directory that the second one names. -/
structure Line.Directs (line other : Line Purpose) (directory : Word) : Prop where
  /-- The words that stand for themselves are the same. -/
  words_eq : other.words = line.words
  /-- The other options are the same. -/
  given_eq : line.given = other.given.filter fun option => option.1 != .output
  /-- The directory is named. -/
  output_eq : other.value? .output = some directory

/-- The words after `convert` are those of two command lines that are alike but for the output
directory that the second one names. -/
def Directs (words placed : List Word) (directory : Word) : Prop :=
  ∃ line other, readLine convertSpellings words = some line ∧
    readLine convertSpellings placed = some other ∧ line.Directs other directory

/-- Items that give the same give it together. -/
theorem filterMapM_congr {α β : Type} {first second : α → Option (Option β)} {items : List α}
    (same : ∀ item ∈ items, first item = second item) :
    items.filterMapM first = items.filterMapM second := by
  induction items with
  | nil => rfl
  | cons item rest hypothesis =>
    rw [List.forall_mem_cons] at same
    rw [List.filterMapM_cons, List.filterMapM_cons, same.1, hypothesis same.2]

namespace Line.Directs

/-- The first line names no output directory. -/
theorem value?_output (directs : line.Directs other directory) : line.value? .output = none := by
  rw [value?, directs.given_eq, Option.map_eq_none_iff, List.find?_eq_none]
  intro option member
  rw [List.mem_reverse, List.mem_filter] at member
  simpa using member.2

/-- An option for something else is no option for the output directory. -/
theorem test_eq {purpose : Purpose} (apart : purpose ≠ .output) (option : Purpose × Word) :
    (option.1 != .output && option.1 == purpose) = (option.1 == purpose) := by
  by_cases own : option.1 = purpose
  · simp [own, apart]
  · simp [own]

/-- What follows the output directory among the options with values is something else. -/
theorem tail_ne {entry : Purpose × String} (member : entry ∈ valueFields.tail) :
    entry.1 ≠ .output := by
  revert entry
  decide

/-- Every other option has the same value. -/
theorem value?_eq (directs : line.Directs other directory) {purpose : Purpose}
    (apart : purpose ≠ .output) : line.value? purpose = other.value? purpose := by
  rw [value?, value?, directs.given_eq, ← List.filter_reverse, List.find?_filter]
  simp only [Bool.decide_and, Bool.decide_eq_true, test_eq apart]

/-- Every other option is given in both or in none. -/
theorem has_eq (directs : line.Directs other directory) {purpose : Purpose}
    (apart : purpose ≠ .output) : line.has purpose = other.has purpose := by
  rw [has, has, directs.given_eq, List.any_filter]
  simp only [test_eq apart]

/-- What is made of all options but the output directory is the same. -/
theorem filterMap_eq (directs : line.Directs other directory) {α : Type}
    (make : Purpose × Word → Option α) (ignores : ∀ word, make (.output, word) = none) :
    line.given.filterMap make = other.given.filterMap make := by
  rw [directs.given_eq]
  induction other.given with
  | nil => rfl
  | cons option rest hypothesis =>
    by_cases own : option.1 = .output
    · have nothing : make option = none := by
        rw [← Prod.eta option, own]
        exact ignores option.2
      rw [List.filter_cons_of_neg (by simp [own]), List.filterMap_cons_none nothing, hypothesis]
    · rw [List.filter_cons_of_pos (by simp [own]), List.filterMap_cons, List.filterMap_cons,
        hypothesis]

/-- The options set the same fields, and the output directory. -/
theorem overrides?_eq (directs : line.Directs other directory) :
    overrides? other =
      (overrides? line).map fun overrides => ("output_dir", textValue directory) :: overrides := by
  rw [overrides?, overrides?, directs.filterMap_eq _ fun _ => rfl]
  have cut : valueFields = (.output, "output_dir") :: valueFields.tail := rfl
  rw [cut, List.filterMapM_cons, List.filterMapM_cons]
  dsimp only
  rw [directs.value?_output, directs.output_eq]
  rw [filterMapM_congr fun entry (member : entry ∈ valueFields.tail) => by
    rw [← directs.value?_eq (tail_ne member)]]
  generalize List.filterMapM (m := Option) _ valueFields.tail = values
  cases values <;> rfl

end Line.Directs

/-- What follows the name of a command asks for it if its options can be read and set fields, and
help is not among them. -/
theorem readCommand_eq_ok_iff {spellings : List (Spelling Purpose)}
    {command? : Line Purpose → Option Command} {command : Command} :
    readCommand spellings command? words = .ok ⟨command, file, overrides⟩ ↔
      ∃ line, readLine spellings words = some line ∧ line.has .help = false ∧
        command? line = some command ∧ line.value? .settings = file ∧
        overrides? line = some overrides := by
  rw [readCommand]
  cases readLine spellings words with
  | none => simp
  | some line =>
    cases help : line.has .help with
    | true => simp [help]
    | false => cases named : command? line <;> cases sets : overrides? line <;> simp [*]

/-- One operand is what is converted. -/
theorem convert?_eq_some_iff {output : Option Word} :
    convert? line = some (.convert name output) ↔
      line.words = [name] ∧ line.value? .output = output := by
  rw [convert?]
  split
  · rename_i path alone
    simp [alone]
  · rename_i many
    simpa using fun alone => absurd alone (many name)

/-- What follows `convert` is read by the options of that command. -/
theorem read_convert (words : List Word) :
    read ("convert".toList :: words) = readCommand convertSpellings convert? words := by
  have noOption : readOptions? leadingSpellings "convert".toList = none := by decide
  rw [read, readFrom, if_neg (by decide), noOption, if_neg (by decide), readNamed, if_pos rfl]

/-- A command line that names the output directory besides asks for the same with it. -/
theorem read_of_directs (directs : Directs words placed directory)
    (asked : read ("convert".toList :: words) = .ok ⟨.convert name none, file, overrides⟩) :
    read ("convert".toList :: placed) =
      .ok ⟨.convert name (some directory), file,
        ("output_dir", textValue directory) :: overrides⟩ := by
  obtain ⟨line, other, reads, readsOther, directs⟩ := directs
  rw [read_convert] at asked ⊢
  obtain ⟨found, readsFound, unhelped, named, settings, sets⟩ := readCommand_eq_ok_iff.mp asked
  obtain rfl : line = found := Option.some.inj (reads.symm.trans readsFound)
  obtain ⟨words, -⟩ := convert?_eq_some_iff.mp named
  refine readCommand_eq_ok_iff.mpr ⟨other, readsOther, ?_, ?_, ?_, ?_⟩
  · rwa [← directs.has_eq (by decide)]
  · exact convert?_eq_some_iff.mpr ⟨directs.words_eq.trans words, directs.output_eq⟩
  · rwa [← directs.value?_eq (by decide)]
  · rw [directs.overrides?_eq, sets]
    rfl

/-- The settings of a command that names the output directory besides. -/
theorem configure_output {tree : Tree} {environment : List (String × String)} {settings : Settings}
    {extensions : Extensions} {command other : Command}
    (configured : configure tree environment ⟨command, file, overrides⟩ =
      .ok (settings, extensions)) (directory : Word) :
    configure tree environment ⟨other, file, ("output_dir", textValue directory) :: overrides⟩ =
      .ok ({ settings with output := directory }, extensions) := by
  obtain ⟨found, loads, configured⟩ := exists_of_bind_eq_ok configured
  obtain ⟨extended, combines, same⟩ := exists_of_bind_eq_ok configured
  cases same
  have loads := Settings.load_output (mapError_eq_ok_iff.mp loads) directory
  exact bind_eq_ok (mapError_eq_ok_iff.mpr loads) (bind_eq_ok combines rfl)

end CommandLine

end FoldMark
