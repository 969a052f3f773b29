import FoldMark.Proofs.Conversion.Run
import FoldMark.Proofs.Tree.Proper

/-!
# Conversions run again

In a proper tree, a run that comes to its end leaves alone what is no destination. No file that it
writes is a Markdown file, so it finds the same files if it is run again, even where the output lies
among them, and writes to each destination what is there already: the tree stays as it is. A run
that fails has converted the files before the one that it fails at, and has done nothing for that
one if there was nothing to write. `run_frames_and_repeats` puts this together.
-/

namespace FoldMark.Conversion

open Text FoldMark.Tree

variable {tree next final : Tree} {extensions : Extensions} {format : PayloadFormat}
  {source destination path output base : Path} {data : List UInt8} {place : Place}
  {pairs front back : List (Path × Path)} {sources paths : List Path} {written : List Place}

/-- A proper tree is plain. -/
theorem isPlain_of_isProper (proper : tree.IsProper) : tree.IsPlain := by
  refine ⟨proper.nodup, fun entry member => ?_, proper.unlinked⟩
  obtain ⟨around, name, same, notHere, notUp, -, directory⟩ :=
    proper.placed entry.1 (List.mem_map_of_mem member)
  rw [same]
  exact isReduced_concat (proper.stands directory).isReduced ⟨notHere, notUp⟩

/-! ## Files found again -/

/-- The path of a place below that of another path. -/
def pathBelow? (path : Path) (place spot : Place) : Option Path :=
  if place.isPrefixOf spot && place != spot then some (path.append (spot.drop place.length))
  else none

/-- What is listed below a directory is what the tree lists below its place. -/
theorem pathsBelow_of_locate (located : tree.locate path = .ok place)
    (directory : tree.node? place = some .directory) :
    pathsBelow tree path = .ok (tree.places.filterMap (pathBelow? path place)) := by
  have there : tree.isDirectory path = .ok true := leadsTo_of_locate located directory
  rw [places, List.filterMap_map]
  simp only [pathsBelow, there, located, bind, Except.bind, pure, Except.pure, if_true]
  rfl

/-- No place is that of a Markdown file. -/
def IsUnmarked (written : List Place) : Prop :=
  ∀ around name, around ++ [name] ∈ written → ¬name.IsMarkdown

/-- Whether a path is that of a source is told by what it leads to and its name. -/
theorem isSource_of_locate {node : Node} (located : tree.locate source = .ok place)
    (met : tree.node? place = some node) :
    isSource tree source = .ok (node.isFile && source.isMarkdown) := by
  have there : tree.isFile source = .ok node.isFile := leadsTo_of_locate located met
  simp only [isSource, there, bind, Except.bind, pure, Except.pure]

/-- What led to a file does so after changes. -/
theorem isFile_of_extends (grown : Extends written tree next) (unlinked : tree.IsUnlinked)
    (file : tree.isFile path = .ok true) : next.isFile path = .ok true := by
  obtain ⟨data, read⟩ := isFile_eq_true_iff.mp file
  obtain ⟨place, located, found⟩ := read_eq_ok_iff.mp read
  obtain ⟨other, still⟩ := grown.exists_file found
  exact leadsTo_of_locate (grown.locate unlinked located (by simp [still])) still

/-- What led to a directory does so after changes, to the same one. -/
theorem locate_directory (grown : Extends written tree next) (unlinked : tree.IsUnlinked)
    (located : tree.locate path = .ok place) (directory : tree.node? place = some .directory) :
    next.locate path = .ok place ∧ next.node? place = some .directory := by
  have still := grown.directory place directory
  exact ⟨grown.locate unlinked located (by simp [still]), still⟩

/-- What is listed below a directory is a source after changes if it was one before. -/
theorem isSource_of_extends (proper : tree.IsProper) (grown : Extends written tree next)
    (located : tree.locate path = .ok place) (directory : tree.node? place = some .directory)
    {names : List Name} (listed : place ++ names ∈ tree.places) (nonempty : names ≠ []) :
    isSource next (path.append names) = isSource tree (path.append names) := by
  have leads := proper.locate_append located directory listed
  obtain ⟨node, met⟩ :=
    Option.ne_none_iff_exists'.mp ((mem_places_iff (by simp [nonempty])).mp listed)
  have stays : ∃ other, next.node? (place ++ names) = some other ∧
      other.isFile = node.isFile := by
    cases node with
    | file data =>
      obtain ⟨other, still⟩ := grown.exists_file met
      exact ⟨_, still, rfl⟩
    | directory => exact ⟨_, grown.directory _ met, rfl⟩
    | link target => exact absurd met (proper.unlinked _ target)
  obtain ⟨other, still, same⟩ := stays
  have leadsStill := grown.locate proper.unlinked leads (by simp [still])
  rw [isSource_of_locate leads met, isSource_of_locate leadsStill still, same]

/-- What changes add to a directory is no source, if they write no Markdown file. -/
theorem isSource_of_added (proper : tree.IsProper) (changes : Changes written tree next)
    (unmarked : IsUnmarked written) (located : next.locate path = .ok place)
    (directory : next.node? place = some .directory)
    {names : List Name} (listed : place ++ names ∈ next.places) (nonempty : names ≠ [])
    (new : place ++ names ∉ tree.places) : isSource next (path.append names) = .ok false := by
  have nextProper := changes.isProper proper
  have leads := nextProper.locate_append located directory listed
  obtain ⟨node, met⟩ :=
    Option.ne_none_iff_exists'.mp ((mem_places_iff (by simp [nonempty])).mp listed)
  rw [isSource_of_locate leads met]
  cases node with
  | directory => rfl
  | link target => exact absurd met (nextProper.unlinked _ target)
  | file data =>
    have puts : place ++ names ∈ written := by
      refine (changes.file_cases met).resolve_left fun old => new ?_
      exact (mem_places_iff (by simp [nonempty])).mpr (by simp [old])
    obtain ⟨front, name, rfl⟩ := (List.eq_nil_or_concat names).resolve_left nonempty
    rw [List.concat_eq_append] at puts ⊢
    have plain : ¬ (path.append (front ++ [name])).isMarkdown = true := by
      rw [← List.append_assoc] at puts
      rw [Path.isMarkdown_iff]
      simpa [Path.name, Path.append] using unmarked _ _ puts
    simpa [Node.isFile] using plain

/-- After changes that write no Markdown file, the same sources are listed below a directory. -/
theorem filterM_again (proper : tree.IsProper) (changes : Changes written tree next)
    (unmarked : IsUnmarked written) (located : tree.locate path = .ok place)
    (directory : tree.node? place = some .directory)
    (filtered : (tree.places.filterMap (pathBelow? path place)).filterM (isSource tree) =
      .ok sources) :
    (next.places.filterMap (pathBelow? path place)).filterM (isSource next) = .ok sources := by
  have grown := changes.toExtends
  obtain ⟨stillLocated, stillDirectory⟩ :=
    locate_directory grown proper.unlinked located directory
  obtain ⟨added, places⟩ := changes.exists_places
  have nodup := (changes.isProper proper).nodup
  rw [places] at nodup
  rw [places, List.filterMap_append]
  refine filterM_append filtered (fun source member passes tested => ?_) fun source member => ?_
  · obtain ⟨spot, listed, below⟩ := List.mem_filterMap.mp member
    obtain ⟨names, nonempty, rfl, rfl⟩ := pathOfEntry_eq_some_iff.mp below
    rwa [isSource_of_extends proper grown located directory listed nonempty]
  · obtain ⟨spot, listed, below⟩ := List.mem_filterMap.mp member
    obtain ⟨names, nonempty, rfl, rfl⟩ := pathOfEntry_eq_some_iff.mp below
    have new : place ++ names ∉ tree.places := fun old =>
      List.disjoint_of_nodup_append nodup old listed
    exact isSource_of_added proper changes unmarked stillLocated stillDirectory
      (by simp [places, listed]) nonempty new

/-- After changes that write no Markdown file, the same files are found at or below a path, if any
are. -/
theorem discover_again (proper : tree.IsProper) (changes : Changes written tree next)
    (unmarked : IsUnmarked written) (discovered : discover tree path = .ok sources)
    (nonempty : sources ≠ []) :
    next.isDirectory path = tree.isDirectory path ∧ discover next path = .ok sources := by
  have grown := changes.toExtends
  obtain ⟨isFile, present, found⟩ := exists_of_bind_eq_ok discovered
  cases isFile with
  | true =>
    have still := isFile_of_extends grown proper.unlinked present
    refine ⟨?_, bind_eq_ok still found⟩
    rw [isDirectory_eq_false_of_isFile present, isDirectory_eq_false_of_isFile still]
  | false =>
    obtain ⟨paths, listed, searched⟩ := exists_of_bind_eq_ok found
    obtain ⟨kept, filtered, sorted⟩ := exists_of_bind_eq_ok searched
    rcases pathsBelow_cases listed with ⟨-, rfl⟩ | ⟨isDirectory, -⟩
    · obtain rfl : [] = kept := Except.ok.inj filtered
      exact absurd (by simpa using (Except.ok.inj sorted).symm) nonempty
    obtain ⟨place, located, directory⟩ := isDirectory_eq_true_iff.mp isDirectory
    obtain ⟨stillLocated, stillDirectory⟩ :=
      locate_directory grown proper.unlinked located directory
    obtain rfl := Except.ok.inj ((pathsBelow_of_locate located directory).symm.trans listed)
    have noFile : next.isFile path = .ok false := leadsTo_of_locate stillLocated stillDirectory
    have stillTested : next.isDirectory path = .ok true :=
      leadsTo_of_locate stillLocated stillDirectory
    have again := filterM_again proper changes unmarked located directory filtered
    refine ⟨stillTested.trans isDirectory.symm, bind_eq_ok noFile ?_⟩
    exact bind_eq_ok (pathsBelow_of_locate stillLocated stillDirectory) (bind_eq_ok again sorted)

/-! ## Destinations written again -/

/-- The destinations of a plan are no Markdown files. -/
theorem IsPlan.isUnmarked (isPlan : IsPlan base output format pairs) :
    IsUnmarked (pairs.map fun pair => tree.textualPlace pair.2) := by
  intro around name member
  obtain ⟨pair, listed, same⟩ := List.mem_map.mp member
  obtain ⟨⟨front, last, below, reduced, markdown⟩, leads⟩ := isPlan pair listed
  have noDots := Name.inFormat_ne_dots format markdown.ne_nil
  rw [leads, below, destination_append, textualPlace_append (isReduced_concat reduced noDots),
    ← List.append_assoc] at same
  obtain rfl : last.inFormat format = name :=
    List.head_eq_of_cons_eq (List.append_inj_right' same rfl)
  exact Name.not_isMarkdown_inFormat format markdown.ne_nil

/-- What is planned is planned again after it has been converted. -/
theorem plan_again (proper : tree.IsProper)
    (planned : plan tree path output format = .ok pairs) (nonempty : pairs ≠ [])
    (isPlan : IsPlan base output format pairs)
    (changes : Changes (pairs.map fun pair => tree.textualPlace pair.2) tree next) :
    plan next path output format = .ok pairs := by
  obtain ⟨isDirectory, tested, planned⟩ := exists_of_bind_eq_ok planned
  obtain ⟨sources, found, planned⟩ := exists_of_bind_eq_ok planned
  have some : sources ≠ [] := by
    rintro rfl
    exact nonempty (Except.ok.inj planned).symm
  obtain ⟨same, again⟩ := discover_again proper changes isPlan.isUnmarked found some
  exact bind_eq_ok (same.trans tested) (bind_eq_ok again planned)

/-- Where the files of a plan are and its destinations are files, a text is written to the place of
its destination, and nothing else is done. -/
theorem writeText_of_isFile (proper : tree.IsProper) {pair : Path × Path}
    (isPlan : IsPlan base output format pairs) (member : pair ∈ pairs)
    (file : tree.isFile pair.2 = .ok true) (text : List Char) :
    tree.textualPlace pair.2 ∈ tree.places ∧ writeText tree pair.2 text =
      .ok (tree.put (tree.textualPlace pair.2) (.file (Utf8.encode text))) := by
  obtain ⟨old, read⟩ := isFile_eq_true_iff.mp file
  obtain ⟨place, located, found⟩ := read_eq_ok_iff.mp read
  obtain ⟨⟨front, name, below, -, markdown⟩, leads⟩ := isPlan pair member
  obtain ⟨notHere, notUp⟩ := Name.inFormat_ne_dots format markdown.ne_nil
  have named : pair.2.names = (output.names ++ front) ++ [name.inFormat format] := by
    rw [leads, below, destination_append, List.append_assoc]
    rfl
  obtain ⟨around, parent, directory, -⟩ := proper.locate_parent named notHere notUp located
  rw [← eq_textualPlace_of_lookup proper.unlinked located]
  have noDirectory : tree.node? place ≠ some .directory := by simp [found]
  refine ⟨(mem_places_iff (ne_nil_of_node? noDirectory)).mpr (by simp [found]), ?_⟩
  rw [← bytesOf_ofChars]
  exact bind_eq_ok (ensureDirectories_of_directory proper.unlinked parent directory)
    (write_of_file proper.unlinked located found)

/-- Where the destinations of a plan are files, a part of it is converted if the sources have texts,
and the places of the tree stay. -/
theorem convertAll_of_isFile (isPlan : IsPlan base output format pairs) (proper : tree.IsProper)
    (within : ∀ pair ∈ back, pair ∈ pairs)
    (texts : ∀ pair ∈ pairs, ∃ text : List Char, textOf tree extensions format pair.1 = .ok text)
    (sources : ∀ pair ∈ pairs, tree.isFile pair.1 = .ok true)
    (destinations : ∀ pair ∈ pairs, tree.isFile pair.2 = .ok true) :
    ∃ final, convertAll extensions format tree back = ⟨final, .ok ()⟩ ∧
      final.places = tree.places := by
  induction back generalizing tree with
  | nil => exact ⟨tree, rfl, rfl⟩
  | cons pair rest hypothesis =>
    rw [List.forall_mem_cons] at within
    obtain ⟨text, becomes⟩ := texts pair within.1
    obtain ⟨listed, wrote⟩ :=
      writeText_of_isFile proper isPlan within.1 (destinations pair within.1) text
    have converted := convertFile_of_ok becomes wrote
    obtain ⟨changes, -⟩ := convertFile_spec proper.unlinked converted
    have grown := changes.toExtends
    have inPlan : ∀ other ∈ [pair], other ∈ pairs := by simpa using within.1
    have reads := fun other member =>
      isPlan.read_source proper.unlinked member (sources other member) inPlan grown
    obtain ⟨final, done, places⟩ := hypothesis (changes.isProper proper) within.2
      (fun other member => (texts other member).imp fun text becomes =>
        (textOf_eq_of_read (reads other member)).trans becomes)
      (fun other member => isFile_of_extends grown proper.unlinked (sources other member))
      fun other member => isFile_of_extends grown proper.unlinked (destinations other member)
    refine ⟨final, (convertAll_of_ok converted).trans done, places.trans ?_⟩
    rw [places_put, if_pos listed]

/-- After files of a plan are converted, each has a text and its destination is a file. -/
theorem converted_spec (unlinked : tree.IsUnlinked) (isPlan : IsPlan base output format pairs)
    (files : ∀ pair ∈ pairs, tree.isFile pair.1 = .ok true)
    (done : convertAll extensions format tree pairs = ⟨final, .ok ()⟩) {pair : Path × Path}
    (member : pair ∈ pairs) :
    (∃ text : List Char, textOf final extensions format pair.1 = .ok text) ∧
      final.isFile pair.2 = .ok true := by
  obtain ⟨front, back, rfl⟩ := List.append_of_mem member
  obtain ⟨middle, before, rest⟩ := exists_of_convertAll_append done
  obtain ⟨next, converted, after⟩ := exists_of_convertAll_cons rest
  have grown := extends_convertAll unlinked before
  have unlinkedMiddle := grown.unlinked unlinked
  obtain ⟨changes, text, becomes, holds⟩ := convertFile_spec unlinkedMiddle converted
  have unlinkedNext := changes.toExtends.unlinked unlinkedMiddle
  have sameMiddle := isPlan.read_source unlinked member (files pair member)
    (fun other listed => List.mem_append_left _ listed) grown
  have sameFinal := isPlan.read_source unlinked member (files pair member) (fun _ => id)
    (extends_convertAll unlinked done)
  refine ⟨⟨text, (textOf_eq_of_read (sameFinal.trans sameMiddle.symm)).trans becomes⟩, ?_⟩
  exact isFile_of_extends (extends_convertAll unlinkedNext after) unlinkedNext
    (isFile_eq_true_iff.mpr ⟨_, holds⟩)

/-- Of several items that are told alike, there is a last one. -/
theorem exists_last {α β : Type} {tell : α → β} {items : List α} {told : β}
    (member : told ∈ items.map tell) : ∃ front item back, items = front ++ item :: back ∧
      tell item = told ∧ told ∉ back.map tell := by
  induction items with
  | nil => cases member
  | cons item rest hypothesis =>
    by_cases later : told ∈ rest.map tell
    · obtain ⟨front, last, back, rfl, same, notLater⟩ := hypothesis later
      exact ⟨item :: front, last, back, rfl, same, notLater⟩
    · rw [List.map_cons, List.mem_cons] at member
      exact ⟨[], item, rest, rfl, (member.resolve_right later).symm, later⟩

/-- What is read stands where the path leads by its text. -/
theorem node?_of_read (unlinked : tree.IsUnlinked) (read : tree.read path = .ok data) :
    tree.node? (tree.textualPlace path) = some (.file data) := by
  obtain ⟨place, located, found⟩ := read_eq_ok_iff.mp read
  rwa [← eq_textualPlace_of_lookup unlinked located]

/-- What is planned and has been converted is converted again, and the tree stays as it is. The last
file that is written at a place has the same text in both conversions. -/
theorem convertAll_again (proper : tree.IsProper) (isPlan : IsPlan base output format pairs)
    (files : ∀ pair ∈ pairs, tree.isFile pair.1 = .ok true)
    (done : convertAll extensions format tree pairs = ⟨next, .ok ()⟩) :
    convertAll extensions format next pairs = ⟨next, .ok ()⟩ := by
  have changes := changes_convertAll proper.unlinked done
  have nextProper := changes.isProper proper
  have spec := fun pair (member : pair ∈ pairs) =>
    converted_spec proper.unlinked isPlan files done member
  have stillFiles := fun pair member =>
    isFile_of_extends changes.toExtends proper.unlinked (files pair member)
  obtain ⟨final, again, places⟩ := convertAll_of_isFile isPlan nextProper (fun _ => id)
    (fun pair member => (spec pair member).1) stillFiles fun pair member => (spec pair member).2
  have grown := extends_convertAll nextProper.unlinked again
  have same : final = next := by
    refine nextProper.eq_of_node? places grown.workplace_eq fun place => ?_
    by_cases written : place ∈ pairs.map fun pair => next.textualPlace pair.2
    · obtain ⟨front, ⟨source, destination⟩, back, split, rfl, last⟩ := exists_last written
      have notLater : destination ∉ back.map Prod.snd := by
        rintro member
        obtain ⟨pair, listed, rfl⟩ := List.mem_map.mp member
        exact last (List.mem_map.mpr ⟨pair, listed, rfl⟩)
      obtain ⟨text, -, becomes, holds⟩ :=
        exists_text_of_isPlan proper.unlinked isPlan files done split notLater
      obtain ⟨other, becomesOther, -, holdsOther⟩ :=
        exists_text_of_isPlan nextProper.unlinked isPlan stillFiles again split notLater
      obtain rfl : other = text :=
        CodeText.ofChars_injective (Except.ok.inj (becomesOther.symm.trans becomes))
      rw [node?_of_read nextProper.unlinked holds, ← grown.textualPlace_eq]
      exact node?_of_read (grown.unlinked nextProper.unlinked) holdsOther
    · exact grown.node?_eq nextProper.unlinked places written
  rwa [same] at again

/-! ## All runs -/

/-- A run that comes to its end does the same if it is run again. -/
theorem run_again (proper : tree.IsProper)
    (done : (run tree extensions format path output).result = .ok pairs) :
    run (run tree extensions format path output).tree extensions format path output =
      run tree extensions format path output := by
  obtain ⟨planned, converted⟩ := plan_of_run done
  obtain ⟨-, -, files, base, isPlan⟩ := plan_spec (isPlain_of_isProper proper) planned
  rw [run_of_plan planned converted]
  generalize (run tree extensions format path output).tree = final at converted
  by_cases nonempty : pairs = []
  · subst nonempty
    obtain rfl : tree = final := congrArg Outcome.tree converted
    exact run_of_plan planned converted
  · have plannedAgain := plan_again proper planned nonempty isPlan
      (changes_convertAll proper.unlinked converted)
    exact run_of_plan plannedAgain (convertAll_again proper isPlan files converted)

/-- A run that comes to its end keeps every file that is no destination. -/
theorem node?_of_run (proper : tree.IsProper)
    (done : (run tree extensions format path output).result = .ok pairs)
    (found : tree.node? place = some (.file data))
    (apart : ∀ pair ∈ pairs,
      (run tree extensions format path output).tree.locate pair.2 ≠ .ok place) :
    (run tree extensions format path output).tree.node? place = some (.file data) := by
  obtain ⟨planned, converted⟩ := plan_of_run done
  obtain ⟨-, -, files, base, isPlan⟩ := plan_spec (isPlain_of_isProper proper) planned
  have grown := extends_convertAll proper.unlinked converted
  refine grown.file place data found fun written => ?_
  obtain ⟨pair, member, rfl⟩ := List.mem_map.mp written
  obtain ⟨-, file⟩ := converted_spec proper.unlinked isPlan files converted member
  obtain ⟨other, read⟩ := isFile_eq_true_iff.mp file
  obtain ⟨spot, located, -⟩ := read_eq_ok_iff.mp read
  have same := eq_textualPlace_of_lookup (grown.unlinked proper.unlinked) located
  rw [same, grown.textualPlace_eq] at located
  exact apart pair member located

/-- After a run that comes to its end, every source is read as before. -/
theorem read_of_run (proper : tree.IsProper)
    (done : (run tree extensions format path output).result = .ok pairs)
    {pair : Path × Path} (member : pair ∈ pairs) :
    ∃ data, tree.read pair.1 = .ok data ∧
      (run tree extensions format path output).tree.read pair.1 = .ok data := by
  obtain ⟨planned, converted⟩ := plan_of_run done
  obtain ⟨-, -, files, base, isPlan⟩ := plan_spec (isPlain_of_isProper proper) planned
  obtain ⟨data, read⟩ := isFile_eq_true_iff.mp (files pair member)
  have same := isPlan.read_source proper.unlinked member (files pair member) (fun _ => id)
    (extends_convertAll proper.unlinked converted)
  exact ⟨data, read, same.trans read⟩

/-- A run that fails has no plan and has done nothing, or has converted the files before one that
has no text or cannot be written. For one that has no text nothing has been done, and one whose text
there are no bytes for has been left empty. -/
theorem exists_of_run_error {failure : Failure}
    (failed : (run tree extensions format path output).result = .error failure) :
    (∃ error, plan tree path output format = .error error ∧
        (run tree extensions format path output).tree = tree) ∨
      ∃ front source destination back before,
        plan tree path output format = .ok (front ++ (source, destination) :: back) ∧
        convertAll extensions format tree front = ⟨before, .ok ()⟩ ∧
        failure.source = source ∧
        ((textOf before extensions format source = .error failure.cause ∧
            (run tree extensions format path output).tree = before) ∨
          (∃ text error, textOf before extensions format source = .ok text ∧
            writeText before destination text = .error error ∧
            failure.cause = .ofFile error) ∨
          ∃ text, textOf before extensions format source = .ok text ∧ text.chars? = none ∧
            writeText before destination text =
              .ok (run tree extensions format path output).tree ∧
            failure.cause = .stopped (.unencodable text)) := by
  rcases plan_of_run_error failed with ⟨error, planned, same⟩ | ⟨pairs, planned, converted⟩
  · exact .inl ⟨error, planned, congrArg Outcome.tree same⟩
  · obtain ⟨front, source, destination, back, before, rfl, done, stopped⟩ :=
      exists_of_convertAll_error converted
    refine .inr ⟨front, source, destination, back, before, planned, done,
      (eq_of_convertFile_error stopped).1, ?_⟩
    rcases convertFile_cases before extensions format source destination with
      ⟨_, _, -, -, same⟩ | ⟨cause, fails, same⟩ | ⟨text, error, becomes, wrote, same⟩ |
        ⟨text, next, becomes, unencodable, wrote, same⟩
    all_goals
      rw [same] at stopped
      injection stopped with trees results
    · cases results
    · obtain rfl := Except.error.inj results
      exact .inl ⟨fails, trees.symm⟩
    · obtain rfl := Except.error.inj results
      exact .inr (.inl ⟨text, error, becomes, wrote, rfl⟩)
    · obtain rfl := Except.error.inj results
      exact .inr (.inr ⟨text, becomes, unencodable, trees ▸ wrote, rfl⟩)

/-- A directory with a document and a file of another kind. -/
def oneDocument : Tree :=
  ⟨[(["docs".toList], .directory), (["docs".toList, "a.md".toList], .file [111, 110, 101]),
    (["docs".toList, "b.txt".toList], .file [116, 119, 111])], []⟩

/-- The directory with what the document becomes beside it. -/
def oneDocumentConverted : Tree :=
  ⟨oneDocument.nodes ++
    [(["docs".toList, "a.html".toList], .file (Utf8.encode "<p>one</p>\n".toList))], []⟩

/-- The directory and its files are all there is. -/
theorem isProper_oneDocument : oneDocument.IsProper where
  nodup := by decide
  placed := by
    have inRoot : oneDocument.IsPlaced ["docs".toList] :=
      ⟨[], _, rfl, by decide, by decide, by decide, rfl⟩
    have inDirectory : ∀ name : Name, name ≠ Name.here → name ≠ Name.up →
        checkName name = .ok () → oneDocument.IsPlaced ["docs".toList, name] :=
      fun name notHere notUp checked =>
        ⟨["docs".toList], name, rfl, notHere, notUp, checked, by decide⟩
    simp only [places, oneDocument, List.map_cons, List.map_nil, List.forall_mem_cons]
    exact ⟨inRoot, inDirectory _ (by decide) (by decide) (by decide),
      inDirectory _ (by decide) (by decide) (by decide), List.forall_mem_nil _⟩
  unlinked := isUnlinked_of_nodes (by decide)
  workplace := rfl

/-- The document is converted into its own directory. -/
theorem run_oneDocument :
    run oneDocument {} .html (.parse "docs".toList) (.parse "docs".toList) =
      ⟨oneDocumentConverted,
        .ok [(.parse "docs/a.md".toList, .parse "docs/a.html".toList)]⟩ := by
  have planned : plan oneDocument (.parse "docs".toList) (.parse "docs".toList) .html =
      .ok [(.parse "docs/a.md".toList, .parse "docs/a.html".toList)] := by cbv
  have read : oneDocument.read (.parse "docs/a.md".toList) = .ok [111, 110, 101] := by cbv
  have decoded : Utf8.decode [111, 110, 101] = .ok "one".toList := by cbv
  have becomes : textOf oneDocument {} .html (.parse "docs/a.md".toList) =
      .ok "<p>one</p>\n".toList := textOf_html read decoded (by decide +kernel)
  have converted : convertFile oneDocument {} .html (.parse "docs/a.md".toList)
      (.parse "docs/a.html".toList) = ⟨oneDocumentConverted, .ok ()⟩ :=
    convertFile_of_ok becomes (by cbv)
  exact run_of_plan planned (convertAll_of_ok converted)

end FoldMark.Conversion
