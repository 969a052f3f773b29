import FoldMark.Conversion
import FoldMark.Proofs.Path.Suffix
import FoldMark.Proofs.Tree.Change
import Mathlib.Data.List.Nodup

/-!
# What a conversion plans

The Markdown files at or below a path are found once each, and each has its destination. Sources lie
below a base by names that are no dots (`LiesBelow`), and a destination lies below the output by the
same names, but for the suffix. So two sources share a destination exactly if they differ in the
suffix only, and no destination is a source.
-/

namespace FoldMark

/-- Files and directories are listed once each, by names that are no dots, and there is no link. -/
structure Tree.IsPlain (tree : Tree) : Prop where
  /-- One thing stands at a place. -/
  nodup : (tree.nodes.map Prod.fst).Nodup
  /-- The names of places are no dots. -/
  reduced : ∀ entry ∈ tree.nodes, IsReduced entry.1
  /-- There is no link. -/
  unlinked : tree.IsUnlinked

namespace Conversion

variable {tree : Tree} {path base output source other : Path} {format : PayloadFormat}
  {paths sources : List Path} {pairs : List (Path × Path)}

/-- A path is that of a Markdown file below another, by names that are no dots. -/
def LiesBelow (base source : Path) : Prop :=
  ∃ front name, source = base.append (front ++ [name]) ∧ IsReduced front ∧ name.IsMarkdown

/-! ## Sources -/

/-- A Markdown file lies below the directory around it. -/
theorem liesBelow_parent (markdown : path.name.IsMarkdown) : LiesBelow path.parent path :=
  ⟨[], path.name, (Path.parent_append_name markdown).symm, List.forall_mem_nil _, markdown⟩

/-- Names after a path are told by the path with them. -/
theorem append_injective (path : Path) : Function.Injective path.append := by
  intro names more same
  exact List.append_cancel_left (congrArg Path.names same)

/-- A place below another gives the path with the names after that one. -/
theorem pathOfEntry_eq_some_iff {place spot : Place} :
    (if place.isPrefixOf spot && place != spot then some (path.append (spot.drop place.length))
      else none) = some source ↔
        ∃ names, names ≠ [] ∧ spot = place ++ names ∧ source = path.append names := by
  simp only [Option.ite_none_right_eq_some, Bool.and_eq_true, List.isPrefixOf_iff_prefix,
    bne_iff_ne, Option.some.injEq]
  constructor
  · rintro ⟨⟨⟨names, rfl⟩, apart⟩, rfl⟩
    refine ⟨names, fun none => apart (by simp [none]), rfl, by rw [List.drop_left]⟩
  · rintro ⟨names, some, rfl, rfl⟩
    exact ⟨⟨List.prefix_append place names, by simpa using some⟩, by rw [List.drop_left]⟩

/-- What is listed below a path is what stands below its place. -/
theorem pathsBelow_cases (listed : pathsBelow tree path = .ok paths) :
    (tree.isDirectory path = .ok false ∧ paths = []) ∨
      (tree.isDirectory path = .ok true ∧ ∃ place, paths = tree.nodes.filterMap fun entry =>
        if place.isPrefixOf entry.1 && place != entry.1 then
          some (path.append (entry.1.drop place.length))
        else none) := by
  obtain ⟨isDirectory, tested, listed⟩ := exists_of_bind_eq_ok listed
  cases isDirectory with
  | false => exact .inl ⟨tested, (Except.ok.inj listed).symm⟩
  | true =>
    obtain ⟨place, -, listed⟩ := exists_of_bind_eq_ok listed
    exact .inr ⟨tested, place, (Except.ok.inj listed).symm⟩

/-- What is listed below a path has names after it that are no dots. -/
theorem exists_names_of_mem_pathsBelow (plain : tree.IsPlain)
    (listed : pathsBelow tree path = .ok paths) (member : source ∈ paths) :
    ∃ names, source = path.append names ∧ names ≠ [] ∧ IsReduced names := by
  rcases pathsBelow_cases listed with ⟨-, rfl⟩ | ⟨-, place, rfl⟩
  · cases member
  · obtain ⟨⟨spot, node⟩, entry, chosen⟩ := List.mem_filterMap.mp member
    obtain ⟨names, some, rfl, rfl⟩ := pathOfEntry_eq_some_iff.mp chosen
    exact ⟨names, rfl, some, fun name member =>
      plain.reduced _ entry name (List.mem_append_right place member)⟩

/-- What stands below a path is listed once. -/
theorem nodup_pathsBelow (plain : tree.IsPlain) (listed : pathsBelow tree path = .ok paths) :
    paths.Nodup := by
  rcases pathsBelow_cases listed with ⟨-, rfl⟩ | ⟨-, place, rfl⟩
  · exact List.nodup_nil
  · refine List.pairwise_filterMap.mpr ((List.pairwise_map.mp plain.nodup).imp ?_)
    intro first second apart one chosen other also same
    obtain ⟨names, -, spot, rfl⟩ := pathOfEntry_eq_some_iff.mp chosen
    obtain ⟨more, -, beside, rfl⟩ := pathOfEntry_eq_some_iff.mp also
    exact apart (by rw [spot, beside, append_injective path same])

/-- A Markdown file that is listed below a path lies below it. -/
theorem liesBelow_of_mem_pathsBelow (plain : tree.IsPlain)
    (listed : pathsBelow tree path = .ok paths) (member : source ∈ paths)
    (markdown : source.name.IsMarkdown) : LiesBelow path source := by
  obtain ⟨names, rfl, some, reduced⟩ := exists_names_of_mem_pathsBelow plain listed member
  obtain ⟨front, name, rfl⟩ := List.eq_nil_or_concat names |>.resolve_left some
  refine ⟨front, name, by simp, fun name member => reduced name (by simp [member]), ?_⟩
  simpa [Path.name, Path.append] using markdown

/-- Where there is a file, there is no directory. -/
theorem isDirectory_eq_false_of_isFile (isFile : tree.isFile path = .ok true) :
    tree.isDirectory path = .ok false := by
  obtain ⟨data, read⟩ := Tree.isFile_eq_true_iff.mp isFile
  obtain ⟨place, located, found⟩ := Tree.read_eq_ok_iff.mp read
  simp [Tree.isDirectory, Tree.leadsTo, Tree.status, located, found, bind, Except.bind,
    Node.isDirectory]

/-- The sources at or below a path are found once each. They are Markdown files, and lie below the
path if it is that of a directory, and otherwise below the directory around it. -/
theorem discover_spec (plain : tree.IsPlain) {isDirectory : Bool}
    (tested : tree.isDirectory path = .ok isDirectory) (found : discover tree path = .ok sources) :
    sources.Nodup ∧ ∀ source ∈ sources, tree.isFile source = .ok true ∧
      LiesBelow (if isDirectory then path else path.parent) source := by
  obtain ⟨isFile, present, found⟩ := exists_of_bind_eq_ok found
  cases isFile with
  | true =>
    obtain rfl : false = isDirectory :=
      Except.ok.inj ((isDirectory_eq_false_of_isFile present).symm.trans tested)
    by_cases markdown : path.isMarkdown = true
    · obtain rfl : [path] = sources := by simpa [markdown] using Except.ok.inj found
      simpa using ⟨present, liesBelow_parent (Path.isMarkdown_iff.mp markdown)⟩
    · obtain rfl : [] = sources := by simpa [markdown] using Except.ok.inj found
      simp
  | false =>
    obtain ⟨paths, listed, found⟩ := exists_of_bind_eq_ok found
    obtain ⟨kept, filtered, found⟩ := exists_of_bind_eq_ok found
    obtain rfl := Except.ok.inj found
    obtain ⟨sublist, passed⟩ := filterM_spec filtered
    have sorted := List.mergeSort_perm kept Path.isBefore
    refine ⟨sorted.nodup_iff.mpr (sublist.nodup (nodup_pathsBelow plain listed)), ?_⟩
    intro source member
    have kept := sorted.mem_iff.mp member
    obtain ⟨isFile, file, both⟩ := exists_of_bind_eq_ok (passed source kept)
    obtain ⟨rfl, markdown⟩ : isFile = true ∧ source.isMarkdown = true := by
      simpa using Except.ok.inj both
    have belongs := sublist.subset kept
    rcases pathsBelow_cases listed with ⟨-, rfl⟩ | ⟨directory, -⟩
    · cases belongs
    · obtain rfl : true = isDirectory := Except.ok.inj (directory.symm.trans tested)
      exact ⟨file, liesBelow_of_mem_pathsBelow plain listed belongs
        (Path.isMarkdown_iff.mp markdown)⟩

/-! ## Destinations -/

/-- The destination of a source has its names below the output, and the suffix of the format. -/
theorem destination_append (base output : Path) (format : PayloadFormat) (front : List Name)
    (name : Name) : destination base output format (base.append (front ++ [name])) =
      output.append (front ++ [name.inFormat format]) := by
  simp [destination, Path.append, Path.join, Path.withSuffix, Path.name, Path.isAbsolute,
    Name.inFormat]

/-- Two sources have one destination exactly if they differ in the suffix only. -/
theorem destination_eq_iff (first : LiesBelow base source) (second : LiesBelow base other) :
    destination base output format source = destination base output format other ↔
      source.withSuffix [] = other.withSuffix [] := by
  obtain ⟨front, name, rfl, -⟩ := first
  obtain ⟨fore, last, rfl, -⟩ := second
  rw [destination_append, destination_append, (append_injective output).eq_iff]
  have stemmed : ∀ (front : List Name) (name : Name),
      (base.append (front ++ [name])).withSuffix [] = base.append (front ++ [Name.stem name]) := by
    simp [Path.append, Path.withSuffix, Path.name]
  rw [stemmed, stemmed, (append_injective base).eq_iff, ← List.concat_eq_append,
    ← List.concat_eq_append, ← List.concat_eq_append, ← List.concat_eq_append, List.concat_inj,
    List.concat_inj, Name.inFormat_eq_iff]

/-- Names that are no dots stay such with one more at their end. -/
theorem isReduced_concat {front : List Name} {name : Name} (reduced : IsReduced front)
    (noDots : name ≠ Name.here ∧ name ≠ Name.up) : IsReduced (front ++ [name]) := by
  intro other member
  rcases List.mem_append.mp member with member | member
  · exact reduced other member
  · rwa [List.mem_singleton.mp member]

/-- Destinations at one place are one. -/
theorem destination_eq_of_textualPlace (first : LiesBelow base source)
    (second : LiesBelow base other)
    (same : tree.textualPlace (destination base output format source) =
      tree.textualPlace (destination base output format other)) :
    destination base output format source = destination base output format other := by
  obtain ⟨front, name, rfl, reduced, markdown⟩ := first
  obtain ⟨fore, last, rfl, plain, suffixed⟩ := second
  have firstReduced := isReduced_concat reduced (Name.inFormat_ne_dots format markdown.ne_nil)
  have secondReduced := isReduced_concat plain (Name.inFormat_ne_dots format suffixed.ne_nil)
  rw [destination_append, destination_append] at same ⊢
  rw [Tree.textualPlace_append firstReduced, Tree.textualPlace_append secondReduced] at same
  rw [List.append_cancel_left same]

/-- No destination is at the place of a source. -/
theorem textualPlace_destination_ne (first : LiesBelow base source)
    (second : LiesBelow base other) :
    tree.textualPlace (destination base output format other) ≠ tree.textualPlace source := by
  obtain ⟨front, name, rfl, reduced, markdown⟩ := first
  obtain ⟨fore, last, rfl, plain, suffixed⟩ := second
  have sourceReduced :=
    isReduced_concat reduced (Name.ne_dots_of_suffix_ne_nil markdown.suffix_ne_nil)
  have reduced := isReduced_concat plain (Name.inFormat_ne_dots format suffixed.ne_nil)
  rw [destination_append, Tree.textualPlace_append reduced,
    Tree.textualPlace_append sourceReduced, ← List.append_assoc, ← List.append_assoc]
  intro same
  have named : last.inFormat format = name :=
    List.head_eq_of_cons_eq (List.append_inj_right' same rfl)
  exact Name.not_isMarkdown_inFormat format suffixed.ne_nil (named ▸ markdown)

/-! ## Plans -/

/-- Sources below a base are paired with their destinations. -/
def IsPlan (base output : Path) (format : PayloadFormat) (pairs : List (Path × Path)) : Prop :=
  ∀ pair ∈ pairs, LiesBelow base pair.1 ∧ pair.2 = destination base output format pair.1

namespace IsPlan

variable {first second : Path × Path}

/-- Two destinations of a plan are one exactly if the sources differ in the suffix only. -/
theorem snd_eq_iff (isPlan : IsPlan base output format pairs) (member : first ∈ pairs)
    (also : second ∈ pairs) :
    first.2 = second.2 ↔ first.1.withSuffix [] = second.1.withSuffix [] := by
  obtain ⟨below, leads⟩ := isPlan first member
  obtain ⟨beside, reaches⟩ := isPlan second also
  rw [leads, reaches, destination_eq_iff below beside]

/-- Destinations of a plan at one place are one. -/
theorem snd_eq_of_textualPlace (isPlan : IsPlan base output format pairs) (member : first ∈ pairs)
    (also : second ∈ pairs) (same : tree.textualPlace first.2 = tree.textualPlace second.2) :
    first.2 = second.2 := by
  obtain ⟨below, leads⟩ := isPlan first member
  obtain ⟨beside, reaches⟩ := isPlan second also
  rw [leads, reaches] at same ⊢
  exact destination_eq_of_textualPlace below beside same

/-- No destination of a plan is at the place of a source. -/
theorem textualPlace_ne (isPlan : IsPlan base output format pairs) (member : first ∈ pairs)
    (also : second ∈ pairs) : tree.textualPlace second.2 ≠ tree.textualPlace first.1 := by
  obtain ⟨below, -⟩ := isPlan first member
  obtain ⟨beside, reaches⟩ := isPlan second also
  rw [reaches]
  exact textualPlace_destination_ne below beside

/-- No destination of a part of a plan is at the place of a source. -/
theorem textualPlace_notMem (isPlan : IsPlan base output format pairs) (member : first ∈ pairs)
    {part : List (Path × Path)} (within : ∀ pair ∈ part, pair ∈ pairs) :
    tree.textualPlace first.1 ∉ part.map fun pair => tree.textualPlace pair.2 := by
  intro written
  obtain ⟨pair, listed, same⟩ := List.mem_map.mp written
  exact isPlan.textualPlace_ne member (within pair listed) same

/-- The destinations of a plan are distinct exactly if no two sources differ in the suffix only. -/
theorem nodup_iff (isPlan : IsPlan base output format pairs)
    (nodup : (pairs.map Prod.fst).Nodup) :
    (pairs.map Prod.snd).Nodup ↔
      ∀ source ∈ pairs.map Prod.fst, ∀ other ∈ pairs.map Prod.fst,
        source.withSuffix [] = other.withSuffix [] → source = other := by
  rw [List.nodup_map_iff_inj_on (nodup.of_map Prod.fst)]
  simp only [List.forall_mem_map]
  constructor
  · intro distinct first member second also stems
    rw [distinct first member second also ((isPlan.snd_eq_iff member also).mpr stems)]
  · intro distinct first member second also same
    have source := distinct first member second also ((isPlan.snd_eq_iff member also).mp same)
    exact Prod.ext source same

end IsPlan

/-- What is planned is found, once each, and paired with its destination. -/
theorem plan_spec (plain : tree.IsPlain) (planned : plan tree path output format = .ok pairs) :
    discover tree path = .ok (pairs.map Prod.fst) ∧ (pairs.map Prod.fst).Nodup ∧
      (∀ pair ∈ pairs, tree.isFile pair.1 = .ok true) ∧
      ∃ base, IsPlan base output format pairs := by
  obtain ⟨isDirectory, tested, planned⟩ := exists_of_bind_eq_ok planned
  obtain ⟨sources, found, planned⟩ := exists_of_bind_eq_ok planned
  obtain ⟨nodup, lies⟩ := discover_spec plain tested found
  obtain rfl := Except.ok.inj planned
  rw [List.map_map]
  simp only [Function.comp_def, List.map_id', List.forall_mem_map]
  refine ⟨found, nodup, fun source member => (lies source member).1,
    if isDirectory then path else path.parent, ?_⟩
  intro pair member
  obtain ⟨source, listed, rfl⟩ := List.mem_map.mp member
  exact ⟨(lies source listed).2, rfl⟩

end Conversion

end FoldMark
