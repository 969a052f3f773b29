import FoldMark.Proofs.Conversion.Plan
import FoldMark.Proofs.Text.CodePoint
import Mathlib

/-!
# What a conversion leaves behind

Every conversion of a file puts its destination into the tree (`convertFile_spec`), and a conversion
of several puts theirs and leaves the rest as it was (`extends_convertAll`). No destination is a
source, so each source is read as it was at the start. A destination holds the text of the last
source that is written to it: `documents_kept_by_run` tells this of every run that comes to its end,
and that no two sources share a destination exactly if none differ in the suffix only.
-/

namespace FoldMark.Conversion

open Text FoldMark.Tree

variable {tree next final : Tree} {extensions : Extensions} {format : PayloadFormat}
  {source destination path output : Path} {data : List UInt8}
  {pairs front back : List (Path × Path)}

/-! ## Single files -/

/-- What a file becomes depends on what is read from it. -/
theorem textOf_eq_of_read {other : Path} (same : next.read other = tree.read source) :
    textOf next extensions format other = textOf tree extensions format source := by
  simp only [textOf, Page.ofFile, Tree.readText, same]

/-- A file becomes what its page is written as. -/
theorem textOf_of_render {text : List Char} {written : CodeText}
    (read : tree.read source = .ok data) (decoded : Utf8.decode data = .ok text)
    (rendered : (Page.render extensions (normalizeNewlines text)).toOption.bind
      (fun page => (page.write format).toOption) = some written) :
    textOf tree extensions format source = .ok written := by
  obtain ⟨page, some, made⟩ := Option.bind_eq_some_iff.mp rendered
  cases pageOf : Page.render extensions (normalizeNewlines text) with
  | error error => simp [pageOf, Except.toOption] at some
  | ok found =>
    obtain rfl : found = page := by simpa [pageOf, Except.toOption] using some
    cases writes : found.write format with
    | error error => simp [writes, Except.toOption] at made
    | ok other =>
      obtain rfl : other = written := by simpa [writes, Except.toOption] using made
      simp [textOf, Page.ofFile, Tree.readText, read, decoded, pageOf, writes, Except.mapError,
        bind, Except.bind, pure, Except.pure]

/-- As HTML, a file becomes the HTML of its page. -/
theorem textOf_html {text html : List Char} (read : tree.read source = .ok data)
    (decoded : Utf8.decode data = .ok text)
    (rendered : (Page.render extensions (normalizeNewlines text)).toOption.map Page.html =
      some html) : textOf tree extensions .html source = .ok html := by
  obtain ⟨page, some, rfl⟩ := Option.map_eq_some_iff.mp rendered
  exact textOf_of_render read decoded (Option.bind_eq_some_iff.mpr ⟨page, some, rfl⟩)

/-- The bytes of characters are those that they are encoded in. -/
@[simp] theorem bytesOf_ofChars (text : List Char) : bytesOf text = Utf8.encode text := by
  rw [bytesOf, CodeText.chars?_ofChars, Option.getD_some]

/-- A file is converted if it has a text and that can be written. -/
theorem convertFile_of_ok {text : List Char}
    (becomes : textOf tree extensions format source = .ok text)
    (wrote : writeText tree destination text = .ok next) :
    convertFile tree extensions format source destination = ⟨next, .ok ()⟩ := by
  simp only [convertFile, becomes, wrote, CodeText.chars?_ofChars]

/-- A file whose text there are no bytes for is written empty, and stops the conversion. -/
theorem convertFile_of_unencodable {text : CodeText}
    (becomes : textOf tree extensions format source = .ok text) (unencodable : text.chars? = none)
    (wrote : writeText tree destination text = .ok next) :
    convertFile tree extensions format source destination =
      ⟨next, .error ⟨source, format, .stopped (.unencodable text)⟩⟩ := by
  simp only [convertFile, becomes, wrote, unencodable]

/-- A file that has no text is not converted, and nothing is done. -/
theorem convertFile_of_error {cause : Cause}
    (fails : textOf tree extensions format source = .error cause) (destination : Path) :
    convertFile tree extensions format source destination =
      ⟨tree, .error ⟨source, format, cause⟩⟩ := by
  simp only [convertFile, fails]

/-- A file is converted, or has no text, or cannot be written, or has a text that there are no bytes
for. -/
theorem convertFile_cases (tree : Tree) (extensions : Extensions) (format : PayloadFormat)
    (source destination : Path) :
    (∃ (text : List Char) (next : Tree), textOf tree extensions format source = .ok text ∧
        writeText tree destination text = .ok next ∧
        convertFile tree extensions format source destination = ⟨next, .ok ()⟩) ∨
      (∃ cause, textOf tree extensions format source = .error cause ∧
        convertFile tree extensions format source destination =
          ⟨tree, .error ⟨source, format, cause⟩⟩) ∨
      (∃ text error, textOf tree extensions format source = .ok text ∧
        writeText tree destination text = .error error ∧
        convertFile tree extensions format source destination =
          ⟨(tree.makeDirectories destination.parent).tree,
            .error ⟨source, format, .ofFile error⟩⟩) ∨
      ∃ text next, textOf tree extensions format source = .ok text ∧ text.chars? = none ∧
        writeText tree destination text = .ok next ∧
        convertFile tree extensions format source destination =
          ⟨next, .error ⟨source, format, .stopped (.unencodable text)⟩⟩ := by
  cases becomes : textOf tree extensions format source with
  | error cause => exact .inr (.inl ⟨cause, rfl, convertFile_of_error becomes destination⟩)
  | ok text =>
    cases wrote : writeText tree destination text with
    | ok next =>
      cases encodable : text.chars? with
      | none =>
        exact .inr (.inr (.inr ⟨text, next, rfl, encodable, wrote,
          convertFile_of_unencodable becomes encodable wrote⟩))
      | some chars =>
        obtain rfl := CodeText.chars?_eq_some_iff.mp encodable
        exact .inl ⟨chars, next, rfl, wrote, convertFile_of_ok becomes wrote⟩
    | error error =>
      exact .inr (.inr (.inl
        ⟨text, error, rfl, wrote, by simp only [convertFile, becomes, wrote]⟩))

/-- A failure tells which file was not converted, and in which format. -/
theorem eq_of_convertFile_error {failure : Failure}
    (failed : convertFile tree extensions format source destination = ⟨next, .error failure⟩) :
    failure.source = source ∧ failure.format = format := by
  rcases convertFile_cases tree extensions format source destination with
    ⟨_, _, -, -, same⟩ | ⟨_, -, same⟩ | ⟨_, _, -, -, same⟩ | ⟨_, _, -, -, -, same⟩
  all_goals
    rw [same] at failed
    cases failed
  all_goals exact ⟨rfl, rfl⟩

/-- A file that is converted has a text, and that is written. -/
theorem exists_of_convertFile_ok
    (converted : convertFile tree extensions format source destination = ⟨next, .ok ()⟩) :
    ∃ text : List Char, textOf tree extensions format source = .ok text ∧
      writeText tree destination text = .ok next := by
  rcases convertFile_cases tree extensions format source destination with
    ⟨text, other, becomes, wrote, same⟩ | ⟨cause, -, same⟩ | ⟨text, error, -, -, same⟩ |
      ⟨text, other, -, -, -, same⟩
  · obtain rfl : other = next := congrArg Outcome.tree (same.symm.trans converted)
    exact ⟨text, becomes, wrote⟩
  · simp [same] at converted
  · simp [same] at converted
  · simp [same] at converted

/-- Writing a text puts the file, which then holds its bytes. The directories around it are made
first, and no file is written with them. -/
theorem writeText_spec {text : CodeText} (unlinked : tree.IsUnlinked)
    (wrote : writeText tree destination text = .ok next) :
    Changes [tree.textualPlace destination] tree next ∧
      next.read destination = .ok (bytesOf text) := by
  obtain ⟨around, made, wrote⟩ := exists_of_bind_eq_ok wrote
  have changes := changes_ensureDirectories made
  obtain ⟨written, holds⟩ := changes_write (changes.toExtends.unlinked unlinked) wrote
  rw [changes.toExtends.textualPlace_eq] at written
  exact ⟨changes.trans written, holds⟩

/-- Converting a file puts the destination, which then holds what the file becomes. -/
theorem convertFile_spec (unlinked : tree.IsUnlinked)
    (converted : convertFile tree extensions format source destination = ⟨next, .ok ()⟩) :
    Changes [tree.textualPlace destination] tree next ∧
      ∃ text : List Char, textOf tree extensions format source = .ok text ∧
        next.read destination = .ok (Utf8.encode text) := by
  obtain ⟨text, becomes, wrote⟩ := exists_of_convertFile_ok converted
  obtain ⟨changes, holds⟩ := writeText_spec unlinked wrote
  rw [bytesOf_ofChars] at holds
  exact ⟨changes, text, becomes, holds⟩

/-! ## Several files -/

/-- After a file that is converted come the others. -/
theorem convertAll_of_ok
    (converted : convertFile tree extensions format source destination = ⟨next, .ok ()⟩) :
    convertAll extensions format tree ((source, destination) :: back) =
      convertAll extensions format next back := by
  rw [convertAll, converted]

/-- A file that is not converted is the last that is tried. -/
theorem convertAll_of_error {failure : Failure}
    (failed : convertFile tree extensions format source destination = ⟨next, .error failure⟩) :
    convertAll extensions format tree ((source, destination) :: back) =
      ⟨next, .error failure⟩ := by
  rw [convertAll, failed]

/-- A conversion that comes to its end has converted the first file and then the others. -/
theorem exists_of_convertAll_cons
    (done : convertAll extensions format tree ((source, destination) :: back) = ⟨final, .ok ()⟩) :
    ∃ next, convertFile tree extensions format source destination = ⟨next, .ok ()⟩ ∧
      convertAll extensions format next back = ⟨final, .ok ()⟩ := by
  cases converted : convertFile tree extensions format source destination with
  | mk next result =>
    cases result with
    | ok value => exact ⟨next, rfl, (convertAll_of_ok converted).symm.trans done⟩
    | error failure =>
      rw [convertAll_of_error converted] at done
      cases done

/-- A conversion that comes to its end has come to the end of each part. -/
theorem exists_of_convertAll_append
    (done : convertAll extensions format tree (front ++ back) = ⟨final, .ok ()⟩) :
    ∃ middle, convertAll extensions format tree front = ⟨middle, .ok ()⟩ ∧
      convertAll extensions format middle back = ⟨final, .ok ()⟩ := by
  induction front generalizing tree with
  | nil => exact ⟨tree, rfl, done⟩
  | cons pair rest hypothesis =>
    obtain ⟨source, destination⟩ := pair
    obtain ⟨next, converted, later⟩ := exists_of_convertAll_cons done
    obtain ⟨middle, first, second⟩ := hypothesis later
    exact ⟨middle, (convertAll_of_ok converted).trans first, second⟩

/-- A conversion that fails has come to the end of a part, and fails at the next file. -/
theorem exists_of_convertAll_error {failure : Failure}
    (failed : convertAll extensions format tree pairs = ⟨final, .error failure⟩) :
    ∃ front source destination back before, pairs = front ++ (source, destination) :: back ∧
      convertAll extensions format tree front = ⟨before, .ok ()⟩ ∧
      convertFile before extensions format source destination = ⟨final, .error failure⟩ := by
  induction pairs generalizing tree with
  | nil => cases failed
  | cons pair rest hypothesis =>
    obtain ⟨source, destination⟩ := pair
    cases converted : convertFile tree extensions format source destination with
    | mk next result =>
      cases result with
      | ok value =>
        rw [convertAll_of_ok converted] at failed
        obtain ⟨front, other, target, back, before, rfl, done, stopped⟩ := hypothesis failed
        exact ⟨(source, destination) :: front, other, target, back, before, rfl,
          (convertAll_of_ok converted).trans done, stopped⟩
      | error cause =>
        rw [convertAll_of_error converted] at failed
        exact ⟨[], source, destination, rest, tree, rfl, rfl, converted.trans failed⟩

/-- Converting files puts their destinations. -/
theorem changes_convertAll (unlinked : tree.IsUnlinked)
    (done : convertAll extensions format tree pairs = ⟨final, .ok ()⟩) :
    Changes (pairs.map fun pair => tree.textualPlace pair.2) tree final := by
  induction pairs generalizing tree with
  | nil =>
    obtain rfl : tree = final := congrArg Outcome.tree done
    exact .none
  | cons pair rest hypothesis =>
    obtain ⟨source, destination⟩ := pair
    obtain ⟨next, converted, later⟩ := exists_of_convertAll_cons done
    obtain ⟨written, -⟩ := convertFile_spec unlinked converted
    have more := hypothesis (written.toExtends.unlinked unlinked) later
    simp only [written.toExtends.textualPlace_eq] at more
    exact written.trans more

/-- Converting files extends the tree at their destinations. -/
theorem extends_convertAll (unlinked : tree.IsUnlinked)
    (done : convertAll extensions format tree pairs = ⟨final, .ok ()⟩) :
    Extends (pairs.map fun pair => tree.textualPlace pair.2) tree final :=
  (changes_convertAll unlinked done).toExtends

/-- A destination that is not written again holds what its source was at the start, if nothing is
written to the source before. -/
theorem read_destination (unlinked : tree.IsUnlinked)
    (done : convertAll extensions format tree (front ++ (source, destination) :: back) =
      ⟨final, .ok ()⟩)
    (read : tree.read source = .ok data)
    (kept : tree.textualPlace source ∉ front.map fun pair => tree.textualPlace pair.2)
    (last : tree.textualPlace destination ∉ back.map fun pair => tree.textualPlace pair.2) :
    ∃ text : List Char, textOf tree extensions format source = .ok text ∧
      final.read destination = .ok (Utf8.encode text) := by
  obtain ⟨middle, before, rest⟩ := exists_of_convertAll_append done
  obtain ⟨next, converted, after⟩ := exists_of_convertAll_cons rest
  have grown := extends_convertAll unlinked before
  have stillUnlinked := grown.unlinked unlinked
  obtain ⟨changes, text, becomes, holds⟩ := convertFile_spec stillUnlinked converted
  have written := changes.toExtends
  have more := extends_convertAll (written.unlinked stillUnlinked) after
  simp only [written.textualPlace_eq, grown.textualPlace_eq] at more
  have unread := (grown.read unlinked read kept).trans read.symm
  refine ⟨text, (textOf_eq_of_read unread).symm.trans becomes, ?_⟩
  refine more.read (written.unlinked stillUnlinked) holds ?_
  rwa [written.textualPlace_eq, grown.textualPlace_eq]

/-! ## Runs -/

/-- A run comes to its end if all that is planned is converted. -/
theorem run_of_plan (planned : plan tree path output format = .ok pairs)
    (done : convertAll extensions format tree pairs = ⟨final, .ok ()⟩) :
    run tree extensions format path output = ⟨final, .ok pairs⟩ := by
  simp only [run, planned, done, Except.map]

/-- A conversion of a Markdown file converts that file alone. -/
theorem run_source (isFile : tree.isFile source = .ok true) (markdown : source.isMarkdown = true) :
    run tree extensions format source output =
      let target := Conversion.destination source.parent output format source
      let outcome := convertFile tree extensions format source target
      ⟨outcome.tree, outcome.result.map fun _ => [(source, target)]⟩ := by
  have planned : plan tree source output format =
      .ok [(source, Conversion.destination source.parent output format source)] := by
    have found : discover tree source = .ok [source] := by
      simp only [discover, isFile, markdown]
      rfl
    simp only [plan, isDirectory_eq_false_of_isFile isFile, found]
    rfl
  simp only [run, planned, convertAll]
  cases convertFile tree extensions format source
    (Conversion.destination source.parent output format source) with
  | mk next result => cases result <;> rfl

/-- A run that comes to its end has converted what was planned. -/
theorem plan_of_run (done : (run tree extensions format path output).result = .ok pairs) :
    plan tree path output format = .ok pairs ∧
      convertAll extensions format tree pairs =
        ⟨(run tree extensions format path output).tree, .ok ()⟩ := by
  rw [run] at done ⊢
  split at done
  · cases done
  · rename_i planned found
    dsimp only at done ⊢
    cases result : (convertAll extensions format tree planned).result with
    | error failure =>
      rw [result] at done
      cases done
    | ok _ =>
      rw [result] at done
      obtain rfl : planned = pairs := Except.ok.inj done
      exact ⟨found, by rw [← result]⟩

/-- A run that fails has no plan, or has failed to convert what was planned. -/
theorem plan_of_run_error {failure : Failure}
    (failed : (run tree extensions format path output).result = .error failure) :
    (∃ error, plan tree path output format = .error error ∧
        run tree extensions format path output = ⟨tree, .error failure⟩) ∨
      ∃ pairs, plan tree path output format = .ok pairs ∧
        convertAll extensions format tree pairs =
          ⟨(run tree extensions format path output).tree, .error failure⟩ := by
  rw [run] at failed ⊢
  split at failed
  · rename_i error planned
    cases failed
    exact .inl ⟨error, planned, rfl⟩
  · rename_i pairs planned
    refine .inr ⟨pairs, planned, ?_⟩
    dsimp only at failed ⊢
    cases result : (convertAll extensions format tree pairs).result with
    | ok _ =>
      rw [result] at failed
      cases failed
    | error other =>
      rw [result] at failed
      cases failed
      rw [← result]

/-- Nothing that is planned is written to a source, so it is read as before. -/
theorem IsPlan.read_source {base : Path} {pair : Path × Path} (unlinked : tree.IsUnlinked)
    (isPlan : IsPlan base output format pairs) (member : pair ∈ pairs)
    (file : tree.isFile pair.1 = .ok true) {part : List (Path × Path)}
    (within : ∀ pair ∈ part, pair ∈ pairs)
    (grown : Extends (part.map fun pair => tree.textualPlace pair.2) tree next) :
    next.read pair.1 = tree.read pair.1 := by
  obtain ⟨data, read⟩ := isFile_eq_true_iff.mp file
  rw [read]
  exact grown.read unlinked read (isPlan.textualPlace_notMem member within)

/-- Where files are converted by a plan, a destination holds what the last of its sources becomes,
and every source is what it was. -/
theorem exists_text_of_isPlan {base : Path} (unlinked : tree.IsUnlinked)
    (isPlan : IsPlan base output format pairs)
    (files : ∀ pair ∈ pairs, tree.isFile pair.1 = .ok true)
    (done : convertAll extensions format tree pairs = ⟨final, .ok ()⟩)
    (split : pairs = front ++ (source, destination) :: back)
    (last : destination ∉ back.map Prod.snd) :
    ∃ text : List Char, textOf tree extensions format source = .ok text ∧
      textOf final extensions format source = .ok text ∧
      final.read destination = .ok (Utf8.encode text) := by
  have here : (source, destination) ∈ pairs := by simp [split]
  have before : ∀ pair ∈ front, pair ∈ pairs := fun pair member => by simp [split, member]
  have after : ∀ pair ∈ back, pair ∈ pairs := fun pair member => by simp [split, member]
  obtain ⟨data, read⟩ := isFile_eq_true_iff.mp (files _ here)
  have notLater : tree.textualPlace destination ∉
      back.map fun pair => tree.textualPlace pair.2 := by
    intro member
    obtain ⟨pair, listed, same⟩ := List.mem_map.mp member
    have equal : pair.2 = destination := isPlan.snd_eq_of_textualPlace (after pair listed) here same
    exact last (equal ▸ List.mem_map_of_mem listed)
  obtain ⟨text, becomes, holds⟩ := read_destination unlinked (split ▸ done) read
    (isPlan.textualPlace_notMem here before) notLater
  have unread := isPlan.read_source unlinked here (files _ here) (fun _ => id)
    (extends_convertAll unlinked done)
  exact ⟨text, becomes, (textOf_eq_of_read unread).trans becomes, holds⟩

/-! ## Two documents with one destination -/

/-- Two documents of one directory whose names differ in the suffix only. -/
def twoSuffixes : Tree :=
  ⟨[(["docs".toList], .directory), (["docs".toList, "a.markdown".toList], .file [111, 110, 101]),
    (["docs".toList, "a.md".toList], .file [116, 119, 111])], []⟩

/-- The two documents, each with where it is written. -/
def twoSources : List (Path × Path) :=
  [(.parse "docs/a.markdown".toList, .parse "out/a.html".toList),
    (.parse "docs/a.md".toList, .parse "out/a.html".toList)]

/-- The two documents after one of them has been written. -/
def twoSuffixesWith (html : List Char) : Tree :=
  ⟨twoSuffixes.nodes ++ [(["out".toList], .directory),
    (["out".toList, "a.html".toList], .file (Utf8.encode html))], []⟩

/-- The two documents are all there is, and there is no link. -/
theorem isPlain_twoSuffixes : twoSuffixes.IsPlain where
  nodup := by decide
  reduced := by simp [twoSuffixes, IsReduced, Name.here, Name.up]
  unlinked := isUnlinked_of_nodes (by decide)

/-- What the first document becomes. -/
theorem textOf_firstOfTwo : textOf twoSuffixes {} .html (.parse "docs/a.markdown".toList) =
    .ok "<p>one</p>\n".toList := by
  have read : twoSuffixes.read (.parse "docs/a.markdown".toList) = .ok [111, 110, 101] := by cbv
  have decoded : Utf8.decode [111, 110, 101] = .ok "one".toList := by cbv
  exact textOf_html read decoded (by decide +kernel)

/-- What the second document becomes once the first is written. -/
theorem textOf_secondOfTwo :
    textOf (twoSuffixesWith "<p>one</p>\n".toList) {} .html (.parse "docs/a.md".toList) =
      .ok "<p>two</p>\n".toList := by
  have read : (twoSuffixesWith "<p>one</p>\n".toList).read (.parse "docs/a.md".toList) =
      .ok [116, 119, 111] := by cbv
  have decoded : Utf8.decode [116, 119, 111] = .ok "two".toList := by cbv
  exact textOf_html read decoded (by decide +kernel)

/-- The second document is written over the first. -/
theorem run_twoSuffixes :
    run twoSuffixes {} .html (.parse "docs".toList) (.parse "out".toList) =
      ⟨twoSuffixesWith "<p>two</p>\n".toList, .ok twoSources⟩ := by
  have planned : plan twoSuffixes (.parse "docs".toList) (.parse "out".toList) .html =
      .ok twoSources := by cbv
  have first : convertFile twoSuffixes {} .html (.parse "docs/a.markdown".toList)
      (.parse "out/a.html".toList) = ⟨twoSuffixesWith "<p>one</p>\n".toList, .ok ()⟩ :=
    convertFile_of_ok textOf_firstOfTwo (by cbv)
  have second : convertFile (twoSuffixesWith "<p>one</p>\n".toList) {} .html
      (.parse "docs/a.md".toList) (.parse "out/a.html".toList) =
        ⟨twoSuffixesWith "<p>two</p>\n".toList, .ok ()⟩ :=
    convertFile_of_ok textOf_secondOfTwo (by cbv)
  exact run_of_plan planned ((convertAll_of_ok first).trans (convertAll_of_ok second))

/-! ## All runs -/

/-- A run over a tree without links that comes to its end has one pair for each file that is found.
Their destinations are distinct exactly if no two of the files differ in the suffix only. Each
destination holds what the last of its sources becomes, be it asked before or after the run. -/
theorem documents_kept_by_run (plain : tree.IsPlain)
    (done : (run tree extensions format path output).result = .ok pairs) :
    discover tree path = .ok (pairs.map Prod.fst) ∧ (pairs.map Prod.fst).Nodup ∧
      ((pairs.map Prod.snd).Nodup ↔
        ∀ source ∈ pairs.map Prod.fst, ∀ other ∈ pairs.map Prod.fst,
          source.withSuffix [] = other.withSuffix [] → source = other) ∧
      ∀ front source destination back, pairs = front ++ (source, destination) :: back →
        destination ∉ back.map Prod.snd →
          ∃ text : List Char, textOf tree extensions format source = .ok text ∧
            textOf (run tree extensions format path output).tree extensions format source =
              .ok text ∧
            (run tree extensions format path output).tree.read destination =
              .ok (Utf8.encode text) := by
  obtain ⟨planned, done⟩ := plan_of_run done
  obtain ⟨found, nodup, files, base, isPlan⟩ := plan_spec plain planned
  exact ⟨found, nodup, isPlan.nodup_iff nodup, fun front source destination back split last =>
    exists_text_of_isPlan plain.unlinked isPlan files done split last⟩

/-- What the second of two documents with one destination becomes is there after the run. -/
theorem run_keeps_second_of_two :
    twoSuffixes.IsPlain ∧
      let outcome := run twoSuffixes {} .html (.parse "docs".toList) (.parse "out".toList)
      outcome.result = .ok twoSources ∧
        ∃ text : List Char, textOf twoSuffixes {} .html (.parse "docs/a.md".toList) = .ok text ∧
          textOf outcome.tree {} .html (.parse "docs/a.md".toList) = .ok text ∧
          outcome.tree.read (.parse "out/a.html".toList) = .ok (Utf8.encode text) := by
  have done : (run twoSuffixes {} .html (.parse "docs".toList) (.parse "out".toList)).result =
      .ok twoSources := by rw [run_twoSuffixes]
  obtain ⟨-, -, -, kept⟩ := documents_kept_by_run isPlain_twoSuffixes done
  exact ⟨isPlain_twoSuffixes, done, kept [_] _ _ [] rfl List.not_mem_nil⟩

/-- A run that comes to its end can lose a document: two files have one destination, which holds
what the second becomes and not what the first does. -/
theorem run_loses_document :
    twoSuffixes.IsPlain ∧
      let outcome := run twoSuffixes {} .html (.parse "docs".toList) (.parse "out".toList)
      outcome.result = .ok twoSources ∧ ¬ (twoSources.map Prod.snd).Nodup ∧
        ∃ pair ∈ twoSources, textOf twoSuffixes {} .html pair.1 = .ok "<p>one</p>\n".toList ∧
          outcome.tree.read pair.2 = .ok (Utf8.encode "<p>two</p>\n".toList) ∧
          Utf8.encode "<p>two</p>\n".toList ≠ Utf8.encode "<p>one</p>\n".toList := by
  refine ⟨isPlain_twoSuffixes, ?_⟩
  rw [run_twoSuffixes]
  refine ⟨rfl, by decide, _, List.mem_cons_self, textOf_firstOfTwo, by cbv, by decide⟩

end FoldMark.Conversion
