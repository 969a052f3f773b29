import FoldMark.Proofs.Conversion.Again
import FoldMark.Proofs.Page.Failure
import FoldMark.Proofs.Page.Writing
import FoldMark.Proofs.Tree.NullFree
import FoldMark.Site.Response
import Mathlib

/-!
# What callers are prepared for

A site answers a refusal of the writers as broken, and a conversion reports it; any other error of a
writer stops them. Pages that hold nothing unwritable are written or refused, a site answers for
them, and a conversion stops at their files only where there are no bytes for the text, as half a
surrogate pair has none: `Page.written_or_refused_unless_unwritable`.
-/

namespace FoldMark

open FrontMatter Value

/-! ## Responses -/

namespace Site

variable {tree : Tree} {extensions : Extensions} {root : Path} {index url : List Char}
  {format : PayloadFormat} {page : Page}

/-- A request finds a file that renders as a page, to be written in a format. -/
def Renders (tree : Tree) (extensions : Extensions) (root : Path) (index url : List Char)
    (format : PayloadFormat) (page : Page) : Prop :=
  ∃ request below place, Request.ofUrl url = .ok request ∧ request.format = format ∧
    tree.resolve root = .ok below ∧ findSource tree below index request.candidates = .ok place ∧
    Page.ofFile tree extensions (Tree.pathOf place) = .ok page

/-- A request that finds a file that renders is answered with the page. -/
theorem respond_of_renders (renders : Renders tree extensions root index url format page) :
    respond tree extensions root index url = Response.ofPage page format := by
  obtain ⟨request, below, place, asked, rfl, resolved, found, pageOf⟩ := renders
  rw [respond, asked]
  dsimp only
  rw [resolved]
  dsimp only
  rw [found]
  dsimp only
  rw [respondWith, pageOf]

/-- A page that is written or refused is an answer. -/
theorem exists_response (writable : page.isUnwritable format = false) :
    ∃ response, Response.ofPage page format = .ok response ∧
      (response.status = 200 ∨ response.status = 500) := by
  rw [Response.ofPage]
  cases written : page.write format with
  | ok body => exact ⟨_, rfl, Or.inl rfl⟩
  | error error =>
    dsimp only
    rw [if_pos (Page.isRefusal_of_write writable written)]
    exact ⟨_, rfl, Or.inr rfl⟩

end Site

/-! ## Conversions -/

namespace Conversion

open FoldMark.Tree

variable {tree final : Tree} {extensions : Extensions} {format : PayloadFormat}
  {source target path output base : Path} {page : Page} {pairs : List (Path × Path)}
  {failure : Failure}

/-- A file that renders can be read. -/
theorem exists_read_of_ofFile (pageOf : Page.ofFile tree extensions source = .ok page) :
    ∃ data, tree.read source = .ok data := by
  obtain ⟨text, texted, -⟩ := exists_of_bind_eq_ok pageOf
  obtain ⟨data, read, -⟩ := exists_of_bind_eq_ok (mapError_eq_ok_iff.mp texted)
  exact ⟨data, mapError_eq_ok_iff.mp read⟩

/-- The names of a file that can be read hold no null character. -/
theorem isNullFree_of_read {data : List UInt8} (read : tree.read source = .ok data) :
    IsNullFree source.names := by
  obtain ⟨place, located, -⟩ := read_eq_ok_iff.mp read
  exact any_contains_eq_false_iff.mp (lookup_eq_ok_iff.mp located).1

/-- The names of a destination hold no null character if those of the source and the output do
not. -/
theorem isNullFree_destination (sourceFree : IsNullFree source.names)
    (outputFree : IsNullFree output.names) :
    IsNullFree (destination base output format source).names := by
  have below : IsNullFree (source.names.drop base.names.length) :=
    fun name member => sourceFree name (List.mem_of_mem_drop member)
  have last : '\x00' ∉ (source.names.drop base.names.length).getLast?.getD [] := by
    cases found : (source.names.drop base.names.length).getLast? with
    | none => nofun
    | some name => exact below name (List.mem_of_getLast? found)
  have suffix : '\x00' ∉ '.' :: format.name.toList := by
    cases format <;> decide
  intro name member
  rcases List.mem_append.mp member with before | after
  · exact outputFree name before
  · rcases List.mem_append.mp after with before | final
    · exact below name (List.dropLast_subset _ before)
    · rw [List.mem_singleton.mp final]
      intro inside
      rcases List.mem_append.mp inside with stem | ending
      · exact last (Name.mem_of_mem_stem stem)
      · exact suffix ending

/-- A failure other than a null character does not stop a conversion. -/
theorem ofFile_ne_stopped {error : FileError} (other : error.cause ≠ .nullInName) (fault : Fault) :
    Cause.ofFile error ≠ .stopped fault := by
  rw [Cause.ofFile, if_neg other]
  nofun

/-- Writing a text is not refused for a null character. -/
theorem admits_writeText (links : tree.HasNullFreeLinks) (free : IsNullFree target.names)
    (text : CodeText) : Admits (writeText tree target text) := by
  have around : Admits (tree.ensureDirectories target.parent) :=
    admits_ensureDirectories links fun name member => free name (List.dropLast_subset _ member)
  cases made : tree.ensureDirectories target.parent with
  | error error =>
    rw [writeText, made]
    exact admits_error (around.refusal error made)
  | ok next =>
    rw [writeText, made]
    exact admits_write (around.links next made) free (bytesOf text)

/-- What a file that renders becomes is its page as it is written. -/
theorem textOf_of_ofFile (pageOf : Page.ofFile tree extensions source = .ok page) :
    textOf tree extensions format source = (page.write format).mapError Cause.ofWriter := by
  rw [textOf, pageOf]
  rfl

/-- A page that is written or refused is no reason to stop. -/
theorem mapError_ne_stopped {cause : Cause} (writable : page.isUnwritable format = false)
    (fails : (page.write format).mapError Cause.ofWriter = .error cause) (fault : Fault) :
    cause ≠ .stopped fault := by
  obtain ⟨error, written, rfl⟩ := mapError_eq_error_iff.mp fails
  rw [Cause.ofWriter, if_pos (Page.isRefusal_of_write writable written)]
  nofun

/-- A conversion leaves a tree without null characters in its links. -/
theorem hasNullFreeLinks_convertAll (links : tree.HasNullFreeLinks)
    (free : ∀ pair ∈ pairs, IsNullFree pair.2.names)
    (done : convertAll extensions format tree pairs = ⟨final, .ok ()⟩) :
    final.HasNullFreeLinks := by
  induction pairs generalizing tree with
  | nil =>
    obtain rfl : tree = final := congrArg Outcome.tree done
    exact links
  | cons pair rest hypothesis =>
    obtain ⟨source, target⟩ := pair
    obtain ⟨first, others⟩ := List.forall_mem_cons.mp free
    obtain ⟨next, converted, later⟩ := exists_of_convertAll_cons done
    obtain ⟨text, -, wrote⟩ := exists_of_convertFile_ok converted
    exact hypothesis ((admits_writeText links first text).links next wrote) others later

/-- What is discovered can be read. -/
theorem isFile_of_mem_discover {sources : List Path} (found : discover tree path = .ok sources)
    (member : source ∈ sources) : tree.isFile source = .ok true := by
  obtain ⟨isFile, tested, found⟩ := exists_of_bind_eq_ok found
  cases isFile with
  | true =>
    by_cases markdown : path.isMarkdown = true
    · obtain rfl : [path] = sources := by simpa [markdown] using Except.ok.inj found
      rwa [List.mem_singleton.mp member]
    · obtain rfl : [] = sources := by simpa [markdown] using Except.ok.inj found
      cases member
  | false =>
    obtain ⟨paths, -, found⟩ := exists_of_bind_eq_ok found
    obtain ⟨kept, filtered, same⟩ := exists_of_bind_eq_ok found
    obtain rfl : kept.mergeSort Path.isBefore = sources := Except.ok.inj same
    have passed := (filterM_spec filtered).2 source (List.mem_mergeSort.mp member)
    obtain ⟨isFile, tested, both⟩ := exists_of_bind_eq_ok passed
    obtain ⟨rfl, -⟩ := Bool.and_eq_true_iff.mp (Except.ok.inj both)
    exact tested

/-- The destinations of a plan hold no null character if the output does not. -/
theorem isNullFree_of_plan (outputFree : IsNullFree output.names)
    (planned : plan tree path output format = .ok pairs) :
    ∀ pair ∈ pairs, IsNullFree pair.2.names := by
  obtain ⟨isDirectory, -, planned⟩ := exists_of_bind_eq_ok planned
  obtain ⟨sources, found, same⟩ := exists_of_bind_eq_ok planned
  obtain rfl := Except.ok.inj same
  intro pair member
  obtain ⟨source, listed, rfl⟩ := List.mem_map.mp member
  obtain ⟨data, read⟩ := isFile_eq_true_iff.mp (isFile_of_mem_discover found listed)
  exact isNullFree_destination (isNullFree_of_read read) outputFree

/-- Of a file there is a plan. -/
theorem exists_plan_of_isFile (isFile : tree.isFile path = .ok true) (output : Path)
    (format : PayloadFormat) : ∃ pairs, plan tree path output format = .ok pairs := by
  have found : discover tree path = .ok (if path.isMarkdown then [path] else []) := by
    rw [discover, isFile]
    rfl
  rw [plan, isDirectory_eq_false_of_isFile isFile, found]
  exact ⟨_, rfl⟩

/-- A conversion comes to a file in the tree that the files planned before it leave. Where nothing
is planned, that file is what was to be converted. -/
def ComesTo (tree : Tree) (extensions : Extensions) (format : PayloadFormat) (path output : Path)
    (source : Path) (before : Tree) : Prop :=
  ((∃ error, plan tree path output format = .error error) ∧ source = path ∧ before = tree) ∨
    ∃ front target back, plan tree path output format = .ok (front ++ (source, target) :: back) ∧
      convertAll extensions format tree front = ⟨before, .ok ()⟩

/-- A conversion fails at a file that it has come to, and stops only where there are no bytes for
the text, if the file renders and its page is written or refused. -/
theorem exists_comesTo (links : tree.HasNullFreeLinks) (outputFree : IsNullFree output.names)
    (failed : (run tree extensions format path output).result = .error failure) :
    ∃ before, ComesTo tree extensions format path output failure.source before ∧
      ∀ page, Page.ofFile before extensions failure.source = .ok page →
        page.isUnwritable format = false → ∀ fault, failure.cause = .stopped fault →
          ∃ text, page.write format = .ok text ∧ text.chars? = none ∧
            fault = .unencodable text := by
  rcases exists_of_run_error failed with ⟨error, planned, -⟩ |
    ⟨front, source, target, back, before, planned, done, rfl, ways⟩
  · rw [run, planned] at failed
    cases failed
    refine ⟨tree, .inl ⟨⟨error, planned⟩, rfl, rfl⟩, fun page pageOf => ?_⟩
    obtain ⟨data, read⟩ := exists_read_of_ofFile pageOf
    obtain ⟨pairs, made⟩ :=
      exists_plan_of_isFile (isFile_eq_true_iff.mpr ⟨data, read⟩) output format
    rw [made] at planned
    cases planned
  · refine ⟨before, .inr ⟨front, target, back, planned, done⟩,
      fun page pageOf writable fault stopped => ?_⟩
    rw [textOf_of_ofFile pageOf] at ways
    have free := isNullFree_of_plan outputFree planned
    have kept := hasNullFreeLinks_convertAll links
      (fun pair member => free pair (List.mem_append_left _ member)) done
    rcases ways with ⟨fails, -⟩ | ⟨text, error, -, wrote, same⟩ | ⟨text, becomes, halved, -, same⟩
    · exact absurd stopped (mapError_ne_stopped writable fails fault)
    · rw [same] at stopped
      have around := admits_writeText kept (free (failure.source, target) (by simp)) text
      exact absurd stopped (ofFile_ne_stopped (around.refusal error wrote) fault)
    · rw [same] at stopped
      exact ⟨text, mapError_eq_ok_iff.mp becomes, halved, (Cause.stopped.inj stopped).symm⟩

end Conversion

/-! ## The law -/

namespace Page

/-- A page is written or refused in every format that it does not hold something unwritable for,
and what is written of Unicode texts is characters. Then a request for its file is answered with
success or as broken, and a conversion that fails at its file reports why, unless there are no bytes
for what is written. A page holds something unwritable only if that is a value within itself, in
JSON or TOML, which its front matter in YAML has, a time of day, in YAML, which its front matter in
TOML has, or an integer of too many digits, which its front matter in YAML or TOML has. It is not
written then, where no container is met again beside such an integer. -/
theorem written_or_refused_unless_unwritable (extensions : Extensions) (format : PayloadFormat) :
    (∀ document page, render extensions document = .ok page →
      if page.isUnwritable format then page.Breaks format
      else (∃ text, page.write format = .ok text ∧
          (page.isUnencodable format = false → ∃ chars, text.chars? = some chars)) ∨
        ∃ error, page.write format = .error error ∧ error.isRefusal = true) ∧
    (∀ tree root index url page, Site.Renders tree extensions root index url format page →
      page.isUnwritable format = false →
        ∃ response, Site.respond tree extensions root index url = .ok response ∧
          (response.status = 200 ∨ response.status = 500)) ∧
    (∀ (tree : Tree) path output failure, tree.HasNullFreeLinks →
      Tree.IsNullFree output.names →
      (Conversion.run tree extensions format path output).result = .error failure →
      ∃ before,
        Conversion.ComesTo tree extensions format path output failure.source before ∧
        ∀ page, ofFile before extensions failure.source = .ok page →
          page.isUnwritable format = false → ∀ fault, failure.cause = .stopped fault →
            ∃ text, page.write format = .ok text ∧ text.chars? = none ∧
              fault = .unencodable text) := by
  refine ⟨fun document page rendered => ?_, fun tree root index url page renders writable => ?_,
    fun tree path output failure links free failed =>
      Conversion.exists_comesTo links free failed⟩
  · split
    · rename_i unwritable
      exact breaks_of_isUnwritable rendered unwritable
    · rename_i writable
      have writable := Bool.eq_false_iff.mpr writable
      have refuses := refuses_write writable
      cases written : page.write format with
      | ok text =>
        rw [written] at refuses
        refine Or.inl ⟨text, rfl, fun encodable => ?_⟩
        exact Option.isSome_iff_exists.mp (CodeText.isSome_chars?_iff.mpr (refuses encodable))
      | error error => exact Or.inr ⟨error, rfl, isRefusal_of_write writable written⟩
  · rw [Site.respond_of_renders renders]
    exact Site.exists_response writable

/-- A text whose front matter has a value within itself. -/
def selfContainingText : List Char := "---\na: &x [*x]\n---\nt\n".toList

/-- A directory with that text. -/
def selfContaining : Tree :=
  ⟨[(["a.md".toList], .file (Text.Utf8.encode selfContainingText))], []⟩

/-- The text has a page, which YAML can write down. -/
theorem exists_page_selfContaining :
    ∃ page, ofFile selfContaining { frontMatter := some .yaml } (Tree.pathOf ["a.md".toList]) =
      .ok page ∧ page.isUnwritable .yaml = false := by
  have read : selfContaining.read (Tree.pathOf ["a.md".toList]) =
      .ok (Text.Utf8.encode selfContainingText) := by cbv
  have decoded : Text.Utf8.decode (Text.Utf8.encode selfContainingText) =
      .ok selfContainingText := by cbv
  have rendered : (render { frontMatter := some .yaml }
      (Text.normalizeNewlines selfContainingText)).toOption.any
        (fun page => !page.isUnwritable .yaml) = true := by
    decide +kernel
  obtain ⟨page, pageOf, writable⟩ := exists_of_toOption_any rendered
  have text : selfContaining.readText (Tree.pathOf ["a.md".toList]) =
      .ok (Text.normalizeNewlines selfContainingText) :=
    bind_eq_ok (mapError_eq_ok_iff.mpr read) (bind_eq_ok (mapError_eq_ok_iff.mpr decoded) rfl)
  exact ⟨page, bind_eq_ok (mapError_eq_ok_iff.mpr text) (mapError_eq_ok_iff.mpr pageOf),
    by simpa using writable⟩

/-- A request for a document with a value within itself, as YAML, is answered. -/
theorem selfContaining_answered :
    ∃ page, Site.Renders selfContaining { frontMatter := some .yaml } (.parse ".".toList)
        "index.md".toList "/a.yaml".toList .yaml page ∧ page.isUnwritable .yaml = false ∧
      ∃ response, Site.respond selfContaining { frontMatter := some .yaml } (.parse ".".toList)
          "index.md".toList "/a.yaml".toList = .ok response ∧
        (response.status = 200 ∨ response.status = 500) := by
  obtain ⟨page, pageOf, writable⟩ := exists_page_selfContaining
  have asked : Site.Request.ofUrl "/a.yaml".toList =
      .ok ⟨[["a.md".toList], ["a".toList]], .yaml⟩ := by cbv
  have resolved : selfContaining.resolve (.parse ".".toList) = .ok [] := by cbv
  have found : Site.findSource selfContaining [] "index.md".toList
      [["a.md".toList], ["a".toList]] = .ok ["a.md".toList] := by cbv
  have renders : Site.Renders selfContaining { frontMatter := some .yaml } (.parse ".".toList)
      "index.md".toList "/a.yaml".toList .yaml page :=
    ⟨_, _, _, asked, rfl, resolved, found, pageOf⟩
  obtain ⟨-, answered, -⟩ :=
    written_or_refused_unless_unwritable { frontMatter := some .yaml } .yaml
  exact ⟨page, renders, writable, answered _ _ _ _ page renders writable⟩

/-- A time of day in TOML has a page, which is neither written as YAML nor refused. -/
theorem render_time_unwritable :
    ∃ page error, render { frontMatter := some .toml } "+++\nt = 07:32:00\n+++\nx\n".toList =
        .ok page ∧ page.write .yaml = .error error ∧ error.isRefusal = false := by
  have extracted : extract (some .toml) "+++\nt = 07:32:00\n+++\nx\n".toList =
      .ok (some ⟨.toml, "t = 07:32:00\n".toList, 0, 21⟩, "x\n".toList) := rfl
  have timed : (FrontMatter.metadata (some ⟨.toml, "t = 07:32:00\n".toList, 0, 21⟩)).toOption.any
      (fun metadata => !metadata.all isUntimed) = true := by
    decide +kernel
  obtain ⟨metadata, decoded, holdsTime⟩ := exists_of_toOption_any timed
  let extensions : Extensions := { frontMatter := some .toml }
  let page : Page := ⟨writeHtml extensions [] "x\n".toList,
    some ⟨.toml, "t = 07:32:00\n".toList, 0, 21⟩, metadata⟩
  have rendered : render extensions "+++\nt = 07:32:00\n+++\nx\n".toList = .ok page := by
    rw [render_of_extract extracted, decoded]
    rfl
  have bad : metadata.all isRepresentable = false := by
    refine Bool.eq_false_iff.mpr fun fits => ?_
    have untimed := all_mono (fun _ both => (Bool.and_eq_true_iff.mp both).1) metadata fits
    rw [untimed] at holdsTime
    cases holdsTime
  have unshared : page.metadata.all isUnshared = true := holds_of_render rendered
  have once : (Yaml.Met.none.visit page.payload).again = [] := once_of_unshared unshared
  obtain ⟨value, -, failed⟩ := stops_write once bad
  exact ⟨page, _, rendered, failed, rfl⟩

end Page

end FoldMark
