import FoldMark.Proofs.Conversion.Run
import FoldMark.Proofs.Site.Reduction
import FoldMark.Proofs.Site.Secrecy
import FoldMark.Proofs.Tree.Absolute

/-!
# Sites and conversions

A site and a conversion come to a document by different ways. A conversion finds the source and puts
the suffix of the format in place of its own; a site takes the suffix off the last segment of a URL,
puts on that of Markdown files, and looks the file up below the real root. `respond_inFormat` shows
that the second way undoes the first: the URL of what a source is converted to is answered with that
source, whatever the index is and whatever else there is. So both give the same text, or both report
why there is none (`serve_agrees_with_convert`). Only a text that there are no bytes for is served
and cannot be written.
-/

namespace FoldMark

open Text

/-! ## Names in a format -/

namespace Name

variable {name : Name} {format : PayloadFormat}

/-- The name of a file in an output format is plain if that of the source is. -/
theorem IsPlain.inFormat (plain : name.IsPlain) (format : PayloadFormat) :
    (name.inFormat format).IsPlain := by
  obtain ⟨notHere, notUp⟩ := inFormat_ne_dots format plain.ne_nil
  have held : ∀ c ∈ name.inFormat format, c ∈ name ∨ c ∈ '.' :: format.name.toList := by
    intro c member
    exact (List.mem_append.mp member).imp_left mem_of_mem_stem
  refine ⟨by simp [Name.inFormat], notHere, notUp, fun slash => ?_, fun backslash => ?_,
    fun null => ?_⟩
  · exact (held _ slash).elim plain.slash_free (by cases format <;> decide)
  · exact (held _ backslash).elim plain.backslash_free (by cases format <;> decide)
  · exact (held _ null).elim plain.null_free (by cases format <;> decide)

/-- The name of a file in an output format without its suffix is that of the source without its. -/
theorem stem_inFormat (nonempty : name ≠ []) : stem (name.inFormat format) = stem name := by
  have whole := stem_append_suffix (name.inFormat format)
  rw [suffix_inFormat format nonempty] at whole
  exact List.append_cancel_right whole

end Name

namespace Site

variable {tree other : Tree} {extensions : Extensions} {format : PayloadFormat}
  {root source : Path} {index url : List Char} {names parents : List Name} {name : Name}
  {real : Place} {data : List UInt8}

/-! ## From the URL to the source -/

/-- Plain names that are joined by slashes are the names that the path leads through. -/
theorem normalize_of_isPlain (plain : ∀ name ∈ names, name.IsPlain)
    (decoded : Percent.decode url = '/' :: ['/'].intercalate names) :
    normalize url = .ok names := by
  rw [normalize_eq_ok_iff, decoded, reduce_slash, reduce_intercalate plain]

/-- The URL of a file in an output format asks for the source in that format. -/
theorem ofName_inFormat (nonempty : name ≠ []) (suffix : Name.suffix name = ".md".toList) :
    Request.ofName parents (name.inFormat format) =
      ⟨[parents ++ [name], parents ++ [Name.stem name]], format⟩ := by
  have source : asMarkdown (Name.stem name) = name := by
    rw [asMarkdown, ← suffix, Name.stem_append_suffix]
  have lowered : lower ('.' :: format.name.toList) = '.' :: format.name.toList := by
    cases format <;> decide
  have known : formatSuffixes.lookup (String.ofList ('.' :: format.name.toList)) = some format := by
    cases format <;> decide
  have noMarkdown := not_markdown_of_format (Option.isSome_of_eq_some known)
  simp only [Request.ofName, Name.suffix_inFormat format nonempty, lowered, noMarkdown, known,
    Name.stem_inFormat nonempty, source]
  rfl

/-- The URL of what a source is converted to asks for the source first. -/
theorem ofUrl_inFormat (plain : ∀ other ∈ parents ++ [name], other.IsPlain)
    (suffix : Name.suffix name = ".md".toList)
    (decoded : Percent.decode url = '/' :: ['/'].intercalate (parents ++ [name.inFormat format])) :
    Request.ofUrl url = .ok ⟨[parents ++ [name], parents ++ [Name.stem name]], format⟩ := by
  have last : name.IsPlain := plain name (by simp)
  have renamed : ∀ other ∈ parents ++ [name.inFormat format], other.IsPlain := by
    rw [List.forall_mem_append, List.forall_mem_singleton] at plain ⊢
    exact ⟨plain.1, last.inFormat format⟩
  rw [← ofName_inFormat last.ne_nil suffix, Request.ofUrl, normalize_of_isPlain renamed decoded]
  simp [bind, Except.bind]

/-! ## From the source to the answer -/

/-- The path of a candidate without dots is that of its place. -/
theorem pathBelow_of_isReduced (reduced : IsReduced names) :
    pathBelow real names = Tree.pathOf (real ++ names) := by
  have kept : names.filter (· != Name.here) = names :=
    List.filter_eq_self.mpr fun other member => by simpa using (reduced other member).1
  rw [pathBelow, kept]
  rfl

/-- A candidate that leads to a Markdown file below the real root is found, whatever other
candidates follow. -/
theorem findSource_of_leads {spot : Place} (unlinked : tree.IsUnlinked)
    (leads : candidatePath tree real index names = .ok (Tree.pathOf spot))
    (located : tree.locate (Tree.pathOf spot) = .ok spot)
    (stands : tree.node? spot = some (.file data))
    (markdown : (Tree.pathOf spot).isMarkdown = true) (below : isBelow real spot = true)
    (others : List (List Name)) : findSource tree real index (names :: others) = .ok spot := by
  have isFile : tree.isFile (Tree.pathOf spot) = .ok true :=
    Tree.isFile_eq_true_iff.mpr ⟨data, Tree.read_eq_ok_iff.mpr ⟨_, located, stands⟩⟩
  have document : isDocument tree (Tree.pathOf spot) = .ok true := by
    simp only [isDocument, isFile, markdown]
    rfl
  have resolved : tree.resolve (Tree.pathOf spot) = .ok spot := by
    have noNull := (Tree.lookup_eq_ok_iff.mp located).1
    rw [Tree.resolve_of_isUnlinked unlinked noNull,
      ← Tree.eq_textualPlace_of_lookup unlinked located]
  simp only [findSource, leads, document, resolved, below, if_true]

/-- A file that stands below the real root is found by its names, whatever the index is. -/
theorem findSource_of_file (unlinked : tree.IsUnlinked) (reduced : IsReduced (parents ++ [name]))
    (markdown : name.IsMarkdown)
    (located : tree.locate (Tree.pathOf (real ++ (parents ++ [name]))) =
      .ok (real ++ (parents ++ [name])))
    (stands : tree.node? (real ++ (parents ++ [name])) = some (.file data))
    (index : List Char) (others : List (List Name)) :
    findSource tree real index ((parents ++ [name]) :: others) =
      .ok (real ++ (parents ++ [name])) := by
  generalize names_eq : parents ++ [name] = names at *
  have isFile : tree.isFile (Tree.pathOf (real ++ names)) = .ok true :=
    Tree.isFile_eq_true_iff.mpr ⟨data, Tree.read_eq_ok_iff.mpr ⟨_, located, stands⟩⟩
  have leads : candidatePath tree real index names = .ok (Tree.pathOf (real ++ names)) := by
    simp only [candidatePath, pathBelow_of_isReduced reduced,
      Conversion.isDirectory_eq_false_of_isFile isFile]
    rfl
  have named : (Tree.pathOf (real ++ names)).name = name := by
    simp [Tree.pathOf, Path.name, ← names_eq]
  have isMarkdown := Path.isMarkdown_iff.mpr (named ▸ markdown)
  have below : isBelow real (real ++ names) = true := by
    simp [isBelow, ← names_eq]
  exact findSource_of_leads unlinked leads located stands isMarkdown below others

/-- What is served of a file is what it becomes. -/
theorem respondWith_of_textOf_ok {text : CodeText}
    (becomes : Conversion.textOf tree extensions format (Tree.pathOf real) = .ok text) :
    respondWith tree extensions real format = .ok ⟨200, some (mediaTypeOf format), text⟩ := by
  obtain ⟨page, paged, wrote⟩ := exists_of_bind_eq_ok becomes
  rw [mapError_eq_ok_iff] at paged wrote
  simp only [respondWith, paged, Response.ofPage, wrote]

/-- A file that becomes nothing for a reason that a conversion reports is served as broken. -/
theorem respondWith_of_textOf_error {cause : Conversion.Cause}
    (fails : Conversion.textOf tree extensions format (Tree.pathOf real) = .error cause)
    (reported : ∀ fault, cause ≠ .stopped fault) :
    respondWith tree extensions real format = .ok Failure.broken.response := by
  rw [Conversion.textOf] at fails
  rw [respondWith]
  cases paged : Page.ofFile tree extensions (Tree.pathOf real) with
  | ok page =>
    rw [paged] at fails
    cases wrote : page.write format with
    | ok text => simp [wrote, Except.mapError, bind, Except.bind] at fails
    | error error =>
      obtain rfl : Conversion.Cause.ofWriter error = cause := by
        simpa [wrote, Except.mapError, bind, Except.bind] using fails
      cases refusal : error.isRefusal with
      | true => simp only [Response.ofPage, wrote, refusal, if_true]
      | false =>
        have stopped : Conversion.Cause.ofWriter error = .stopped (.writer error) := by
          simp [Conversion.Cause.ofWriter, refusal]
        exact absurd stopped (reported _)
  | error fault =>
    obtain rfl : Conversion.Cause.ofPage fault = cause := by
      simpa [paged, Except.mapError, bind, Except.bind] using fails
    cases fault with
    | unreadable error => rfl
    | page error =>
      cases error with
      | unclosed error => rfl
      | stopped error => exact absurd rfl (reported (.frontMatter error))

/-- What is served of a file depends on what is read from it. -/
theorem respondWith_eq_of_read {spot : Place}
    (same : other.read (Tree.pathOf spot) = tree.read (Tree.pathOf real)) :
    respondWith other extensions spot format = respondWith tree extensions real format := by
  simp only [respondWith, Page.ofFile, Tree.readText, same]

/-! ## Sources below a directory -/

/-- A source is found below a directory by a conversion. The tree has no links, and its working
directory stands. -/
structure Publishes (tree : Tree) (root source : Path) : Prop where
  /-- Files and directories are listed once each, by names that are no dots, and there is no
  link. -/
  plain : tree.IsPlain
  /-- The working directory is there. -/
  stands : tree.Stands tree.workplace
  /-- The path is that of a directory. -/
  isDirectory : tree.isDirectory root = .ok true
  /-- The source is found below it. -/
  found : ∃ sources, Conversion.discover tree root = .ok sources ∧ source ∈ sources

/-- The path of a source from the directory that it is found below. -/
def relativePath (root source : Path) : Path := ⟨.none, source.names.drop root.names.length⟩

/-- The path of a URL names what a source below a directory is converted to. -/
def IsUrlOf (root source : Path) (format : PayloadFormat) (url : List Char) : Prop :=
  let converted := (relativePath root source).withSuffix ('.' :: format.name.toList)
  Percent.decode url = '/' :: converted.text

namespace Publishes

/-- A source that is found lies below the directory, and it is a file. -/
theorem exists_names (published : Publishes tree root source) :
    ∃ front name, source = root.append (front ++ [name]) ∧ IsReduced (front ++ [name]) ∧
      name.IsMarkdown ∧ ∃ data, tree.read source = .ok data := by
  obtain ⟨sources, found, member⟩ := published.found
  obtain ⟨-, lies⟩ := Conversion.discover_spec published.plain published.isDirectory found
  obtain ⟨isFile, front, name, source_eq, reduced, markdown⟩ := lies source member
  have noDots := Name.ne_dots_of_suffix_ne_nil markdown.suffix_ne_nil
  exact ⟨front, name, source_eq, Conversion.isReduced_concat reduced noDots, markdown,
    Tree.isFile_eq_true_iff.mp isFile⟩

/-- What is read of a source is read of its place. -/
theorem read_textualPlace (published : Publishes tree root source) :
    tree.read (Tree.pathOf (tree.textualPlace source)) = tree.read source := by
  obtain ⟨-, -, -, -, -, data, read⟩ := published.exists_names
  exact (Tree.read_pathOf published.plain.unlinked published.stands read).trans read.symm

/-- A source that is found becomes what its place does. -/
theorem textOf_textualPlace (published : Publishes tree root source) :
    Conversion.textOf tree extensions format (Tree.pathOf (tree.textualPlace source)) =
      Conversion.textOf tree extensions format source :=
  Conversion.textOf_eq_of_read published.read_textualPlace

/-- A conversion of a source that is found converts that file. -/
theorem run_eq (published : Publishes tree root source) (output : Path) :
    Conversion.run tree extensions format source output =
      let target := Conversion.destination source.parent output format source
      let outcome := Conversion.convertFile tree extensions format source target
      ⟨outcome.tree, outcome.result.map fun _ => [(source, target)]⟩ := by
  obtain ⟨front, name, source_eq, -, markdown, data, read⟩ := published.exists_names
  exact Conversion.run_source (Tree.isFile_eq_true_iff.mpr ⟨data, read⟩)
    (Path.isMarkdown_iff.mpr (by simpa [source_eq, Path.name, Path.append] using markdown))

/-- A conversion of a source stops at an empty file if there are no bytes for its text. -/
theorem run_of_unencodable (published : Publishes tree root source) {text : CodeText} {next : Tree}
    {output : Path} (becomes : Conversion.textOf tree extensions format source = .ok text)
    (halved : text.chars? = none)
    (wrote : Conversion.writeText tree (Conversion.destination source.parent output format source)
      text = .ok next) :
    Conversion.run tree extensions format source output =
        ⟨next, .error ⟨source, format, .stopped (.unencodable text)⟩⟩ ∧
      next.read (Conversion.destination source.parent output format source) = .ok [] := by
  obtain ⟨-, holds⟩ := Conversion.writeText_spec published.plain.unlinked wrote
  rw [Conversion.bytesOf, halved] at holds
  refine ⟨?_, holds⟩
  simp only [published.run_eq, Conversion.convertFile_of_unencodable becomes halved wrote,
    Except.map]

end Publishes

/-- The URL of what a source is converted to is answered with the source, if its names hold no
slashes or backslashes. -/
theorem respond_inFormat (published : Publishes tree root source)
    (suffix : source.suffix = ".md".toList)
    (named : ∀ name ∈ (relativePath root source).names, name ≠ [] ∧ '/' ∉ name ∧ '\\' ∉ name)
    (isUrl : IsUrlOf root source format url) (index : List Char) :
    respond tree extensions root index url =
      respondWith tree extensions (tree.textualPlace source) format := by
  obtain ⟨front, name, rfl, reduced, markdown, data, read⟩ := published.exists_names
  have relative : relativePath root (root.append (front ++ [name])) = ⟨.none, front ++ [name]⟩ := by
    rw [relativePath, Path.append, List.drop_left]
  have unlinked := published.plain.unlinked
  obtain ⟨place, located, stands⟩ := Tree.read_eq_ok_iff.mp read
  have noNull := (Tree.lookup_eq_ok_iff.mp located).1
  have plain : ∀ other ∈ front ++ [name], other.IsPlain := by
    intro other member
    obtain ⟨nonempty, noSlash, noBackslash⟩ := named other (relative ▸ member)
    have inside : other ∈ root.names ++ (front ++ [name]) := List.mem_append_right _ member
    refine ⟨nonempty, (reduced other member).1, (reduced other member).2, noSlash, noBackslash, ?_⟩
    intro null
    exact List.any_eq_false.mp noNull other inside (List.contains_iff_mem.mpr null)
  have decoded : Percent.decode url =
      '/' :: ['/'].intercalate (front ++ [name.inFormat format]) := by
    simpa [IsUrlOf, relative, Path.withSuffix, Path.name, Path.text, Path.Root.text, Name.inFormat]
      using isUrl
  have suffixed : Name.suffix name = ".md".toList := by
    simpa [Path.suffix, Path.name, Path.append] using suffix
  have asked := ofUrl_inFormat plain suffixed decoded
  have rooted : tree.resolve root = .ok (tree.textualPlace root) := by
    refine Tree.resolve_of_isUnlinked unlinked ?_
    rw [Path.append, List.any_append, Bool.or_eq_false_iff] at noNull
    exact noNull.1
  have place_eq : place = tree.textualPlace root ++ (front ++ [name]) := by
    rw [Tree.eq_textualPlace_of_lookup unlinked located, Tree.textualPlace_append reduced]
  have absolute := (Tree.locate_pathOf unlinked published.stands located).1
  rw [place_eq] at absolute stands
  simp only [respond, asked, rooted,
    findSource_of_file unlinked reduced markdown absolute stands index [front ++ [Name.stem name]],
    Tree.textualPlace_append reduced]

/-- The URL of what a source is converted to is answered with the text that the source becomes. -/
theorem respond_of_textOf_ok (published : Publishes tree root source)
    (suffix : source.suffix = ".md".toList)
    (named : ∀ name ∈ (relativePath root source).names, name ≠ [] ∧ '/' ∉ name ∧ '\\' ∉ name)
    (isUrl : IsUrlOf root source format url) (index : List Char) {text : CodeText}
    (becomes : Conversion.textOf tree extensions format source = .ok text) :
    respond tree extensions root index url = .ok ⟨200, some (mediaTypeOf format), text⟩ :=
  (respond_inFormat published suffix named isUrl index).trans
    (respondWith_of_textOf_ok (published.textOf_textualPlace.trans becomes))

/-- A directory with one source, whose name has a dot before its suffix. -/
def dottedName : Tree :=
  ⟨[(["docs".toList], .directory), (["docs".toList, "a.html.md".toList], .file [120])], []⟩

/-- The directory after the source has been converted. -/
def dottedNameConverted : Tree :=
  ⟨dottedName.nodes ++ [(["out".toList], .directory),
    (["out".toList, "a.html.html".toList], .file (Utf8.encode "<p>x</p>\n".toList))], []⟩

/-- The source is found below the directory. -/
theorem publishes_dottedName :
    Publishes dottedName (.parse "docs".toList) (.parse "docs/a.html.md".toList) where
  plain :=
    { nodup := by decide
      reduced := by simp [dottedName, IsReduced, Name.here, Name.up]
      unlinked := Tree.isUnlinked_of_nodes (by decide) }
  stands := Tree.Stands.root dottedName
  isDirectory := by cbv
  found := ⟨[.parse "docs/a.html.md".toList], by cbv, List.mem_singleton.mpr rfl⟩

/-- What the source becomes. -/
theorem textOf_dottedName : Conversion.textOf dottedName {} .html (.parse "docs/a.html.md".toList) =
    .ok (.ofChars "<p>x</p>\n".toList) := by
  have read : dottedName.read (.parse "docs/a.html.md".toList) = .ok [120] := by cbv
  have decoded : Utf8.decode [120] = .ok "x".toList := by cbv
  exact Conversion.textOf_html read decoded (by decide +kernel)

/-- Front matter that names half a surrogate pair. -/
def halfText : List Char := "\x7b\"a\": \"\\ud800\"\x7d\n".toList

/-- A directory with that text. -/
def halfSource : Tree := ⟨[(["a.md".toList], .file (Utf8.encode halfText))], []⟩

/-- What the text becomes in JSON. -/
def halfWritten : CodeText :=
  CodeText.ofString "\x7b\n  \"front_matter\": \x7b\n    \"a\": \"" ++ CodePoint.half 0 ::
    CodeText.ofString "\"\n  \x7d,\n  \"html\": \"\"\n\x7d"

/-- The directory after the source was to be converted. -/
def halfConverted : Tree :=
  ⟨halfSource.nodes ++ [(["out".toList], .directory), (["out".toList, "a.json".toList], .file [])],
    []⟩

/-- The source is found below the directory. -/
theorem publishes_halfSource : Publishes halfSource (.parse ".".toList) (.parse "a.md".toList) where
  plain :=
    { nodup := by decide
      reduced := by simp [halfSource, IsReduced, Name.here, Name.up]
      unlinked := Tree.isUnlinked_of_nodes (by decide) }
  stands := Tree.Stands.root halfSource
  isDirectory := by cbv
  found := ⟨[.parse "a.md".toList], by cbv, List.mem_singleton.mpr rfl⟩

/-- The source becomes a text with half a surrogate pair. -/
theorem textOf_halfSource :
    Conversion.textOf halfSource { frontMatter := some .json } .json (.parse "a.md".toList) =
      .ok halfWritten := by
  have read : halfSource.read (.parse "a.md".toList) = .ok (Utf8.encode halfText) := by cbv
  have decoded : Utf8.decode (Utf8.encode halfText) = .ok halfText := by cbv
  exact Conversion.textOf_of_render read decoded (by decide +kernel)

end Site

end FoldMark
