import FoldMark.Proofs.Site.Agreement
import FoldMark.Proofs.Text.Marks
import FoldMark.Proofs.Tree.Proper

/-!
# Indexes of directories

A directory with an index is served at its own URL, with a slash behind it or without. The URL of a
directory whose name has no suffix is first taken for that of a document beside the directory, and
only where there is none for that of the directory itself. A name with the suffix of Markdown files
is longer than the name, so it can be too long to be looked up although the name is not. Then the
answer is that nothing is found: `index_served_iff_room` tells the two cases apart.
-/

namespace FoldMark

open Text

namespace Site

variable {tree : Tree} {extensions : Extensions} {root path : Path} {index url : List Char}
  {names parents : List Name} {name : Name} {real spot : Place} {text : List Char}

/-! ## URLs of directories -/

/-- The path of a URL names what lies below the root, with a slash at the end or without. -/
def IsUrlBelow (names : List Name) (url : List Char) : Prop :=
  Percent.decode url = '/' :: ['/'].intercalate names ∨
    Percent.decode url = '/' :: ['/'].intercalate names ++ ['/']

/-- A slash at the end adds no segment. -/
theorem segments_append_slash (text : List Char) : segments (text ++ ['/']) = segments text := by
  rw [segments, splitAt_append (by decide), List.filter_append, segments]
  exact List.append_nil _

/-- A slash at the end changes nothing. -/
theorem reduce_append_slash (text : List Char) : reduce (text ++ ['/']) = reduce text := by
  have null : (text ++ ['/']).contains '\x00' = text.contains '\x00' := by simp
  rw [reduce, reduce, segments_append_slash, null]

/-- The URL of what lies below the root leads through its names. -/
theorem normalize_of_isUrlBelow (plain : ∀ name ∈ names, name.IsPlain)
    (isUrl : IsUrlBelow names url) : normalize url = .ok names := by
  rcases isUrl with decoded | decoded
  · exact normalize_of_isPlain plain decoded
  · rw [normalize_eq_ok_iff, decoded, reduce_append_slash, reduce_slash, reduce_intercalate plain]

/-- What a name asks for whose suffix is none of an output format: the directory of that name, and
before it the document of that name if there is no suffix at all. -/
theorem ofName_of_no_format (noFormat : formatOf? name = none) (parents : List Name) :
    Request.ofName parents name =
      ⟨if Name.suffix name = [] then [parents ++ [asMarkdown name], parents ++ [name]]
        else [parents ++ [name]], .html⟩ := by
  rw [formatOf?] at noFormat
  by_cases bare : Name.suffix name = []
  · have empty : String.ofList (lower (Name.suffix name)) = "" := by rw [bare]; rfl
    have noMarkdown : markdownSuffixes.contains "" = false := by decide
    rw [empty] at noFormat
    simp only [Request.ofName, empty, noMarkdown, noFormat, if_pos bare]
    rfl
  · have suffixed : (String.ofList (lower (Name.suffix name))).isEmpty = false := by
      simpa [lower_eq_nil_iff] using bare
    simp only [Request.ofName, noFormat, suffixed, if_neg bare]
    split <;> rfl

/-! ## Candidates -/

/-- A directory holds an index: a Markdown file that the text of a path leads to from there. -/
structure HasIndex (tree : Tree) (directory : Place) (index : List Char) : Prop where
  /-- The path does not start at the root. -/
  relative : (Path.parse index).isAbsolute = false
  /-- The file has a suffix of Markdown files. -/
  markdown : (Path.parse index).isMarkdown = true
  /-- A file stands there. -/
  file : ∃ data, tree.node? (directory ++ (Path.parse index).names) = some (.file data)

/-- The place of the index of a directory. -/
def indexPlace (directory : Place) (index : List Char) : Place :=
  directory ++ (Path.parse index).names

/-- A directory with an index is found as its index, whatever other candidates follow. -/
theorem findSource_of_hasIndex (proper : tree.IsProper) (reduced : IsReduced names)
    (directory : tree.node? (real ++ names) = some .directory)
    (indexed : HasIndex tree (real ++ names) index) (others : List (List Name)) :
    findSource tree real index (names :: others) = .ok (indexPlace (real ++ names) index) := by
  obtain ⟨relative, markdown, data, file⟩ := indexed
  have stands := proper.stands directory
  have located := Tree.locate_of_stands proper.unlinked stands
  have isDirectory : tree.isDirectory (Tree.pathOf (real ++ names)) = .ok true :=
    Tree.isDirectory_eq_true_iff.mpr ⟨_, located, directory⟩
  have named : (Path.parse index).names ≠ [] := by
    intro none
    rw [none, List.append_nil, directory] at file
    cases file
  have listed : (real ++ names) ++ (Path.parse index).names ∈ tree.places := by
    rw [Tree.mem_places_iff (by simp [named]), file]
    nofun
  have found := proper.locate_append located directory listed
  have joined : (Tree.pathOf (real ++ names)).join (Path.parse index) =
      Tree.pathOf (indexPlace (real ++ names) index) := by
    rw [Path.join, relative]
    rfl
  have leads : candidatePath tree real index names =
      .ok (Tree.pathOf (indexPlace (real ++ names) index)) := by
    simp only [candidatePath, pathBelow_of_isReduced reduced, isDirectory, joined]
    rfl
  have isMarkdown : (Tree.pathOf (indexPlace (real ++ names) index)).isMarkdown = true := by
    rw [Path.isMarkdown_iff] at markdown ⊢
    have last : (Tree.pathOf (indexPlace (real ++ names) index)).name =
        (Path.parse index).name := by
      simp [Path.name, Tree.pathOf, indexPlace, List.getLast?_eq_some_getLast named]
    rwa [last]
  have below : isBelow real (indexPlace (real ++ names) index) = true := by
    simp [isBelow, indexPlace, named]
  exact findSource_of_leads proper.unlinked leads found file isMarkdown below others

/-- A candidate under whose name nothing stands is passed over, unless the name is too long. Then
nothing is found, whatever candidates follow. -/
theorem findSource_of_none (proper : tree.IsProper) (reduced : IsReduced (parents ++ [name]))
    (around : tree.node? (real ++ parents) = some .directory) (plain : name.IsPlain)
    (absent : tree.node? (real ++ (parents ++ [name])) = none) (others : List (List Name)) :
    findSource tree real index ((parents ++ [name]) :: others) =
      if (Utf8.encode name).length ≤ Tree.maxNameBytes then findSource tree real index others
      else .error .notFound := by
  have failed := Tree.locate_of_none proper.unlinked (proper.stands around) plain.ne_here
    plain.ne_up plain.null_free (by rwa [List.append_assoc])
  rw [List.append_assoc] at failed
  have path_eq : pathBelow real (parents ++ [name]) =
      Tree.pathOf (real ++ (parents ++ [name])) := pathBelow_of_isReduced reduced
  have probed (test : Node → Bool) :
      tree.leadsTo test (Tree.pathOf (real ++ (parents ++ [name]))) =
        if (Tree.absenceOf name).isAbsence then .ok false
        else .error ⟨Tree.absenceOf name, Tree.pathOf (real ++ (parents ++ [name]))⟩ :=
    Tree.leadsTo_of_locate_error failed
  by_cases short : (Utf8.encode name).length ≤ Tree.maxNameBytes
  · have cause : Tree.absenceOf name = .notFound := if_pos short
    have isDirectory :
        tree.isDirectory (Tree.pathOf (real ++ (parents ++ [name]))) = .ok false := by
      rw [Tree.isDirectory, probed, cause]
      rfl
    have isFile : tree.isFile (Tree.pathOf (real ++ (parents ++ [name]))) = .ok false := by
      rw [Tree.isFile, probed, cause]
      rfl
    have leads : candidatePath tree real index (parents ++ [name]) =
        .ok (Tree.pathOf (real ++ (parents ++ [name]))) := by
      simp only [candidatePath, path_eq, isDirectory]
      rfl
    have document : isDocument tree (Tree.pathOf (real ++ (parents ++ [name]))) = .ok false := by
      simp only [isDocument, isFile]
      rfl
    simp only [findSource, leads, document, if_pos short]
  · have cause : Tree.absenceOf name = .nameTooLong := if_neg short
    have isDirectory : ∃ error,
        tree.isDirectory (Tree.pathOf (real ++ (parents ++ [name]))) = .error error := by
      rw [Tree.isDirectory, probed, cause]
      exact ⟨_, rfl⟩
    obtain ⟨error, isDirectory⟩ := isDirectory
    have leads : candidatePath tree real index (parents ++ [name]) = .error error := by
      simp only [candidatePath, path_eq, isDirectory]
      rfl
    simp only [findSource, leads, if_neg short]

/-! ## Answers -/

/-- A directory below the root can be asked for by its own URL: its names hold no slashes or
backslashes, and the last does not end in the suffix of an output format. Its index becomes a text
as HTML, and nothing stands beside it under its name with the suffix of Markdown files. -/
structure Offers (tree : Tree) (extensions : Extensions) (real : Place) (parents : List Name)
    (name : Name) (index text : List Char) : Prop where
  /-- The names can be spelled in a URL. -/
  named : ∀ other ∈ parents ++ [name], other ≠ [] ∧ '/' ∉ other ∧ '\\' ∉ other
  /-- The name asks for no output format. -/
  noFormat : formatOf? name = none
  /-- The directory is there. -/
  directory : tree.node? (real ++ (parents ++ [name])) = some .directory
  /-- It has an index. -/
  indexed : HasIndex tree (real ++ (parents ++ [name])) index
  /-- The index becomes the text. -/
  becomes : Conversion.textOf tree extensions .html
    (Tree.pathOf (indexPlace (real ++ (parents ++ [name])) index)) = .ok text
  /-- Nothing stands beside it that could be taken for it. -/
  alone : tree.node? (real ++ (parents ++ [asMarkdown name])) = none

/-- The document of a name can be looked up, if it is tried at all: the name has a suffix, or it is
short enough for that of Markdown files. -/
def LeavesRoom (name : Name) : Prop :=
  Name.suffix name = [] → (Utf8.encode (asMarkdown name)).length ≤ Tree.maxNameBytes

namespace Offers

variable (proper : tree.IsProper) (offered : Offers tree extensions real parents name index text)

include proper offered

/-- The names of the directory are plain. -/
theorem isPlain : ∀ other ∈ parents ++ [name], other.IsPlain := by
  intro other member
  obtain ⟨nonempty, noSlash, noBackslash⟩ := offered.named other member
  have stands := proper.stands offered.directory
  obtain ⟨notHere, notUp⟩ := stands.isReduced other (List.mem_append_right real member)
  have noNull := Tree.null_free_of_stands proper.unlinked stands
  refine ⟨nonempty, notHere, notUp, noSlash, noBackslash, fun null => ?_⟩
  exact List.any_eq_false.mp noNull other (List.mem_append_right real member)
    (List.contains_iff_mem.mpr null)

/-- The names of the directory are no dots. -/
theorem isReduced : IsReduced (parents ++ [name]) := fun other member =>
  ⟨(offered.isPlain proper other member).ne_here, (offered.isPlain proper other member).ne_up⟩

/-- Among the candidates for the name, the index is found exactly if there is room. -/
theorem findSource_ofName :
    (LeavesRoom name → findSource tree real index (Request.ofName parents name).candidates =
        .ok (indexPlace (real ++ (parents ++ [name])) index)) ∧
      (¬ LeavesRoom name →
        findSource tree real index (Request.ofName parents name).candidates =
          .error .notFound) := by
  have found := findSource_of_hasIndex proper (offered.isReduced proper) offered.directory
    offered.indexed []
  rw [ofName_of_no_format offered.noFormat]
  by_cases bare : Name.suffix name = []
  · have plain := offered.isPlain proper name (by simp)
    have besidePlain := isPlain_asMarkdown plain.slash_free plain.backslash_free plain.null_free
    have besideReduced : IsReduced (parents ++ [asMarkdown name]) := by
      intro other member
      rcases List.mem_append.mp member with before | last
      · exact offered.isReduced proper other (List.mem_append_left _ before)
      · rw [List.mem_singleton.mp last]
        exact ⟨besidePlain.ne_here, besidePlain.ne_up⟩
    have around : tree.node? (real ++ parents) = some .directory := by
      have stands := proper.stands offered.directory
      rw [← List.append_assoc] at stands
      exact (stands.of_prefix (List.prefix_append _ _)).node?
    have first : findSource tree real index
          ((parents ++ [asMarkdown name]) :: [parents ++ [name]]) =
        if (Utf8.encode (asMarkdown name)).length ≤ Tree.maxNameBytes then
          findSource tree real index [parents ++ [name]]
        else .error .notFound :=
      findSource_of_none proper besideReduced around besidePlain offered.alone _
    rw [if_pos bare, first]
    exact ⟨fun room => by rw [if_pos (room bare), found],
      fun noRoom => if_neg fun short => noRoom fun _ => short⟩
  · rw [if_neg bare]
    exact ⟨fun _ => found, fun noRoom => absurd (fun none => absurd none bare) noRoom⟩

/-- The URL of the directory is answered with what its index becomes, or with nothing found. -/
theorem respond_eq (rooted : tree.resolve root = .ok real)
    (isUrl : IsUrlBelow (parents ++ [name]) url) :
    (LeavesRoom name →
        respond tree extensions root index url = .ok ⟨200, some htmlType, text⟩) ∧
      (¬ LeavesRoom name →
        respond tree extensions root index url = .ok Failure.notFound.response) := by
  have normal := normalize_of_isUrlBelow (offered.isPlain proper) isUrl
  have asked : Request.ofUrl url = .ok (Request.ofName parents name) := by
    rw [Request.ofUrl, normal]
    simp [bind, Except.bind]
  have format : (Request.ofName parents name).format = .html := by
    rw [ofName_of_no_format offered.noFormat]
  obtain ⟨found, missed⟩ := offered.findSource_ofName proper
  constructor
  · intro room
    have answer := respondWith_of_textOf_ok offered.becomes
    simp only [respond, asked, rooted, found room, format, answer]
    rfl
  · intro noRoom
    simp only [respond, asked, rooted, missed noRoom]

end Offers

/-- A directory with an index is served at its own URL exactly if its name has a suffix or leaves
room for that of Markdown files. Otherwise nothing is found, although the directory is there. -/
theorem index_served_iff_room (proper : tree.IsProper) (rooted : tree.resolve root = .ok real)
    (offered : Offers tree extensions real parents name index text)
    (isUrl : IsUrlBelow (parents ++ [name]) url) :
    (respond tree extensions root index url = .ok ⟨200, some htmlType, text⟩ ↔
        LeavesRoom name) ∧
      (¬ LeavesRoom name →
        respond tree extensions root index url = .ok Failure.notFound.response) := by
  obtain ⟨served, missed⟩ := offered.respond_eq proper rooted isUrl
  refine ⟨⟨fun answer => ?_, served⟩, missed⟩
  by_contra noRoom
  rw [missed noRoom] at answer
  have status := congrArg Response.status (Except.ok.inj answer)
  exact absurd status (show (404 : Nat) ≠ 200 by decide)

/-- A directory below another one, with an index and nothing else in it. -/
def directoryNamed (name : Name) : Tree :=
  ⟨[(["site".toList], .directory), (["site".toList, name], .directory),
    (["site".toList, name, "index.md".toList], .file [120])], []⟩

section DirectoryNamed

/-- The directory is there. -/
theorem node?_directoryNamed (name : Name) :
    (directoryNamed name).node? ["site".toList, name] = some .directory := by
  simp [Tree.node?, directoryNamed, List.lookup_cons]

/-- The index is there. -/
theorem node?_index_directoryNamed (name : Name) :
    (directoryNamed name).node? ["site".toList, name, "index.md".toList] = some (.file [120]) := by
  simp [Tree.node?, directoryNamed, List.lookup_cons]

/-- The tree is one that a file system may have, if the name is one that it may have. -/
theorem isProper_directoryNamed (plain : name.IsPlain) (checked : Tree.checkName name = .ok ()) :
    (directoryNamed name).IsProper where
  nodup := by simp [Tree.places, directoryNamed]
  placed := by
    intro place member
    have places : (directoryNamed name).places = [["site".toList], ["site".toList, name],
        ["site".toList, name, "index.md".toList]] := rfl
    rw [places, List.mem_cons, List.mem_cons, List.mem_singleton] at member
    rcases member with rfl | rfl | rfl
    · exact ⟨[], _, rfl, by decide, by decide, by decide, rfl⟩
    · exact ⟨["site".toList], _, rfl, plain.ne_here, plain.ne_up, checked, by
        simp [Tree.node?, directoryNamed]⟩
    · exact ⟨["site".toList, name], _, rfl, by decide, by decide, by decide,
        node?_directoryNamed name⟩
  unlinked := Tree.isUnlinked_of_nodes (by simp [directoryNamed, Node.isLink])
  workplace := rfl

/-- The directory can be asked for, if its name has no suffix. -/
theorem offers_directoryNamed (plain : name.IsPlain) (checked : Tree.checkName name = .ok ())
    (bare : Name.suffix name = []) :
    Offers (directoryNamed name) {} ["site".toList] [] name "index.md".toList
      "<p>x</p>\n".toList := by
  have proper := isProper_directoryNamed plain checked
  have parsed : Path.parse "index.md".toList = ⟨.none, ["index.md".toList]⟩ := by decide
  have place : indexPlace ["site".toList, name] "index.md".toList =
      ["site".toList, name, "index.md".toList] := by
    rw [indexPlace, parsed]
    rfl
  refine ⟨?_, ?_, node?_directoryNamed name, ⟨?_, ?_, [120], ?_⟩, ?_, ?_⟩
  · intro other member
    rw [List.nil_append, List.mem_singleton] at member
    exact member ▸ ⟨plain.ne_nil, plain.slash_free, plain.backslash_free⟩
  · rw [formatOf?, bare]
    decide
  · rw [parsed]
    decide
  · rw [parsed]
    decide
  · rw [parsed]
    exact node?_index_directoryNamed name
  · have read : (directoryNamed name).read
        (Tree.pathOf ["site".toList, name, "index.md".toList]) = .ok [120] := by
      have walked : (directoryNamed name).walk ⟨true, false⟩ Tree.maxLinks []
          ["site".toList, name, "index.md".toList] =
            .ok ["site".toList, name, "index.md".toList] := by
        have stands := proper.stands (node?_directoryNamed name)
        refine (stands.walk_root_append Tree.maxLinks ["index.md".toList]).trans ?_
        rw [Tree.walk_of_file (by decide) (by decide) (by decide) (node?_index_directoryNamed name)]
        rfl
      have noNull := Tree.null_free_of_walk proper.unlinked walked
      exact Tree.read_eq_ok_iff.mpr ⟨_, Tree.lookup_eq_ok_iff.mpr ⟨noNull, walked⟩,
        node?_index_directoryNamed name⟩
    have decoded : Utf8.decode [120] = .ok "x".toList := by cbv
    have becomes : Conversion.textOf (directoryNamed name) {} .html
        (Tree.pathOf ["site".toList, name, "index.md".toList]) = .ok "<p>x</p>\n".toList :=
      Conversion.textOf_html read decoded (by decide +kernel)
    rw [← place] at becomes
    exact becomes
  · have longer : (asMarkdown name == name) = false := by
      simp [asMarkdown]
    simp [Tree.node?, directoryNamed, List.lookup_cons, longer]

end DirectoryNamed

/-- A name of 252 bytes just leaves room for the suffix of Markdown files. -/
theorem index_served_at_limit :
    let name : Name := List.replicate 126 'é'
    let url := "/".toList ++ name ++ "/".toList
    (directoryNamed name).IsProper ∧ LeavesRoom name ∧
      respond (directoryNamed name) {} (.parse "site".toList) "index.md".toList url =
        .ok ⟨200, some htmlType, "<p>x</p>\n".toList⟩ := by
  intro name url
  have plain : name.IsPlain := by
    constructor <;> decide
  have checked : Tree.checkName name = .ok () := by decide +kernel
  have bare : Name.suffix name = [] := by decide +kernel
  have room : LeavesRoom name := fun _ => by decide +kernel
  have proper := isProper_directoryNamed plain checked
  have rooted : (directoryNamed name).resolve (.parse "site".toList) = .ok ["site".toList] :=
    Tree.resolve_of_isUnlinked proper.unlinked (by decide)
  have isUrl : IsUrlBelow ([] ++ [name]) url := Or.inr (by decide +kernel)
  obtain ⟨served, -⟩ :=
    index_served_iff_room proper rooted (offers_directoryNamed plain checked bare) isUrl
  exact ⟨proper, room, served.mpr room⟩

/-- A directory whose name is one byte longer, and not too long for a file system, is not served,
although it has an index that can be rendered and nothing stands beside it. -/
theorem index_missed_behind_limit :
    let name : Name := List.replicate 253 'a'
    (directoryNamed name).IsProper ∧
      Offers (directoryNamed name) {} ["site".toList] [] name "index.md".toList
        "<p>x</p>\n".toList ∧
      respond (directoryNamed name) {} (.parse "site".toList) "index.md".toList ('/' :: name) =
        .ok Failure.notFound.response := by
  intro name
  have plain : name.IsPlain := by
    constructor <;> decide
  have checked : Tree.checkName name = .ok () := by decide +kernel
  have bare : Name.suffix name = [] := by decide +kernel
  have noRoom : ¬ LeavesRoom name := fun room => absurd (room bare) (by decide +kernel)
  have proper := isProper_directoryNamed plain checked
  have offered := offers_directoryNamed plain checked bare
  have rooted : (directoryNamed name).resolve (.parse "site".toList) = .ok ["site".toList] :=
    Tree.resolve_of_isUnlinked proper.unlinked (by decide)
  have isUrl : IsUrlBelow ([] ++ [name]) ('/' :: name) := Or.inl (by decide +kernel)
  exact ⟨proper, offered, (offered.respond_eq proper rooted isUrl).2 noRoom⟩

end Site

end FoldMark
