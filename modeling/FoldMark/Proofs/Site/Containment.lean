import FoldMark.Proofs.Path.Suffix
import FoldMark.Proofs.Text.Pieces
import FoldMark.Proofs.Tree.Frame
import FoldMark.Site.Response
import Mathlib

/-!
# Containment of requests

Where the candidates of a request can lead. The names of a URL's path are plain, and so are those
made from the last one by adding a suffix. Taking a suffix off is different: what is left of a name
such as `...html` is two dots, which lead to the directory around. `candidates_contained_iff` proves
that this is the only way in which a candidate is not made of plain names, and that a candidate
leads out of the root exactly if such a name is all of the path. In every other case the source that
is found does not depend on what stands outside the root, unless a link leads there.
-/

namespace FoldMark

/-- A name that stands for a file in the directory where it is looked up. -/
structure Name.IsPlain (name : Name) : Prop where
  /-- It is not empty. -/
  ne_nil : name ≠ []
  /-- It does not lead nowhere. -/
  ne_here : name ≠ Name.here
  /-- It does not lead up. -/
  ne_up : name ≠ Name.up
  /-- It holds no slash. -/
  slash_free : '/' ∉ name
  /-- It holds no backslash. -/
  backslash_free : '\\' ∉ name
  /-- It holds no null character. -/
  null_free : '\x00' ∉ name

namespace Name

variable {name : Name}

/-- A plain name without its suffix is plain, unless a dot or two are left of it. -/
theorem IsPlain.stem_iff (plain : name.IsPlain) :
    (stem name).IsPlain ↔ stem name ≠ here ∧ stem name ≠ up :=
  ⟨fun stemPlain => ⟨stemPlain.ne_here, stemPlain.ne_up⟩, fun ⟨notHere, notUp⟩ =>
    ⟨stem_ne_nil plain.ne_nil, notHere, notUp,
      fun member => plain.slash_free (mem_of_mem_stem member),
      fun member => plain.backslash_free (mem_of_mem_stem member),
      fun member => plain.null_free (mem_of_mem_stem member)⟩⟩

end Name

namespace Path

/-- The path that a plain name writes is that name. -/
theorem parse_of_isPlain {name : Name} (plain : name.IsPlain) : parse name = ⟨.none, [name]⟩ := by
  have root : Root.ofText name = .none := by
    cases name with
    | nil => rfl
    | cons c rest =>
      have first : c ≠ '/' := fun slash => plain.slash_free (slash ▸ List.mem_cons_self)
      unfold Root.ofText
      split <;> simp_all
  have pieces : Text.splitAt (· == '/') name = [name] := by
    refine Text.splitAt_of_forall fun c member => ?_
    have : c ≠ '/' := fun slash => plain.slash_free (slash ▸ member)
    simpa using this
  simp [parse, root, namesOf, pieces, plain.ne_nil, plain.ne_here]

end Path

namespace Site

/-! ## The names of a path -/

/-- Cancelling leaves names that were there and do not lead up. -/
theorem mem_of_mem_cancel {names segments result : List Name}
    (cancelled : cancel names segments = some result) :
    ∀ name ∈ result, name ∈ names ∨ (name ∈ segments ∧ name ≠ Name.up) := by
  induction segments generalizing names with
  | nil =>
    obtain rfl : names.reverse = result := by simpa [cancel] using cancelled
    intro name member
    exact Or.inl (List.mem_reverse.mp member)
  | cons segment rest hypothesis =>
    simp only [cancel] at cancelled
    split at cancelled
    · cases names with
      | nil => simp at cancelled
      | cons last others =>
        intro name member
        rcases hypothesis cancelled name member with before | ⟨later, notUp⟩
        · exact Or.inl (List.mem_cons_of_mem _ before)
        · exact Or.inr ⟨List.mem_cons_of_mem _ later, notUp⟩
    · rename_i notUp
      intro name member
      rcases hypothesis cancelled name member with before | ⟨later, leads⟩
      · rcases List.mem_cons.mp before with rfl | before
        · exact Or.inr ⟨List.mem_cons_self, notUp⟩
        · exact Or.inl before
      · exact Or.inr ⟨List.mem_cons_of_mem _ later, leads⟩

/-- The names that the path of a URL leads through are plain. -/
theorem isPlain_of_mem_normalize {url : List Char} {names : List Name}
    (normal : normalize url = .ok names) : ∀ name ∈ names, name.IsPlain := by
  simp only [normalize] at normal
  split at normal
  · cases normal
  · rename_i noNull
    split at normal
    · rename_i result cancelled
      obtain rfl : result = names := by simpa using normal
      intro name member
      rcases mem_of_mem_cancel cancelled name member with impossible | ⟨inside, notUp⟩
      · simp at impossible
      · simp only [segments, List.mem_filter, Bool.and_eq_true, Bool.not_eq_true',
          List.isEmpty_eq_false_iff, bne_iff_ne] at inside
        obtain ⟨isPiece, nonempty, notHere⟩ := inside
        have held := Text.mem_of_mem_splitAt isPiece
        refine ⟨nonempty, notHere, notUp, fun slash => ?_, fun backslash => ?_, fun null => ?_⟩
        · simpa [isSeparator] using (held _ slash).2
        · simpa [isSeparator] using (held _ backslash).2
        · exact noNull (List.contains_iff_mem.mpr (held _ null).1)
    · cases normal

/-! ## Candidates -/

/-- The output format that the suffix of a name asks for. -/
def formatOf? (name : Name) : Option PayloadFormat :=
  formatSuffixes.lookup (String.ofList (Text.lower (Name.suffix name)))

/-- The path of a URL ends in a name that is only dots before the suffix of an output format. -/
def EndsInDots (url : List Char) (dots : Name) (parents : List Name) : Prop :=
  ∃ name, normalize url = .ok (parents ++ [name]) ∧ (formatOf? name).isSome = true ∧
    Name.stem name = dots

/-- A suffix of an output format is not one of Markdown files. -/
theorem not_markdown_of_format {suffix : String}
    (format : (formatSuffixes.lookup suffix).isSome = true) :
    markdownSuffixes.contains suffix = false := by
  by_cases markdown : suffix = ".md" ∨ suffix = ".markdown"
  · rcases markdown with rfl | rfl <;> exact absurd format (by decide)
  · simpa [markdownSuffixes, not_or] using markdown

/-- With the suffix of an output format, the candidates are the name without it. -/
theorem candidates_of_format {name : Name} (parents : List Name)
    (format : (formatOf? name).isSome = true) :
    (Request.ofName parents name).candidates =
      [parents ++ [asMarkdown (Name.stem name)], parents ++ [Name.stem name]] := by
  obtain ⟨found, isFormat⟩ := Option.isSome_iff_exists.mp format
  have notMarkdown := not_markdown_of_format format
  simp only [formatOf?] at isFormat
  simp only [Request.ofName, notMarkdown, isFormat, Bool.false_eq_true, if_false]

/-- Without one, the candidates keep the whole name. -/
theorem candidates_of_no_format {name : Name} (parents : List Name)
    (format : formatOf? name = none) :
    (Request.ofName parents name).candidates = [parents ++ [name]] ∨
      (Request.ofName parents name).candidates =
        [parents ++ [asMarkdown name], parents ++ [name]] := by
  simp only [formatOf?] at format
  simp only [Request.ofName, format]
  split
  · exact Or.inl rfl
  · split
    · exact Or.inr rfl
    · exact Or.inl rfl

/-- A name of plain characters with the suffix of Markdown files is plain. -/
theorem isPlain_asMarkdown {name : Name} (slash : '/' ∉ name) (backslash : '\\' ∉ name)
    (null : '\x00' ∉ name) : (asMarkdown name).IsPlain := by
  have last : (asMarkdown name).getLast? = some 'd' := by
    simp [asMarkdown, show ".md".toList = ['.', 'm', 'd'] from rfl]
  refine ⟨?_, ?_, ?_, ?_, ?_, ?_⟩
  · intro empty
    simp [empty] at last
  · intro here
    simp [here, Name.here] at last
  · intro up
    simp [up, Name.up] at last
  all_goals simp [asMarkdown, show ".md".toList = ['.', 'm', 'd'] from rfl, *]

/-- What the path of a URL asks for, by the last of its names. -/
theorem ofUrl_cases {url : List Char} {request : Request}
    (resolved : Request.ofUrl url = .ok request) :
    (normalize url = .ok [] ∧ request.candidates = [[]]) ∨
      ∃ parents name, normalize url = .ok (parents ++ [name]) ∧
        request = Request.ofName parents name := by
  simp only [Request.ofUrl] at resolved
  cases normal : normalize url with
  | error refusal => simp [normal, bind, Except.bind] at resolved
  | ok names =>
    simp only [normal, bind, Except.bind] at resolved
    cases last : names.getLast? with
    | none =>
      obtain rfl := List.getLast?_eq_none_iff.mp last
      simp only [List.getLast?_nil, Except.ok.injEq] at resolved
      exact Or.inl ⟨rfl, by rw [← resolved]⟩
    | some name =>
      simp only [last, Except.ok.injEq] at resolved
      obtain ⟨parents, rfl⟩ := List.getLast?_eq_some_iff.mp last
      exact Or.inr ⟨parents, name, rfl, by simpa using resolved.symm⟩

/-! ## Ways below the root -/

/-- A place is at or below a root. -/
def Below (root place : Place) : Prop := root <+: place

/-- A place is at or below a root, or a directory around the root. -/
def Around (root place : Place) : Prop := root <+: place ∨ place <+: root

/-- The source that is found for candidates does not depend on what stands outside the root: trees
that have the same in the root and on the way to it, and no link there, give the same answer. -/
def Blind (candidates : List (List Name)) : Prop :=
  ∀ (root : Place) (index : Name) (tree other : Tree), IsReduced root → index.IsPlain →
    AlikeIn (Around root) tree other →
      findSource tree root index candidates = findSource other root index candidates

variable {root place : Place} {names : List Name}

/-- Names that do not lead up stay below the root. -/
theorem stays_of_forall_ne_up (below : Below root place) (noUp : ∀ name ∈ names, name ≠ Name.up) :
    StaysIn (Below root) place names := by
  induction names generalizing place with
  | nil => exact fun _ => by simpa [lexicalPlace] using below
  | cons name rest hypothesis =>
    have restUp : ∀ name ∈ rest, name ≠ Name.up := fun name member =>
      noUp name (List.mem_cons_of_mem _ member)
    refine StaysIn.cons below (hypothesis ?_ restUp)
    by_cases here : name = Name.here
    · simpa [here] using below
    · rw [enter_of_ne place here (noUp name List.mem_cons_self)]
      exact below.trans (List.prefix_append place [name])

/-- Two dots stay below the root after a name. -/
theorem stays_up_of_ne_nil (plain : ∀ name ∈ names, name.IsPlain) (nonempty : names ≠ []) :
    StaysIn (Below root) root (names ++ [Name.up]) := by
  have start := stays_of_forall_ne_up (List.prefix_refl root) fun name member =>
    (plain name member).ne_up
  refine start.append (StaysIn.cons ?_ fun _ => ?_)
  · simpa using start names.length
  · rw [lexicalPlace_of_isReduced root fun name member =>
      ⟨(plain name member).ne_here, (plain name member).ne_up⟩]
    simp [lexicalPlace, Below, List.dropLast_append_of_ne_nil nonempty]

/-- The path of a candidate starts at the top of the tree. -/
theorem isAbsolute_pathBelow (root : Place) (names : List Name) :
    (pathBelow root names).isAbsolute = true := rfl

/-- The path of a candidate that stays below the root stays around the root. -/
theorem stays_pathBelow (reduced : IsReduced root) (stays : StaysIn (Below root) root names) :
    StaysIn (Around root) [] (pathBelow root names).names := by
  have start : StaysIn (Around root) [] root := fun count => by
    have reducedFirst : IsReduced (root.take count) := fun name member =>
      reduced name (List.mem_of_mem_take member)
    rw [lexicalPlace_of_isReduced [] reducedFirst]
    exact Or.inr (List.take_prefix count root)
  refine start.append ?_
  rw [lexicalPlace_of_isReduced [] reduced]
  exact fun count => Or.inl (stays.filter count)

/-- The path of a plain name below a candidate. -/
theorem join_parse_of_isPlain {index : Name} (plain : index.IsPlain) :
    (pathBelow root names).join (Path.parse index) = pathBelow root (names ++ [index]) := by
  have kept : (index != Name.here) = true := by simpa using plain.ne_here
  simp [Path.parse_of_isPlain plain, pathBelow, Path.join, Path.append, Path.isAbsolute,
    Tree.pathOf, kept]

/-- A plain name after names that stay below the root stays there. -/
theorem stays_append_isPlain {index : Name} (plain : index.IsPlain)
    (stays : StaysIn (Below root) root names) : StaysIn (Below root) root (names ++ [index]) := by
  refine stays.append (stays_of_forall_ne_up ?_ ?_)
  · simpa using stays names.length
  · intro name member
    obtain rfl : name = index := by simpa using member
    exact plain.ne_up

/-! ## Sources -/

/-- The path that a candidate leads to is its own or that of the index below it. -/
theorem candidatePath_cases {tree : Tree} {index : List Char} {path : Path}
    (leads : candidatePath tree root index names = .ok path) :
    path = pathBelow root names ∨ path = (pathBelow root names).join (Path.parse index) := by
  simp only [candidatePath] at leads
  cases directory : tree.isDirectory (pathBelow root names) with
  | error error => simp [directory, bind, Except.bind] at leads
  | ok isDirectory =>
    cases isDirectory with
    | false =>
      simp only [directory, bind, Except.bind, Bool.false_eq_true, if_false,
        Except.ok.injEq] at leads
      exact Or.inl leads.symm
    | true =>
      simp only [directory, bind, Except.bind, if_true, Except.ok.injEq] at leads
      exact Or.inr leads.symm

/-- Candidates that stay below the root are looked up alike in trees that are alike around it. -/
theorem findSource_eq {tree other : Tree} {index : Name} (reduced : IsReduced root)
    (plain : index.IsPlain) (alike : AlikeIn (Around root) tree other)
    (candidates : List (List Name))
    (stays : ∀ names ∈ candidates, StaysIn (Below root) root names) :
    findSource tree root index candidates = findSource other root index candidates := by
  induction candidates with
  | nil => rfl
  | cons names rest hypothesis =>
    have later := hypothesis fun names member => stays names (List.mem_cons_of_mem _ member)
    have inside := stays names List.mem_cons_self
    have path_eq : candidatePath tree root index names = candidatePath other root index names := by
      have around := stays_pathBelow reduced inside
      simp only [candidatePath, alike.isDirectory_eq (isAbsolute_pathBelow root names) around]
    simp only [findSource, path_eq]
    cases leads : candidatePath other root index names with
    | error error => rfl
    | ok path =>
      obtain ⟨below, belowStays, rfl⟩ : ∃ below, StaysIn (Below root) root below ∧
          path = pathBelow root below := by
        rcases candidatePath_cases leads with rfl | rfl
        · exact ⟨names, inside, rfl⟩
        · exact ⟨names ++ [index], stays_append_isPlain plain inside, join_parse_of_isPlain plain⟩
      have around := stays_pathBelow reduced belowStays
      have file_eq := alike.isFile_eq (isAbsolute_pathBelow root below) around
      have resolve_eq := alike.resolve_eq (isAbsolute_pathBelow root below) around
      simp only [isDocument, file_eq, resolve_eq, later]

/-- The directory that a root stands in, with a document beside the root. -/
def besideRoot : Tree := ⟨[([['r']], .directory), (["index.md".toList], .file [])], []⟩

/-- The directory that a root stands in, with nothing beside the root. -/
def alone : Tree := ⟨[([['r']], .directory)], []⟩

/-- Two dots tell whether there is a document beside the root. -/
theorem findSource_up :
    findSource besideRoot [['r']] "index.md".toList [[asMarkdown Name.up], [Name.up]] =
        .error .forbidden ∧
      findSource alone [['r']] "index.md".toList [[asMarkdown Name.up], [Name.up]] =
        .error .notFound := by
  constructor <;> cbv

/-- What stands beside a root is not around it. -/
theorem alike_besideRoot : AlikeIn (Around [['r']]) besideRoot alone := by
  have elsewhere : ∀ place, Around [['r']] place → place ≠ ["index.md".toList] := by
    rintro _ (below | above) rfl
    · exact absurd below (by decide)
    · exact absurd above (by decide)
  refine ⟨fun place around => ?_, fun place target around => ?_⟩
  · have apart : (place == ["index.md".toList]) = false := by simpa using elsewhere place around
    simp only [Tree.node?, besideRoot, alone, List.lookup_cons, apart]
  · have apart : (place == ["index.md".toList]) = false := by simpa using elsewhere place around
    simp only [Tree.node?, besideRoot, List.lookup_cons, apart, List.lookup_nil]
    split
    · simp
    · split <;> simp

/-- Two dots alone let the answer depend on what stands beside the root. -/
theorem not_blind_up : ¬ Blind [[asMarkdown Name.up], [Name.up]] := by
  intro blind
  have reduced : IsReduced [['r']] := by simp [IsReduced, Name.here, Name.up]
  have plain : Name.IsPlain "index.md".toList := by constructor <;> decide
  have same := blind [['r']] _ besideRoot alone reduced plain alike_besideRoot
  rw [findSource_up.1, findSource_up.2] at same
  cases same

/-! ## Requests -/

variable {url : List Char} {request : Request} {parents : List Name} {name dots : Name}

/-- Whether a path ends in such a name is told by its last name. -/
theorem endsInDots_iff (normal : normalize url = .ok (parents ++ [name])) (others : List Name) :
    EndsInDots url dots others ↔
      others = parents ∧ (formatOf? name).isSome = true ∧ Name.stem name = dots := by
  constructor
  · rintro ⟨last, same, format, stem⟩
    obtain ⟨rfl, last_eq⟩ := List.append_inj' (Except.ok.inj (normal.symm.trans same)) rfl
    obtain rfl : name = last := by simpa using last_eq
    exact ⟨rfl, format, stem⟩
  · rintro ⟨rfl, format, stem⟩
    exact ⟨name, normal, format, stem⟩

/-- Names before a name are plain along with it exactly if it is. -/
theorem forall_isPlain_append (plain : ∀ parent ∈ parents, parent.IsPlain) :
    (∀ other ∈ parents ++ [name], other.IsPlain) ↔ name.IsPlain := by
  constructor
  · intro all
    exact all name (by simp)
  · intro last other member
    rcases List.mem_append.mp member with member | member
    · exact plain other member
    · obtain rfl : other = name := by simpa using member
      exact last

/-- The candidates of a path of plain names are made of plain names unless the last name is only
dots before the suffix of an output format. -/
theorem isPlain_ofName_iff (plain : ∀ other ∈ parents ++ [name], other.IsPlain) :
    (∀ names ∈ (Request.ofName parents name).candidates, ∀ other ∈ names, other.IsPlain) ↔
      ¬ ((formatOf? name).isSome = true ∧
        (Name.stem name = Name.here ∨ Name.stem name = Name.up)) := by
  have parentPlain : ∀ parent ∈ parents, parent.IsPlain := fun parent member =>
    plain parent (List.mem_append_left _ member)
  have namePlain := (forall_isPlain_append parentPlain).mp plain
  cases format : formatOf? name with
  | none =>
    have markdown := isPlain_asMarkdown namePlain.slash_free namePlain.backslash_free
      namePlain.null_free
    rcases candidates_of_no_format parents format with only | two
    · simpa [only] using fun other member => plain other (by simpa using member)
    · simp only [two, List.forall_mem_cons, forall_isPlain_append parentPlain]
      simp [markdown, namePlain]
  | some found =>
    have markdown : (asMarkdown (Name.stem name)).IsPlain := isPlain_asMarkdown
      (fun member => namePlain.slash_free (Name.mem_of_mem_stem member))
      (fun member => namePlain.backslash_free (Name.mem_of_mem_stem member))
      (fun member => namePlain.null_free (Name.mem_of_mem_stem member))
    rw [candidates_of_format parents (by simp [format])]
    simp only [List.forall_mem_cons, forall_isPlain_append parentPlain, namePlain.stem_iff]
    simp [markdown, not_or]

/-- The candidates of a path of plain names stay below every root unless the path is a single name
of two dots before the suffix of an output format. -/
theorem stays_ofName (plain : ∀ other ∈ parents ++ [name], other.IsPlain)
    (apart : ¬ (parents = [] ∧ (formatOf? name).isSome = true ∧ Name.stem name = Name.up))
    (root : Place) :
    ∀ names ∈ (Request.ofName parents name).candidates, StaysIn (Below root) root names := by
  have ofPlain : ∀ names : List Name, (∀ other ∈ names, other.IsPlain) →
      StaysIn (Below root) root names := fun names all =>
    stays_of_forall_ne_up (List.prefix_refl root) fun other member => (all other member).ne_up
  have parentPlain : ∀ parent ∈ parents, parent.IsPlain := fun parent member =>
    plain parent (List.mem_append_left _ member)
  by_cases dotted : (formatOf? name).isSome = true ∧
      (Name.stem name = Name.here ∨ Name.stem name = Name.up)
  · obtain ⟨format, stem⟩ := dotted
    rw [candidates_of_format parents format]
    have markdown : (asMarkdown (Name.stem name)).IsPlain := by
      rcases stem with stem | stem <;> rw [stem] <;> constructor <;> decide
    simp only [List.forall_mem_cons, List.not_mem_nil, false_implies, implies_true, and_true]
    refine ⟨ofPlain _ ((forall_isPlain_append parentPlain).mpr markdown), ?_⟩
    rcases stem with stem | stem
    · rw [stem]
      refine stays_of_forall_ne_up (List.prefix_refl root) fun other member => ?_
      rcases List.mem_append.mp member with member | member
      · exact (parentPlain other member).ne_up
      · obtain rfl : other = Name.here := by simpa using member
        decide
    · rw [stem]
      exact stays_up_of_ne_nil parentPlain fun empty => apart ⟨empty, format, stem⟩
  · intro names member
    exact ofPlain names ((isPlain_ofName_iff plain).mpr dotted names member)

/-- A single name of two dots before an output suffix asks for the directory around. -/
theorem candidates_of_up (ends : EndsInDots url Name.up [])
    (resolved : Request.ofUrl url = .ok request) :
    request.candidates = [[asMarkdown Name.up], [Name.up]] := by
  rcases ofUrl_cases resolved with ⟨normal, _⟩ | ⟨parents, name, normal, rfl⟩
  · obtain ⟨name, impossible, _⟩ := ends
    simp [normal] at impossible
  · obtain ⟨rfl, format, stem⟩ := (endsInDots_iff normal []).mp ends
    simpa [stem] using candidates_of_format [] format

/-- Requests are contained, with one exception. The candidates for the path of a URL consist of
plain names exactly if the path does not end in one or two dots before the suffix of an output
format. They stay below every root, and the source that is found does not depend on what stands
outside the root unless a link leads there, exactly if the path is not a single name of two dots
before such a suffix. -/
theorem candidates_contained_iff (resolved : Request.ofUrl url = .ok request) :
    ((∀ names ∈ request.candidates, ∀ name ∈ names, name.IsPlain) ↔
        ¬ ∃ parents, EndsInDots url Name.here parents ∨ EndsInDots url Name.up parents) ∧
      ((∀ root, ∀ names ∈ request.candidates, StaysIn (Below root) root names) ↔
        ¬ EndsInDots url Name.up []) ∧
      (Blind request.candidates ↔ ¬ EndsInDots url Name.up []) := by
  have stays : ¬ EndsInDots url Name.up [] →
      ∀ root, ∀ names ∈ request.candidates, StaysIn (Below root) root names := by
    intro apart root
    rcases ofUrl_cases resolved with ⟨_, candidates⟩ | ⟨parents, name, normal, rfl⟩
    · intro names member
      obtain rfl : names = [] := by simpa [candidates] using member
      exact stays_of_forall_ne_up (List.prefix_refl root) (by simp)
    · refine stays_ofName (isPlain_of_mem_normalize normal) (fun ⟨empty, dotted⟩ => apart ?_) root
      exact (endsInDots_iff normal []).mpr ⟨empty.symm, dotted⟩
  refine ⟨?_, ⟨fun inside ends => ?_, stays⟩, ⟨fun blind ends => ?_, fun apart => ?_⟩⟩
  · rcases ofUrl_cases resolved with ⟨normal, candidates⟩ | ⟨parents, name, normal, rfl⟩
    · simp [EndsInDots, candidates, normal]
    · rw [isPlain_ofName_iff (isPlain_of_mem_normalize normal)]
      simp only [endsInDots_iff normal]
      simp [← and_or_left]
  · have leaves := inside [['r']] [Name.up] (by simp [candidates_of_up ends resolved]) 1
    change [['r']] <+: [] at leaves
    simp at leaves
  · rw [candidates_of_up ends resolved] at blind
    exact not_blind_up blind
  · intro root index tree other reduced plain alike
    exact findSource_eq reduced plain alike request.candidates (stays apart root)

/-- Two dots after a directory are no plain name, but lead only to the root. -/
theorem candidates_contained_in_directory :
    Request.ofUrl "/a/...json".toList =
        .ok ⟨[[['a'], "...md".toList], [['a'], Name.up]], .json⟩ ∧
      (¬ ∀ names ∈ [[['a'], "...md".toList], [['a'], Name.up]], ∀ name ∈ names, Name.IsPlain name) ∧
      Blind [[['a'], "...md".toList], [['a'], Name.up]] := by
  have resolved : Request.ofUrl "/a/...json".toList =
      .ok ⟨[[['a'], "...md".toList], [['a'], Name.up]], .json⟩ := rfl
  have normal : normalize "/a/...json".toList = .ok ([['a']] ++ ["...json".toList]) := rfl
  obtain ⟨plain_iff, _, blind_iff⟩ := candidates_contained_iff resolved
  refine ⟨resolved, fun plain => plain_iff.mp plain ⟨[['a']], Or.inr ?_⟩, blind_iff.mpr ?_⟩
  · exact (endsInDots_iff normal _).mpr ⟨rfl, rfl, rfl⟩
  · intro ends
    exact absurd ((endsInDots_iff normal []).mp ends).1 (by decide)

/-- Two dots alone lead out of the root, and the answer tells what stands there. -/
theorem request_leads_out :
    Request.ofUrl "/...html".toList = .ok ⟨[["...md".toList], [Name.up]], .html⟩ ∧
      ¬ Name.IsPlain Name.up ∧ lexicalPlace [['r']] [Name.up] = [] ∧
      findSource besideRoot [['r']] "index.md".toList [["...md".toList], [Name.up]] =
        .error .forbidden ∧
      findSource alone [['r']] "index.md".toList [["...md".toList], [Name.up]] =
        .error .notFound := by
  refine ⟨rfl, fun plain => plain.ne_up rfl, rfl, ?_⟩
  simpa [asMarkdown, Name.up] using findSource_up

end Site

end FoldMark
