import FoldMark.Proofs.Chain
import FoldMark.Proofs.Entries
import FoldMark.Proofs.Tree.Walk
import FoldMark.Tree.Change

/-!
# What changes keep

Directories that are made and files that are written leave everything else where it was. `Extends`
tells this of two trees. Every operation puts some directories and files into a tree (`Changes`), so
what holds of each that is put holds of every operation: it extends the tree (`Changes.toExtends`).
Where there are no links, a path that led somewhere before a change leads there afterwards
(`Extends.locate`), so a file that is not written can be read as before, and one that is written
holds what was written.
-/

namespace FoldMark.Tree

/-- There is no link in a tree. -/
def IsUnlinked (tree : Tree) : Prop := ∀ place target, tree.node? place ≠ some (.link target)

/-- Without links, a lookup that comes to its end goes through directories. -/
theorem IsUnlinked.reaches {tree : Tree} {last : LastName} {place found : Place} {links : Nat}
    {names : List Name} (unlinked : tree.IsUnlinked)
    (walked : tree.walk last links place names = .ok found) : tree.Reaches place names found :=
  reaches_of_walk (fun place target (_ : True) => unlinked place target) (fun _ => trivial) walked

/-- Without links, the last name leads to what stands there. -/
theorem IsUnlinked.walk_last {tree : Tree} {place : Place} {name : Name}
    (unlinked : tree.IsUnlinked) (notHere : name ≠ Name.here) (notUp : name ≠ Name.up) (checked : checkName name = .ok ())
    (present : tree.node? (place ++ [name]) ≠ none) (last : LastName) (links : Nat) :
    tree.walk last links place [name] = .ok (place ++ [name]) := by
  obtain ⟨node, met⟩ := Option.ne_none_iff_exists'.mp present
  cases node with
  | directory => rw [walk_of_directory notHere notUp checked met, walk_nil]
  | file data =>
    rw [walk_of_file notHere notUp checked met]
    rfl
  | link target => exact absurd met (unlinked _ target)

/-- The place that a path leads to by its text. -/
def textualPlace (tree : Tree) (path : Path) : Place := lexicalPlace (tree.start path) path.names

variable {tree next other : Tree} {place found : Place} {path : Path} {last : LastName}
  {data : List UInt8} {written more : List Place}

/-! ## Files and places -/

/-- A path can be read exactly if it leads to a file. -/
theorem read_eq_ok_iff :
    tree.read path = .ok data ↔
      ∃ place, tree.locate path = .ok place ∧ tree.node? place = some (.file data) := by
  rw [read, status]
  cases located : tree.locate path with
  | error error => simp [bind, Except.bind]
  | ok place =>
    cases found : tree.node? place with
    | none => simp [bind, Except.bind, found]
    | some node => cases node <;> simp [bind, Except.bind, found]

/-- A path passes a test exactly if it leads to a node that does. -/
theorem leadsTo_eq_true_iff {test : Node → Bool} :
    tree.leadsTo test path = .ok true ↔ ∃ place, tree.locate path = .ok place ∧
      ∃ node, tree.node? place = some node ∧ test node = true := by
  simp only [leadsTo, status]
  cases located : tree.locate path with
  | error error =>
    simp only [bind, Except.bind]
    split <;> simp
  | ok place =>
    cases found : tree.node? place with
    | none =>
      simp only [bind, Except.bind, found]
      split <;> simp [found]
    | some node => simp [bind, Except.bind, found]

/-- A path is that of a file exactly if it leads to one. -/
theorem isFile_eq_true_iff :
    tree.isFile path = .ok true ↔ ∃ data, tree.read path = .ok data := by
  simp only [isFile, leadsTo_eq_true_iff, read_eq_ok_iff]
  constructor
  · rintro ⟨place, located, node, found, isFile⟩
    cases node with
    | file data => exact ⟨data, place, located, found⟩
    | directory | link => cases isFile
  · rintro ⟨data, place, located, found⟩
    exact ⟨place, located, _, found, rfl⟩

/-- Where no link is listed, there is none. -/
theorem isUnlinked_of_nodes (listed : ∀ entry ∈ tree.nodes, entry.2.isLink = false) :
    tree.IsUnlinked := by
  intro place target found
  rw [node?] at found
  split at found
  · cases found
  · obtain ⟨before, after, whole, -⟩ := List.lookup_eq_some_iff.mp found
    have noLink := listed (place, .link target) (by simp [whole])
    simp [Node.isLink] at noLink

/-- Names that are no dots lead to a place below that of a path. -/
theorem textualPlace_append {names : List Name} (reduced : IsReduced names) :
    tree.textualPlace (path.append names) = tree.textualPlace path ++ names := by
  rw [textualPlace, textualPlace, ← lexicalPlace_of_isReduced _ reduced]
  exact List.foldl_append

/-- Without links, a path leads where it does by its text. -/
theorem eq_textualPlace_of_lookup (unlinked : tree.IsUnlinked)
    (looked : tree.lookup last path = .ok place) : place = tree.textualPlace path := by
  have stays : StaysIn (fun _ => True) (tree.start path) path.names := fun _ => trivial
  exact walk_eq_lexicalPlace (fun place target _ => unlinked place target) stays
    (lookup_eq_ok_iff.mp looked).2

/-- Where a node is put it stands, and everything else stays. -/
theorem node?_put (nonempty : place ≠ []) (node : Node) (spot : Place) :
    (tree.put place node).node? spot = if spot = place then some node else tree.node? spot := by
  by_cases top : spot = []
  · subst top
    rw [if_neg (Ne.symm nonempty)]
    rfl
  have inside : ∀ tree : Tree, tree.node? spot = tree.nodes.lookup spot := fun tree => by
    simp [node?, top]
  rw [inside, inside, ← lookup_put, put]
  split <;> rfl

/-! ## Extensions of a tree -/

/-- A tree has all that another has. Files may hold something else at some places, and at those
there are files. -/
structure Extends (written : List Place) (tree next : Tree) : Prop where
  /-- The working directory is the same. -/
  workplace_eq : next.workplace = tree.workplace
  /-- Directories stay. -/
  directory : ∀ place, tree.node? place = some .directory → next.node? place = some .directory
  /-- Files stay as they are where nothing is written. -/
  file : ∀ place data, tree.node? place = some (.file data) → place ∉ written →
    next.node? place = some (.file data)
  /-- Where something is written, there is a file. -/
  rewritten : ∀ place ∈ written, ∃ data, next.node? place = some (.file data)
  /-- There are no new links. -/
  unlinked : tree.IsUnlinked → next.IsUnlinked

namespace Extends

/-- A tree has all that it has. -/
theorem refl (tree : Tree) : Extends [] tree tree :=
  ⟨rfl, fun _ found => found, fun _ _ found _ => found, nofun, id⟩

/-- One extension after another writes what both do. -/
theorem trans (first : Extends written tree next) (second : Extends more next other) :
    Extends (written ++ more) tree other := by
  refine ⟨second.workplace_eq.trans first.workplace_eq,
    fun place found => second.directory place (first.directory place found), ?_, ?_,
    fun unlinked => second.unlinked (first.unlinked unlinked)⟩
  · intro place data found apart
    rw [List.mem_append, not_or] at apart
    exact second.file place data (first.file place data found apart.1) apart.2
  · intro place member
    by_cases later : place ∈ more
    · exact second.rewritten place later
    · obtain ⟨data, found⟩ := first.rewritten place
        ((List.mem_append.mp member).resolve_right later)
      exact ⟨data, second.file place data found later⟩

/-- Where a file stood there is one, also if it is written. -/
theorem exists_file (grown : Extends written tree next)
    (file : tree.node? place = some (.file data)) :
    ∃ data, next.node? place = some (.file data) := by
  by_cases member : place ∈ written
  · exact grown.rewritten place member
  · exact ⟨data, grown.file place data file member⟩

/-- Names that led somewhere lead there still, if something stands there. -/
theorem walk (grown : Extends written tree next) (unlinked : tree.IsUnlinked)
    {names : List Name} {links : Nat} (walked : tree.walk last links place names = .ok found)
    (present : next.node? found ≠ none) (newLast : LastName) :
    next.walk newLast links place names = .ok found := by
  induction unlinked.reaches walked with
  | stop place => exact walk_nil links place
  | here _ hypothesis => simpa using hypothesis (by simpa using walked) present
  | up _ hypothesis => simpa using hypothesis (by simpa using walked) present
  | through notHere notUp checked directory _ hypothesis =>
    rw [walk_of_directory notHere notUp checked directory] at walked
    rw [walk_of_directory notHere notUp checked (grown.directory _ directory)]
    exact hypothesis walked present
  | last notHere notUp checked =>
    exact (grown.unlinked unlinked).walk_last notHere notUp checked present newLast _

/-- A path starts where it did. -/
theorem start_eq (grown : Extends written tree next) (path : Path) :
    next.start path = tree.start path := by
  rw [start, start, grown.workplace_eq]

/-- A path leads to the same place by its text. -/
theorem textualPlace_eq (grown : Extends written tree next) (path : Path) :
    next.textualPlace path = tree.textualPlace path := by
  rw [textualPlace, textualPlace, grown.start_eq]

/-- A path that led somewhere leads there still, if something stands there. -/
theorem locate (grown : Extends written tree next) (unlinked : tree.IsUnlinked)
    (looked : tree.lookup last path = .ok found) (present : next.node? found ≠ none) :
    next.locate path = .ok found := by
  obtain ⟨noNull, walked⟩ := lookup_eq_ok_iff.mp looked
  rw [← grown.start_eq] at walked
  exact lookup_eq_ok_iff.mpr ⟨noNull, grown.walk unlinked walked present _⟩

/-- A file that is not written is read as before. -/
theorem read (grown : Extends written tree next) (unlinked : tree.IsUnlinked)
    (read : tree.read path = .ok data) (apart : tree.textualPlace path ∉ written) :
    next.read path = .ok data := by
  obtain ⟨place, located, found⟩ := read_eq_ok_iff.mp read
  rw [← eq_textualPlace_of_lookup unlinked located] at apart
  have kept := grown.file place data found apart
  exact read_eq_ok_iff.mpr ⟨place, grown.locate unlinked located (by simp [kept]), kept⟩

end Extends

/-! ## Changes -/

/-- A place where nothing stands, or a file, is not the root. -/
theorem ne_nil_of_node? (noDirectory : tree.node? place ≠ some .directory) : place ≠ [] := by
  rintro rfl
  exact noDirectory rfl

/-- A place where nothing stands is not the root. -/
theorem ne_nil_of_absent (absent : tree.node? place = none) : place ≠ [] := by
  rintro rfl
  cases absent

/-- Putting a directory where nothing stands extends a tree. -/
theorem extends_put_directory (absent : tree.node? place = none) :
    Extends [] tree (tree.put place .directory) := by
  have nonempty := ne_nil_of_absent absent
  have kept : ∀ spot node, tree.node? spot = some node →
      (tree.put place .directory).node? spot = some node := by
    intro spot node found
    have apart : spot ≠ place := by
      rintro rfl
      simp [absent] at found
    rw [node?_put nonempty, if_neg apart, found]
  refine ⟨?_, fun spot found => kept spot _ found, fun spot data found _ => kept spot _ found,
    nofun, fun unlinked spot target => ?_⟩
  · rw [put]
    split <;> rfl
  · rw [node?_put nonempty]
    split
    · simp
    · exact unlinked spot target

/-- Putting a file where no directory stands extends a tree. -/
theorem extends_put_file (noDirectory : tree.node? place ≠ some .directory) (data : List UInt8) :
    Extends [place] tree (tree.put place (.file data)) := by
  have nonempty : place ≠ [] := ne_nil_of_node? noDirectory
  refine ⟨?_, fun spot found => ?_, fun spot _ found apart => ?_, fun spot member => ?_,
    fun unlinked spot target => ?_⟩
  · rw [put]
    split <;> rfl
  · have apart : spot ≠ place := by
      rintro rfl
      exact noDirectory found
    rw [node?_put nonempty, if_neg apart, found]
  · rw [node?_put nonempty, if_neg (by simpa using apart), found]
  · obtain rfl : spot = place := by simpa using member
    exact ⟨data, by rw [node?_put nonempty, if_pos rfl]⟩
  · rw [node?_put nonempty]
    split
    · simp
    · exact unlinked spot target

/-- What is put into a tree one after the other, each at a place that a path leads to: directories
where nothing stands, and files where no directory does. The places of the files are listed. -/
inductive Changes : List Place → Tree → Tree → Prop where
  /-- Nothing is put. -/
  | none {tree : Tree} : Changes [] tree tree
  /-- A directory is made. -/
  | directory {last : LastName} {path : Path} {place : Place} {written : List Place}
    {tree next : Tree} (looked : tree.lookup last path = .ok place)
    (absent : tree.node? place = none) (later : Changes written (tree.put place .directory) next) :
    Changes written tree next
  /-- A file is written. -/
  | file {last : LastName} {path : Path} {place : Place} {data : List UInt8} {written : List Place}
    {tree next : Tree} (looked : tree.lookup last path = .ok place)
    (noDirectory : tree.node? place ≠ some .directory)
    (later : Changes written (tree.put place (.file data)) next) :
    Changes (place :: written) tree next

namespace Changes

/-- What is put after something else is put with it. -/
theorem trans (first : Changes written tree next) (second : Changes more next other) :
    Changes (written ++ more) tree other := by
  induction first with
  | none => exact second
  | directory looked absent later hypothesis => exact .directory looked absent (hypothesis second)
  | file looked noDirectory later hypothesis => exact .file looked noDirectory (hypothesis second)

/-- All that is put extends a tree. -/
theorem toExtends (changes : Changes written tree next) : Extends written tree next := by
  induction changes with
  | none => exact Extends.refl _
  | directory looked absent later hypothesis =>
    exact (extends_put_directory absent).trans hypothesis
  | @file last path place data written tree next looked noDirectory later hypothesis =>
    exact (extends_put_file noDirectory data).trans hypothesis

end Changes

/-- Making a directory puts it. -/
theorem changes_makeDirectory (made : tree.makeDirectory path = .ok next) :
    Changes [] tree next := by
  obtain ⟨place, looked, made⟩ := exists_of_bind_eq_ok made
  split at made
  · rename_i absent
    obtain rfl := Except.ok.inj made
    exact .directory looked absent .none
  · cases made

/-- Making one unless there is one puts it or nothing. -/
theorem changes_ensureDirectory (made : tree.ensureDirectory path = .ok next) :
    Changes [] tree next := by
  rw [ensureDirectory] at made
  split at made
  · rename_i other makes
    obtain rfl := Except.ok.inj made
    exact changes_makeDirectory makes
  · split at made
    · obtain rfl := Except.ok.inj made
      exact .none
    · cases made
    · cases made

/-- A change that is not done puts nothing. -/
theorem changes_attempt {change : Except FileError Tree}
    (changes_of_ok : ∀ next, change = .ok next → Changes [] tree next) :
    Changes [] tree (tree.attempt change).tree := by
  cases change with
  | ok next => exact changes_of_ok next rfl
  | error error => exact .none

/-- Making a directory with those around it puts what can be made of them. -/
theorem changes_makeNames (tree : Tree) (root : Path.Root) (names : List Name) :
    Changes [] tree (tree.makeNames root names).tree := by
  have single : ∀ (tree : Tree) (path : Path),
      Changes [] tree (tree.attempt (tree.ensureDirectory path)).tree := fun tree path =>
    changes_attempt fun _ => changes_ensureDirectory
  induction names with
  | nil => exact single tree _
  | cons name front hypothesis =>
    rw [makeNames]
    split
    · rename_i other makes
      exact changes_makeDirectory makes
    · split
      · dsimp only
        split
        · exact hypothesis.trans (single _ _)
        · exact hypothesis
      · exact single tree _

/-- Where a directory and those around it are made, all of them could be. -/
theorem eq_of_ensureDirectories (made : tree.ensureDirectories path = .ok next) :
    (tree.makeDirectories path).tree = next := by
  rw [ensureDirectories] at made
  split at made
  · exact Except.ok.inj made
  · cases made

/-- Making a directory and those around it puts them. -/
theorem changes_ensureDirectories (made : tree.ensureDirectories path = .ok next) :
    Changes [] tree next := by
  rw [← eq_of_ensureDirectories made]
  exact changes_makeNames tree path.root _

/-- Without links, writing a file puts it at the place of the path, and what was written is read
afterwards. -/
theorem changes_write (unlinked : tree.IsUnlinked) (wrote : tree.write path data = .ok next) :
    Changes [tree.textualPlace path] tree next ∧ next.read path = .ok data := by
  obtain ⟨place, looked, wrote⟩ := exists_of_bind_eq_ok wrote
  split at wrote
  · cases wrote
  · rename_i noDirectory
    rw [← eq_textualPlace_of_lookup unlinked looked]
    obtain rfl := Except.ok.inj wrote
    have written : (tree.put place (.file data)).node? place = some (.file data) := by
      rw [node?_put (ne_nil_of_node? noDirectory), if_pos rfl]
    have located :=
      (extends_put_file noDirectory data).locate unlinked looked (by simp [written])
    exact ⟨.file looked noDirectory .none, read_eq_ok_iff.mpr ⟨place, located, written⟩⟩

end FoldMark.Tree
