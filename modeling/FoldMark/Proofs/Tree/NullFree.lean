import FoldMark.Proofs.Text.Pieces
import FoldMark.Proofs.Tree.Change

/-!
# Null characters

No file can have a name with a null character, and an operation that comes to one is refused. Where
neither a path nor a link holds one, no operation is refused for it, and none makes a link that
does: `admits_ensureDirectories`, `admits_write`.
-/

namespace FoldMark.Tree

variable {tree : Tree} {last : LastName} {names : List Name} {path : Path}

/-- No name holds a null character. -/
def IsNullFree (names : List Name) : Prop := ∀ name ∈ names, '\x00' ∉ name

/-- No link holds a null character. -/
def HasNullFreeLinks (tree : Tree) : Prop :=
  ∀ place target, tree.node? place = some (.link target) → '\x00' ∉ target

/-- The names of a path are checked for null characters before anything else. -/
theorem any_contains_eq_false_iff :
    names.any (·.contains '\x00') = false ↔ IsNullFree names := by
  simp [IsNullFree, List.any_eq_false]

/-- The names of a link's target hold a null character only if the target does. -/
theorem isNullFree_targetNames {target : List Char} (free : '\x00' ∉ target) :
    IsNullFree (targetNames target) := by
  have pieces : IsNullFree ((Text.splitAt (· == '/') target).filter (!·.isEmpty)) :=
    fun name member inside =>
      free (Text.mem_of_mem_splitAt (List.mem_filter.mp member).1 _ inside).1
  intro name member
  rw [targetNames] at member
  split at member
  · rcases List.mem_append.mp member with before | final
    · exact pieces name before
    · rw [List.mem_singleton.mp final]
      decide
  · exact pieces name member

/-- A name without a null character is not refused for one. -/
theorem checkName_ne_nullInName {name : Name} (free : '\x00' ∉ name) :
    checkName name ≠ .error .nullInName := by
  rw [checkName, if_neg (by simpa using free)]
  split <;> nofun

/-- No lookup comes to a null character if neither the names nor the links hold one. -/
theorem walk_ne_nullInName (links : tree.HasNullFreeLinks) (count : Nat) (place : Place)
    (free : IsNullFree names) : tree.walk last count place names ≠ .error .nullInName := by
  intro failed
  rcases cause_of_walk failed with
    absent | ⟨name, member | ⟨spot, target, found, inside⟩, refused⟩
  · exact absurd absent (by decide)
  · exact checkName_ne_nullInName (free name member) refused
  · exact checkName_ne_nullInName (isNullFree_targetNames (links spot target found) name inside)
      refused

/-! ## Changes -/

/-- An outcome is no refusal of a null character, and a tree has none in its links. -/
structure Admits (outcome : Except FileError Tree) : Prop where
  /-- No link of the tree holds a null character. -/
  links : ∀ next, outcome = .ok next → next.HasNullFreeLinks
  /-- It is not refused for one. -/
  refusal : ∀ error, outcome = .error error → error.cause ≠ .nullInName

/-- A tree without null characters in its links. -/
theorem admits_ok (links : tree.HasNullFreeLinks) : Admits (.ok tree) :=
  ⟨by rintro _ ⟨⟩; exact links, nofun⟩

/-- A failure that is no refusal of a null character. -/
theorem admits_error {error : FileError} (other : error.cause ≠ .nullInName) :
    Admits (.error error) :=
  ⟨nofun, by rintro _ ⟨⟩; exact other⟩

/-- What is done at the place of a path. -/
theorem admits_lookup_bind {next : Place → Except FileError Tree} (links : tree.HasNullFreeLinks)
    (free : IsNullFree path.names)
    (later : ∀ place, tree.lookup last path = .ok place → Admits (next place)) :
    Admits (tree.lookup last path >>= next) := by
  cases looked : tree.lookup last path with
  | ok place => exact later place looked
  | error error =>
    refine admits_error ?_
    rw [lookup, any_contains_eq_false_iff.mpr free, if_neg Bool.false_ne_true] at looked
    split at looked
    · cases looked
    · rename_i cause walked
      cases looked
      intro same
      exact walk_ne_nullInName links _ _ free (walked.trans (congrArg _ same))

/-- Putting what is no link where there is no directory. -/
theorem hasNullFreeLinks_put {place : Place} {node : Node} (links : tree.HasNullFreeLinks)
    (vacant : tree.node? place ≠ some .directory) (notLink : ∀ target, node ≠ .link target) :
    (tree.put place node).HasNullFreeLinks := by
  have nonempty : place ≠ [] := by
    rintro rfl
    exact vacant rfl
  intro spot target found
  rw [node?_put nonempty] at found
  split at found
  · exact absurd (Option.some.inj found) (notLink target)
  · exact links spot target found

/-- Making one directory. -/
theorem admits_makeDirectory (links : tree.HasNullFreeLinks) (free : IsNullFree path.names) :
    Admits (tree.makeDirectory path) := by
  refine admits_lookup_bind links free fun place _ => ?_
  split
  · rename_i vacant
    refine admits_ok (hasNullFreeLinks_put links ?_ nofun)
    rw [vacant]
    nofun
  · exact admits_error nofun

/-- Whether a path leads to something is not refused for a null character. -/
theorem cause_ne_nullInName_of_leadsTo {test : Node → Bool} {error : FileError}
    (failed : tree.leadsTo test path = .error error) : error.cause ≠ .nullInName := by
  rw [leadsTo] at failed
  split at failed
  · cases failed
  · split at failed
    · cases failed
    · rename_i other
      cases failed
      intro same
      rw [same] at other
      exact other rfl

/-- Making one directory, unless there is one. -/
theorem admits_ensureDirectory (links : tree.HasNullFreeLinks) (free : IsNullFree path.names) :
    Admits (tree.ensureDirectory path) := by
  have made := admits_makeDirectory links free
  rw [ensureDirectory]
  split
  · rename_i next done
    exact admits_ok (made.links next done)
  · rename_i error failed
    split
    · exact admits_ok links
    · exact admits_error (made.refusal error failed)
    · rename_i other asked
      exact admits_error (cause_ne_nullInName_of_leadsTo asked)

/-- What is left of an operation has no null character in its links, and the operation did not stop
at one. -/
structure AdmitsAttempt (attempt : Attempt) : Prop where
  /-- No link of the tree holds a null character. -/
  links : attempt.tree.HasNullFreeLinks
  /-- It did not stop at one. -/
  refusal : ∀ error, attempt.failure = some error → error.cause ≠ .nullInName

/-- A change that is done or leaves a tree as it is. -/
theorem admitsAttempt_attempt {change : Except FileError Tree} (links : tree.HasNullFreeLinks)
    (admits : Admits change) : AdmitsAttempt (tree.attempt change) := by
  cases change with
  | ok next => exact ⟨admits.links next rfl, nofun⟩
  | error error => exact ⟨links, by rintro _ ⟨⟩; exact admits.refusal error rfl⟩

/-- Making the directory of names and those around it. -/
theorem admitsAttempt_makeNames (links : tree.HasNullFreeLinks) (root : Path.Root)
    {names : List Name} (free : IsNullFree names) :
    AdmitsAttempt (tree.makeNames root names) := by
  induction names with
  | nil =>
    have whole : IsNullFree [] := List.forall_mem_nil _
    exact admitsAttempt_attempt links (admits_ensureDirectory links whole)
  | cons last front hypothesis =>
    have whole : IsNullFree (last :: front).reverse := fun name member =>
      free name (List.mem_reverse.mp member)
    let path : Path := ⟨root, (last :: front).reverse⟩
    have made : Admits (tree.makeDirectory path) := admits_makeDirectory links whole
    rw [makeNames]
    split
    · rename_i next done
      exact ⟨made.links next done, fun error failed => by cases failed⟩
    · split
      · have around := hypothesis (List.forall_mem_cons.mp free).2
        dsimp only
        split
        · exact admitsAttempt_attempt around.links (admits_ensureDirectory around.links whole)
        · exact around
      · exact admitsAttempt_attempt links (admits_ensureDirectory links whole)

/-- Making a directory and those around it. -/
theorem admits_ensureDirectories (links : tree.HasNullFreeLinks) (free : IsNullFree path.names) :
    Admits (tree.ensureDirectories path) := by
  have attempt : AdmitsAttempt (tree.makeDirectories path) :=
    admitsAttempt_makeNames links path.root fun name member =>
      free name (List.mem_reverse.mp member)
  rw [ensureDirectories]
  split
  · exact admits_ok attempt.links
  · rename_i error stopped
    exact admits_error (attempt.refusal error stopped)

/-- Writing a file. -/
theorem admits_write (links : tree.HasNullFreeLinks) (free : IsNullFree path.names)
    (data : List UInt8) : Admits (tree.write path data) := by
  refine admits_lookup_bind links free fun place _ => ?_
  split
  · exact admits_error nofun
  · rename_i vacant
    exact admits_ok (hasNullFreeLinks_put links vacant nofun)

end FoldMark.Tree
