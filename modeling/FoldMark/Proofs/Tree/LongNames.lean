import FoldMark.Proofs.Chain
import FoldMark.Proofs.Tree.Walk

/-!
# Names that are too long

A path that is only probed leads to something or to nothing, unless a name on the way is too long:
that alone is not told as an absence (`cause_of_isPresent`). Where neither the path nor a link holds
such a name, probing does not fail.
-/

namespace FoldMark.Tree

open Text

variable {tree : Tree} {last : LastName} {names : List Name} {path : Path} {count : Nat}
  {place : Place}

/-- No name is too long. -/
def AreShort (names : List Name) : Prop := ∀ name ∈ names, (Utf8.encode name).length ≤ maxNameBytes

/-- No link leads through a name that is too long. -/
def HasShortLinks (tree : Tree) : Prop :=
  ∀ place target, tree.node? place = some (.link target) → AreShort (targetNames target)

/-- A name that is not too long is not refused for it. -/
theorem checkName_ne_nameTooLong {name : Name} (short : (Utf8.encode name).length ≤ maxNameBytes) :
    checkName name ≠ .error .nameTooLong := by
  rw [checkName]
  split
  · nofun
  · rw [if_neg (Nat.not_lt.mpr short)]
    nofun

/-- No lookup comes to a name that is too long if neither the names nor the links hold one. -/
theorem walk_ne_nameTooLong (links : tree.HasShortLinks) (short : AreShort names) :
    tree.walk last count place names ≠ .error .nameTooLong := by
  intro failed
  rcases cause_of_walk failed with
    absent | ⟨name, member | ⟨spot, target, found, inside⟩, refused⟩
  · exact absurd absent (by decide)
  · exact checkName_ne_nameTooLong (short name member) refused
  · exact checkName_ne_nameTooLong (links spot target found name inside) refused

/-- A lookup fails for an absence or for a name that is too long. -/
theorem isAbsence_of_walk {cause : FileError.Cause}
    (failed : tree.walk last count place names = .error cause) :
    cause.isAbsence = true ∨ cause = .nameTooLong := by
  rcases cause_of_walk failed with absent | ⟨name, -, refused⟩
  · have absences : ∀ cause ∈ [FileError.Cause.notFound, .notDirectory, .tooManyLinks],
        cause.isAbsence = true := by decide
    exact Or.inl (absences cause absent)
  · rw [checkName] at refused
    split at refused
    · exact Or.inl (by rw [← Except.error.inj refused]; rfl)
    · split at refused
      · exact Or.inr (Except.error.inj refused).symm
      · cases refused

/-- A path that is not found for another reason than an absence has a walk with that failure. -/
theorem walk_of_status {error : FileError} (failed : tree.status path = .error error)
    (present : error.cause.isAbsence = false) :
    tree.walk ⟨true, false⟩ maxLinks (tree.start path) path.names = .error error.cause := by
  have looked : tree.locate path = .error error := by
    rw [status] at failed
    rcases bind_eq_error_iff.mp failed with looked | ⟨place, -, failed⟩
    · exact looked
    · split at failed
      · cases failed
      · obtain rfl := Except.error.inj failed
        cases present
  rw [locate, lookup] at looked
  split at looked
  · obtain rfl := Except.error.inj looked
    cases present
  · split at looked
    · cases looked
    · rename_i walked
      obtain rfl := Except.error.inj looked
      exact walked

/-- A path whose probing fails has a name that is too long, or a link of the tree has. -/
theorem cause_of_isPresent {error : FileError} (failed : tree.isPresent path = .error error) :
    error.cause = .nameTooLong ∧ ¬(AreShort path.names ∧ tree.HasShortLinks) := by
  rw [isPresent, leadsTo] at failed
  split at failed
  · cases failed
  · rename_i error found
    split at failed
    · cases failed
    · rename_i present
      obtain rfl := Except.error.inj failed
      have walked := walk_of_status found (by simpa using present)
      have tooLong : error.cause = .nameTooLong :=
        (isAbsence_of_walk walked).resolve_left present
      rw [tooLong] at walked
      exact ⟨tooLong, fun both => walk_ne_nameTooLong both.2 both.1 walked⟩

end FoldMark.Tree
