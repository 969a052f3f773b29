import FoldMark.Proofs.Tree.Change

/-!
# Paths made absolute

A path from the working directory and the path of the place it leads to are not looked up alike: one
starts at the working directory, the other at the root, and a name that leads up is looked up in one
only. Where there is no link and the working directory stands, both lead to the same place
(`locate_pathOf`), so a file can be read by either (`read_pathOf`). Under a name that nothing stands
under, a lookup from the root tells an absence, or that the name is too long (`locate_of_none`).
-/

namespace FoldMark.Tree

variable {tree : Tree} {last : LastName} {base place found : Place} {name : Name}
  {names : List Name} {path : Path} {node : Node}

/-- A directory stands at a place, and at every place around it, under names that can be looked
up. -/
def Stands (tree : Tree) (place : Place) : Prop :=
  ∀ front name, front ++ [name] <+: place → name ≠ Name.here ∧ name ≠ Name.up ∧
    checkName name = .ok () ∧ tree.node? (front ++ [name]) = some .directory

namespace Stands

/-- The root stands. -/
theorem root (tree : Tree) : tree.Stands [] := by
  intro front name isPrefix
  simpa using List.prefix_nil.mp isPrefix

/-- What is around a place that stands does. -/
theorem of_prefix (stands : tree.Stands place) (isPrefix : base <+: place) : tree.Stands base :=
  fun front name within => stands front name (within.trans isPrefix)

/-- A directory stands if the one around it does. -/
theorem concat (stands : tree.Stands place) (notHere : name ≠ Name.here) (notUp : name ≠ Name.up)
    (checked : checkName name = .ok ())
    (directory : tree.node? (place ++ [name]) = some .directory) :
    tree.Stands (place ++ [name]) := by
  intro front other isPrefix
  rcases List.prefix_concat_iff.mp isPrefix with same | before
  · obtain ⟨rfl, last⟩ := List.append_inj' same rfl
    obtain rfl : other = name := List.head_eq_of_cons_eq last
    exact ⟨notHere, notUp, checked, directory⟩
  · exact stands front other before

/-- A lookup goes through what stands. -/
theorem walk_append (stands : tree.Stands (base ++ names)) (links : Nat) (more : List Name) :
    tree.walk last links base (names ++ more) = tree.walk last links (base ++ names) more := by
  induction names generalizing base with
  | nil => simp
  | cons name rest hypothesis =>
    have split : base ++ name :: rest = (base ++ [name]) ++ rest := by simp
    rw [split] at stands ⊢
    obtain ⟨notHere, notUp, checked, directory⟩ := stands base name (List.prefix_append ..)
    rw [List.cons_append, walk_of_directory notHere notUp checked directory, hypothesis stands]

/-- A lookup from the root goes through what stands. -/
theorem walk_root_append (stands : tree.Stands place) (links : Nat) (more : List Name) :
    tree.walk last links [] (place ++ more) = tree.walk last links place more :=
  walk_append (List.nil_append place ▸ stands) links more

/-- A place that stands is found by its names. -/
theorem walk_root (stands : tree.Stands place) (links : Nat) :
    tree.walk last links [] place = .ok place := by
  rw [← List.append_nil place, stands.walk_root_append, List.append_nil, walk_nil]

end Stands

/-- What is found from a place that stands is found by its names from the root, and it stands if it
is a directory. -/
theorem walk_root_of_walk (unlinked : tree.IsUnlinked) (stands : tree.Stands place) {links : Nat}
    (walked : tree.walk last links place names = .ok found) :
    tree.walk last links [] found = .ok found ∧
      (tree.node? found = some .directory → tree.Stands found) := by
  induction unlinked.reaches walked with
  | stop => exact ⟨stands.walk_root links, fun _ => stands⟩
  | here _ hypothesis => exact hypothesis stands (by simpa using walked)
  | up _ hypothesis =>
    exact hypothesis (stands.of_prefix (List.dropLast_prefix _)) (by simpa using walked)
  | through notHere notUp checked directory _ hypothesis =>
    rw [walk_of_directory notHere notUp checked directory] at walked
    exact hypothesis (stands.concat notHere notUp checked directory) walked
  | last notHere notUp checked =>
    refine ⟨?_, fun directory => stands.concat notHere notUp checked directory⟩
    rw [stands.walk_root_append]
    exact walked

/-- No name that is looked up to the end holds a null character. -/
theorem null_free_of_walk (unlinked : tree.IsUnlinked) {links : Nat}
    (walked : tree.walk last links place names = .ok found) :
    names.any (·.contains '\x00') = false := by
  have free : ∀ {name : Name}, checkName name = .ok () → name.contains '\x00' = false := by
    refine fun checked => Bool.eq_false_iff.mpr fun null => ?_
    rw [checkName, if_pos null] at checked
    cases checked
  have reached := unlinked.reaches walked
  clear walked
  induction reached with
  | stop => rfl
  | here _ hypothesis
  | up _ hypothesis =>
    exact List.any_cons.trans (Bool.or_eq_false_iff.mpr ⟨by decide, hypothesis⟩)
  | through _ _ checked _ _ hypothesis =>
    exact List.any_cons.trans (Bool.or_eq_false_iff.mpr ⟨free checked, hypothesis⟩)
  | last _ _ checked => exact List.any_cons.trans (Bool.or_eq_false_iff.mpr ⟨free checked, rfl⟩)

/-- A path leads where the path of its place does. -/
theorem locate_pathOf (unlinked : tree.IsUnlinked) (stands : tree.Stands tree.workplace)
    (located : tree.locate path = .ok place) :
    tree.locate (pathOf place) = .ok place ∧
      (tree.node? place = some .directory → tree.Stands place) := by
  have start : tree.Stands (tree.start path) := by
    rw [Tree.start]
    split
    · exact Stands.root tree
    · exact stands
  obtain ⟨walked, directory⟩ :=
    walk_root_of_walk unlinked start (lookup_eq_ok_iff.mp located).2
  exact ⟨lookup_eq_ok_iff.mpr ⟨null_free_of_walk unlinked walked, walked⟩, directory⟩

/-- A file can be read by the path of its place. -/
theorem read_pathOf {data : List UInt8} (unlinked : tree.IsUnlinked)
    (stands : tree.Stands tree.workplace) (read : tree.read path = .ok data) :
    tree.read (pathOf (tree.textualPlace path)) = .ok data := by
  obtain ⟨place, located, found⟩ := read_eq_ok_iff.mp read
  obtain rfl := eq_textualPlace_of_lookup unlinked located
  exact read_eq_ok_iff.mpr ⟨_, (locate_pathOf unlinked stands located).1, found⟩

/-- A path that cannot be looked up leads to nothing, if that is all that its failure tells. -/
theorem leadsTo_of_locate_error {test : Node → Bool} {error : FileError}
    (failed : tree.locate path = .error error) :
    tree.leadsTo test path = if error.cause.isAbsence then .ok false else .error error := by
  simp only [leadsTo, status, failed, bind, Except.bind]

/-- What stands has no null character in its names. -/
theorem null_free_of_stands (unlinked : tree.IsUnlinked) (stands : tree.Stands place) :
    place.any (·.contains '\x00') = false := by
  have walked : tree.walk ⟨true, false⟩ maxLinks [] place = .ok place := stands.walk_root maxLinks
  exact null_free_of_walk unlinked walked

/-- What stands is found by its names from the root. -/
theorem locate_of_stands (unlinked : tree.IsUnlinked) (stands : tree.Stands place) :
    tree.locate (pathOf place) = .ok place :=
  lookup_eq_ok_iff.mpr ⟨null_free_of_stands unlinked stands, stands.walk_root maxLinks⟩

/-- Why a name under which nothing stands is not found. -/
def absenceOf (name : Name) : FileError.Cause :=
  if (Text.Utf8.encode name).length ≤ maxNameBytes then .notFound else .nameTooLong

/-- What a lookup tells of a name under which nothing stands in a directory. -/
theorem locate_of_none (unlinked : tree.IsUnlinked) (stands : tree.Stands place)
    (notHere : name ≠ Name.here) (notUp : name ≠ Name.up) (nullFree : '\x00' ∉ name)
    (absent : tree.node? (place ++ [name]) = none) :
    tree.locate (pathOf (place ++ [name])) =
      .error ⟨absenceOf name, pathOf (place ++ [name])⟩ := by
  have null : name.contains '\x00' = false := by simpa using nullFree
  have walked : tree.walk ⟨true, false⟩ maxLinks [] (place ++ [name]) =
      .error (absenceOf name) := by
    rw [stands.walk_root_append, absenceOf]
    by_cases short : (Text.Utf8.encode name).length ≤ maxNameBytes
    · have checked : checkName name = .ok () := by
        rw [checkName, null, if_neg (by decide), if_neg (Nat.not_lt.mpr short)]
      rw [walk_of_none notHere notUp checked absent, if_pos short]
      rfl
    · have refused : checkName name = .error .nameTooLong := by
        rw [checkName, null, if_neg (by decide), if_pos (Nat.lt_of_not_le short)]
      rw [walk_of_refused notHere notUp refused, if_neg short]
  have free : (pathOf (place ++ [name])).names.any (·.contains '\x00') = false := by
    rw [pathOf, List.any_append, null_free_of_stands unlinked stands, List.any_cons, null]
    rfl
  have started : tree.start (pathOf (place ++ [name])) = [] := rfl
  rw [locate, lookup, free, if_neg Bool.false_ne_true, started]
  simp only [pathOf, walked]

/-- Without links, a path is resolved to where it leads by its text. -/
theorem resolve_of_isUnlinked (unlinked : tree.IsUnlinked)
    (noNull : path.names.any (·.contains '\x00') = false) :
    tree.resolve path = .ok (tree.textualPlace path) := by
  have stays : StaysIn (fun _ => True) (tree.start path) path.names := fun _ => trivial
  have resolved := AlikeIn.resolveFrom_eq (fun place target _ => unlinked place target)
    tree.linkCount _ _ stays
  rw [resolve, if_neg (Bool.eq_false_iff.mp noNull), resolved]
  rfl

end FoldMark.Tree
