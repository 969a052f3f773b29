import FoldMark.Proofs.Tree.Proper

/-!
# Files that are read back

A file is written through the links that lead to it. From a working directory that stands a lookup
only goes through directories and links on its way, and it ends at neither a link nor anything that
it has gone through (`walk_put`). So after a file has been written, its path leads to it:
`read_of_write`.
-/

namespace FoldMark.Tree

variable {tree next : Tree} {last : LastName} {place found : Place} {path : Path}
  {names : List Name} {links : Nat} {data : List UInt8} {written : List Place}

namespace Stands

/-- A path starts at a directory that stands if the working directory does. -/
theorem start (stands : tree.Stands tree.workplace) (path : Path) :
    tree.Stands (tree.start path) := by
  rw [Tree.start]
  split
  · exact root tree
  · exact stands

/-- The target of a link in a directory that stands starts at one. -/
theorem targetStart (stands : tree.Stands place) (target : List Char) :
    tree.Stands (targetStart place target) := by
  rw [Tree.targetStart]
  split
  · exact root tree
  · exact stands

/-- What stands does so after a change. -/
theorem of_extends (stands : tree.Stands place) (grown : Extends written tree next) :
    next.Stands place := by
  intro front name isPrefix
  obtain ⟨notHere, notUp, checked, directory⟩ := stands front name isPrefix
  exact ⟨notHere, notUp, checked, grown.directory _ directory⟩

end Stands

/-- A lookup that follows links ends at none. -/
theorem not_link_of_walk (stands : tree.Stands place) (follows : last.followsLink = true)
    (walked : tree.walk last links place names = .ok found) (target : List Char) :
    tree.node? found ≠ some (.link target) := by
  fun_induction tree.walk last links place names with
  | case1 _ place =>
    obtain rfl := Except.ok.inj walked
    simp [stands.node?]
  | case2 _ _ _ hypothesis => exact hypothesis stands walked
  | case3 _ place _ _ hypothesis =>
    exact hypothesis (stands.of_prefix (List.dropLast_prefix place)) walked
  | case4 | case6 | case9 | case11 => cases walked
  | case5 _ _ _ _ _ _ _ _ absent =>
    obtain rfl := Except.ok.inj walked
    simp [absent]
  | case7 _ _ _ _ notHere notUp _ checked directory hypothesis =>
    exact hypothesis (stands.concat notHere notUp checked directory) walked
  | case8 _ _ _ _ _ _ _ _ _ file =>
    obtain rfl := Except.ok.inj walked
    simp [file]
  | case10 _ _ _ _ _ _ _ _ _ _ stays => simp [follows] at stays
  | case12 _ _ _ _ _ _ _ _ _ _ _ hypothesis => exact hypothesis (stands.targetStart _) walked

/-- Where a lookup that follows links ends at no directory, it ends there again once a file is
there, for it went through directories and links alone. -/
theorem walk_put (stands : tree.Stands place) (follows : last.followsLink = true)
    (walked : tree.walk last links place names = .ok found)
    (vacant : tree.node? found ≠ some .directory) :
    (tree.put found (.file data)).walk ⟨true, false⟩ links place names = .ok found := by
  have noLink := not_link_of_walk stands follows walked
  let next := tree.put found (.file data)
  have written : next.node? found = some (.file data) := by
    rw [node?_put (ne_nil_of_node? vacant), if_pos rfl]
  have kept : ∀ {spot node}, tree.node? spot = some node → spot ≠ found →
      next.node? spot = some node := by
    intro spot node stood apart
    rw [node?_put (ne_nil_of_node? vacant), if_neg apart, stood]
  fun_induction tree.walk last links place names with
  | case1 _ place =>
    obtain rfl := Except.ok.inj walked
    exact absurd stands.node? vacant
  | case2 _ _ _ hypothesis =>
    rw [walk_here]
    exact hypothesis stands walked
  | case3 _ place _ _ hypothesis =>
    rw [walk_up]
    exact hypothesis (stands.of_prefix (List.dropLast_prefix place)) walked
  | case4 | case6 | case9 | case11 => cases walked
  | case5 _ _ _ rest notHere notUp _ checked absent alone =>
    obtain rfl := Except.ok.inj walked
    rw [walk_of_file notHere notUp checked written, if_pos (Bool.and_eq_true_iff.mp alone).1]
  | case7 _ place name _ notHere notUp _ checked directory hypothesis =>
    have apart : place ++ [name] ≠ found := by
      rintro rfl
      exact vacant directory
    rw [walk_of_directory notHere notUp checked (kept directory apart)]
    exact hypothesis (stands.concat notHere notUp checked directory) walked
  | case8 _ _ _ _ notHere notUp _ checked _ _ alone =>
    obtain rfl := Except.ok.inj walked
    rw [walk_of_file notHere notUp checked written, if_pos alone]
  | case10 _ _ _ _ _ _ _ _ _ _ stays => simp [follows] at stays
  | case12 place name _ notHere notUp _ checked target link _ _ hypothesis =>
    have apart : place ++ [name] ≠ found := by
      rintro rfl
      exact noLink target link
    rw [walk_of_link notHere notUp checked (kept link apart)]
    simpa using hypothesis (stands.targetStart target) walked

/-- A file that is written is read back by its path, through the links that lead to it. -/
theorem read_of_write (stands : tree.Stands tree.workplace)
    (wrote : tree.write path data = .ok next) : next.read path = .ok data := by
  obtain ⟨place, looked, wrote⟩ := exists_of_bind_eq_ok wrote
  split at wrote
  · cases wrote
  rename_i vacant
  obtain rfl := Except.ok.inj wrote
  obtain ⟨noNull, walked⟩ := lookup_eq_ok_iff.mp looked
  have again : (tree.put place (.file data)).walk ⟨true, false⟩ maxLinks (tree.start path)
      path.names = .ok place := walk_put (stands.start path) rfl walked vacant
  rw [← (extends_put_file vacant data).start_eq path] at again
  refine read_eq_ok_iff.mpr ⟨place, lookup_eq_ok_iff.mpr ⟨noNull, again⟩, ?_⟩
  rw [node?_put (ne_nil_of_node? vacant), if_pos rfl]

end FoldMark.Tree
