import FoldMark.Proofs.Tree.Absolute
import Mathlib.Data.List.Induction
import Mathlib.Data.List.Nodup

/-!
# Proper trees

A tree without links in which all that is listed stands in a directory, each place is listed once,
and the working directory is there: `IsProper`. Changes keep a tree proper (`Changes.isProper`) and
list new places behind those that were there (`Changes.exists_places`). What is listed below a
directory is found by the names from there on (`IsProper.locate_append`), and what stands where
tells the whole tree (`IsProper.eq_of_node?`).
-/

namespace FoldMark.Tree

variable {tree next other : Tree} {place found around : Place} {name : Name} {names : List Name}
  {path : Path} {last : LastName} {node : Node} {written : List Place} {data : List UInt8}

/-- The places that a tree lists. -/
def places (tree : Tree) : List Place := tree.nodes.map Prod.fst

/-- A place is that of a name in a directory. -/
def IsPlaced (tree : Tree) (place : Place) : Prop :=
  ∃ around name, place = around ++ [name] ∧ name ≠ Name.here ∧ name ≠ Name.up ∧
    checkName name = .ok () ∧ tree.node? around = some .directory

/-- A tree as a file system without links has it. -/
structure IsProper (tree : Tree) : Prop where
  /-- One thing stands at a place. -/
  nodup : tree.places.Nodup
  /-- All that is listed stands in a directory, under a name that can be looked up. -/
  placed : ∀ place ∈ tree.places, tree.IsPlaced place
  /-- There is no link. -/
  unlinked : tree.IsUnlinked
  /-- The working directory is one. -/
  workplace : tree.node? tree.workplace = some .directory

/-! ## Places and nodes -/

/-- A place other than the root is listed exactly if something stands there. -/
theorem mem_places_iff (nonempty : place ≠ []) :
    place ∈ tree.places ↔ tree.node? place ≠ none := by
  simp [places, node?, nonempty, List.lookup_eq_none_iff]

/-- A place where a node is put is listed where it was, and last if it was not. -/
theorem places_put (tree : Tree) (place : Place) (node : Node) :
    (tree.put place node).places =
      if place ∈ tree.places then tree.places else tree.places ++ [place] := by
  have listed : tree.nodes.any (·.1 == place) = true ↔ place ∈ tree.places := by
    simp [places]
  by_cases member : place ∈ tree.places
  · rw [put, if_pos (listed.mpr member), if_pos member, places, places, List.map_map]
    refine List.map_congr_left fun entry _ => ?_
    by_cases same : entry.1 = place
    · simp [same]
    · simp [same]
  · rw [put, if_neg (member ∘ listed.mp), if_neg member, places, places, List.map_append]
    rfl

/-- Entries with the same keys, each of them once, are told by what is found under the keys. -/
theorem eq_of_lookup {first second : List (Place × Node)} (nodup : (first.map Prod.fst).Nodup)
    (keys : second.map Prod.fst = first.map Prod.fst)
    (same : ∀ place ∈ first.map Prod.fst, second.lookup place = first.lookup place) :
    second = first := by
  induction first generalizing second with
  | nil => exact List.map_eq_nil_iff.mp keys
  | cons entry first hypothesis =>
    cases second with
    | nil => cases keys
    | cons head tail =>
      obtain ⟨place, node⟩ := entry
      obtain ⟨headPlace, headNode⟩ := head
      obtain ⟨heads, tails⟩ := List.cons.inj keys
      obtain rfl : headPlace = place := heads
      rw [List.map_cons, List.nodup_cons] at nodup
      rw [List.map_cons, List.forall_mem_cons] at same
      have here : headNode = node := by simpa using same.1
      have later : ∀ spot ∈ first.map Prod.fst, tail.lookup spot = first.lookup spot := by
        intro spot member
        have apart : (spot == headPlace) = false :=
          beq_eq_false_iff_ne.mpr fun same => nodup.1 (same ▸ member)
        simpa [List.lookup_cons, apart] using same.2 spot member
      rw [here, hypothesis nodup.2 tails later]

/-- What stands where tells a proper tree with the list of its places. -/
theorem IsProper.eq_of_node? (proper : tree.IsProper) (places : next.places = tree.places)
    (workplace : next.workplace = tree.workplace)
    (same : ∀ place, next.node? place = tree.node? place) : next = tree := by
  have nodes : next.nodes = tree.nodes := by
    refine eq_of_lookup proper.nodup places fun place member => ?_
    obtain ⟨around, name, rfl, -⟩ := proper.placed place member
    simpa [node?] using same (around ++ [name])
  cases next
  cases tree
  rw [Tree.mk.injEq]
  exact ⟨nodes, workplace⟩

/-! ## Standing directories -/

/-- What stands is a directory. -/
theorem Stands.node? (stands : tree.Stands place) : tree.node? place = some .directory := by
  rcases List.eq_nil_or_concat place with rfl | ⟨around, name, rfl⟩
  · rfl
  · rw [List.concat_eq_append] at stands ⊢
    exact (stands around name (List.prefix_refl _)).2.2.2

/-- What stands has names that are no dots. -/
theorem Stands.isReduced (stands : tree.Stands place) : IsReduced place := by
  intro name member
  obtain ⟨front, back, rfl⟩ := List.append_of_mem member
  obtain ⟨notHere, notUp, -⟩ := stands front name ⟨back, by simp⟩
  exact ⟨notHere, notUp⟩

/-- What stands has a place, unless it is the root. -/
theorem Stands.isPlaced (stands : tree.Stands place) (nonempty : place ≠ []) :
    tree.IsPlaced place := by
  obtain ⟨around, name, rfl⟩ := (List.eq_nil_or_concat place).resolve_left nonempty
  rw [List.concat_eq_append] at stands ⊢
  obtain ⟨notHere, notUp, checked, -⟩ := stands around name (List.prefix_refl _)
  exact ⟨around, name, rfl, notHere, notUp, checked,
    (stands.of_prefix (List.prefix_append around [name])).node?⟩

namespace IsProper

/-- Every directory of a proper tree stands. -/
theorem stands (proper : tree.IsProper) (directory : tree.node? place = some .directory) :
    tree.Stands place := by
  induction place using List.reverseRecOn with
  | nil => exact Stands.root tree
  | append_singleton around name hypothesis =>
    have listed : around ++ [name] ∈ tree.places :=
      (mem_places_iff (by simp)).mpr (by simp [directory])
    obtain ⟨front, last, same, notHere, notUp, checked, inside⟩ := proper.placed _ listed
    obtain ⟨rfl, ends⟩ := List.append_inj' same rfl
    obtain rfl : name = last := List.head_eq_of_cons_eq ends
    exact (hypothesis inside).concat notHere notUp checked directory

/-- A path starts at a directory that stands. -/
theorem stands_start (proper : tree.IsProper) (path : Path) : tree.Stands (tree.start path) := by
  rw [start]
  split
  · exact Stands.root tree
  · exact proper.stands proper.workplace

end IsProper

/-- A lookup from what stands leads to the root or to a place, also where nothing stands yet. -/
theorem isPlaced_of_walk (unlinked : tree.IsUnlinked) (stands : tree.Stands place) {links : Nat}
    (walked : tree.walk last links place names = .ok found) (nonempty : found ≠ []) :
    tree.IsPlaced found := by
  have reached := unlinked.reaches walked
  clear walked
  induction reached with
  | stop => exact stands.isPlaced nonempty
  | here _ hypothesis => exact hypothesis stands nonempty
  | up _ hypothesis => exact hypothesis (stands.of_prefix (List.dropLast_prefix _)) nonempty
  | through notHere notUp checked directory _ hypothesis =>
    exact hypothesis (stands.concat notHere notUp checked directory) nonempty
  | last notHere notUp checked => exact ⟨_, _, rfl, notHere, notUp, checked, stands.node?⟩

/-! ## Changes of a proper tree -/

/-- A place stays one as long as directories do. -/
theorem IsPlaced.of_extends (placed : tree.IsPlaced place) (grown : Extends written tree next) :
    next.IsPlaced place := by
  obtain ⟨around, name, rfl, notHere, notUp, checked, directory⟩ := placed
  exact ⟨around, name, rfl, notHere, notUp, checked, grown.directory around directory⟩

/-- Putting something where a path leads keeps a tree proper. -/
theorem IsProper.put (proper : tree.IsProper) (looked : tree.lookup last path = .ok place)
    (nonempty : place ≠ []) (grown : Extends written tree (tree.put place node)) :
    (tree.put place node).IsProper := by
  have placed := isPlaced_of_walk proper.unlinked (proper.stands_start path)
    (lookup_eq_ok_iff.mp looked).2 nonempty
  refine ⟨?_, fun spot member => ?_, grown.unlinked proper.unlinked, ?_⟩
  · rw [places_put]
    split
    · exact proper.nodup
    · rename_i new
      exact List.nodup_append.mpr ⟨proper.nodup, List.nodup_singleton _, by
        rintro spot listed other last rfl
        exact new (List.mem_singleton.mp last ▸ listed)⟩
  · rw [places_put] at member
    split at member
    · exact (proper.placed spot member).of_extends grown
    · rcases List.mem_append.mp member with listed | last
      · exact (proper.placed spot listed).of_extends grown
      · rw [List.mem_singleton.mp last]
        exact placed.of_extends grown
  · rw [grown.workplace_eq]
    exact grown.directory _ proper.workplace

namespace Changes

/-- Changes keep a tree proper. -/
theorem isProper (changes : Changes written tree next) (proper : tree.IsProper) :
    next.IsProper := by
  induction changes with
  | none => exact proper
  | directory looked absent later hypothesis =>
    exact hypothesis (proper.put looked (ne_nil_of_absent absent)
      (extends_put_directory absent))
  | @file last path place data written tree next looked noDirectory later hypothesis =>
    exact hypothesis (proper.put looked (ne_nil_of_node? noDirectory)
      (extends_put_file noDirectory data))

/-- Changes list new places behind those that were there. -/
theorem exists_places (changes : Changes written tree next) :
    ∃ added, next.places = tree.places ++ added := by
  have behind : ∀ {tree next : Tree} {place node},
      (∃ added, next.places = (tree.put place node).places ++ added) →
        ∃ added, next.places = tree.places ++ added := by
    rintro tree next place node ⟨added, same⟩
    rw [places_put] at same
    split at same
    · exact ⟨added, same⟩
    · exact ⟨place :: added, by simpa using same⟩
  induction changes with
  | none => exact ⟨[], (List.append_nil _).symm⟩
  | directory looked absent later hypothesis => exact behind hypothesis
  | file looked noDirectory later hypothesis => exact behind hypothesis

/-- A file is one that was there or that was written. -/
theorem file_cases (changes : Changes written tree next)
    (file : next.node? place = some (.file data)) :
    tree.node? place = some (.file data) ∨ place ∈ written := by
  induction changes with
  | none => exact .inl file
  | @directory last path spot written tree next looked absent later hypothesis =>
    have before := hypothesis file
    rw [node?_put (ne_nil_of_absent absent)] at before
    split at before
    · exact .inr (before.resolve_left (by simp))
    · exact before
  | @file last path spot data written tree next looked noDirectory later hypothesis =>
    have before := hypothesis file
    rw [node?_put (ne_nil_of_node? noDirectory)] at before
    split at before
    · rename_i same
      exact .inr (same ▸ List.mem_cons_self)
    · exact before.imp_right (List.mem_cons_of_mem _)

end Changes

/-! ## What stands below a directory -/

/-- A lookup that leads to a directory goes on from there. -/
theorem walk_append_of_directory (unlinked : tree.IsUnlinked) {links : Nat} {front : List Name}
    (walked : tree.walk last links place front = .ok found)
    (directory : tree.node? found = some .directory) (names : List Name) :
    tree.walk last links place (front ++ names) = tree.walk last links found names := by
  have reached := unlinked.reaches walked
  clear walked
  induction reached with
  | stop => rfl
  | here _ hypothesis => simpa using hypothesis directory
  | up _ hypothesis => simpa using hypothesis directory
  | through notHere notUp checked inside _ hypothesis =>
    rw [List.cons_append, walk_of_directory notHere notUp checked inside, hypothesis directory]
  | last notHere notUp checked =>
    rw [List.cons_append, List.nil_append, walk_of_directory notHere notUp checked directory]

/-- What is listed below a directory is found by its names from there on. -/
theorem IsProper.locate_append (proper : tree.IsProper) (located : tree.locate path = .ok place)
    (directory : tree.node? place = some .directory) (listed : place ++ names ∈ tree.places) :
    tree.locate (path.append names) = .ok (place ++ names) := by
  have toPlace := (lookup_eq_ok_iff.mp located).2
  have fromPlace : tree.walk ⟨true, false⟩ maxLinks place names = .ok (place ++ names) := by
    rcases List.eq_nil_or_concat names with rfl | ⟨front, name, rfl⟩
    · simp
    · rw [List.concat_eq_append] at listed ⊢
      rw [← List.append_assoc] at listed ⊢
      obtain ⟨around, last, same, notHere, notUp, checked, inside⟩ := proper.placed _ listed
      obtain ⟨rfl, ends⟩ := List.append_inj' same rfl
      obtain rfl : name = last := List.head_eq_of_cons_eq ends
      rw [(proper.stands inside).walk_append]
      exact proper.unlinked.walk_last notHere notUp checked
        ((mem_places_iff (by simp)).mp listed) _ _
  have walked : tree.walk ⟨true, false⟩ maxLinks (tree.start path) (path.names ++ names) =
      .ok (place ++ names) := by
    rw [walk_append_of_directory proper.unlinked toPlace directory, fromPlace]
  exact lookup_eq_ok_iff.mpr ⟨null_free_of_walk proper.unlinked walked, walked⟩

/-- Without links, what leads to a name in a directory leads to the directory before. -/
theorem exists_walk_front (unlinked : tree.IsUnlinked) (stands : tree.Stands place) {links : Nat}
    {front : List Name} (notHere : name ≠ Name.here) (notUp : name ≠ Name.up)
    (walked : tree.walk last links place (front ++ [name]) = .ok found) :
    ∃ around, tree.walk last links place front = .ok around ∧ tree.Stands around ∧
      found = around ++ [name] := by
  induction front generalizing place with
  | nil =>
    obtain ⟨-, ⟨-, walked⟩ | ⟨-, rfl⟩⟩ :=
      walk_cons_cases notHere notUp (fun target => unlinked _ target) walked
    · exact ⟨place, walk_nil links place, stands, by simpa using walked.symm⟩
    · exact ⟨place, walk_nil links place, stands, rfl⟩
  | cons first rest hypothesis =>
    by_cases here : first = Name.here
    · subst here
      simpa using hypothesis stands (by simpa using walked)
    by_cases up : first = Name.up
    · subst up
      simpa using hypothesis (stands.of_prefix (List.dropLast_prefix place)) (by simpa using walked)
    obtain ⟨checked, ⟨directory, walked⟩ | ⟨none, -⟩⟩ :=
      walk_cons_cases here up (fun target => unlinked _ target) walked
    · rw [walk_of_directory here up checked directory]
      exact hypothesis (stands.concat here up checked directory) walked
    · simp at none

/-- The directory around what a path leads to is found by the path without its last name, if that
is no dots. -/
theorem IsProper.locate_parent (proper : tree.IsProper) {front : List Name}
    (named : path.names = front ++ [name]) (notHere : name ≠ Name.here) (notUp : name ≠ Name.up)
    (located : tree.locate path = .ok place) :
    ∃ around, tree.locate path.parent = .ok around ∧ tree.node? around = some .directory ∧
      place = around ++ [name] := by
  have walked := (lookup_eq_ok_iff.mp located).2
  rw [named] at walked
  obtain ⟨around, reached, stands, same⟩ :=
    exists_walk_front proper.unlinked (proper.stands_start path) notHere notUp walked
  have parent : path.parent.names = front := by
    rw [Path.parent, named, List.dropLast_concat]
  refine ⟨around, lookup_eq_ok_iff.mpr ?_, stands.node?, same⟩
  rw [parent]
  exact ⟨null_free_of_walk proper.unlinked reached, reached⟩

/-! ## What is there already -/

/-- What a path leads to is what a test is made of. -/
theorem leadsTo_of_locate {test : Node → Bool} (located : tree.locate path = .ok place)
    (met : tree.node? place = some node) : tree.leadsTo test path = .ok (test node) := by
  simp only [leadsTo, status, located, bind, Except.bind, met]

/-- A path is that of a directory exactly if it leads to one. -/
theorem isDirectory_eq_true_iff :
    tree.isDirectory path = .ok true ↔
      ∃ place, tree.locate path = .ok place ∧ tree.node? place = some .directory := by
  rw [isDirectory, leadsTo_eq_true_iff]
  refine exists_congr fun place => and_congr_right fun _ => ?_
  constructor
  · rintro ⟨node, found, isDirectory⟩
    cases node with
    | directory => exact found
    | file | link => cases isDirectory
  · exact fun found => ⟨_, found, rfl⟩

/-- Where something stands, a path leads there however its last name is looked up. -/
theorem lookup_of_locate (unlinked : tree.IsUnlinked) (located : tree.locate path = .ok place)
    (present : tree.node? place ≠ none) (last : LastName) : tree.lookup last path = .ok place := by
  obtain ⟨noNull, walked⟩ := lookup_eq_ok_iff.mp located
  exact lookup_eq_ok_iff.mpr ⟨noNull, (Extends.refl tree).walk unlinked walked present last⟩

/-- Directories that are there are not made. -/
theorem ensureDirectories_of_directory (unlinked : tree.IsUnlinked)
    (located : tree.locate path = .ok place) (directory : tree.node? place = some .directory) :
    tree.ensureDirectories path = .ok tree := by
  have looked := lookup_of_locate unlinked located (by simp [directory]) ⟨false, true⟩
  have occupied : tree.makeDirectory path = .error ⟨.occupied, path⟩ := by
    simp only [makeDirectory, looked, bind, Except.bind, directory]
  have there : tree.isDirectory path = .ok true := leadsTo_of_locate located directory
  have ensured : tree.ensureDirectory path = .ok tree := by
    simp only [ensureDirectory, occupied, there]
  have whole : (⟨path.root, path.names.reverse.reverse⟩ : Path) = path := by
    rw [List.reverse_reverse]
  have made : tree.makeDirectories path = ⟨tree, none⟩ := by
    rw [makeDirectories]
    cases reversed : path.names.reverse with
    | nil =>
      rw [reversed, List.reverse_nil] at whole
      rw [makeNames, whole, ensured]
      rfl
    | cons last front =>
      rw [reversed] at whole
      rw [makeNames, whole, occupied]
      simp only [reduceCtorEq, if_false, ensured]
      rfl
  simp only [ensureDirectories, made]

/-- Where nothing is written, a tree that lists the same places has there what it had before. -/
theorem Extends.node?_eq (grown : Extends written tree next) (unlinked : tree.IsUnlinked)
    (places : next.places = tree.places) (apart : place ∉ written) :
    next.node? place = tree.node? place := by
  cases found : tree.node? place with
  | none =>
    have nonempty := ne_nil_of_absent found
    by_contra present
    have listed := (mem_places_iff nonempty).mpr present
    rw [places] at listed
    exact (mem_places_iff nonempty).mp listed found
  | some node =>
    cases node with
    | directory => exact grown.directory place found
    | file data => exact grown.file place data found apart
    | link target => exact absurd found (unlinked place target)

/-- A file that is there is written where it stands. -/
theorem write_of_file (unlinked : tree.IsUnlinked) (located : tree.locate path = .ok place)
    {old : List UInt8} (file : tree.node? place = some (.file old)) :
    tree.write path data = .ok (tree.put place (.file data)) := by
  have looked := lookup_of_locate unlinked located (by simp [file]) ⟨true, true⟩
  simp only [write, looked, bind, Except.bind, file]

end FoldMark.Tree
