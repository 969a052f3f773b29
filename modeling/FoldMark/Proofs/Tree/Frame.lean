import FoldMark.Tree.Resolve

/-!
# What a lookup depends on

Names read from a place lead to another place by their text alone, where no link stands on the way:
`lexicalPlace`. A lookup asks only for what stands at the places that it comes by, so two trees that
are alike there, and have no link there, answer it alike. The statements are told for any region of
places that the way stays in.
-/

namespace FoldMark

/-- The place that a name leads to from a place, if the name is taken as it is written. -/
def enter (place : Place) (name : Name) : Place :=
  if name = Name.here then place
  else if name = Name.up then place.dropLast
  else place ++ [name]

/-- The place that names lead to from a place, if every name is taken as it is written. -/
def lexicalPlace (place : Place) (names : List Name) : Place := names.foldl enter place

/-- No name leads nowhere or up. -/
def IsReduced (names : List Name) : Prop := ∀ name ∈ names, name ≠ Name.here ∧ name ≠ Name.up

/-- The way that names take from a place stays in a region. -/
def StaysIn (region : Place → Prop) (place : Place) (names : List Name) : Prop :=
  ∀ count, region (lexicalPlace place (names.take count))

/-- Two trees have the same in a region, in which there is no link. -/
structure AlikeIn (region : Place → Prop) (tree other : Tree) : Prop where
  /-- The trees have the same. -/
  same : ∀ place, region place → tree.node? place = other.node? place
  /-- There is no link. -/
  unlinked : ∀ place target, region place → tree.node? place ≠ some (.link target)

/-! ## Ways -/

/-- A dot leads nowhere. -/
@[simp] theorem enter_here (place : Place) : enter place Name.here = place := rfl

/-- Two dots lead to the directory around. -/
@[simp] theorem enter_up (place : Place) : enter place Name.up = place.dropLast := rfl

/-- Any other name leads to what has it. -/
theorem enter_of_ne {name : Name} (place : Place) (notHere : name ≠ Name.here)
    (notUp : name ≠ Name.up) : enter place name = place ++ [name] := by
  rw [enter, if_neg notHere, if_neg notUp]

/-- Reduced names lead to the place that has them at its end. -/
theorem lexicalPlace_of_isReduced (place : Place) {names : List Name} (reduced : IsReduced names) :
    lexicalPlace place names = place ++ names := by
  induction names generalizing place with
  | nil => simp [lexicalPlace]
  | cons name rest hypothesis =>
    obtain ⟨notHere, notUp⟩ := reduced name List.mem_cons_self
    have later := hypothesis (enter place name) fun name member =>
      reduced name (List.mem_cons_of_mem _ member)
    rw [enter_of_ne place notHere notUp] at later
    simpa [lexicalPlace, enter_of_ne place notHere notUp] using later

namespace StaysIn

variable {region : Place → Prop} {place : Place} {name : Name} {names more : List Name}

/-- A way starts in the region that it stays in. -/
theorem first (stays : StaysIn region place names) : region place := stays 0

/-- What comes after the first name of a way. -/
theorem tail (stays : StaysIn region place (name :: names)) :
    StaysIn region (enter place name) names := fun count => stays (count + 1)

/-- A way is a name after a place in the region and what comes after it. -/
theorem cons (inside : region place) (later : StaysIn region (enter place name) names) :
    StaysIn region place (name :: names)
  | 0 => inside
  | count + 1 => later count

/-- A way stays in a region if its first part and what is after that do. -/
theorem append (start : StaysIn region place names)
    (later : StaysIn region (lexicalPlace place names) more) :
    StaysIn region place (names ++ more) := by
  induction names generalizing place with
  | nil => exact later
  | cons name rest hypothesis => exact cons start.first (hypothesis start.tail later)

/-- A way stays in the region without its dots. -/
theorem filter (stays : StaysIn region place names) :
    StaysIn region place (names.filter (· != Name.here)) := by
  induction names generalizing place with
  | nil => exact stays
  | cons name rest hypothesis =>
    by_cases here : name = Name.here
    · subst here
      simpa using hypothesis stays.tail
    · rw [List.filter_cons_of_pos (by simpa using here)]
      exact cons stays.first (hypothesis stays.tail)

end StaysIn

/-! ## Lookups -/

namespace AlikeIn

variable {region : Place → Prop} {tree other : Tree}

/-- A lookup along a way that stays in the region ends alike in both trees, and within the region.
The induction is on the names that are left; only a link would bring in names from elsewhere. -/
theorem walk_eq (alike : AlikeIn region tree other) (last : Tree.LastName) (links : Nat)
    (place : Place) (names : List Name) (stays : StaysIn region place names) :
    tree.walk last links place names = other.walk last links place names ∧
      ∀ found, tree.walk last links place names = .ok found → region found := by
  induction names generalizing place with
  | nil =>
    refine ⟨by simp [Tree.walk], fun found walked => ?_⟩
    obtain rfl : place = found := by simpa [Tree.walk] using walked
    exact stays.first
  | cons name rest hypothesis =>
    have later := hypothesis (enter place name) stays.tail
    by_cases here : name = Name.here
    · subst here
      simpa [Tree.walk] using later
    by_cases up : name = Name.up
    · subst up
      simpa [Tree.walk, show Name.up ≠ Name.here by decide] using later
    have inside := stays.tail.first
    rw [enter_of_ne place here up] at later inside
    rw [Tree.walk, Tree.walk, if_neg here, if_neg here, if_neg up, if_neg up,
      ← alike.same _ inside]
    cases Tree.checkName name with
    | error cause => exact ⟨rfl, fun found walked => by cases walked⟩
    | ok _ =>
      have ended : ∀ (holds : Bool) (cause : FileError.Cause) (found : Place),
          (if holds then .ok (place ++ [name]) else .error cause) = Except.ok found →
            region found := by
        intro holds cause found walked
        cases holds with
        | false => cases walked
        | true =>
          cases walked
          exact inside
      cases found : tree.node? (place ++ [name]) with
      | none => exact ⟨rfl, ended (rest.isEmpty && last.mayBeAbsent) .notFound⟩
      | some node =>
        cases node with
        | file data => exact ⟨rfl, ended rest.isEmpty .notDirectory⟩
        | directory => exact later
        | link target => exact absurd found (alike.unlinked _ target inside)

variable {path : Path}

/-- A path from the root leads to the same node in both trees. -/
theorem status_eq (alike : AlikeIn region tree other) (absolute : path.isAbsolute = true)
    (stays : StaysIn region [] path.names) : tree.status path = other.status path := by
  have starts : ∀ tree : Tree, tree.start path = [] := fun tree => by simp [Tree.start, absolute]
  obtain ⟨same, inside⟩ := alike.walk_eq ⟨true, false⟩ Tree.maxLinks [] path.names stays
  simp only [Tree.status, Tree.locate, Tree.lookup, starts, ← same]
  by_cases null : path.names.any (·.contains '\x00') = true
  · simp only [null, if_pos]
    rfl
  · simp only [if_neg null]
    cases walked : tree.walk ⟨true, false⟩ Tree.maxLinks [] path.names with
    | error cause => rfl
    | ok place =>
      have found := alike.same place (inside place walked)
      simp only [bind, Except.bind, found]

/-- A path from the root leads to a directory in both trees or in neither. -/
theorem isDirectory_eq (alike : AlikeIn region tree other) (absolute : path.isAbsolute = true)
    (stays : StaysIn region [] path.names) : tree.isDirectory path = other.isDirectory path := by
  simp only [Tree.isDirectory, Tree.leadsTo, alike.status_eq absolute stays]

/-- A path from the root leads to a file in both trees or in neither. -/
theorem isFile_eq (alike : AlikeIn region tree other) (absolute : path.isAbsolute = true)
    (stays : StaysIn region [] path.names) : tree.isFile path = other.isFile path := by
  simp only [Tree.isFile, Tree.leadsTo, alike.status_eq absolute stays]

/-- Names are resolved to where they lead by their text. -/
theorem resolveFrom_eq (unlinked : ∀ place target, region place →
      tree.node? place ≠ some (.link target)) (depth : Nat) (place : Place) (names : List Name)
    (stays : StaysIn region place names) :
    tree.resolveFrom depth place names = some (lexicalPlace place names) := by
  induction names generalizing place with
  | nil => simp [Tree.resolveFrom, lexicalPlace]
  | cons name rest hypothesis =>
    have later := hypothesis (enter place name) stays.tail
    by_cases here : name = Name.here
    · subst here
      simpa [Tree.resolveFrom, lexicalPlace] using later
    by_cases up : name = Name.up
    · subst up
      simpa [Tree.resolveFrom, lexicalPlace, show Name.up ≠ Name.here by decide] using later
    have inside := stays.tail.first
    rw [enter_of_ne place here up] at later inside
    rw [Tree.resolveFrom, if_neg here, if_neg up]
    cases found : tree.node? (place ++ [name]) with
    | none => simpa [lexicalPlace, enter_of_ne place here up] using later
    | some node =>
      cases node with
      | link target => exact absurd found (unlinked _ target inside)
      | _ => simpa [lexicalPlace, enter_of_ne place here up] using later

/-- A path from the root has the same place in both trees. -/
theorem resolve_eq (alike : AlikeIn region tree other) (absolute : path.isAbsolute = true)
    (stays : StaysIn region [] path.names) : tree.resolve path = other.resolve path := by
  have starts : ∀ tree : Tree, tree.start path = [] := fun tree => by simp [Tree.start, absolute]
  have unlinked : ∀ place target, region place → other.node? place ≠ some (.link target) := by
    intro place target inside
    rw [← alike.same place inside]
    exact alike.unlinked place target inside
  simp only [Tree.resolve, starts, resolveFrom_eq alike.unlinked _ [] path.names stays,
    resolveFrom_eq unlinked _ [] path.names stays]

end AlikeIn

end FoldMark
