import FoldMark.Proofs.Tree.Resolve
import FoldMark.Proofs.Tree.Walk

/-!
# Trees of one layout

Two trees that differ only in what their files hold. Looking a path up asks for the kind of what
stands on the way and for nothing else, so it leads to the same place in both, and what it leads to
is of the same kind. Only reading tells them apart, and reading at a real place tells no more than
what stands there: `SameLayout.read_eq`.
-/

namespace FoldMark

/-- A node without what a file holds. -/
def Node.outline : Node → Node
  | file _ => file []
  | directory => directory
  | link target => link target

namespace Tree

/-- Two trees have the same directories and links, and files at the same places. -/
structure SameLayout (tree other : Tree) : Prop where
  /-- They have the same working directory. -/
  workplace_eq : tree.workplace = other.workplace
  /-- They have the same at every place, but for what files hold. -/
  outline_eq : ∀ place, (tree.node? place).map Node.outline = (other.node? place).map Node.outline

namespace SameLayout

variable {tree other : Tree}

/-- At every place both trees have nothing, a directory, the same link, or a file. -/
theorem cases (layout : SameLayout tree other) (place : Place) :
    (tree.node? place = none ∧ other.node? place = none) ∨
      (tree.node? place = some .directory ∧ other.node? place = some .directory) ∨
      (∃ target, tree.node? place = some (.link target) ∧
        other.node? place = some (.link target)) ∨
      ∃ data otherData, tree.node? place = some (.file data) ∧
        other.node? place = some (.file otherData) := by
  have same := layout.outline_eq place
  cases left : tree.node? place with
  | none =>
    rw [left, Option.map_none, eq_comm, Option.map_eq_none_iff] at same
    exact Or.inl ⟨rfl, same⟩
  | some node =>
    rw [left, Option.map_some, eq_comm, Option.map_eq_some_iff] at same
    obtain ⟨otherNode, right, outline⟩ := same
    rw [right]
    cases node <;> cases otherNode <;> simp_all [Node.outline]

/-- Trees with the same entries in order, but for what files hold, are of one layout. -/
theorem of_nodes (workplace : tree.workplace = other.workplace)
    (entries : tree.nodes.map (fun entry => (entry.1, entry.2.outline)) =
      other.nodes.map fun entry => (entry.1, entry.2.outline)) : SameLayout tree other := by
  have outlined : ∀ (place : Place) (nodes : List (Place × Node)),
      (nodes.map fun entry => (entry.1, entry.2.outline)).lookup place =
        (nodes.lookup place).map Node.outline := by
    intro place nodes
    induction nodes with
    | nil => rfl
    | cons entry rest hypothesis =>
      rw [List.map_cons, List.lookup_cons, List.lookup_cons]
      split
      · rfl
      · exact hypothesis
  refine ⟨workplace, fun place => ?_⟩
  rw [node?, node?]
  split
  · rfl
  · rw [← outlined, ← outlined, entries]

/-- Trees of one layout have the same links. -/
theorem sameLinks (layout : SameLayout tree other) : SameLinks tree other := by
  intro place target
  rcases layout.cases place with ⟨left, right⟩ | ⟨left, right⟩ | ⟨_, left, right⟩ |
    ⟨_, _, left, right⟩ <;> simp [left, right]

/-- A path has the same place in both trees. -/
theorem resolve_eq (layout : SameLayout tree other) (path : Path) :
    tree.resolve path = other.resolve path :=
  resolve_eq_of_sameLinks layout.sameLinks layout.workplace_eq path

/-- Names lead to the same place in both trees. The induction is on the links that may be followed,
for the target of a link brings in names from elsewhere. -/
theorem walk_eq (layout : SameLayout tree other) (last : LastName) (links : Nat) (place : Place)
    (names : List Name) :
    tree.walk last links place names = other.walk last links place names := by
  induction links using Nat.strong_induction_on generalizing place names with
  | _ links linksHypothesis =>
    induction names generalizing place with
    | nil => simp
    | cons name rest hypothesis =>
      by_cases here : name = Name.here
      · simpa [here] using hypothesis place
      by_cases up : name = Name.up
      · simpa [up] using hypothesis place.dropLast
      rcases checkName_cases name with checked | ⟨cause, refused⟩
      case inr => rw [walk_of_refused here up refused, walk_of_refused here up refused]
      rcases layout.cases (place ++ [name]) with ⟨left, right⟩ | ⟨left, right⟩ |
        ⟨target, left, right⟩ | ⟨data, otherData, left, right⟩
      · rw [walk_of_none here up checked left, walk_of_none here up checked right]
      · rw [walk_of_directory here up checked left, walk_of_directory here up checked right]
        exact hypothesis (place ++ [name])
      · rw [walk_of_link here up checked left, walk_of_link here up checked right]
        cases links with
        | zero => rfl
        | succ links => simp only [linksHypothesis links (Nat.lt_succ_self links)]
      · rw [walk_of_file here up checked left, walk_of_file here up checked right]

variable (path : Path)

/-- A path leads to the same place in both trees. -/
theorem locate_eq (layout : SameLayout tree other) : tree.locate path = other.locate path := by
  have start : tree.start path = other.start path := by
    rw [Tree.start, Tree.start, layout.workplace_eq]
  simp only [locate, lookup, start, layout.walk_eq]

/-- A path leads to nodes of one kind, or fails alike. -/
theorem status_eq (layout : SameLayout tree other) :
    (tree.status path).map Node.outline = (other.status path).map Node.outline := by
  rw [status, status, layout.locate_eq path]
  cases other.locate path with
  | error error => rfl
  | ok place =>
    rcases layout.cases place with ⟨left, right⟩ | ⟨left, right⟩ | ⟨_, left, right⟩ |
      ⟨_, _, left, right⟩
    all_goals simp [bind, Except.bind, Except.map, Node.outline, left, right]

/-- A test of the kind of a node has the same answer in both trees. -/
theorem leadsTo_eq (layout : SameLayout tree other) {test : Node → Bool}
    (ofKind : ∀ node, test node = test node.outline) :
    tree.leadsTo test path = other.leadsTo test path := by
  have same := layout.status_eq path
  rw [leadsTo, leadsTo]
  cases left : tree.status path <;> cases right : other.status path <;>
    simp only [left, right, Except.map] at same
  case error.error => rw [Except.error.inj same]
  case ok.ok node otherNode =>
    have agree : test node = test otherNode := by
      rw [ofKind node, ofKind otherNode, Except.ok.inj same]
    simp only [agree]
  all_goals cases same

/-- A path leads to a directory in both trees or in neither. -/
theorem isDirectory_eq (layout : SameLayout tree other) :
    tree.isDirectory path = other.isDirectory path :=
  layout.leadsTo_eq path fun node => by cases node <;> rfl

/-- A path leads to a file in both trees or in neither. -/
theorem isFile_eq (layout : SameLayout tree other) : tree.isFile path = other.isFile path :=
  layout.leadsTo_eq path fun node => by cases node <;> rfl

end SameLayout

/-! ## Reading at real places -/

variable {tree other : Tree} {place found : Place}

/-- The path of a real place leads there if it leads anywhere. -/
theorem eq_of_locate_pathOf (real : tree.IsReal place)
    (located : tree.locate (pathOf place) = .ok found) : found = place := by
  have stays : StaysIn (· <+: place) [] place := by
    intro count
    have reduced : IsReduced (place.take count) := fun name member =>
      real.reduced name (List.mem_of_mem_take member)
    rw [lexicalPlace_of_isReduced [] reduced]
    exact List.take_prefix count place
  have unlinked : ∀ front target, front <+: place → tree.node? front ≠ some (.link target) :=
    fun front target isFront => real.unlinked front isFront target
  have start : tree.start (pathOf place) = [] := rfl
  have walked := (lookup_eq_ok_iff.mp located).2
  rw [start] at walked
  rw [walk_eq_lexicalPlace unlinked stays walked]
  exact lexicalPlace_of_isReduced [] real.reduced

/-- Reading at a real place tells no more than what stands there. -/
theorem SameLayout.read_eq (layout : SameLayout tree other) (real : tree.IsReal place)
    (same : tree.node? place = other.node? place) :
    tree.read (pathOf place) = other.read (pathOf place) := by
  have located := layout.locate_eq (pathOf place)
  rw [read, read, status, status, ← located]
  cases leads : tree.locate (pathOf place) with
  | error error => rfl
  | ok found =>
    obtain rfl := eq_of_locate_pathOf real leads
    simp only [bind, Except.bind, same]

end Tree

end FoldMark
