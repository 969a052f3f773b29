import FoldMark.Proofs.Tree.Frame
import Mathlib.Data.Finset.Card

/-!
# Resolved places

What resolving a path gives, and what it depends on. A place that a path is resolved to is real: no
link stands at it or on the way to it. Resolving asks a tree for its links only, and it stops at a
depth of links that depends on their number. `resolveFrom_of_linkCount_le` proves that this bound
cuts nothing off: if a path has a place at any depth, it has the same place at that one. So trees
with the same links resolve every path alike (`resolve_eq_of_sameLinks`), however many entries they
have.
-/

namespace FoldMark.Tree

variable {tree other : Tree} {place : Place} {name : Name} {rest : List Name} {target : List Char}
  {depth : Nat}

/-! ## Steps -/

/-- The place that a link in a directory leads to, if links may stand in one another's targets to a
depth, in which it counts. -/
def follow? (tree : Tree) (depth : Nat) (place : Place) (target : List Char) : Option Place :=
  match depth with
  | 0 => none
  | inner + 1 => tree.resolveFrom inner (targetStart place target) (targetNames target)

/-- No link can be followed to no depth. -/
@[simp] theorem follow?_zero (place : Place) (target : List Char) :
    tree.follow? 0 place target = none := rfl

/-- A link is followed by resolving its target. -/
theorem follow?_succ (depth : Nat) (place : Place) (target : List Char) :
    tree.follow? (depth + 1) place target =
      tree.resolveFrom depth (targetStart place target) (targetNames target) := rfl

/-- Without names left, the place is found. -/
@[simp] theorem resolveFrom_nil (depth : Nat) (place : Place) :
    tree.resolveFrom depth place [] = some place := by
  rw [resolveFrom]

/-- A dot leads nowhere. -/
@[simp] theorem resolveFrom_here (depth : Nat) (place : Place) (rest : List Name) :
    tree.resolveFrom depth place (Name.here :: rest) = tree.resolveFrom depth place rest := by
  rw [resolveFrom, if_pos rfl]

/-- Two dots lead to the directory around. -/
@[simp] theorem resolveFrom_up (depth : Nat) (place : Place) (rest : List Name) :
    tree.resolveFrom depth place (Name.up :: rest) =
      tree.resolveFrom depth place.dropLast rest := by
  rw [resolveFrom, if_neg (by decide), if_pos rfl]

/-- From a link it goes on where the link leads. -/
theorem resolveFrom_link (notHere : name ≠ Name.here) (notUp : name ≠ Name.up)
    (isLink : tree.node? (place ++ [name]) = some (.link target)) (depth : Nat)
    (rest : List Name) :
    tree.resolveFrom depth place (name :: rest) =
      (tree.follow? depth place target).bind fun place => tree.resolveFrom depth place rest := by
  rw [resolveFrom, if_neg notHere, if_neg notUp, isLink]
  cases depth with
  | zero => rfl
  | succ inner =>
    rw [follow?_succ]
    simp only
    cases tree.resolveFrom inner (targetStart place target) (targetNames target) <;> rfl

/-- Any other name leads to what has it. -/
theorem resolveFrom_unlinked (notHere : name ≠ Name.here) (notUp : name ≠ Name.up)
    (unlinked : ∀ target, tree.node? (place ++ [name]) ≠ some (.link target)) (depth : Nat)
    (rest : List Name) :
    tree.resolveFrom depth place (name :: rest) =
      tree.resolveFrom depth (place ++ [name]) rest := by
  rw [resolveFrom, if_neg notHere, if_neg notUp]
  cases found : tree.node? (place ++ [name]) with
  | none => rfl
  | some node =>
    cases node with
    | link target => exact absurd found (unlinked target)
    | _ => rfl

/-! ## Real places -/

/-- No link stands at a place or on the way to it, and all its names are those of nodes. -/
structure IsReal (tree : Tree) (place : Place) : Prop where
  /-- No name leads nowhere or up. -/
  reduced : IsReduced place
  /-- There is no link on the way. -/
  unlinked : ∀ front, front <+: place → ∀ target, tree.node? front ≠ some (.link target)

namespace IsReal

/-- The root is real. -/
theorem root (tree : Tree) : tree.IsReal [] := by
  refine ⟨by simp [IsReduced], fun front isFront target => ?_⟩
  obtain rfl := List.prefix_nil.mp isFront
  simp [node?]

/-- What stands around a real place is real. -/
theorem dropLast (real : tree.IsReal place) : tree.IsReal place.dropLast :=
  ⟨fun name member => real.reduced name (List.mem_of_mem_dropLast member),
    fun front isFront => real.unlinked front (isFront.trans (List.dropLast_prefix place))⟩

/-- What stands in a real place is real if it is no link. -/
theorem append (real : tree.IsReal place) (notHere : name ≠ Name.here) (notUp : name ≠ Name.up)
    (unlinked : ∀ target, tree.node? (place ++ [name]) ≠ some (.link target)) :
    tree.IsReal (place ++ [name]) := by
  refine ⟨fun other member => ?_, fun front isFront => ?_⟩
  · rcases List.mem_append.mp member with before | last
    · exact real.reduced other before
    · obtain rfl : other = name := by simpa using last
      exact ⟨notHere, notUp⟩
  · rcases List.prefix_concat_iff.mp isFront with rfl | before
    · exact unlinked
    · exact real.unlinked front before

/-- The target of a link in a real place starts at a real place. -/
theorem targetStart (real : tree.IsReal place) (target : List Char) :
    tree.IsReal (targetStart place target) := by
  rw [Tree.targetStart]
  split
  · exact root tree
  · exact real

end IsReal

/-- From a real place, names are resolved to a real place. -/
theorem isReal_of_resolveFrom {names : List Name} {found : Place} (real : tree.IsReal place)
    (resolved : tree.resolveFrom depth place names = some found) : tree.IsReal found := by
  induction depth, place, names using resolveFrom.induct tree generalizing found with
  | case1 depth place =>
    obtain rfl : place = found := by simpa using resolved
    exact real
  | case2 depth place rest hypothesis => exact hypothesis real (by simpa using resolved)
  | case3 depth place rest _ hypothesis => exact hypothesis real.dropLast (by simpa using resolved)
  | case4 place name rest notHere notUp target isLink =>
    rw [resolveFrom_link notHere notUp isLink] at resolved
    cases resolved
  | case5 place name rest notHere notUp target isLink inner endless _ =>
    rw [resolveFrom_link notHere notUp isLink, follow?_succ, endless] at resolved
    cases resolved
  | case6 place name rest notHere notUp target isLink inner middle leads link hypothesis =>
    rw [resolveFrom_link notHere notUp isLink, follow?_succ, leads] at resolved
    exact hypothesis (link (real.targetStart target) leads) resolved
  | case7 depth place name rest notHere notUp unlinked hypothesis =>
    rw [resolveFrom_unlinked notHere notUp unlinked] at resolved
    exact hypothesis (real.append notHere notUp unlinked) resolved

/-! ## What resolving depends on -/

/-- Two trees have the same links at the same places. -/
def SameLinks (tree other : Tree) : Prop :=
  ∀ place target, tree.node? place = some (.link target) ↔ other.node? place = some (.link target)

/-- Resolving depends on the links and on where following them leads. -/
theorem resolveFrom_congr {deep : Nat} (sameLinks : SameLinks tree other)
    (sameWays : ∀ place name target, tree.node? (place ++ [name]) = some (.link target) →
      tree.follow? depth place target = other.follow? deep place target)
    (place : Place) (names : List Name) :
    tree.resolveFrom depth place names = other.resolveFrom deep place names := by
  induction names generalizing place with
  | nil => simp
  | cons name rest hypothesis =>
    by_cases here : name = Name.here
    · simpa [here] using hypothesis place
    by_cases up : name = Name.up
    · simpa [up] using hypothesis place.dropLast
    by_cases isLink : ∃ target, tree.node? (place ++ [name]) = some (.link target)
    · obtain ⟨target, isLink⟩ := isLink
      rw [resolveFrom_link here up isLink, resolveFrom_link here up ((sameLinks _ _).mp isLink),
        sameWays place name target isLink]
      simp only [hypothesis]
    · have unlinked : ∀ target, tree.node? (place ++ [name]) ≠ some (.link target) :=
        fun target found => isLink ⟨target, found⟩
      have otherUnlinked : ∀ target, other.node? (place ++ [name]) ≠ some (.link target) :=
        fun target found => unlinked target ((sameLinks _ _).mpr found)
      rw [resolveFrom_unlinked here up unlinked, resolveFrom_unlinked here up otherUnlinked,
        hypothesis]

/-- Trees with the same links resolve names alike at every depth. -/
theorem resolveFrom_eq_of_sameLinks (sameLinks : SameLinks tree other) (depth : Nat)
    (place : Place) (names : List Name) :
    tree.resolveFrom depth place names = other.resolveFrom depth place names := by
  induction depth generalizing place names with
  | zero => exact resolveFrom_congr sameLinks (fun _ _ _ _ => rfl) place names
  | succ inner hypothesis =>
    refine resolveFrom_congr sameLinks (fun place name target _ => ?_) place names
    rw [follow?_succ, follow?_succ, hypothesis]

/-! ## The depth of links -/

/-- A place that is found at some depth is found at the next one. -/
theorem resolveFrom_succ {names : List Name} {found : Place}
    (resolved : tree.resolveFrom depth place names = some found) :
    tree.resolveFrom (depth + 1) place names = some found := by
  induction depth, place, names using resolveFrom.induct tree generalizing found with
  | case1 depth place => simpa using resolved
  | case2 depth place rest hypothesis => simpa using hypothesis (by simpa using resolved)
  | case3 depth place rest _ hypothesis => simpa using hypothesis (by simpa using resolved)
  | case4 place name rest notHere notUp target isLink =>
    rw [resolveFrom_link notHere notUp isLink] at resolved
    cases resolved
  | case5 place name rest notHere notUp target isLink inner endless _ =>
    rw [resolveFrom_link notHere notUp isLink, follow?_succ, endless] at resolved
    cases resolved
  | case6 place name rest notHere notUp target isLink inner middle leads link hypothesis =>
    rw [resolveFrom_link notHere notUp isLink, follow?_succ, leads] at resolved
    rw [resolveFrom_link notHere notUp isLink, follow?_succ, link leads]
    exact hypothesis resolved
  | case7 depth place name rest notHere notUp unlinked hypothesis =>
    rw [resolveFrom_unlinked notHere notUp unlinked] at resolved ⊢
    exact hypothesis resolved

/-- Where a link leads at some depth, it leads at the next one. -/
theorem follow?_mono {found : Place} (leads : tree.follow? depth place target = some found) :
    tree.follow? (depth + 1) place target = some found := by
  cases depth with
  | zero => cases leads
  | succ inner => exact resolveFrom_succ leads

/-- Where every link leads to the same place at the next depth, more depth changes nothing. -/
theorem resolveFrom_stable (settled : ∀ place name target,
      tree.node? (place ++ [name]) = some (.link target) →
        tree.follow? depth place target = tree.follow? (depth + 1) place target)
    (more : Nat) (place : Place) (names : List Name) :
    tree.resolveFrom depth place names = tree.resolveFrom (depth + more) place names := by
  have next : ∀ more place name target, tree.node? (place ++ [name]) = some (.link target) →
      tree.follow? depth place target = tree.follow? (depth + more) place target := by
    intro more
    induction more with
    | zero => exact fun _ _ _ _ => rfl
    | succ more hypothesis =>
      intro place name target isLink
      rw [settled place name target isLink, ← Nat.add_assoc, follow?_succ, follow?_succ]
      exact resolveFrom_congr (fun _ _ => Iff.rfl) hypothesis _ _
  exact resolveFrom_congr (fun _ _ => Iff.rfl) (next more) place names

/-- Whether a link that leads somewhere at a depth stands at a place. -/
def isSettled (tree : Tree) (depth : Nat) (place : Place) : Bool :=
  match tree.node? place with
  | some (.link target) => (tree.follow? depth place.dropLast target).isSome
  | _ => false

/-- The places of the links that lead somewhere at a depth. -/
def settledLinks (tree : Tree) (depth : Nat) : Finset Place :=
  ((tree.nodes.filter (·.2.isLink)).map Prod.fst).toFinset.filter fun place =>
    tree.isSettled depth place = true

/-- There are at most as many of them as there are links. -/
theorem card_settledLinks_le (tree : Tree) (depth : Nat) :
    (tree.settledLinks depth).card ≤ tree.linkCount := by
  calc (tree.settledLinks depth).card
      ≤ ((tree.nodes.filter (·.2.isLink)).map Prod.fst).toFinset.card := Finset.card_filter_le _ _
    _ ≤ ((tree.nodes.filter (·.2.isLink)).map Prod.fst).length := List.toFinset_card_le _
    _ = tree.linkCount := by rw [List.length_map, linkCount, List.countP_eq_length_filter]

/-- A link is among them if it leads somewhere. -/
theorem mem_settledLinks_iff (isLink : tree.node? (place ++ [name]) = some (.link target)) :
    place ++ [name] ∈ tree.settledLinks depth ↔
      (tree.follow? depth place target).isSome = true := by
  have entry : (place ++ [name], .link target) ∈ tree.nodes := by
    have found : tree.nodes.lookup (place ++ [name]) = some (.link target) := by
      simpa [node?] using isLink
    obtain ⟨front, back, whole, _⟩ := List.lookup_eq_some_iff.mp found
    simp [whole]
  have listed : place ++ [name] ∈
      ((tree.nodes.filter (·.2.isLink)).map Prod.fst).toFinset := by
    rw [List.mem_toFinset, List.mem_map]
    exact ⟨_, List.mem_filter.mpr ⟨entry, rfl⟩, rfl⟩
  rw [settledLinks, Finset.mem_filter, isSettled, isLink]
  simp [listed]

/-- A link that leads somewhere at some depth does so at the next one. -/
theorem settledLinks_subset (tree : Tree) (depth : Nat) :
    tree.settledLinks depth ⊆ tree.settledLinks (depth + 1) := by
  intro place member
  simp only [settledLinks, Finset.mem_filter] at member ⊢
  refine ⟨member.1, ?_⟩
  have settled := member.2
  unfold isSettled at settled ⊢
  split at settled
  · obtain ⟨found, leads⟩ := Option.isSome_iff_exists.mp settled
    simp only [follow?_mono leads, Option.isSome_some]
  · cases settled

/-- At a depth that the number of links bounds, no further link leads somewhere at the next one:
each depth until then has a link more. -/
theorem exists_settledLinks_eq (tree : Tree) :
    ∃ depth ≤ tree.linkCount, tree.settledLinks depth = tree.settledLinks (depth + 1) := by
  by_contra none
  have grows : ∀ depth ≤ tree.linkCount,
      (tree.settledLinks depth).card < (tree.settledLinks (depth + 1)).card := by
    intro depth bounded
    refine Finset.card_lt_card ((settledLinks_subset tree depth).ssubset_of_ne fun same => ?_)
    exact none ⟨depth, bounded, same⟩
  have many : ∀ depth ≤ tree.linkCount + 1, depth ≤ (tree.settledLinks depth).card := by
    intro depth
    induction depth with
    | zero => exact fun _ => Nat.zero_le _
    | succ depth hypothesis =>
      intro bounded
      have before := hypothesis (by omega)
      have step := grows depth (by omega)
      omega
  have beyond := many (tree.linkCount + 1) (Nat.le_refl _)
  have bounded := card_settledLinks_le tree (tree.linkCount + 1)
  omega

/-- From the depth of as many links as there are, more depth changes nothing. -/
theorem resolveFrom_of_linkCount_le (enough : tree.linkCount ≤ depth) (place : Place)
    (names : List Name) :
    tree.resolveFrom depth place names = tree.resolveFrom tree.linkCount place names := by
  obtain ⟨stop, bounded, same⟩ := exists_settledLinks_eq tree
  have settled : ∀ place name target, tree.node? (place ++ [name]) = some (.link target) →
      tree.follow? stop place target = tree.follow? (stop + 1) place target := by
    intro place name target isLink
    cases leads : tree.follow? stop place target with
    | some found => exact (follow?_mono leads).symm
    | none =>
      have missing : place ++ [name] ∉ tree.settledLinks (stop + 1) := by
        rw [← same, mem_settledLinks_iff isLink, leads]
        exact Bool.false_ne_true
      rw [mem_settledLinks_iff isLink, Option.not_isSome_iff_eq_none] at missing
      exact missing.symm
  have deep := resolveFrom_stable settled (depth - stop) place names
  have atCount := resolveFrom_stable settled (tree.linkCount - stop) place names
  rw [Nat.add_sub_cancel' (Nat.le_trans bounded enough)] at deep
  rw [Nat.add_sub_cancel' bounded] at atCount
  rw [← deep, ← atCount]

/-- Trees with the same links resolve names alike, however many entries they have. -/
theorem resolve_eq_of_sameLinks (sameLinks : SameLinks tree other)
    (workplace : tree.workplace = other.workplace) (path : Path) :
    tree.resolve path = other.resolve path := by
  have start : tree.start path = other.start path := by rw [Tree.start, Tree.start, workplace]
  have same : ∀ place names, tree.resolveFrom tree.linkCount place names =
      other.resolveFrom other.linkCount place names := by
    intro place names
    calc tree.resolveFrom tree.linkCount place names
        = tree.resolveFrom (max tree.linkCount other.linkCount) place names :=
          (resolveFrom_of_linkCount_le (Nat.le_max_left _ _) place names).symm
      _ = other.resolveFrom (max tree.linkCount other.linkCount) place names :=
          resolveFrom_eq_of_sameLinks sameLinks _ place names
      _ = other.resolveFrom other.linkCount place names :=
          resolveFrom_of_linkCount_le (Nat.le_max_right _ _) place names
  rw [resolve, resolve, start, same]

/-- A path from the top of a tree is resolved to a real place. -/
theorem isReal_of_resolve {path : Path} (absolute : path.isAbsolute = true)
    (resolved : tree.resolve path = .ok place) : tree.IsReal place := by
  have start : tree.start path = [] := by simp [Tree.start, absolute]
  rw [resolve, start] at resolved
  split at resolved
  · cases resolved
  · split at resolved
    case h_1 found leads =>
      obtain rfl : found = place := by simpa using resolved
      exact isReal_of_resolveFrom (IsReal.root tree) leads
    case h_2 => cases resolved

end FoldMark.Tree
