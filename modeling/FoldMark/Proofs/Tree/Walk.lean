import FoldMark.Proofs.Tree.Frame

/-!
# Steps of a lookup

One equation for each thing that a lookup can meet under a name, and what it has met if it comes to
its end (`walk_cons_cases`). Where it meets no link, it takes the steps of `Reaches`
(`reaches_of_walk`), and so it ends where the names lead by their text: `walk_eq_lexicalPlace`.
-/

namespace FoldMark.Tree

variable {tree : Tree} {last : LastName} {place found : Place} {name : Name}

/-- Without names left, the place is found. -/
@[simp] theorem walk_nil (links : Nat) (place : Place) :
    tree.walk last links place [] = .ok place := by
  rw [walk]

/-- A dot leads nowhere. -/
@[simp] theorem walk_here (links : Nat) (place : Place) (rest : List Name) :
    tree.walk last links place (Name.here :: rest) = tree.walk last links place rest := by
  rw [walk, if_pos rfl]

/-- Two dots lead to the directory around. -/
@[simp] theorem walk_up (links : Nat) (place : Place) (rest : List Name) :
    tree.walk last links place (Name.up :: rest) =
      tree.walk last links place.dropLast rest := by
  rw [walk, if_neg (by decide), if_pos rfl]

section Names

variable (notHere : name ≠ Name.here) (notUp : name ≠ Name.up)

include notHere notUp

/-- A name that no file can have is not looked up. -/
theorem walk_of_refused {cause : FileError.Cause} (refused : checkName name = .error cause)
    (links : Nat) (rest : List Name) :
    tree.walk last links place (name :: rest) = .error cause := by
  rw [walk, if_neg notHere, if_neg notUp, refused]

variable (checked : checkName name = .ok ())

include checked

/-- Where nothing stands, only the last name can be found. -/
theorem walk_of_none (absent : tree.node? (place ++ [name]) = none) (links : Nat)
    (rest : List Name) :
    tree.walk last links place (name :: rest) =
      if rest.isEmpty && last.mayBeAbsent then .ok (place ++ [name]) else .error .notFound := by
  rw [walk, if_neg notHere, if_neg notUp, checked, absent]

/-- Through a directory the lookup goes on. -/
theorem walk_of_directory (found : tree.node? (place ++ [name]) = some .directory) (links : Nat)
    (rest : List Name) :
    tree.walk last links place (name :: rest) = tree.walk last links (place ++ [name]) rest := by
  rw [walk, if_neg notHere, if_neg notUp, checked, found]

/-- A file is found by the last name only. -/
theorem walk_of_file {data : List UInt8} (found : tree.node? (place ++ [name]) = some (.file data))
    (links : Nat) (rest : List Name) :
    tree.walk last links place (name :: rest) =
      if rest.isEmpty then .ok (place ++ [name]) else .error .notDirectory := by
  rw [walk, if_neg notHere, if_neg notUp, checked, found]

/-- A link is found or followed, if another one may be. -/
theorem walk_of_link {target : List Char}
    (found : tree.node? (place ++ [name]) = some (.link target)) (links : Nat)
    (rest : List Name) :
    tree.walk last links place (name :: rest) =
      if rest.isEmpty && !last.followsLink then .ok (place ++ [name])
      else
        match links with
        | 0 => .error .tooManyLinks
        | links + 1 =>
          tree.walk last links (targetStart place target) (targetNames target ++ rest) := by
  cases links <;> simp only [walk, if_neg notHere, if_neg notUp, checked, found]

end Names

/-- A name can be looked up or not. -/
theorem checkName_cases (name : Name) :
    checkName name = .ok () ∨ ∃ cause, checkName name = .error cause := by
  cases checkName name with
  | ok _ => exact Or.inl rfl
  | error cause => exact Or.inr ⟨cause, rfl⟩

/-- A link leads through a name. -/
def IsLinkName (tree : Tree) (name : Name) : Prop :=
  ∃ place target, tree.node? place = some (.link target) ∧ name ∈ targetNames target

/-- A lookup fails where there is nothing to be found, or at a name that cannot be looked up, which
is one of those that it is given or one that a link leads through. -/
theorem cause_of_walk {links : Nat} {names : List Name} {cause : FileError.Cause}
    (failed : tree.walk last links place names = .error cause) :
    cause ∈ [.notFound, .notDirectory, .tooManyLinks] ∨
      ∃ name, (name ∈ names ∨ tree.IsLinkName name) ∧ checkName name = .error cause := by
  fun_induction tree.walk last links place names with
  | case2 _ _ _ hypothesis | case3 _ _ _ _ hypothesis | case7 _ _ _ _ _ _ _ _ _ hypothesis =>
    refine (hypothesis failed).imp_right ?_
    rintro ⟨name, member | linked, refused⟩
    · exact ⟨name, Or.inl (List.mem_cons_of_mem _ member), refused⟩
    · exact ⟨name, Or.inr linked, refused⟩
  | case12 place name rest _ _ _ _ target found _ _ hypothesis =>
    refine (hypothesis failed).imp_right ?_
    rintro ⟨name, member | linked, refused⟩
    · rcases List.mem_append.mp member with inside | later
      · exact ⟨name, Or.inr ⟨_, target, found, inside⟩, refused⟩
      · exact ⟨name, Or.inl (List.mem_cons_of_mem _ later), refused⟩
    · exact ⟨name, Or.inr linked, refused⟩
  | case4 _ _ _ _ _ _ _ refused =>
    obtain rfl := Except.error.inj failed
    exact Or.inr ⟨_, Or.inl List.mem_cons_self, refused⟩
  | case1 | case5 | case8 | case10 => cases failed
  | case6 | case9 | case11 =>
    obtain rfl := Except.error.inj failed
    exact Or.inl (by decide)

/-- Where no link stands under a name, a lookup that comes to its end has gone on through a
directory, or the name was the last. -/
theorem walk_cons_cases {links : Nat} {rest : List Name} (notHere : name ≠ Name.here)
    (notUp : name ≠ Name.up)
    (unlinked : ∀ target, tree.node? (place ++ [name]) ≠ some (.link target))
    (walked : tree.walk last links place (name :: rest) = .ok found) :
    checkName name = .ok () ∧
      ((tree.node? (place ++ [name]) = some .directory ∧
          tree.walk last links (place ++ [name]) rest = .ok found) ∨
        (rest = [] ∧ found = place ++ [name])) := by
  rcases checkName_cases name with checked | ⟨cause, refused⟩
  case inr =>
    rw [walk_of_refused notHere notUp refused] at walked
    cases walked
  refine ⟨checked, ?_⟩
  cases met : tree.node? (place ++ [name]) with
  | none =>
    rw [walk_of_none notHere notUp checked met] at walked
    split at walked
    · rename_i alone
      rw [Bool.and_eq_true, List.isEmpty_iff] at alone
      exact .inr ⟨alone.1, (Except.ok.inj walked).symm⟩
    · cases walked
  | some node =>
    cases node with
    | directory =>
      rw [walk_of_directory notHere notUp checked met] at walked
      exact .inl ⟨rfl, walked⟩
    | file data =>
      rw [walk_of_file notHere notUp checked met] at walked
      split at walked
      · rename_i alone
        exact .inr ⟨List.isEmpty_iff.mp alone, (Except.ok.inj walked).symm⟩
      · cases walked
    | link target => exact absurd met (unlinked target)

/-- Names lead from a place to another one through directories, and no link is met. -/
inductive Reaches (tree : Tree) : Place → List Name → Place → Prop where
  /-- Without names left, the place is reached. -/
  | stop (place : Place) : Reaches tree place [] place
  /-- A dot leads nowhere. -/
  | here {place found : Place} {rest : List Name} (later : Reaches tree place rest found) :
      Reaches tree place (Name.here :: rest) found
  /-- Two dots lead to the directory around. -/
  | up {place found : Place} {rest : List Name} (later : Reaches tree place.dropLast rest found) :
      Reaches tree place (Name.up :: rest) found
  /-- A directory is gone through. -/
  | through {place found : Place} {name : Name} {rest : List Name} (notHere : name ≠ Name.here)
      (notUp : name ≠ Name.up) (checked : checkName name = .ok ())
      (directory : tree.node? (place ++ [name]) = some .directory)
      (later : Reaches tree (place ++ [name]) rest found) : Reaches tree place (name :: rest) found
  /-- The last name is that of anything, or of nothing yet. -/
  | last {place : Place} {name : Name} (notHere : name ≠ Name.here) (notUp : name ≠ Name.up)
      (checked : checkName name = .ok ()) : Reaches tree place [name] (place ++ [name])

/-- A lookup that comes to its end and meets no link takes these steps. -/
theorem reaches_of_walk {region : Place → Prop}
    (unlinked : ∀ place target, region place → tree.node? place ≠ some (.link target))
    {links : Nat} {names : List Name} (stays : StaysIn region place names)
    (walked : tree.walk last links place names = .ok found) : tree.Reaches place names found := by
  induction names generalizing place with
  | nil =>
    obtain rfl : place = found := by simpa using walked
    exact .stop place
  | cons name rest hypothesis =>
    have later := hypothesis stays.tail
    by_cases here : name = Name.here
    · subst here
      exact .here (later (by simpa using walked))
    by_cases up : name = Name.up
    · subst up
      exact .up (later (by simpa using walked))
    have inside := stays.tail.first
    rw [enter_of_ne place here up] at later inside
    obtain ⟨checked, ⟨directory, walked⟩ | ⟨rfl, rfl⟩⟩ :=
      walk_cons_cases here up (fun target => unlinked _ target inside) walked
    · exact .through here up checked directory (later walked)
    · exact .last here up checked

/-- What is reached is where the names lead by their text. -/
theorem Reaches.eq_lexicalPlace {names : List Name} (reached : tree.Reaches place names found) :
    found = lexicalPlace place names := by
  induction reached with
  | stop => rfl
  | here _ hypothesis => exact hypothesis
  | up _ hypothesis => exact hypothesis
  | through notHere notUp _ _ _ hypothesis =>
    rw [hypothesis, lexicalPlace, lexicalPlace, List.foldl_cons, enter_of_ne _ notHere notUp]
  | last notHere notUp _ => exact (enter_of_ne _ notHere notUp).symm

/-- A lookup that meets no link ends where the names lead by their text. -/
theorem walk_eq_lexicalPlace {region : Place → Prop}
    (unlinked : ∀ place target, region place → tree.node? place ≠ some (.link target))
    {links : Nat} {names : List Name} (stays : StaysIn region place names)
    (walked : tree.walk last links place names = .ok found) :
    found = lexicalPlace place names := (reaches_of_walk unlinked stays walked).eq_lexicalPlace

/-- A lookup that comes to its end has walked there. -/
theorem lookup_eq_ok_iff {path : Path} :
    tree.lookup last path = .ok place ↔ path.names.any (·.contains '\x00') = false ∧
      tree.walk last maxLinks (tree.start path) path.names = .ok place := by
  rw [lookup]
  cases path.names.any (·.contains '\x00') with
  | true => simp
  | false => cases tree.walk last maxLinks (tree.start path) path.names <;> simp

end FoldMark.Tree
