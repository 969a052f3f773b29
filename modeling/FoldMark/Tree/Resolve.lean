import FoldMark.Tree

/-!
# Resolved paths

A path is resolved to a place without links in it. Names that lead nowhere are kept, so that a place
can be told for what does not exist yet. A link within its own target has no place.
-/

namespace FoldMark.Tree

/-- Resolves names from a place; links may stand within the targets of links to a depth. -/
def resolveFrom (tree : Tree) : Nat → Place → List Name → Option Place
  | _, place, [] => some place
  | depth, place, name :: rest =>
    if name = Name.here then resolveFrom tree depth place rest
    else if name = Name.up then resolveFrom tree depth place.dropLast rest
    else
      match tree.node? (place ++ [name]) with
      | some (.link target) =>
        match depth with
        | 0 => none
        | inner + 1 =>
          match resolveFrom tree inner (targetStart place target) (targetNames target) with
          | none => none
          | some place => resolveFrom tree (inner + 1) place rest
      | _ => resolveFrom tree depth (place ++ [name]) rest
termination_by depth _ names => (depth, names.length)

/-- The number of links in a tree, which bounds how deep their targets lead into one another. -/
def linkCount (tree : Tree) : Nat := tree.nodes.countP (·.2.isLink)

/-- Why a path has no place. -/
inductive ResolveError where
  /-- A link is within its own target. -/
  | loop
  /-- A name holds a null character. -/
  | nullInName
  deriving DecidableEq, Repr

/-- The place of a path. -/
def resolve (tree : Tree) (path : Path) : Except ResolveError Place :=
  if path.names.any (·.contains '\x00') then .error .nullInName
  else
    match resolveFrom tree tree.linkCount (tree.start path) path.names with
    | some place => .ok place
    | none => .error .loop

/-- The path of a place. -/
def pathOf (place : Place) : Path := ⟨.slash, place⟩

end FoldMark.Tree
