import FoldMark.Tree

/-!
# Changes to a tree

Directories are made with those around them, a file is written through the links that lead to it,
and whatever stands at a place can be removed. A change that fails yields no tree.
-/

namespace FoldMark.Tree

/-- Puts a node at a place, instead of what stands there. -/
def put (tree : Tree) (place : Place) (node : Node) : Tree :=
  if tree.nodes.any (·.1 == place) then
    { tree with nodes := tree.nodes.map fun entry =>
        if entry.1 == place then (place, node) else entry }
  else { tree with nodes := tree.nodes ++ [(place, node)] }

/-- Takes away what stands at a place and below it. -/
def remove (tree : Tree) (place : Place) : Tree :=
  { tree with nodes := tree.nodes.filter fun entry => !place.isPrefixOf entry.1 }

/-- Makes one directory. -/
def makeDirectory (tree : Tree) (path : Path) : Except FileError Tree := do
  let place ← tree.lookup ⟨false, true⟩ path
  match tree.node? place with
  | none => .ok (tree.put place .directory)
  | some _ => .error ⟨.occupied, path⟩

/-- Makes one directory, unless there is one. -/
def ensureDirectory (tree : Tree) (path : Path) : Except FileError Tree :=
  match tree.makeDirectory path with
  | .ok tree => .ok tree
  | .error error =>
    match tree.isDirectory path with
    | .ok true => .ok tree
    | .ok false => .error error
    | .error other => .error other

/-- What is left of an operation that may stop halfway. -/
structure Attempt where
  /-- The tree with all that was done. -/
  tree : Tree
  /-- Why the operation stopped, if it did. -/
  failure : Option FileError

/-- A change of a tree, which stays as it is where the change fails. -/
def attempt (tree : Tree) (change : Except FileError Tree) : Attempt :=
  match change with
  | .ok next => ⟨next, none⟩
  | .error error => ⟨tree, some error⟩

/-- Makes the directory of names, which are given from the last one on, and those around it. -/
def makeNames (tree : Tree) (root : Path.Root) : List Name → Attempt
  | [] => tree.attempt (tree.ensureDirectory ⟨root, []⟩)
  | last :: front =>
    let path : Path := ⟨root, (last :: front).reverse⟩
    match tree.makeDirectory path with
    | .ok tree => ⟨tree, none⟩
    | .error error =>
      if error.cause = .notFound then
        let around := makeNames tree root front
        match around.failure with
        | none => around.tree.attempt (around.tree.ensureDirectory path)
        | some _ => around
      else tree.attempt (tree.ensureDirectory path)

/-- Makes a directory and those around it, unless they are there. Those that could be made stay if
others could not. -/
def makeDirectories (tree : Tree) (path : Path) : Attempt :=
  tree.makeNames path.root path.names.reverse

/-- The tree with a directory and those around it. -/
def ensureDirectories (tree : Tree) (path : Path) : Except FileError Tree :=
  let made := tree.makeDirectories path
  match made.failure with
  | none => .ok made.tree
  | some error => .error error

/-- Writes a file, through the links that lead to it. -/
def write (tree : Tree) (path : Path) (data : List UInt8) : Except FileError Tree := do
  let place ← tree.lookup ⟨true, true⟩ path
  match tree.node? place with
  | some .directory => .error ⟨.isDirectory, path⟩
  | _ => .ok (tree.put place (.file data))

/-- Puts a link where a path leads, instead of what stands there. -/
def link (tree : Tree) (path : Path) (target : List Char) : Except FileError Tree := do
  let place ← tree.lookup ⟨false, true⟩ path
  return tree.put place (.link target)

/-- Takes away what a path leads to, or the link itself if it leads to one. -/
def removeAt (tree : Tree) (path : Path) : Except FileError Tree := do
  let place ← tree.lookup ⟨false, false⟩ path
  return tree.remove place

/-- Takes away the link that a path leads to, if it leads to one. -/
def removeLink (tree : Tree) (path : Path) : Tree :=
  match tree.lookup ⟨false, false⟩ path with
  | .ok place => if (tree.node? place).any Node.isLink then tree.remove place else tree
  | .error _ => tree

/-- The files at and below a place, by the names from there on. -/
def filesBelow (tree : Tree) (place : Place) : List (List Name × List UInt8) :=
  tree.nodes.filterMap fun (spot, node) =>
    match node with
    | .file data => if place.isPrefixOf spot then some (spot.drop place.length, data) else none
    | _ => none

end FoldMark.Tree
