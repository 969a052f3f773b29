import FoldMark.Path
import FoldMark.Text.Quoted
import FoldMark.Text.Utf8

/-!
# File trees

A tree maps places, which are sequences of names from the root, to files, directories and links. A
path is looked up from the working directory, name by name; a link on the way is followed, and no
lookup follows more than `maxLinks` of them.
-/

namespace FoldMark

open Text

/-- A place in a tree: the names from the root. -/
abbrev Place := List Name

/-- What stands at a place. -/
inductive Node where
  /-- A file with its bytes. -/
  | file (data : List UInt8)
  /-- A directory. -/
  | directory
  /-- A link with the text of its target. -/
  | link (target : List Char)
  deriving DecidableEq, Repr

namespace Node

/-- Whether a node is a directory. -/
def isDirectory : Node → Bool
  | directory => true
  | _ => false

/-- Whether a node is a file. -/
def isFile : Node → Bool
  | file _ => true
  | _ => false

/-- Whether a node is a link. -/
def isLink : Node → Bool
  | link _ => true
  | _ => false

end Node

/-- A tree of files. -/
structure Tree where
  /-- What stands where; the root is a directory without an entry. -/
  nodes : List (Place × Node)
  /-- The working directory. -/
  workplace : Place

/-- Why an operation on a tree fails. -/
inductive FileError.Cause where
  /-- There is no such file. -/
  | notFound
  /-- A file stands where a directory should. -/
  | notDirectory
  /-- A directory stands where a file should. -/
  | isDirectory
  /-- Something stands there already. -/
  | occupied
  /-- Too many links are to be followed. -/
  | tooManyLinks
  /-- A name is too long. -/
  | nameTooLong
  /-- A name holds a null character. -/
  | nullInName
  deriving DecidableEq, Repr

/-- A failure at a path. -/
structure FileError where
  /-- Why the operation failed. -/
  cause : FileError.Cause
  /-- The path that it was given. -/
  path : Path
  deriving DecidableEq, Repr

namespace FileError

/-- The number and the wording of a cause. -/
def Cause.wording : Cause → Nat × String
  | notFound => (2, "No such file or directory")
  | notDirectory => (20, "Not a directory")
  | isDirectory => (21, "Is a directory")
  | occupied => (17, "File exists")
  | tooManyLinks => (40, "Too many levels of symbolic links")
  | nameTooLong => (36, "File name too long")
  | nullInName => (22, "Invalid argument")

/-- The wording of a failure. -/
def message (error : FileError) : String :=
  let (number, words) := error.cause.wording
  "[Errno " ++ toString number ++ "] " ++ words ++ ": " ++ String.ofList (quoted error.path.text)

/-- Whether a failure only tells that there is nothing at the path. -/
def Cause.isAbsence : Cause → Bool
  | notFound | notDirectory | tooManyLinks | nullInName => true
  | _ => false

end FileError

namespace Tree

/-- The most links that a lookup follows. -/
def maxLinks : Nat := 40

/-- The most bytes of a name. -/
def maxNameBytes : Nat := 255

/-- What stands at a place. -/
def node? (tree : Tree) (place : Place) : Option Node :=
  if place.isEmpty then some .directory else tree.nodes.lookup place

/-- Where a path starts. -/
def start (tree : Tree) (path : Path) : Place := if path.isAbsolute then [] else tree.workplace

/-- The names of a link's target; a slash at its end asks for a directory. -/
def targetNames (target : List Char) : List Name :=
  let names := (splitAt (· == '/') target).filter (!·.isEmpty)
  if target.getLast? == some '/' then names ++ [Name.here] else names

/-- Where the target of a link in a directory starts. -/
def targetStart (place : Place) (target : List Char) : Place :=
  if target.head? == some '/' then [] else place

/-- Whether a name can be looked up. -/
def checkName (name : Name) : Except FileError.Cause Unit :=
  if name.contains '\x00' then .error .nullInName
  else if (Utf8.encode name).length > maxNameBytes then .error .nameTooLong
  else .ok ()

/-- What a lookup does about the last name. -/
structure LastName where
  /-- A link is followed. -/
  followsLink : Bool
  /-- Nothing need stand there. -/
  mayBeAbsent : Bool

/-- Looks names up from a directory, following at most a number of links. -/
def walk (tree : Tree) (last : LastName) : Nat → Place → List Name → Except FileError.Cause Place
  | _, place, [] => .ok place
  | links, place, name :: rest =>
    if name = Name.here then walk tree last links place rest
    else if name = Name.up then walk tree last links place.dropLast rest
    else
      match checkName name with
      | .error cause => .error cause
      | .ok _ =>
        match tree.node? (place ++ [name]) with
        | none =>
          if rest.isEmpty && last.mayBeAbsent then .ok (place ++ [name]) else .error .notFound
        | some .directory => walk tree last links (place ++ [name]) rest
        | some (.file _) => if rest.isEmpty then .ok (place ++ [name]) else .error .notDirectory
        | some (.link target) =>
          if rest.isEmpty && !last.followsLink then .ok (place ++ [name])
          else
            match links with
            | 0 => .error .tooManyLinks
            | links + 1 =>
              walk tree last links (targetStart place target) (targetNames target ++ rest)
termination_by links _ names => (links, names.length)

/-- Looks a path up. -/
def lookup (tree : Tree) (last : LastName) (path : Path) : Except FileError Place :=
  if path.names.any (·.contains '\x00') then .error ⟨.nullInName, path⟩
  else
    match walk tree last maxLinks (tree.start path) path.names with
    | .ok place => .ok place
    | .error cause => .error ⟨cause, path⟩

/-- The place that a path leads to, where something stands. -/
def locate (tree : Tree) (path : Path) : Except FileError Place := tree.lookup ⟨true, false⟩ path

/-- What a path leads to. -/
def status (tree : Tree) (path : Path) : Except FileError Node := do
  let place ← tree.locate path
  match tree.node? place with
  | some node => .ok node
  | none => .error ⟨.notFound, path⟩

/-- Whether a path leads to something that satisfies a test; a failure other than absence
is kept. -/
def leadsTo (tree : Tree) (test : Node → Bool) (path : Path) : Except FileError Bool :=
  match tree.status path with
  | .ok node => .ok (test node)
  | .error error => if error.cause.isAbsence then .ok false else .error error

/-- Whether a path leads to anything. -/
def isPresent (tree : Tree) (path : Path) : Except FileError Bool :=
  tree.leadsTo (fun _ => true) path

/-- Whether a path leads to a directory. -/
def isDirectory (tree : Tree) (path : Path) : Except FileError Bool :=
  tree.leadsTo Node.isDirectory path

/-- Whether a path leads to a file. -/
def isFile (tree : Tree) (path : Path) : Except FileError Bool := tree.leadsTo Node.isFile path

/-- The bytes of the file that a path leads to. -/
def read (tree : Tree) (path : Path) : Except FileError (List UInt8) := do
  match ← tree.status path with
  | .file data => .ok data
  | .directory => .error ⟨.isDirectory, path⟩
  | .link _ => .error ⟨.notFound, path⟩

end Tree

end FoldMark
