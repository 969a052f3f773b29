import FoldMark.Text.Blank
import FoldMark.Text.Case

/-!
# Paths

A path is a sequence of names, from the root or from the working directory. Empty names and single
dots do not count, so `text` writes what `parse` reads in one form. The suffix of a name starts at
its last dot, unless the name starts or ends there.
-/

namespace FoldMark

open Text

/-- A name in a directory. -/
abbrev Name := List Char

namespace Name

/-- The name of a directory in itself. -/
def here : Name := ['.']

/-- The name of the directory around a directory. -/
def up : Name := ['.', '.']

/-- A name cut before its last dot, if the name neither starts nor ends there. -/
def cutSuffix (name : Name) : Name × Name :=
  let ending := (name.reverse.takeWhile (· != '.')).reverse
  let stem := name.take (name.length - ending.length - 1)
  if ending.isEmpty || stem.isEmpty then (name, []) else (stem, '.' :: ending)

/-- The suffix of a name with its dot, or nothing. -/
def suffix (name : Name) : Name := (cutSuffix name).2

/-- A name without its suffix. -/
def stem (name : Name) : Name := (cutSuffix name).1

/-- A suffix does not get lost. -/
theorem stem_append_suffix (name : Name) : stem name ++ suffix name = name := by
  simp only [stem, suffix, cutSuffix]
  split
  · simp
  · rename_i h
    simp only [Bool.or_eq_true, List.isEmpty_iff, not_or] at h
    obtain ⟨hasEnding, hasStem⟩ := h
    have split : (name.reverse.takeWhile (· != '.')) ++ (name.reverse.dropWhile (· != '.')) =
        name.reverse := List.takeWhile_append_dropWhile
    cases tail : name.reverse.dropWhile (· != '.') with
    | nil =>
      rw [tail, List.append_nil] at split
      simp [split] at hasStem
    | cons c rest =>
      have dot : c = '.' := by
        have := List.head?_dropWhile_not (· != '.') name.reverse
        rw [tail] at this
        simpa using this
      subst dot
      rw [tail] at split
      have whole : name = rest.reverse ++ '.' :: (name.reverse.takeWhile (· != '.')).reverse := by
        have := congrArg List.reverse split
        simpa using this.symm
      have size : name.length = rest.length + 1 + (name.reverse.takeWhile (· != '.')).length := by
        have := congrArg List.length whole
        simp only [List.length_append, List.length_reverse, List.length_cons] at this
        omega
      have stemEq :
          name.take (name.length - (name.reverse.takeWhile (· != '.')).reverse.length - 1) =
          rest.reverse := by
        have count : name.length - (name.reverse.takeWhile (· != '.')).reverse.length - 1 =
            rest.reverse.length := by
          simp only [List.length_reverse]
          omega
        rw [count]
        conv => lhs; rw [whole]
        simp
      rw [stemEq]
      exact whole.symm

end Name

/-- Where a path starts. -/
inductive Path.Root where
  /-- At the working directory. -/
  | none
  /-- At the root. -/
  | slash
  /-- At the root, written with two slashes. -/
  | twoSlashes
  deriving DecidableEq, Repr

/-- A path. -/
structure Path where
  /-- Where it starts. -/
  root : Path.Root
  /-- The names from there on. -/
  names : List Name
  deriving DecidableEq, Repr

namespace Path

/-- How a root is written. -/
def Root.text : Root → List Char
  | .none => []
  | .slash => ['/']
  | .twoSlashes => ['/', '/']

/-- The root of a written path. -/
def Root.ofText : List Char → Root
  | '/' :: '/' :: '/' :: _ => .slash
  | '/' :: '/' :: _ => .twoSlashes
  | '/' :: _ => .slash
  | _ => .none

/-- The names between the slashes of a text. -/
def namesOf (text : List Char) : List Name :=
  (splitAt (· == '/') text).filter fun name => !name.isEmpty && name != Name.here

/-- Reads a path. -/
def parse (text : List Char) : Path := ⟨Root.ofText text, namesOf text⟩

/-- Writes a path; the working directory itself is a dot. -/
def text (path : Path) : List Char :=
  if path.root = .none && path.names.isEmpty then Name.here
  else path.root.text ++ ['/'].intercalate path.names

/-- A path written in a message. -/
def string (path : Path) : String := String.ofList path.text

/-- Whether a path starts at the root. -/
def isAbsolute (path : Path) : Bool := path.root != .none

/-- The last name of a path, or nothing. -/
def name (path : Path) : Name := path.names.getLast?.getD []

/-- The path without its last name. -/
def parent (path : Path) : Path := { path with names := path.names.dropLast }

/-- A path seen from another; an absolute one stays as it is. -/
def join (path other : Path) : Path :=
  if other.isAbsolute then other else { path with names := path.names ++ other.names }

/-- A path with more names. -/
def append (path : Path) (names : List Name) : Path := { path with names := path.names ++ names }

/-- The suffix of the last name. -/
def suffix (path : Path) : Name := Name.suffix path.name

/-- The path with another suffix. -/
def withSuffix (path : Path) (suffix : Name) : Path :=
  { path with names := path.names.dropLast ++ [Name.stem path.name ++ suffix] }

/-- Names in the order of their characters. -/
def isBefore (a b : Path) : Bool := compareLex (a.root.text :: a.names) (b.root.text :: b.names)
where
  /-- Sequences of names in order. -/
  compareLex : List Name → List Name → Bool
    | [], _ => true
    | _ :: _, [] => false
    | a :: as, b :: bs => if a = b then compareLex as bs else decide (a < b)

/-- Whether the last name has a suffix of Markdown files, in any letter case. -/
def isMarkdown (path : Path) : Bool :=
  [".md", ".markdown"].contains (String.ofList (lower path.suffix))

end Path

end FoldMark
