import FoldMark.Markdown.LinkParts
import FoldMark.Markdown.Url

/-!
# Link reference definitions

A definition gives a label a destination and a title. Labels are the same when their keys are, and
of several definitions of a label the first counts.
-/

namespace FoldMark.Markdown

open FoldMark.Text

/-- What a label stands for. -/
structure Reference where
  /-- The destination, ready to be written. -/
  destination : List Char
  /-- The title, which may be empty. -/
  title : List Char
  deriving DecidableEq, Repr

/-- The key of a label: without regard to case and to the amount of white space. -/
def labelKey (label : List Char) : List Char :=
  caseKey ([' '].intercalate (spacedWords label))

/-- The definitions of a document by the keys of their labels. -/
abbrev References := List (List Char × Reference)

namespace References

/-- What a label stands for. -/
def find? (references : References) (label : List Char) : Option Reference :=
  references.lookup (labelKey label)

/-- Adds a definition unless its label has one. -/
def add (references : References) (key : List Char) (reference : Reference) : References :=
  if references.any (·.1 == key) then references else references ++ [(key, reference)]

end References

/-- A definition as it was read. -/
structure Definition where
  /-- The key of the label. -/
  key : List Char
  /-- What the label stands for. -/
  reference : Reference
  /-- How many lines the definition takes. -/
  lines : Nat

namespace Definition

/-- The size of a label up to its closing bracket. -/
def labelSize? : List Char → Option Nat
  | [] => none
  | '\\' :: _ :: rest => (labelSize? rest).map (· + 2)
  | c :: rest =>
    if c == ']' then some 0 else if c == '[' then none else (labelSize? rest).map (· + 1)

/-- Whether nothing but spaces stands before the end of the line. -/
def atLineEnd (text : List Char) : Bool :=
  match text.dropWhile isSpaceOrTab with
  | [] => true
  | c :: _ => c == '\n'

/-- Drops spaces and line ends from the front. -/
def skipSpace (text : List Char) : List Char := text.dropWhile fun c => isSpaceOrTab c || c == '\n'

/-- The first line of a text with its end. -/
def firstLine (text : List Char) : List Char := (Text.lines text).headD []

/-- The title after a destination, with what follows it. A title on the line of the destination
needs a space before it. -/
def titleAfter? (text : List Char) : Option (List Char × List Char) := do
  let rest := skipSpace text
  let (title, size) ← title? rest
  if rest.length < text.length || (rest.take size).contains '\n' then some (title, rest.drop size)
  else none

/-- The definition at the front of a text, which ends where no definition could go on. A backslash
at the end of a line takes the line end into the destination, and then the definition ends there. -/
def atFront? (text : List Char) : Option Definition :=
  match text with
  | '[' :: body => do
    let size ← labelSize? body
    let label := body.take size
    let ':' :: rest := body.drop (size + 1) | none
    let rest := skipSpace rest
    let line := firstLine rest
    let (destination, size) ← destination? line
    let destination := Url.normalize destination
    if !Url.isSafe destination then none
    else
      let key := labelKey label
      let define (title rest : List Char) : Option Definition :=
        if key.isEmpty then none
        else
          let taken := text.take (text.length - rest.length - 1)
          some ⟨key, ⟨destination, title⟩, taken.count '\n' + 1⟩
      let rest := rest.drop size
      let plain := if atLineEnd rest then define [] rest else none
      if size = line.length then define [] rest
      else
        match titleAfter? rest with
        | some (title, after) =>
          if atLineEnd after then define title after else if title.isEmpty then none else plain
        | none => plain
  | _ => none

end Definition

end FoldMark.Markdown
