import FoldMark.Text.Blank
import FoldMark.Value

/-!
# Definition lines

A document may start with link reference definitions of one line each. Such a line is a label
between brackets, a colon, a destination and possibly a title between quotes or parentheses.
-/

namespace FoldMark.FrontMatter

open Text

/-- A definition of one line. -/
structure DefinitionLine where
  /-- The label, without blank characters around it. -/
  label : List Char
  /-- The destination, without angle brackets around it. -/
  destination : List Char
  /-- The title, if there is one. -/
  title : Option (List Char)
  deriving DecidableEq, Repr

namespace DefinitionLine

/-- Drops up to three spaces from the front. -/
def dropIndent (line : List Char) : List Char :=
  line.drop (min 3 (line.takeWhile (· == ' ')).length)

/-- The label at the front and what follows its bracket. -/
def label? (text : List Char) : Option (List Char × List Char) :=
  match text with
  | '[' :: rest =>
    let label := rest.takeWhile fun c => c != '[' && c != ']'
    match rest.drop label.length with
    | ']' :: rest => if isBlankText label then none else some (label, rest)
    | _ => none
  | _ => none

/-- The destination at the front: between angle brackets, or up to a blank character. -/
def destination? (text : List Char) : Option (List Char × List Char) :=
  match text with
  | '<' :: rest =>
    let inner := rest.takeWhile fun c => c != '<' && c != '>' && c != '\n'
    match rest.drop inner.length with
    | '>' :: rest => some (inner, rest)
    | _ => none
  | _ =>
    let run := text.takeWhile fun c => !isBlank c
    if run.isEmpty then none
    else
      let destination := if run.getLast? == some '>' then run.dropLast else run
      some (destination, text.drop run.length)

/-- The title at the front, between equal quotes or between parentheses. -/
def title? (text : List Char) : Option (List Char × List Char) :=
  let between (excluded : List Char) (stop : Char) (rest : List Char) :=
    let inner := rest.takeWhile fun c => !excluded.contains c && c != '\n'
    match rest.drop inner.length with
    | c :: rest => if c == stop then some (inner, rest) else none
    | [] => none
  match text with
  | '"' :: rest => between ['"'] '"' rest
  | '\'' :: rest => between ['\''] '\'' rest
  | '(' :: rest => between ['(', ')'] ')' rest
  | _ => none

/-- The definition that a line without its end holds. -/
def ofLine? (line : List Char) : Option DefinitionLine := do
  let (label, rest) ← label? (dropIndent line)
  let ':' :: rest := rest | none
  let (destination, rest) ← destination? (rest.dropWhile isSpaceOrTab)
  let after := rest.dropWhile isSpaceOrTab
  if after.isEmpty then some ⟨trim label, destination, none⟩
  else if after.length < rest.length then
    let (title, rest) ← title? after
    if rest.all isSpaceOrTab then some ⟨trim label, destination, some title⟩ else none
  else none

/-- What a definition tells about its label. -/
def entry (line : DefinitionLine) : Value :=
  let title := line.title.toList.map fun title => (.str "title", .str title)
  .map none ((.str "uri", .str line.destination) :: title)

end DefinitionLine

/-- The definitions of a text, cut into lines at every line boundary. -/
def definitionLines (text : List Char) : List DefinitionLine :=
  (splitLines text).filterMap DefinitionLine.ofLine?

/-- The definitions by label, in the order in which the labels appear first. -/
def groupByLabel (lines : List DefinitionLine) : List (List Char × List DefinitionLine) :=
  let labels :=
    (lines.map (·.label)).foldl (fun seen l => if seen.contains l then seen else seen ++ [l]) []
  labels.map fun label => (label, lines.filter (·.label == label))

/-- What the definitions tell about each label. -/
def definitionEntries (lines : List DefinitionLine) : List (Value × Value) :=
  (groupByLabel lines).map fun (label, lines) =>
    (.str label, .list none (lines.map DefinitionLine.entry))

end FoldMark.FrontMatter
