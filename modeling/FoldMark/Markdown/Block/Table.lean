import FoldMark.Markdown.Character
import FoldMark.Markdown.Line

/-!
# Tables

The first line of a table holds the header cells, the second tells the alignment of the columns,
and the rest hold one row each. Cells are cut at vertical bars that no backslash precedes.
-/

namespace FoldMark.Markdown

open FoldMark.Text

namespace Table

/-- Cuts a row into cells. `cell` holds the current cell back to front; a bar after a backslash
takes the place of the backslash. -/
def splitCellsFrom : List Char → List Char → List (List Char)
  | cell, [] => [cell.reverse]
  | cell, '\\' :: '|' :: rest => splitCellsFrom ('|' :: cell) rest
  | cell, c :: rest =>
    if c == '|' then cell.reverse :: splitCellsFrom [] rest else splitCellsFrom (c :: cell) rest

/-- The cells of a row, without the empty ones outside its outer bars. -/
def cells (row : List Char) : List (List Char) :=
  let all := splitCellsFrom [] row
  let all := if all.head? == some [] then all.tail else all
  if all.getLast? == some [] then all.dropLast else all

/-- The alignment that a cell of the second line tells. -/
def alignment? (cell : List Char) : Option Alignment :=
  let inner := if cell.head? == some ':' then cell.tail else cell
  let isLeft := cell.head? == some ':'
  let isRight := inner.getLast? == some ':'
  let dashes := if isRight then inner.dropLast else inner
  if dashes.isEmpty || !dashes.all (· == '-') then none
  else some <| if isLeft && isRight then .center else if isLeft then .left
    else if isRight then .right else .unset

/-- The alignments that the cells of the second line tell; only the outer cells may be empty. -/
def alignments? (cells : List (List Char)) : Option (List Alignment) :=
  let trimmed := cells.map trimSpace
  let inner := if trimmed.head? == some [] then trimmed.tail else trimmed
  let inner := if inner.getLast? == some [] then inner.dropLast else inner
  inner.mapM alignment?

/-- Whether a line has the characters of a second line: bars, hyphens, colons and spaces, and no
space after a hyphen at the front. -/
def isDelimiterRow : List Char → Bool
  | first :: second :: rest =>
    let isMark (c : Char) : Bool := c == '|' || c == '-' || c == ':'
    isMark first && (isMark second || isSpaceOrTab second) && !(first == '-' && isSpaceOrTab second)
      && rest.all fun c => isMark c || isSpaceOrTab c
  | _ => false

/-- The most cells that rows shorter than the head may be filled up with. -/
def maxFilledCells : Int := 0x10000

/-- The attributes of a cell. -/
def cellAttributes : Alignment → Attributes
  | .unset => []
  | .left => [("style".toList, "text-align:left".toList)]
  | .center => [("style".toList, "text-align:center".toList)]
  | .right => [("style".toList, "text-align:right".toList)]

/-- A row of cells. -/
def rowTokens (element : Element) (alignments : List Alignment) (cells : List (List Char)) :
    List Token :=
  .start .tableRow ::
    (alignments.zip cells).flatMap (fun (alignment, cell) =>
      [.opening element (cellAttributes alignment) false, .inline (trimSpace cell) [],
        .stop element])
    ++ [.stop .tableRow]

end Table

namespace Scope

/-- The alignments and the header cells of the table that a line starts, in a range that ends
before `stop`. -/
def table? (scope : Scope) (n stop : Nat) : Option (List Alignment × List (List Char)) :=
  if !scope.features.tables || n + 2 > stop || scope.isOutdented (n + 1) || scope.isCode (n + 1) ||
      scope.isCode n || !Table.isDelimiterRow (scope.text (n + 1)) then none
  else do
    let alignments ← Table.alignments? (splitAt (· == '|') (trimSpace (scope.text (n + 1))))
    let head := trimSpace (scope.text n)
    if !head.contains '|' then none
    else
      let cells := Table.cells head
      if cells.isEmpty || cells.length ≠ alignments.length then none else some (alignments, cells)

end Scope

end FoldMark.Markdown
