import FoldMark.Markdown.Character
import FoldMark.Markdown.Line
import FoldMark.Markdown.HtmlTag

/-!
# How blocks start

One function for each kind of block says whether a line starts one, and returns what the start
tells about the block. The same functions decide where a paragraph is interrupted.
-/

namespace FoldMark.Markdown

open FoldMark.Text

namespace Scope

/-- The opening fence of a code block. -/
structure Fence where
  /-- The character of the fence. -/
  mark : Char
  /-- Its length. -/
  length : Nat
  /-- The text after it. -/
  info : List Char

/-- The fence that a line opens: three or more back ticks or tildes. No back tick stands after back
ticks. -/
def fence? (scope : Scope) (n : Nat) : Option Fence :=
  let text := scope.text n
  match text.head? with
  | none => none
  | some mark =>
    let run := text.takeWhile (· == mark)
    let info := text.drop run.length
    if scope.isCode n || !(mark == '~' || mark == '\x60') || run.length < 3 then none
    else if mark == '\x60' && info.contains mark then none
    else some ⟨mark, run.length, info⟩

/-- Whether a line starts a quotation. -/
def startsQuotation (scope : Scope) (n : Nat) : Bool :=
  !scope.isCode n && scope.char? (scope.line n).textStart == some '>'

/-- Whether a line is a thematic break: three or more of one mark, with spaces anywhere. -/
def isRule (scope : Scope) (n : Nat) : Bool :=
  match scope.text n with
  | [] => false
  | mark :: rest =>
    !scope.isCode n && (mark == '*' || mark == '-' || mark == '_') &&
      rest.all (fun c => c == mark || isSpaceOrTab c) && rest.count mark ≥ 2

/-- The level and the text of a heading that starts with number signs. -/
def heading? (scope : Scope) (n : Nat) : Option (Nat × List Char) :=
  let text := scope.text n
  let level := (text.takeWhile (· == '#')).length
  let rest := text.drop level
  if scope.isCode n || level = 0 || level > 6 then none
  else if !(rest.head?.all isSpaceOrTab) then none
  else
    let trimmed := dropTrailing isSpaceOrTab rest
    let body := dropTrailing (· == '#') trimmed
    let content := if body.getLast?.any isSpaceOrTab then body else trimmed
    some (level, trimSpace content)

/-- The mark of a list item. -/
structure Marker where
  /-- The number of an ordered item. -/
  number : Option Nat
  /-- The character that tells lists apart. -/
  mark : Char
  /-- The size of the mark. -/
  size : Nat

/-- The mark of an ordered item at the front of a text: up to nine digits and a full stop or a
closing parenthesis. -/
def orderedMarker? (text : List Char) : Option Marker :=
  let digits := text.takeWhile Char.isDigit
  match text.drop digits.length with
  | mark :: rest =>
    if digits.isEmpty || digits.length > 9 || !(mark == '.' || mark == ')') then none
    else if rest.head?.all isSpaceOrTab then
      some ⟨some (digits.foldl (fun n c => 10 * n + (c.toNat - 0x30)) 0), mark, digits.length + 1⟩
    else none
  | [] => none

/-- The mark of a bullet at the front of a text. -/
def bulletMarker? : List Char → Option Marker
  | mark :: rest =>
    if (mark == '*' || mark == '-' || mark == '+') && rest.head?.all isSpaceOrTab then
      some ⟨none, mark, 1⟩
    else none
  | [] => none

/-- The mark of the list item that a line starts. -/
def marker? (scope : Scope) (n : Nat) : Option Marker :=
  (orderedMarker? (scope.text n)).or (bulletMarker? (scope.text n))

/-- Whether a line lies so far right of the enclosing list, and yet left of its content, that it
can only continue a paragraph. -/
def isBetweenLists (scope : Scope) (n : Nat) : Bool :=
  match scope.listIndent with
  | some column => (scope.line n).indent - column ≥ 4 && scope.isOutdented n
  | none => false

/-- The mark of the list that a line starts. -/
def list? (scope : Scope) (n : Nat) : Option Marker :=
  if scope.isCode n || scope.isBetweenLists n then none else scope.marker? n

/-- Whether a line starts a list that interrupts a paragraph: its first item has text, and its
number is one. A line left of the enclosing content is free of that. -/
def listInterrupts (scope : Scope) (n : Nat) : Bool :=
  match scope.list? n with
  | none => false
  | some marker =>
    scope.isOutdented n ||
      marker.number.all (· == 1) && !((scope.text n).drop marker.size).all isSpaceOrTab

/-- The label of the footnote definition that a line starts, with the size of its mark. -/
def footnote? (scope : Scope) (n : Nat) : Option (List Char × Nat) :=
  if !scope.features.footnotes || scope.isCode n then none
  else
    match scope.text n with
    | '[' :: '^' :: rest =>
      let label := rest.takeWhile fun c => c != ' ' && c != ']'
      if label.isEmpty then none
      else if "]:".toList.isPrefixOf (rest.drop label.length) then some (label, label.length + 4)
      else none
    | _ => none

/-- The block of HTML that a line starts. -/
def html? (scope : Scope) (n : Nat) : Option HtmlBlock :=
  if scope.isCode n then none else HtmlBlock.startAt? (scope.text n)

end Scope

end FoldMark.Markdown
