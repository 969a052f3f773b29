import FoldMark.Markdown.Token

/-!
# Task lists

An item of a list whose text starts with `[ ]` or `[x]` and white space gets a check box in place
of the brackets, and its list is marked as a list with tasks.
-/

namespace FoldMark.Markdown.TaskList

/-- White space that may follow the brackets. -/
def isSpace (c : Char) : Bool :=
  c == ' ' || c == '\t' || c == '\n' || c == '\x0b' || c == '\x0c' || c == '\r'

/-- Whether a text starts with the brackets of a task. -/
def startsWithBox : List Char → Bool
  | '[' :: mark :: ']' :: c :: _ => (mark == ' ' || mark == 'x' || mark == 'X') && isSpace c
  | _ => false

/-- The check box for a text. Only a space after the brackets gives one. -/
def box : List Char → List Char
  | '[' :: ' ' :: ']' :: ' ' :: _ =>
    "<input class=\"task-list-item-checkbox\" disabled=\"disabled\" type=\"checkbox\">".toList
  | '[' :: _ :: ']' :: ' ' :: _ =>
    ("<input class=\"task-list-item-checkbox\" checked=\"checked\" disabled=\"disabled\" " ++
      "type=\"checkbox\">").toList
  | _ => []

/-- The size of the brackets. -/
def boxSize : Nat := 3

/-- Drops the brackets from the first piece of content. -/
def dropBox : List Inline → List Inline
  | .text content :: rest => .text (content.drop boxSize) :: rest
  | .literal content :: rest => .literal (content.drop boxSize) :: rest
  | .code content :: rest => .code (content.drop boxSize) :: rest
  | .html content :: rest => .html (content.drop boxSize) :: rest
  | .image destination title source description :: rest =>
    .image destination title (source.drop boxSize) description :: rest
  | content => content

/-- Whether the tokens after the start of a list item begin a task. -/
def startsTask : List Token → Bool
  | .opening .paragraph _ _ :: .inline source _ :: _ => startsWithBox source
  | _ => false

/-- Whether an item of a list is a task; the tokens are those after its start, of which `depth`
elements are open. -/
def hasTask : Nat → List Token → Bool
  | _, [] => false
  | depth, .opening element _ _ :: rest =>
    depth = 0 && element == .listItem && startsTask rest || hasTask (depth + 1) rest
  | 0, .closing _ _ :: _ => false
  | depth + 1, .closing _ _ :: rest => hasTask depth rest
  | depth, _ :: rest => hasTask depth rest

/-- Marks lists with tasks and gives tasks their check boxes. -/
def apply : List Token → List Token
  | [] => []
  | .opening .listItem attributes hidden :: .opening .paragraph inner tight ::
      .inline source content :: rest =>
    if startsWithBox source then
      .opening .listItem (attributes.set "class".toList "task-list-item".toList) hidden ::
        .opening .paragraph inner tight ::
        .inline (source.drop boxSize) (.html (box source) :: dropBox content) :: apply rest
    else
      .opening .listItem attributes hidden :: .opening .paragraph inner tight ::
        .inline source content :: apply rest
  | .opening element attributes hidden :: rest =>
    let isList := element == .bulletList || element == .orderedList
    let attributes :=
      if isList && hasTask 0 rest then
        attributes.set "class".toList "contains-task-list".toList
      else attributes
    .opening element attributes hidden :: apply rest
  | token :: rest => token :: apply rest

end FoldMark.Markdown.TaskList
