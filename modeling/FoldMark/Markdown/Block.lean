import FoldMark.Markdown.Block.Interrupt
import FoldMark.Markdown.Definition

/-!
# Blocks

The lines of a scope are read from the top. At each line that is not blank the first kind of block
that fits is read, and reading goes on after it; a paragraph always fits. Quotations, list items and
footnote definitions read their content in a scope of their own, one level deeper, and below
`maxLevel` the rest of the lines is dropped.
-/

namespace FoldMark.Markdown

open FoldMark.Text

/-- The deepest level that is read. -/
def maxLevel : Nat := 20

/-- What has been read. -/
structure Draft where
  /-- The tokens so far. -/
  tokens : Array Token := #[]
  /-- The definitions so far. -/
  references : References := []
  /-- The labels of footnote definitions so far. -/
  notes : List (List Char) := []

/-- Reading adds to what has been read. -/
abbrev Build := StateM Draft

/-- Where reading has come to. -/
structure Position where
  /-- The next line. -/
  line : Nat
  /-- No blank line stands before the last block. -/
  tight : Bool

/-- Reads the lines from one line to another at a level. -/
abbrev Reader := (level : Nat) → Scope → (line stop : Nat) → Build Position

namespace Block

/-- Adds a token. -/
def put (token : Token) : Build Unit := modify fun d => { d with tokens := d.tokens.push token }

/-- Adds running text within an element. -/
def putText (element : Element) (source : List Char) : Build Unit := do
  put (.start element)
  put (.inline source [])
  put (.stop element)

/-! ## Leaf blocks -/

/-- The line after an indented code block: blank lines belong to it only between lines of code. -/
def codeEnd (scope : Scope) : Nat → Nat → Nat → Nat
  | 0, _, last => last
  | count + 1, n, last =>
    if scope.isBlank n then codeEnd scope count (n + 1) last
    else if scope.isCode n then codeEnd scope count (n + 1) (n + 1)
    else last

/-- Reads an indented code block. -/
def readCode (scope : Scope) (n stop : Nat) : Build Nat := do
  let last := codeEnd scope (stop - (n + 1)) (n + 1) (n + 1)
  put (.code (scope.content n last (4 + scope.blockIndent) false ++ ['\n']))
  return last

/-- Whether a line closes a fence. -/
def closesFence (scope : Scope) (fence : Scope.Fence) (n : Nat) : Bool :=
  let text := scope.text n
  let run := text.takeWhile (· == fence.mark)
  !scope.isCode n && run.length ≥ fence.length && (text.drop run.length).all isSpaceOrTab

/-- Where the content of a fence ends and where reading goes on: a fence is closed by its mark, by
text left of the enclosing content, and by the end of the lines or of the source. -/
def fenceEnd (scope : Scope) (fence : Scope.Fence) : Nat → Nat → Nat × Nat
  | 0, n => (n, n)
  | count + 1, n =>
    if !scope.isBlank n && scope.isOutdented n then (n, n)
    else if (scope.line n).textStart ≥ scope.source.size then (n, n)
    else if closesFence scope fence n then (n, n + 1)
    else fenceEnd scope fence count (n + 1)

/-- Reads a fenced code block. -/
def readFence (scope : Scope) (fence : Scope.Fence) (n stop : Nat) : Build Nat := do
  let (last, next) := fenceEnd scope fence (stop - (n + 1)) (n + 1)
  put (.fence fence.info (scope.content (n + 1) last (scope.line n).indent.toNat true))
  return next

/-- The line after a block of HTML that goes on from a line. -/
def htmlEnd (scope : Scope) (block : HtmlBlock) : Nat → Nat → Nat
  | 0, n => n
  | count + 1, n =>
    let text := scope.text n
    if scope.isOutdented n && !text.isEmpty then n
    else if block.endsAt text then (if text.isEmpty then n else n + 1)
    else htmlEnd scope block count (n + 1)

/-- Reads a block of HTML. -/
def readHtml (scope : Scope) (block : HtmlBlock) (n stop : Nat) : Build Nat := do
  let next :=
    if block.endsAt (scope.text n) then n + 1 else htmlEnd scope block (stop - (n + 1)) (n + 1)
  put (.html (scope.content n next scope.blockIndent true))
  return next

/-- The line after the rows of a table, and the rows, whose cells are filled up to `columns`. -/
def tableRows (scope : Scope) (columns : Nat) : Nat → Nat → Int → Nat × List (List (List Char))
  | 0, n, _ => (n, [])
  | count + 1, n, filled =>
    let row := trimSpace (scope.text n)
    if scope.isOutdented n || scope.interruptsQuotation n || row.isEmpty || scope.isCode n then
      (n, [])
    else
      let cells := Table.cells row
      let filled := filled + columns - cells.length
      if filled > Table.maxFilledCells then (n, [])
      else
        let (next, rows) := tableRows scope columns count (n + 1) filled
        (next, (cells ++ List.replicate (columns - cells.length) []) :: rows)

/-- Reads a table. -/
def readTable (scope : Scope) (alignments : List Alignment) (head : List (List Char))
    (n stop : Nat) : Build Nat := do
  let (next, rows) := tableRows scope alignments.length (stop - (n + 2)) (n + 2) 0
  let body := rows.flatMap (Table.rowTokens .cell alignments)
  put (.start .table)
  put (.start .tableHead)
  (Table.rowTokens .headerCell alignments head).forM put
  put (.stop .tableHead)
  if !rows.isEmpty then
    put (.start .tableBody)
    body.forM put
    put (.stop .tableBody)
  put (.stop .table)
  return next

/-! ## Paragraphs, headings and definitions -/

/-- The line after a paragraph that goes on from a line. -/
def paragraphEnd (scope : Scope) : Nat → Nat → Nat
  | 0, n => n
  | count + 1, n =>
    if scope.isBlank n then n
    else if scope.isCode n || (scope.line n).indent < 0 then paragraphEnd scope count (n + 1)
    else if scope.interruptsParagraph n scope.last then n
    else paragraphEnd scope count (n + 1)

/-- Reads a paragraph. -/
def readParagraph (scope : Scope) (n : Nat) : Build Nat := do
  let next := paragraphEnd scope (scope.last - (n + 1)) (n + 1)
  putText .paragraph (trimSpace (scope.content n next scope.blockIndent false))
  return next

/-- The level of the heading that a line underlines. -/
def underline? (scope : Scope) (n : Nat) : Option Nat :=
  match scope.text n with
  | [] => none
  | mark :: rest =>
    if scope.isOutdented n || !(mark == '-' || mark == '=') then none
    else if (rest.dropWhile (· == mark)).all isSpaceOrTab then some (if mark == '=' then 1 else 2)
    else none

/-- The underline of the heading whose text goes on from a line: its line and its level. -/
def underlineFrom? (scope : Scope) (stop : Nat) : Nat → Nat → Option (Nat × Nat)
  | 0, _ => none
  | count + 1, n =>
    if scope.isBlank n then none
    else if scope.isCode n then underlineFrom? scope stop count (n + 1)
    else
      match underline? scope n with
      | some level => some (n, level)
      | none =>
        if (scope.line n).indent < 0 then underlineFrom? scope stop count (n + 1)
        else if scope.interruptsParagraph n stop then none
        else underlineFrom? scope stop count (n + 1)

/-- Reads the text of a heading that is underlined. -/
def readUnderlined (scope : Scope) (level underline n : Nat) : Build Nat := do
  putText (.heading level) (trimSpace (scope.content n underline scope.blockIndent false))
  return underline + 1

/-- The text that a definition may take, from a line on. -/
def definitionText (scope : Scope) : Nat → Nat → List Char
  | 0, _ => []
  | count + 1, n =>
    if scope.isBlank n then []
    else if scope.isCode n || (scope.line n).indent < 0 ||
        !scope.interruptsDefinition n scope.last then
      scope.textWithEnd n ++ definitionText scope count (n + 1)
    else []

/-- The definition that a line starts. -/
def definition? (scope : Scope) (n : Nat) : Option Definition :=
  if scope.isCode n || (scope.text n).head? ≠ some '[' then none
  else
    Definition.atFront?
      (scope.textWithEnd n ++ definitionText scope (scope.last - (n + 1)) (n + 1))

/-- Keeps a definition. -/
def readDefinition (definition : Definition) (n : Nat) : Build Nat := do
  modify fun d =>
    { d with references := d.references.add definition.key definition.reference }
  return n + definition.lines

/-! ## Quotations -/

/-- The columns from `column` to the first character of a text that is no space or tab, where the
text starts `shift` columns further right than counted. -/
def spaceColumns (shift : Nat) : Nat → List Char → Nat
  | column, c :: rest =>
    if c == '\t' then spaceColumns shift (column + (4 - (column + shift) % 4)) rest
    else if c == ' ' then spaceColumns shift (column + 1) rest
    else column
  | column, [] => column

/-- A line without its quotation mark and one space after it. A tab after the mark gives its
columns to the content, less the one that the space takes. -/
def unquote (scope : Scope) (line : Line) : Line :=
  let mark := line.textStart + 1
  let column := line.indent.toNat + 1
  let next := scope.char? mark
  let isTab := next == some '\t'
  let isSpace := next == some ' '
  let isWide := isTab && (line.offset + column) % 4 != 3
  let skipped := isSpace || (isTab && !isWide)
  let start := if skipped then mark + 1 else mark
  let initial := if skipped then column + 1 else column
  let space := (scope.slice start line.stop).takeWhile isSpaceOrTab
  let reached := spaceColumns (line.offset + if isWide then 1 else 0) initial space
  { start
    stop := line.stop
    shift := space.length
    indent := reached - initial
    offset := line.indent.toNat + 1 + if isSpace || isTab then 1 else 0 }

/-- The scope of a quotation with the line after it. Lines without a mark belong to it as long as
they can only continue a paragraph; `isOpen` tells that the line before held text. -/
def quotationScope (scope : Scope) (stop : Nat) : Nat → Nat → Bool → Scope → Scope × Nat
  | 0, n, _, inner => (inner, n)
  | count + 1, n, isOpen, inner =>
    let line := scope.line n
    if line.isBlank then (inner, n)
    else if scope.char? line.textStart == some '>' && !scope.isOutdented n then
      let line := unquote scope line
      quotationScope scope stop count (n + 1) (!line.isBlank) (inner.withLine n line)
    else if !isOpen then (inner, n)
    else if scope.interruptsQuotation n then ({ inner with last := n }, n)
    else quotationScope scope stop count (n + 1) true (inner.withLine n { line with indent := -1 })

/-- Reads a quotation. -/
def readQuotation (read : Reader) (level : Nat) (scope : Scope) (n stop : Nat) : Build Nat := do
  let line := unquote scope (scope.line n)
  let inner := { scope.withLine n line with blockIndent := 0 }
  let (inner, next) :=
    quotationScope scope stop (stop - (n + 1)) (n + 1) (!line.isBlank) inner
  put (.start .quotation)
  let position ← read (level + 1) inner n next
  put (.stop .quotation)
  return position.line

/-! ## Lists -/

/-- Hides the paragraphs that are the direct content of the items of a list, so that only their
text shows. The list is the first element of the tokens; `depth` elements are open. -/
def hideParagraphs : Nat → List Token → List Token
  | _, [] => []
  | depth, .opening .paragraph attributes hidden :: rest =>
    .opening .paragraph attributes (hidden || depth = 2) :: hideParagraphs (depth + 1) rest
  | depth, .closing .paragraph hidden :: rest =>
    .closing .paragraph (hidden || depth = 3) :: hideParagraphs (depth - 1) rest
  | depth, token :: rest =>
    token :: hideParagraphs ((depth : Int) + token.nesting).toNat rest

/-- The scope of a list item: its first line starts after the mark, and its content at the column
of the text there. An item that starts with an empty line or with code has its content one column
after the mark. -/
def itemScope (scope : Scope) (marker : Scope.Marker) (n : Nat) : Scope :=
  let line := scope.line n
  let after := line.textStart + marker.size
  let initial := line.indent.toNat + marker.size
  let space := (scope.slice after line.stop).takeWhile isSpaceOrTab
  let reached := spaceColumns line.offset initial space
  let isEmpty := after + space.length ≥ line.stop
  let gap := if isEmpty || reached - initial > 4 then 1 else reached - initial
  let inner := { line with shift := line.shift + marker.size + space.length, indent := reached }
  { scope.withLine n inner with
    listIndent := some scope.blockIndent
    blockIndent := initial + gap }

/-- Where a list has come to: the next line, whether no item is loose so far, and whether the last
item ends in a blank line. -/
structure ListState where
  /-- The next line. -/
  line : Nat
  /-- No item is loose so far. -/
  tight : Bool
  /-- The last item ends in a blank line. -/
  endsBlank : Bool

/-- Reads a list item. -/
def readItem (read : Reader) (level : Nat) (scope : Scope) (marker : Scope.Marker) (stop : Nat)
    (state : ListState) : Build ListState := do
  let n := state.line
  let inner := itemScope scope marker n
  put (.start .listItem)
  let position ←
    if inner.isBlank n && inner.isBlank (n + 1) then
      pure ⟨min (n + 2) stop, true⟩
    else read (level + 2) inner n stop
  put (.stop .listItem)
  return {
    line := position.line
    tight := state.tight && position.tight && !state.endsBlank
    endsBlank := position.line > n + 1 && scope.isBlank (position.line - 1) }

/-- The mark of the next item of a list, if the list goes on at a line. -/
def nextMarker? (scope : Scope) (first : Scope.Marker) (n stop : Nat) : Option Scope.Marker :=
  if n ≥ stop || scope.isOutdented n || scope.isCode n || scope.interruptsList n then none
  else
    let marker :=
      if first.number.isSome then Scope.orderedMarker? (scope.text n)
      else Scope.bulletMarker? (scope.text n)
    marker.filter (·.mark == first.mark)

/-- Reads the items of a list, of which there are at most `count`. -/
def readItems (read : Reader) (level : Nat) (scope : Scope) (first : Scope.Marker) (stop : Nat) :
    Nat → Scope.Marker → ListState → Build ListState
  | 0, _, state => pure state
  | count + 1, marker, state => do
    let state ← readItem read level scope marker stop state
    match nextMarker? scope first state.line stop with
    | some marker => readItems read level scope first stop count marker state
    | none => return state

/-- Reads a list. -/
def readList (read : Reader) (level : Nat) (scope : Scope) (marker : Scope.Marker) (n stop : Nat) :
    Build Nat := do
  let element : Element := if marker.number.isSome then .orderedList else .bulletList
  let attributes : Attributes :=
    match marker.number with
    | none | some 1 => []
    | some number => [("start".toList, (toString number).toList)]
  let before := (← get).tokens
  put (.opening element attributes false)
  let state ← readItems read level scope marker stop (stop - n) marker ⟨n, true, false⟩
  put (.stop element)
  if state.tight then
    modify fun d =>
      let list := (d.tokens.extract before.size d.tokens.size).toList
      { d with tokens := before ++ (hideParagraphs 0 list).toArray }
  return state.line

/-! ## Footnotes -/

/-- The scope of a footnote definition, whose content is indented by four columns after the first
line. -/
def footnoteScope (scope : Scope) (size n : Nat) : Scope :=
  let line := scope.line n
  let start := line.textStart + size
  let initial := line.indent.toNat + size
  let space := (scope.slice start line.stop).takeWhile isSpaceOrTab
  let reached := spaceColumns 0 initial space
  let blockIndent := scope.blockIndent + 4
  let column := reached - initial
  let indent := if column < blockIndent then column + blockIndent else column
  { scope.withLine n { line with start, shift := space.length, indent } with blockIndent }

/-- Reads a footnote definition. -/
def readFootnote (read : Reader) (level : Nat) (scope : Scope) (label : List Char)
    (size n stop : Nat) : Build Nat := do
  modify fun d => { d with notes := if d.notes.contains label then d.notes else d.notes ++ [label] }
  put (.start (.footnoteDefinition label))
  let position ← read (level + 1) (footnoteScope scope size n) n stop
  put (.stop (.footnoteDefinition label))
  return position.line

/-! ## Any block -/

/-- Reads the block that a line starts, and returns the line after it. -/
def readBlock (read : Reader) (level : Nat) (scope : Scope) (n stop : Nat) : Build Nat :=
  if let some (alignments, head) := scope.table? n stop then readTable scope alignments head n stop
  else if scope.isCode n then readCode scope n stop
  else if let some fence := scope.fence? n then readFence scope fence n stop
  else if scope.startsQuotation n then readQuotation read level scope n stop
  else if scope.isRule n then do
    put .rule
    return n + 1
  else if let some marker := scope.list? n then readList read level scope marker n stop
  else if let some (label, size) := scope.footnote? n then
    readFootnote read level scope label size n stop
  else if let some definition := definition? scope n then readDefinition definition n
  else if let some block := scope.html? n then readHtml scope block n stop
  else if let some (headingLevel, text) := scope.heading? n then do
    putText (.heading headingLevel) text
    return n + 1
  else if let some (underline, headingLevel) :=
      underlineFrom? scope stop (stop - (n + 1)) (n + 1) then
    readUnderlined scope headingLevel underline n
  else readParagraph scope n

/-- Reads blocks until the lines end or lie left of the enclosing content; there are at most
`count` of them. `sawBlank` tells that a blank line stands before the next block. -/
def readBlocks (read : Reader) (level : Nat) (scope : Scope) (stop : Nat) :
    Nat → Nat → Bool → Bool → Build Position
  | 0, n, _, tight => pure ⟨n, tight⟩
  | count + 1, n, sawBlank, tight => do
    if n ≥ stop then return ⟨n, tight⟩
    let n := scope.skipBlank n
    if n ≥ stop || scope.isOutdented n then return ⟨n, tight⟩
    if level ≥ maxLevel then return ⟨stop, tight⟩
    let next ← readBlock read level scope n stop
    let endsBlank := next ≤ stop && scope.isBlank (next - 1)
    let isBlank := next < stop && scope.isBlank next
    readBlocks read level scope stop count (if isBlank then next + 1 else next)
      (sawBlank || endsBlank || isBlank) (!sawBlank)

/-- Reads blocks that are nested at most `depth` deep. -/
def readWithin : Nat → Reader
  | 0 => fun _ _ _ stop => pure ⟨stop, true⟩
  | depth + 1 => fun level scope n stop =>
    readBlocks (readWithin depth) level scope stop (stop - n + 1) n false true

end Block

/-- Reads the blocks of a document. Definitions that are given count before its own. -/
def readDraft (features : Features) (references : References) (source : List Char) : Draft :=
  let scope := Scope.ofSource features source
  ((Block.readWithin (maxLevel + 1) 0 scope 0 scope.last).run { references }).2

end FoldMark.Markdown
