import FoldMark.Markdown.Inline.Construct
import FoldMark.Markdown.Inline.Delimiter

/-!
# Inline content

Running text is read construct by construct. Delimiters are collected on the way and resolved at
the end of the text or of a link's label, so a span never crosses the border of a link. The
description of a picture and the text of a footnote are running text of their own.
-/

namespace FoldMark.Markdown

open FoldMark.Text

/-- A footnote of a document, in the order of first reference. -/
inductive Note where
  /-- A footnote whose text stands where it is referred to: its source and its content. -/
  | inline (source : List Char) (content : List Inline)
  /-- A footnote with a definition: its label and the number of references to it. -/
  | defined (label : List Char) (count : Nat)
  deriving Repr

/-- The footnotes referred to so far. -/
abbrev Notes := Array Note

namespace Notes

/-- The index of a footnote with a definition. -/
def find? (notes : Notes) (label : List Char) : Option Nat :=
  notes.findIdx? fun
    | .defined other _ => other == label
    | .inline .. => false

/-- Refers to a footnote with a definition: the notes afterwards, the note's index, and how many
references to it come before. -/
def mention (notes : Notes) (label : List Char) : Notes × Nat × Nat :=
  match notes.find? label with
  | none => (notes.push (.defined label 1), notes.size, 0)
  | some index =>
    match notes[index]? with
    | some (.defined label count) =>
      (notes.setIfInBounds index (.defined label (count + 1)), index, count)
    | _ => (notes, index, 0)

end Notes

/-- What reading running text changes. -/
structure Reading where
  /-- The steps over constructs so far. -/
  steps : Steps
  /-- The footnotes referred to so far. -/
  notes : Notes

/-- A part of running text while it is read. -/
structure Run where
  /-- What has been read. -/
  items : Array Inline := #[]
  /-- The text after that, back to front. -/
  pending : List Char := []
  /-- The delimiters among what has been read. -/
  delimiters : Array Delimiter := #[]

namespace Run

/-- Ends the text. -/
def flush (run : Run) : Run :=
  if run.pending.isEmpty then run
  else { run with items := run.items.push (.text run.pending.reverse), pending := [] }

/-- Adds a piece of content. -/
def push (run : Run) (item : Inline) : Run :=
  let run := run.flush
  { run with items := run.items.push item }

/-- Adds text. -/
def write (run : Run) (text : List Char) : Run :=
  { run with pending := text.reverse ++ run.pending }

/-- Adds a line end. Two spaces before it break the line, and no space stays before it. -/
def endLine (run : Run) : Run :=
  match run.pending with
  | ' ' :: ' ' :: rest => { run with pending := rest.dropWhile (· == ' ') }.push .hardBreak
  | ' ' :: rest => { run with pending := rest }.push .softBreak
  | _ => run.push .softBreak

/-- Adds delimiters, each with the text of one mark. -/
def pushDelimiters (run : Run) (mark : List Char) (delimiter : Delimiter) : Nat → Run
  | 0 => run
  | count + 1 =>
    let run := run.push (.text mark)
    let placed := { delimiter with item := run.items.size - 1 }
    pushDelimiters { run with delimiters := run.delimiters.push placed } mark delimiter count

/-- The content, with delimiters resolved. -/
def finish (run : Run) : List Inline :=
  let run := run.flush
  Inline.joinTexts (Delimiter.resolve run.delimiters run.items).toList

end Run

namespace RunningText

/-- The run of delimiters at a position before `stop`: its length and whether it may open and close.
A run of marks that split no word is stricter about its neighbours. -/
def delimiterRun (text : RunningText) (stop position : Nat) (mark : Char) (splitsWords : Bool) :
    Nat × Bool × Bool :=
  let length := ((text.slice position stop).takeWhile (· == mark)).length
  let next := position + length
  let before := Flank.of (if position = 0 then ' ' else text.chars.getD (position - 1) ' ')
  let after := Flank.of (if next < stop then text.chars.getD next ' ' else ' ')
  let isLeft := before.attached after
  let isRight := after.attached before
  if splitsWords then (length, isLeft, isRight)
  else (length, isLeft && (!isRight || before.mark), isRight && (!isLeft || after.mark))

/-- Adds the delimiters at a position, if there are any, and returns the position after them. -/
def readDelimiters? (text : RunningText) (stop position : Nat) (run : Run) :
    Option (Run × Nat) := do
  let mark ← text.chars[position]?
  if mark == '*' || mark == '_' then
    let (length, canOpen, canClose) := text.delimiterRun stop position mark (mark == '*')
    some (run.pushDelimiters [mark] { mark, length, item := 0, canOpen, canClose } length,
      position + length)
  else if mark == '~' && text.features.strikethrough then
    let (length, canOpen, canClose) := text.delimiterRun stop position mark true
    if length < 2 then none
    else
      let run := if length % 2 = 1 then run.push (.text [mark]) else run
      some (run.pushDelimiters [mark, mark] { mark, length := 0, item := 0, canOpen, canClose }
        (length / 2), position + length)
  else none

end RunningText

namespace Inline

/-- Reads running text of its own. -/
abbrev Nested := List Char → Notes → List Inline × Notes

/-- Reads a part of a running text. -/
abbrev PartReader := (position stop : Nat) → Reading → List Inline × Reading

/-- Adds a construct that ends before `next`. -/
def addConstruct (text : RunningText) (nested : Nested) (readPart : PartReader)
    (position next : Nat) (construct : Construct) (run : Run) (reading : Reading) : Run × Reading :=
  match construct with
  | .plain => (run.write (text.slice position next), reading)
  | .lineEnd => (run.endLine, reading)
  | .brokenLine => (run.push .hardBreak, reading)
  | .literal content => (run.push (.literal content), reading)
  | .code content => (run.push (.code content), reading)
  | .html => (run.push (.html (text.slice position next)), reading)
  | .autoLink destination shown =>
    let span := Span.link destination [] true
    (((run.push (.opening span)).push (.text shown)).push (.closing span), reading)
  | .link labelStop reference =>
    let span := Span.link reference.destination reference.title false
    let (content, reading) := readPart (position + 1) labelStop reading
    let run := run.push (.opening span)
    ({ run with items := run.items ++ content.toArray }.push (.closing span), reading)
  | .image labelStop reference =>
    let source := text.slice (position + 2) labelStop
    let (description, notes) := nested source reading.notes
    (run.push (.image reference.destination reference.title source description),
      { reading with notes })
  | .note labelStop =>
    let source := text.slice (position + 2) labelStop
    let index := reading.notes.size
    let (content, notes) := nested source (reading.notes.push (.inline source []))
    (run.push (.footnoteMark index 0),
      { reading with notes := notes.setIfInBounds index (.inline source content) })
  | .noteMark label =>
    let (notes, index, earlier) := reading.notes.mention label
    (run.push (.footnoteMark index earlier), { reading with notes })

/-- Reads a part of a running text, construct by construct; there are at most `count`. Labels are
searched for constructs nested `depth` deep. -/
def readConstructs (text : RunningText) (nested : Nested) (readPart : PartReader)
    (depth stop : Nat) :
    Nat → Nat → Run → Reading → Run × Reading
  | 0, _, run, reading => (run, reading)
  | count + 1, position, run, reading =>
    if position ≥ stop then (run, reading)
    else
      match text.readDelimiters? stop position run with
      | some (run, next) => readConstructs text nested readPart depth stop count next run reading
      | none =>
        let (found, steps) :=
          (Construct.at? text stop (Construct.skipWithin text stop depth) position).run
            reading.steps
        let reading := { reading with steps }
        match found with
        | some (construct, next) =>
          let (run, reading) :=
            addConstruct text nested readPart position next construct run reading
          readConstructs text nested readPart depth stop count next run reading
        | none =>
          let run := run.write (text.slice position (position + 1))
          readConstructs text nested readPart depth stop count (position + 1) run reading

/-- Reads a part of a running text, with constructs nested `depth` deep. Deeper ones are text. -/
def readPart (text : RunningText) (nested : Nested) : Nat → PartReader
  | 0 => fun position stop reading => ((Run.write {} (text.slice position stop)).finish, reading)
  | depth + 1 => fun position stop reading =>
    let (run, reading) :=
      readConstructs text nested (readPart text nested depth) (depth + 1) stop (stop - position)
        position {} reading
    (run.finish, reading)

/-- The deepest nesting of constructs. -/
def maxDepth : Nat := 20

/-- Reads running text, with constructs nested `depth` deep. -/
def readText (features : Features) (references : References) (labels : List (List Char))
    (depth : Nat) (nested : Nested) : Nested := fun source notes =>
  let text : RunningText := { chars := source.toArray, features, references, notes := labels }
  let steps : Steps := Array.replicate text.chars.size none
  let (content, reading) := readPart text nested depth 0 text.chars.size { steps, notes }
  (content, reading.notes)

/-- Reads running text whose pictures and footnotes are nested at most `fuel` deep. -/
def readWithin (features : Features) (references : References) (labels : List (List Char)) :
    Nat → Nested
  | 0 => fun _ notes => ([], notes)
  | fuel + 1 =>
    readText features references labels maxDepth (readWithin features references labels fuel)

/-- Reads running text. Each picture and footnote is shorter than the text it stands in, so that
the length of the text bounds their nesting. -/
def read (features : Features) (references : References) (labels : List (List Char)) : Nested :=
  fun source notes => readWithin features references labels (source.length + 1) source notes

end Inline

end FoldMark.Markdown
