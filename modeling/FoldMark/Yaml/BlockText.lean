import FoldMark.Yaml.Cursor

/-!
# Indented texts

An indented text is what stands on the lines after its mark, without their indentation. Its line
ends are kept, or folded into spaces where neither of two lines starts with a space. How much of the
line ends after it belongs to it is said after its mark, and so may be the indentation.
-/

namespace FoldMark.Yaml.BlockText

open Cursor

/-- How many of the line ends after a text belong to it. -/
inductive Chomping where
  /-- None. -/
  | strip
  /-- One. -/
  | clip
  /-- All. -/
  | keep
  deriving DecidableEq, Repr

/-- What is said after the mark of a text. -/
structure Header where
  /-- The line ends that belong to it. -/
  chomping : Chomping
  /-- The indentation beyond that of what is around it, if it is given. -/
  increment : Option Nat
  deriving DecidableEq, Repr

/-- What a sign after the mark says. -/
def chomping? : Char → Option Chomping
  | '+' => some .keep
  | '-' => some .strip
  | _ => none

/-- The number that a digit after the mark says. -/
def increment? (c : Char) : Option Nat := (Text.asciiDigit? 10 c).filter (· ≠ 0)

/-- Reads what is said after the mark, which ends with the line. -/
def readHeader? (cursor : Cursor) : Option (Header × Cursor) := do
  let c := cursor.peek
  let (header, cursor) : Header × Cursor := match chomping? c with
    | some chomping =>
      match increment? cursor.step.peek with
      | some increment => (⟨chomping, some increment⟩, cursor.advance 2)
      | none => (⟨chomping, none⟩, cursor.step)
    | none =>
      match increment? c with
      | some increment =>
        match chomping? cursor.step.peek with
        | some chomping => (⟨chomping, some increment⟩, cursor.advance 2)
        | none => (⟨.clip, some increment⟩, cursor.step)
      | none => (⟨.clip, none⟩, cursor)
  if !isSpaceEnd cursor.peek then none
  let cursor ← cursor.endOfLine?
  some (header, cursor)

/-- Passes blank lines of any indentation, in at most `fuel` lines; gives their ends and the widest
indentation up to the next text. -/
def leadingLines : Nat → Cursor → List Char × Nat × Cursor
  | 0, cursor => ([], 0, cursor)
  | fuel + 1, cursor =>
    let cursor := cursor.skipSpaces
    let width := cursor.mark.column
    if isBreak cursor.peek then
      let (chars, cursor) := cursor.lineBreak
      let (more, most, cursor) := leadingLines fuel cursor
      (chars ++ more, max width most, cursor)
    else ([], width, cursor)

/-- Passes up to some spaces. -/
def skipIndent (indent : Nat) (cursor : Cursor) : Cursor :=
  let width := (cursor.rest.takeWhile (· == ' ')).length
  cursor.advance (min width (indent - cursor.mark.column))

/-- Passes blank lines and the indentation of the next line, in at most `fuel` lines. -/
def blankLines (indent : Nat) : Nat → Cursor → List Char × Cursor
  | 0, cursor => ([], cursor)
  | fuel + 1, cursor =>
    let cursor := skipIndent indent cursor
    if isBreak cursor.peek then
      let (chars, cursor) := cursor.lineBreak
      let (more, cursor) := blankLines indent fuel cursor
      (chars ++ more, cursor)
    else ([], cursor)

/-- Whether a line of the text stands here. -/
def isLine (indent : Nat) (cursor : Cursor) : Bool :=
  cursor.mark.column == indent && cursor.peek != '\x00'

/-- Whether a line starts with a space or a tab. -/
def isSpaced (cursor : Cursor) : Bool := cursor.peek == ' ' || cursor.peek == '\t'

/-- What the end of a line and the blank lines after it stand for between two lines. -/
def between (isFolded : Bool) (ending blanks : List Char) : List Char :=
  if isFolded && ending == ['\n'] then (if blanks.isEmpty then [' '] else blanks)
  else ending ++ blanks

/-- What the end of the last line and the blank lines after it stand for. -/
def tail (chomping : Chomping) (ending blanks : List Char) : List Char :=
  match chomping with
  | .strip => []
  | .clip => ending
  | .keep => ending ++ blanks

/-- Reads the lines of a text, of which there are at most `fuel`. -/
def readLines (isFolded : Bool) (chomping : Chomping) (indent : Nat) :
    Nat → Cursor → List Char × Cursor
  | 0, cursor => ([], cursor)
  | fuel + 1, cursor =>
    let (line, after) := cursor.span fun c => !isLineEnd c
    let (ending, after) := after.lineBreak
    let (blanks, next) := blankLines indent (after.rest.length + 1) after
    if isLine indent next then
      let (more, rest) := readLines isFolded chomping indent fuel next
      let folds := isFolded && !isSpaced cursor && !isSpaced next
      (line ++ between folds ending blanks ++ more, rest)
    else (line ++ tail chomping ending blanks, next)

/-- Reads a text after its mark, within something of the given indentation. -/
def read? (isFolded : Bool) (outer : Int) (cursor : Cursor) : Option (List Char × Cursor) := do
  let (header, cursor) ← readHeader? cursor
  let least := max 1 (outer + 1).toNat
  let fuel := cursor.rest.length + 1
  let (blanks, indent, cursor) := match header.increment with
    | none =>
      let (blanks, most, cursor) := leadingLines fuel cursor
      (blanks, max least most, cursor)
    | some increment =>
      let indent := least + increment - 1
      let (blanks, cursor) := blankLines indent fuel cursor
      (blanks, indent, cursor)
  if isLine indent cursor then
    let (text, rest) := readLines isFolded header.chomping indent fuel cursor
    some (blanks ++ text, rest)
  else some (tail header.chomping [] blanks, cursor)

end FoldMark.Yaml.BlockText
