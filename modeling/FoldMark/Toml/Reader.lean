import FoldMark.Toml.Scalar
import FoldMark.Toml.Table

/-!
# Reading TOML

A document is read line by line into statements, which then fill the tables. Each reader takes its
construct from the front of a text and returns what follows it.
-/

namespace FoldMark.Toml

open FoldMark.Text

/-- Drops spaces and tabs from the front. -/
def skipSpace (text : List Char) : List Char := text.dropWhile isSpaceOrTab

/-- Drops a comment from the front; none may hold a control character. -/
def skipComment? (text : List Char) : Option (List Char) :=
  match text with
  | '#' :: rest =>
    let comment := rest.takeWhile (· != '\n')
    if comment.any isControl then none else some (rest.drop comment.length)
  | _ => some text

/-- Drops white space, line ends and comments from the front, in at most `fuel` rounds. -/
def skipLines? : Nat → List Char → Option (List Char)
  | 0, text => some text
  | fuel + 1, text => do
    let rest := text.dropWhile isSpaceOrLineEnd
    match rest with
    | '#' :: _ => skipLines? fuel (← skipComment? rest)
    | _ => some rest

/-- Drops white space, line ends and comments from the front. -/
def skipLayout? (text : List Char) : Option (List Char) := skipLines? text.length text

/-- A character of a key without quotes. -/
def isBareChar (c : Char) : Bool := isAsciiAlphanumeric c || c == '-' || c == '_'

/-- A part of a key at the front. -/
def readKeyPart? (text : List Char) : Option (Key × List Char) :=
  let bare := text.takeWhile isBareChar
  if bare.isEmpty then readLineText? text else some (bare, text.drop bare.length)

/-- The parts of a key at the front, in at most `fuel` steps, and what follows the space after. -/
def readParts? : Nat → List Char → Option (List Key × List Char)
  | 0, _ => none
  | fuel + 1, text => do
    let (part, rest) ← readKeyPart? text
    match skipSpace rest with
    | '.' :: rest =>
      let (parts, rest) ← readParts? fuel (skipSpace rest)
      some (part :: parts, rest)
    | rest => some ([part], rest)

/-- A key at the front, and what follows the space after it. -/
def readKey? (text : List Char) : Option (List Key × List Char) := readParts? text.length text

/-- A key at the front up to its value. -/
def readAssigned? (text : List Char) : Option (List Key × List Char) := do
  let (path, rest) ← readKey? text
  let rest ← dropChar? '=' rest
  some (path, skipSpace rest)

mutual

/-- The value at the front, read in at most `fuel` nested steps. -/
def readValue? : Nat → List Char → Option (Value × List Char)
  | 0, _ => none
  | fuel + 1, text =>
    match text with
    | '[' :: rest => do
      let rest ← skipLayout? rest
      match rest with
      | ']' :: rest => some (.list none [], rest)
      | _ => (readItems? fuel rest).map fun (items, rest) => (.list none items, rest)
    | '\x7b' :: rest =>
      match skipSpace rest with
      | '\x7d' :: rest => some (.map none [], rest)
      | rest => (readEntries? fuel [] rest).map fun (table, rest) => (table.toValue, rest)
    | _ => readScalar? text

/-- The items of a list, its closing bracket included. -/
def readItems? : Nat → List Char → Option (List Value × List Char)
  | 0, _ => none
  | fuel + 1, text => do
    let (item, rest) ← readValue? fuel text
    match ← skipLayout? rest with
    | ']' :: rest => some ([item], rest)
    | ',' :: rest =>
      match ← skipLayout? rest with
      | ']' :: rest => some ([item], rest)
      | rest =>
        let (items, rest) ← readItems? fuel rest
        some (item :: items, rest)
    | _ => none

/-- The entries of a table on one line, its closing brace included, given those before. -/
def readEntries? : Nat → Table → List Char → Option (Table × List Char)
  | 0, _, _ => none
  | fuel + 1, table, text => do
    let (path, rest) ← readAssigned? text
    let (value, rest) ← readValue? fuel rest
    let table ← table.insert path value
    match skipSpace rest with
    | '\x7d' :: rest => some (table, rest)
    | ',' :: rest => readEntries? fuel table (skipSpace rest)
    | _ => none

end

/-- The statement at the front, and what follows it on its line. -/
def readStatement? (text : List Char) : Option (Statement × List Char) :=
  match text with
  | '[' :: '[' :: rest => do
    let (path, rest) ← readKey? (skipSpace rest)
    let rest ← dropChar? ']' rest
    let rest ← dropChar? ']' rest
    some (.tables path, rest)
  | '[' :: rest => do
    let (path, rest) ← readKey? (skipSpace rest)
    let rest ← dropChar? ']' rest
    some (.table path, rest)
  | _ => do
    let (path, rest) ← readAssigned? text
    let (value, rest) ← readValue? (text.length + 1) rest
    some (.pair path value, rest)

/-- What follows the rest of a line, on which only a comment may stand. -/
def endLine? (text : List Char) : Option (List Char) := do
  match ← skipComment? (skipSpace text) with
  | [] => some []
  | c :: rest => if c == '\n' then some rest else none

/-- The statements of a text, read in at most `fuel` lines. -/
def readStatements? : Nat → List Char → Option (List Statement)
  | 0, _ => some []
  | fuel + 1, text =>
    match skipSpace text with
    | [] => some []
    | c :: rest =>
      if c == '\n' then readStatements? fuel rest
      else if c == '#' then do readStatements? fuel (← endLine? (c :: rest))
      else do
        let (statement, rest) ← readStatement? (c :: rest)
        let statements ← readStatements? fuel (← endLine? rest)
        some (statement :: statements)

/-- Writes a carriage return and a line feed as a line feed. -/
def joinLineEnds : List Char → List Char
  | [] => []
  | '\r' :: '\n' :: rest => '\n' :: joinLineEnds rest
  | c :: rest => c :: joinLineEnds rest

/-- Reads a document. -/
def read? (text : List Char) : Option Value := do
  let text := joinLineEnds text
  build? (← readStatements? (text.length + 1) text)

end FoldMark.Toml
