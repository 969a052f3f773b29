import FoldMark.Text.Blank
import FoldMark.Text.Class

/-!
# Texts in TOML

Texts stand between single or double quotes, three of which allow several lines. Between double
quotes a backslash starts an escape, and at the end of a line it joins the lines.
-/

namespace FoldMark.Toml

open FoldMark.Text

/-- A control character that no text and no comment may hold as it is. -/
def isControl (c : Char) : Bool := (c.toNat < 0x20 && c != '\t') || c.toNat == 0x7F

/-- A character that a text may not hold as it is. -/
def isForbidden (isMultiline : Bool) (c : Char) : Bool :=
  isControl c && !(isMultiline && c == '\n')

/-- The number that hexadecimal digits write, if they are that. -/
def hexNumber? (digits : List Char) : Option Nat :=
  digits.foldlM (fun n c => (asciiDigit? 16 c).map (n * 16 + ·)) 0

/-- The character of the hexadecimal digits at the front, of which there are `count`. -/
def codePoint? (count : Nat) (text : List Char) : Option Char := do
  let digits := text.take count
  let n ← hexNumber? digits
  if digits.length == count && n.isValidChar then some (Char.ofNat n) else none

/-- The character that a letter after a backslash stands for. -/
def simpleEscape? : Char → Option Char
  | 'b' => some '\x08'
  | 't' => some '\t'
  | 'n' => some '\n'
  | 'f' => some '\x0c'
  | 'r' => some '\r'
  | '"' => some '"'
  | '\\' => some '\\'
  | _ => none

/-- A space, a tab or a line feed. -/
def isSpaceOrLineEnd (c : Char) : Bool := isSpaceOrTab c || c == '\n'

/-- How many characters at the front join two lines: spaces, a line end and more of both. -/
def joinSize? (text : List Char) : Option Nat :=
  let rest := text.dropWhile isSpaceOrTab
  match rest with
  | [] => some text.length
  | c :: _ =>
    if c == '\n' then some (text.length - (rest.dropWhile isSpaceOrLineEnd).length) else none

/-- What the characters after a backslash stand for, and how many they are. -/
def escape? (isMultiline : Bool) (text : List Char) : Option (List Char × Nat) :=
  match text with
  | [] => none
  | c :: rest =>
    if isMultiline && isSpaceOrLineEnd c then (joinSize? text).map ([], ·)
    else if c == 'u' then (codePoint? 4 rest).map ([·], 5)
    else if c == 'U' then (codePoint? 8 rest).map ([·], 9)
    else (simpleEscape? c).map ([·], 1)

/-- The rest of a text after its opening double quotes. -/
def readBasic? (isMultiline : Bool) : List Char → Option (List Char × List Char)
  | [] => none
  | c :: rest =>
    if c == '"' && (!isMultiline || ['"', '"'].isPrefixOf rest) then
      some ([], rest.drop (if isMultiline then 2 else 0))
    else if c == '\\' then
      match escape? isMultiline rest with
      | none => none
      | some (chars, size) =>
        (readBasic? isMultiline (rest.drop size)).map fun (text, rest) => (chars ++ text, rest)
    else if isForbidden isMultiline c then none
    else (readBasic? isMultiline rest).map fun (text, rest) => (c :: text, rest)
termination_by text => text.length

/-- The rest of a text after its opening single quotes. -/
def readLiteral? (isMultiline : Bool) : List Char → Option (List Char × List Char)
  | [] => none
  | c :: rest =>
    if c == '\'' && (!isMultiline || ['\'', '\''].isPrefixOf rest) then
      some ([], rest.drop (if isMultiline then 2 else 0))
    else if isForbidden isMultiline c then none
    else (readLiteral? isMultiline rest).map fun (text, rest) => (c :: text, rest)

/-- Adds up to two quotes that stand before the three closing ones. -/
def withExtraQuotes (quote : Char) (found : List Char × List Char) : List Char × List Char :=
  let extra := (found.2.take 2).takeWhile (· == quote)
  (found.1 ++ extra, found.2.drop extra.length)

/-- Drops a line feed from the front. -/
def dropLineEnd : List Char → List Char
  | '\n' :: rest => rest
  | text => text

/-- The text on one line at the front. -/
def readLineText? : List Char → Option (List Char × List Char)
  | '"' :: rest => readBasic? false rest
  | '\'' :: rest => readLiteral? false rest
  | _ => none

/-- The text at the front. -/
def readText? : List Char → Option (List Char × List Char)
  | '"' :: '"' :: '"' :: rest => (readBasic? true (dropLineEnd rest)).map (withExtraQuotes '"')
  | '\'' :: '\'' :: '\'' :: rest =>
    (readLiteral? true (dropLineEnd rest)).map (withExtraQuotes '\'')
  | text => readLineText? text

end FoldMark.Toml
