import FoldMark.Text.CodePoint
import FoldMark.Yaml.Cursor

/-!
# How a text is written

A text is written without quotes if it reads back so, else between single quotes, and between double
quotes if it has characters that need an escape or spaces around its line ends. A line that has
become too long is broken at the next single space.
-/

namespace FoldMark.Yaml.TextStyle

/-- After how many columns a line is too long. -/
def maxWidth : Nat := 80

/-- A character that ends a line of a written text. -/
def isWrittenBreak (c : Char) : Bool := c == '\n' || c == '\u0085' || c == '\u2028' || c == '\u2029'

/-- A character that cannot be written as it is. -/
def isSpecial (c : Char) : Bool :=
  let n := c.toNat
  !(c == '\n' || (0x20 ≤ n && n ≤ 0x7E) || n == 0x85 || (0xA0 ≤ n && n ≤ 0xD7FF) ||
    (0xE000 ≤ n && n ≤ 0xFFFD) || (0x10000 ≤ n && n < 0x10FFFF)) || c == '\uFEFF'

/-- Whether two neighbours satisfy two tests. -/
def hasNeighbours (first second : Char → Bool) : List Char → Bool
  | a :: b :: rest => (first a && second b) || hasNeighbours first second (b :: rest)
  | _ => false

/-- A space. -/
def isSpace (c : Char) : Bool := c == ' '

/-- Whether the rest of a text starts like the end of a word. -/
def beforeGap (rest : List Char) : Bool := isGap (rest.headD '\x00')

/-- Whether a text starts as only a sign or a document's start or end does. -/
def startsAsSign (text : List Char) : Bool :=
  match text with
  | [] => false
  | c :: rest =>
    "---".toList.isPrefixOf text || "...".toList.isPrefixOf text ||
      "#,[]\x7b\x7d&*!|>'\"%@`".toList.contains c ||
      ((c == '?' || c == ':' || c == '-') && beforeGap rest)

/-- Whether a sign stands within a text: a colon at the end of a word, or the mark of a comment at
the start of one. -/
def hasSignWithin : List Char → Bool
  | a :: b :: rest =>
    (b == ':' && beforeGap rest) || (b == '#' && isGap a) || hasSignWithin (b :: rest)
  | _ => false

/-- Whether a text has more than one line. -/
def isMultiline (text : List Char) : Bool := text.any isWrittenBreak

/-- Whether a text starts or ends with a space. -/
def hasOuterSpace (text : List Char) : Bool := text.head?.any isSpace || text.getLast?.any isSpace

/-- Whether a text can stand between single quotes. -/
def allowsSingle (text : List Char) : Bool :=
  !(text.any isSpecial || hasNeighbours isWrittenBreak isSpace text ||
    hasNeighbours isSpace isWrittenBreak text)

/-- Whether a text can stand without quotes. -/
def allowsPlain (text : List Char) : Bool :=
  !(isMultiline text || hasOuterSpace text || startsAsSign text || hasSignWithin text) &&
    allowsSingle text

/-- Spaces. -/
def spaces (count : Nat) : List Char := List.replicate count ' '

/-- A line end and the indentation of the next line. -/
def newLine (indent : Nat) : List Char := '\n' :: spaces indent

/-- Where the lines of a text may be broken. -/
structure Folding where
  /-- Whether a line may be broken. -/
  allowed : Bool
  /-- The indentation of the lines after the first. -/
  indent : Nat

/-- Whether a line is broken after a column at the space between a character and some others. -/
def Folding.breaksAt (folding : Folding) (column : Nat) (before : Option Char) (rest : List Char) :
    Bool :=
  folding.allowed && column > maxWidth && before.any (!isSpace ·) && rest.head?.any (!isSpace ·)

/-- A text without quotes from a column on, given the character before it. -/
def plainFrom (folding : Folding) : Nat → Option Char → List Char → List Char
  | _, _, [] => []
  | column, before, c :: rest =>
    if c == ' ' && folding.breaksAt column before rest then
      newLine folding.indent ++ plainFrom folding folding.indent (some c) rest
    else c :: plainFrom folding (column + 1) (some c) rest

/-- A text without quotes that starts at a column. -/
def plain (folding : Folding) (column : Nat) (text : List Char) : List Char :=
  plainFrom folding column none text

/-- The rest of a text between single quotes from a column on, given the character before it. A line
feed becomes two, of which the first only ends the line. -/
def singleFrom (folding : Folding) : Nat → Option Char → List Char → List Char
  | _, _, [] => ['\'']
  | column, before, c :: rest =>
    if c == ' ' then
      if folding.breaksAt column before rest then
        newLine folding.indent ++ singleFrom folding folding.indent (some c) rest
      else c :: singleFrom folding (column + 1) (some c) rest
    else if isWrittenBreak c then
      let ending := if c == '\n' && !before.any isWrittenBreak then ['\n', '\n'] else [c]
      let isLast := !rest.head?.any isWrittenBreak
      ending ++ (if isLast then spaces folding.indent else []) ++
        singleFrom folding (if isLast then folding.indent else 0) (some c) rest
    else if c == '\'' then '\'' :: '\'' :: singleFrom folding (column + 2) (some c) rest
    else c :: singleFrom folding (column + 1) (some c) rest

/-- A text between single quotes that starts at a column. -/
def single (folding : Folding) (column : Nat) (text : List Char) : List Char :=
  '\'' :: singleFrom folding (column + 1) none text

/-- Whether a code point stands for itself between double quotes. -/
def isLiteral (point : CodePoint) : Bool :=
  let n := point.toNat
  !("\"\\\u2028\u2029\uFEFF".toList.contains point.shown) &&
    ((0x20 ≤ n && n ≤ 0x7E) || (0xA0 ≤ n && n ≤ 0xD7FF) || (0xE000 ≤ n && n ≤ 0xFFFD))

/-- The letter that stands for a character after a backslash. -/
def escapeLetter? : Char → Option Char
  | '\x00' => some '0'
  | '\x07' => some 'a'
  | '\x08' => some 'b'
  | '\t' => some 't'
  | '\n' => some 'n'
  | '\x0b' => some 'v'
  | '\x0c' => some 'f'
  | '\r' => some 'r'
  | '\x1b' => some 'e'
  | '"' => some '"'
  | '\\' => some '\\'
  | '\u0085' => some 'N'
  | '\u2028' => some 'L'
  | '\u2029' => some 'P'
  | _ => none

/-- The upper-case hexadecimal digits of a number. -/
def upperHex (width n : Nat) : List Char := (Text.hexDigits width n).map Char.toUpper

/-- An escape. -/
def escape (point : CodePoint) : List Char :=
  let n := point.toNat
  match point.char?.bind escapeLetter? with
  | some letter => ['\\', letter]
  | none =>
    if n ≤ 0xFF then '\\' :: 'x' :: upperHex 2 n
    else if n ≤ 0xFFFF then '\\' :: 'u' :: upperHex 4 n
    else '\\' :: 'U' :: upperHex 8 n

/-- The rest of a text between double quotes from a column on. A line may be broken before a space
and around an escape, which is told by whether it is the first character and whether it follows an
escape. -/
def doubleFrom (folding : Folding) : Nat → Bool → Bool → CodeText → List Char
  | _, _, _, [] => ['"']
  | column, isFirst, afterEscape, point :: rest =>
    let mayBreak := folding.allowed && !isFirst && !rest.isEmpty
    let mark (next : Char) : List Char := if next == ' ' then ['\\'] else []
    if isLiteral point then
      let c := point.shown
      if mayBreak && (c == ' ' || afterEscape) && column > maxWidth then
        let start := '\\' :: newLine folding.indent ++ mark c
        start ++ c :: doubleFrom folding (folding.indent + (mark c).length + 1) false false rest
      else c :: doubleFrom folding (column + 1) false false rest
    else
      let escaped := escape point
      let column := column + escaped.length
      if mayBreak && column > maxWidth + 1 then
        let next := (rest.headD (.char '\x00')).shown
        let start := '\\' :: newLine folding.indent ++ mark next
        let width := (mark next).length
        escaped ++ start ++ doubleFrom folding (folding.indent + width) false true rest
      else escaped ++ doubleFrom folding column false true rest

/-- A text between double quotes that starts at a column. -/
def double (folding : Folding) (column : Nat) (text : CodeText) : List Char :=
  '"' :: doubleFrom folding (column + 1) true true text

end FoldMark.Yaml.TextStyle
