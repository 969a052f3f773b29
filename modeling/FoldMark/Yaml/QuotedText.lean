import FoldMark.Text.CodePoint
import FoldMark.Yaml.Cursor

/-!
# Texts between quotes

Between single quotes a quote is written twice; between double quotes a backslash starts an escape.
The lines of a text are joined by spaces, and blank lines between them become line feeds.
-/

namespace FoldMark.Yaml

open Cursor

/-- Why a text cannot be read. -/
inductive TextError where
  /-- It is not well formed. -/
  | malformed
  /-- An escape names a number that is no code point. -/
  | noCharacter
  /-- An escape names a number that is too great to be looked up as one. -/
  | overflow
  deriving DecidableEq, Repr

namespace QuotedText

/-- The character that a letter after a backslash stands for. -/
def simpleEscape? : Char → Option Char
  | '0' => some '\x00'
  | 'a' => some '\x07'
  | 'b' => some '\x08'
  | 't' => some '\t'
  | '\t' => some '\t'
  | 'n' => some '\n'
  | 'v' => some '\x0b'
  | 'f' => some '\x0c'
  | 'r' => some '\r'
  | 'e' => some '\x1b'
  | ' ' => some ' '
  | '"' => some '"'
  | '\\' => some '\\'
  | '/' => some '/'
  | 'N' => some '\u0085'
  | '_' => some '\u00a0'
  | 'L' => some '\u2028'
  | 'P' => some '\u2029'
  | _ => none

/-- The hexadecimal digits that a letter after a backslash announces. -/
def codeSize? : Char → Option Nat
  | 'x' => some 2
  | 'u' => some 4
  | 'U' => some 8
  | _ => none

/-- A number written in hexadecimal digits, if there are as many as announced. -/
def code? (size : Nat) (text : List Char) : Option Nat :=
  let digits := text.take size
  if digits.length = size then
    digits.foldlM (fun n c => (Text.asciiDigit? 16 c).map (n * 16 + ·)) 0
  else none

/-- From which number on a code point is not even looked up. -/
def maxCode : Nat := Nat.pow 2 31

/-- The code point with a number. -/
def codePoint (n : Nat) : Except TextError CodePoint :=
  if n ≤ 0x10FFFF then .ok (.ofNat n)
  else if n < maxCode then .error .noCharacter
  else .error .overflow

/-- Passes blank lines and the spaces before the next text, in at most `fuel` lines. -/
def blankLines : Nat → Cursor → Except TextError (List Char × Cursor)
  | 0, cursor => .ok ([], cursor)
  | fuel + 1, cursor =>
    if cursor.atDocumentLine then .error .malformed
    else
      let cursor := cursor.skipWhile fun c => c == ' ' || c == '\t'
      if isBreak cursor.peek then do
        let (chars, cursor) := cursor.lineBreak
        let (more, cursor) ← blankLines fuel cursor
        return (chars ++ more, cursor)
      else .ok ([], cursor)

/-- Passes spaces and line ends within a text, which gives what they stand for. -/
def spaces (cursor : Cursor) : Except TextError (List Char × Cursor) := do
  let (taken, cursor) := cursor.span fun c => c == ' ' || c == '\t'
  if cursor.peek == '\x00' then throw .malformed
  if isBreak cursor.peek then
    let (first, cursor) := cursor.lineBreak
    let (more, cursor) ← blankLines (cursor.rest.length + 1) cursor
    return (if first != ['\n'] then first ++ more else if more.isEmpty then [' '] else more, cursor)
  return (taken, cursor)

/-- What the characters after a backslash stand for. -/
def escape (cursor : Cursor) : Except TextError (CodeText × Cursor) :=
  let c := cursor.peek
  match simpleEscape? c, codeSize? c with
  | some char, _ => .ok ([.char char], cursor.step)
  | none, some size =>
    match code? size cursor.step.rest with
    | some n => (codePoint n).map ([·], cursor.step.advance size)
    | none => .error .malformed
  | none, none =>
    if isBreak c then
      let after := cursor.lineBreak.2
      (blankLines (after.rest.length + 1) after).map fun (chars, cursor) => (↑chars, cursor)
    else .error .malformed

/-- Reads the rest of a text after its opening quote, in at most `fuel` pieces. -/
def readFrom (quote : Char) : Nat → Cursor → Except TextError (CodeText × Cursor)
  | 0, _ => .error .malformed
  | fuel + 1, cursor => do
    let c := cursor.peek
    if c == quote && !(quote == '\'' && cursor.peekAt 1 == '\'') then return ([], cursor.step)
    let (text, cursor) ←
      if c == quote then .ok ([.char quote], cursor.advance 2)
      else if quote == '"' && c == '\\' then escape cursor.step
      else if isGap c then (spaces cursor).map fun (chars, cursor) => (↑chars, cursor)
      else .ok ([.char c], cursor.step)
    let (more, cursor) ← readFrom quote fuel cursor
    return (text ++ more, cursor)

/-- Reads a text that starts with a quote. -/
def read (cursor : Cursor) : Except TextError (CodeText × Cursor) :=
  readFrom cursor.peek (cursor.rest.length + 1) cursor.step

end QuotedText

end FoldMark.Yaml
