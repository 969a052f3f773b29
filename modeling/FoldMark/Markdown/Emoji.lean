import FoldMark.Markdown.Token
import FoldMark.Text.Case
import FoldMark.Text.Class

/-!
# Names of emoji

A name between colons is replaced by the emoji that it stands for in a table. Names are compared in
their ASCII form, so full-width letters count as letters; a name that stands for nothing stays, and
its colons start no other name.
-/

namespace FoldMark.Markdown.Emoji

open FoldMark.Text

/-- Characters of a name besides letters, digits and the low line. -/
def nameMarks : List Char :=
  ['-', '&', '.', '’', '”', '“', '(', ')', '!', '#', '*', '+', ',', '/', '«', '»', '\u0300',
    '\u0301', '\u0302', '\u0303', '\u0308', '\u030A', '\u0327', '\u064B', '\u064E', '\u0650',
    '\u0653', '\u0654', '\u3099', '\u30FB', '\u309A', '\u0655']

/-- Whether a name may hold a character. -/
def isNameChar (c : Char) : Bool := isWord c || nameMarks.contains c

/-- The emoji that a name stands for. -/
def Names.find? (names : Names) (name : List Char) : Option (List Char) := do
  let name ← asciiForm? name
  (names.lookup (String.ofList name)).map String.toList

/-- Replaces names between colons, in at most some steps. -/
def replaceWithin (names : Names) : Nat → List Char → List Char
  | 0, text => text
  | _ + 1, [] => []
  | steps + 1, c :: rest =>
    if c != ':' then c :: replaceWithin names steps rest
    else
      let name := rest.takeWhile isNameChar
      match name, rest.drop name.length with
      | _ :: _, ':' :: after =>
        ((names.find? name).getD (':' :: name ++ [':'])) ++ replaceWithin names steps after
      | _, _ => c :: replaceWithin names steps rest

/-- Replaces names between colons. -/
def replace (names : Names) (text : List Char) : List Char := replaceWithin names text.length text

/-- Replaces within a piece of content, if it is text that holds a colon. -/
def replaceItem (replace : List Char → List Char) : Inline → Inline
  | .text content => .text (if content.contains ':' then replace content else content)
  | item => item

/-- Replaces within the text of a token. -/
def replaceToken (replace : List Char → List Char) : Token → Token
  | .inline source content => .inline source (content.map (replaceItem replace))
  | token => token

/-- Replaces names in a document. -/
def apply (names : Names) (tokens : List Token) : List Token :=
  tokens.map (replaceToken (replace names))

end FoldMark.Markdown.Emoji
