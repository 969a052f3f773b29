import FoldMark.Text.Blank
import FoldMark.Text.Class

/-!
# Character classes of Markdown

The classes that decide where emphasis and quotation marks may open and close, which characters a
backslash escapes, and what is white space around running text.
-/

namespace FoldMark.Markdown

open FoldMark.Text

/-- A backslash makes these characters literal. -/
def isEscapable (c : Char) : Bool := isAsciiPunctuation c

/-- Punctuation for the purposes of flanking. -/
def isMark (c : Char) : Bool := isAsciiPunctuation c || isPunctuation c

/-- White space for the purposes of flanking: the spaces of Unicode and five ASCII controls. -/
def isSpacing (c : Char) : Bool :=
  let n := c.toNat
  (0x09 ≤ n && n ≤ 0x0D) || n == 0x20 || n == 0xA0 || n == 0x1680 || (0x2000 ≤ n && n ≤ 0x200A) ||
    n == 0x202F || n == 0x205F || n == 0x3000

/-- White space of running text, which is not kept at its ends and separates words: all spacing and
the line and paragraph separators. Unlike `Text.isBlank` it has neither the information separators
nor the next-line control. -/
def isWhiteSpace (c : Char) : Bool := isSpacing c || c == '\u2028' || c == '\u2029'

/-- Drops white space from both ends. -/
def trimSpace (text : List Char) : List Char := trimBy isWhiteSpace text

/-- The words of a text, between which white space stands. -/
def spacedWords (text : List Char) : List (List Char) := splitRuns isWhiteSpace text

/-- A character and what follows it, as seen by flanking rules. -/
structure Flank where
  /-- The character is white space. -/
  spacing : Bool
  /-- The character is punctuation. -/
  mark : Bool

/-- The flank that a character makes. -/
def Flank.of (c : Char) : Flank := ⟨isSpacing c, isMark c⟩

/-- A run between two characters is attached to the second one when that is no white space, and is
punctuation only if the first is white space or punctuation as well. -/
def Flank.attached (outer inner : Flank) : Bool :=
  !inner.spacing && (!inner.mark || outer.spacing || outer.mark)

end FoldMark.Markdown
