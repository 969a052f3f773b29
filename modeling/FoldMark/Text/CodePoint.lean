import FoldMark.Text.Utf8

/-!
# Texts of code points

An escape can name half a surrogate pair alone. A text with such a half is held, compared and quoted
like any other, but it is no Unicode text, and there are no bytes for it.
-/

namespace FoldMark

open Text

/-- A code point. -/
inductive CodePoint where
  /-- A character. -/
  | char (c : Char)
  /-- Half a surrogate pair, counted from the first of them. -/
  | half (index : Fin 0x800)
  deriving DecidableEq, Repr

namespace CodePoint

/-- The number of the first half of a surrogate pair. -/
def firstHalf : Nat := 0xD800

/-- The code point with a number. -/
def ofNat (n : Nat) : CodePoint :=
  if h : n - firstHalf < 0x800 ∧ firstHalf ≤ n then half ⟨n - firstHalf, h.1⟩
  else char (Char.ofNat n)

/-- The number of a code point. -/
def toNat : CodePoint → Nat
  | char c => c.toNat
  | half index => firstHalf + index

/-- The character that a code point is. -/
def char? : CodePoint → Option Char
  | char c => some c
  | half _ => none

/-- The character that a code point is shown as. -/
def shown (point : CodePoint) : Char := point.char?.getD Utf8.replacement

end CodePoint

/-- A text of code points. -/
abbrev CodeText := List CodePoint

namespace CodeText

/-- A text of characters. -/
def ofChars (chars : List Char) : CodeText := chars.map .char

/-- The code points of a string. -/
def ofString (s : String) : CodeText := ofChars s.toList

/-- The characters of a text, if it is a Unicode text. -/
def chars? (text : CodeText) : Option (List Char) := text.mapM CodePoint.char?

/-- The characters that a text is shown as. -/
def toList (text : CodeText) : List Char := text.map CodePoint.shown

/-- The string that a text is shown as. -/
def toString (text : CodeText) : String := String.ofList text.toList

instance : Coe (List Char) CodeText := ⟨ofChars⟩

instance : Coe String CodeText := ⟨ofString⟩

/-- A text as characters, where only those count. -/
instance : Coe CodeText (List Char) := ⟨toList⟩

/-- A text as a string, where only its characters count. -/
instance : Coe CodeText String := ⟨toString⟩

/-- How a code point is written between quotes of the given kind. -/
def quotedPoint (quote : Char) (point : CodePoint) : List Char :=
  match point with
  | .char c => quotedChar quote c
  | .half _ => '\\' :: 'u' :: hexDigits 4 point.toNat

/-- A text between quotes. -/
def quoted (text : CodeText) : List Char :=
  let quote := quoteFor text.toList
  quote :: text.flatMap (quotedPoint quote) ++ [quote]

end CodeText

end FoldMark
