import FoldMark.Text.Table.Punctuation
import FoldMark.Text.Table.Word
import FoldMark.Text.Table.Unprintable
import FoldMark.Text.Table.Digit

/-!
# Character classes

Membership in the classes of the Unicode character database that the program consults. The tables
hold ascending ranges, which a binary search reads.
-/

namespace FoldMark.Text

/-- Whether a number lies in one of the ranges `low`, …, `high - 1` of an ascending table. The
number of halvings is bounded by the first argument. -/
def inRangesBetween (ranges : Array (Nat × Nat)) (n : Nat) : Nat → Nat → Nat → Bool
  | 0, _, _ => false
  | steps + 1, low, high =>
    if low ≥ high then false
    else
      let middle := (low + high) / 2
      match ranges[middle]? with
      | none => false
      | some (first, last) =>
        if n < first then inRangesBetween ranges n steps low middle
        else if last < n then inRangesBetween ranges n steps (middle + 1) high
        else true

/-- Whether a number lies in a range of an ascending table. -/
def inRanges (ranges : Array (Nat × Nat)) (n : Nat) : Bool :=
  inRangesBetween ranges n ranges.size 0 ranges.size

/-- ASCII punctuation: every printing ASCII character but letters, digits and the space. -/
def isAsciiPunctuation (c : Char) : Bool :=
  let n := c.toNat
  (0x21 ≤ n && n ≤ 0x2F) || (0x3A ≤ n && n ≤ 0x40) || (0x5B ≤ n && n ≤ 0x60) ||
    (0x7B ≤ n && n ≤ 0x7E)

/-- Punctuation or symbol, by general category. -/
def isPunctuation (c : Char) : Bool := inRanges punctuationRanges c.toNat

/-- Letter, number or low line. -/
def isWord (c : Char) : Bool := inRanges wordRanges c.toNat

/-- Characters that a quoted text shows as themselves. -/
def isPrintable (c : Char) : Bool := !inRanges unprintableRanges c.toNat

/-- The value of a decimal digit of any script. -/
def digitValue? (c : Char) : Option Nat :=
  (digitZeros.find? fun first => first ≤ c.toNat && c.toNat < first + 10).map (c.toNat - ·)

/-- The value of an ASCII digit in a base up to sixteen. -/
def asciiDigit? (base : Nat) (c : Char) : Option Nat :=
  let n := c.toNat
  let value :=
    if 0x30 ≤ n && n ≤ 0x39 then n - 0x30
    else if 0x41 ≤ n && n ≤ 0x46 then n - 0x37
    else if 0x61 ≤ n && n ≤ 0x66 then n - 0x57
    else base
  if value < base then some value else none

/-- Whether a character is an ASCII hexadecimal digit. -/
def isHexDigit (c : Char) : Bool := (asciiDigit? 16 c).isSome

/-- An ASCII letter. -/
def isAsciiLetter (c : Char) : Bool := c.isAlpha

/-- An ASCII letter or digit. -/
def isAsciiAlphanumeric (c : Char) : Bool := c.isAlphanum

end FoldMark.Text
