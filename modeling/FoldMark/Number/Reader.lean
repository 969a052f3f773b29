import FoldMark.Number.Literal
import FoldMark.Text.Blank
import FoldMark.Text.Class

/-!
# Reading numbers

A whole text is read as one number. Blank characters around it do not count, and the decimal digits
of every script are digits.
-/

namespace FoldMark.Number

open Text

/-- The value of a digit in a base. -/
def digitIn? (base : Nat) (c : Char) : Option Nat :=
  ((asciiDigit? 16 c).or (digitValue? c)).filter (· < base)

/-- Takes a sign off the front. -/
def readSign : List Char → Bool × List Char
  | '-' :: rest => (true, rest)
  | '+' :: rest => (false, rest)
  | text => (false, text)

/-- Drops the mark of a base from the front. -/
def dropBaseMark (base : Nat) (text : List Char) : List Char :=
  match text with
  | '0' :: c :: rest =>
    if (base = 16 && (c == 'x' || c == 'X')) || (base = 8 && (c == 'o' || c == 'O')) ||
        (base = 2 && (c == 'b' || c == 'B')) then rest
    else text
  | _ => text

/-- The number that digits write, if there are any and nothing else. -/
def natOf? (base : Nat) (digits : List Char) : Option Nat :=
  if digits.isEmpty then none
  else digits.foldlM (fun n c => (digitIn? base c).map (base * n + ·)) 0

/-- The integer that a text writes in a base. -/
def intOf? (base : Nat) (text : List Char) : Option Int := do
  let (isNegative, rest) := readSign (trim text)
  let digits := dropBaseMark base rest
  if base = 10 && digits.length > maxDigits then none
  else
    let n ← natOf? base digits
    some (if isNegative then -n else n)

/-- The exponent that a text is after its letter. -/
def exponentOf? (text : List Char) : Option Int := do
  let (isNegative, digits) := readSign text
  let n ← natOf? 10 digits
  some (if isNegative then -n else n)

/-- The magnitude that a text writes in digits, with a point and an exponent or not. -/
def magnitudeOf? (isNegative : Bool) (text : List Char) : Option Float := do
  let isMark (c : Char) : Bool := c == 'e' || c == 'E'
  let exponent ← match text.dropWhile fun c => !isMark c with
    | [] => some 0
    | _ :: rest => exponentOf? rest
  let mantissa := text.takeWhile fun c => !isMark c
  let fraction := (mantissa.dropWhile (· != '.')).drop 1
  let digits := mantissa.takeWhile (· != '.') ++ fraction
  let n ← natOf? 10 digits
  some (floatOf isNegative n (exponent - fraction.length))

/-- The floating-point number that a text writes, the words for what is none included. -/
def float? (text : List Char) : Option Float :=
  let (isNegative, rest) := readSign (trim text)
  let word := String.ofList (rest.map Char.toLower)
  if word == "inf" || word == "infinity" then some (if isNegative then -1.0 / 0.0 else 1.0 / 0.0)
  else if word == "nan" then some (0.0 / 0.0)
  else magnitudeOf? isNegative rest

end FoldMark.Number
