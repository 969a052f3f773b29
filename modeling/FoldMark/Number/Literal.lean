import FoldMark.Number.Shortest

/-!
# Numbers as text

Integers are read and written in decimal. A floating-point number is written with the fewest digits
that read back, positionally while its leading digit stands between the fourth place after the point
and the sixteenth before it, and with an exponent of at least two digits otherwise.
-/

namespace FoldMark.Number

/-- A decimal numeral without sign. -/
def ofDigits (base : Nat) (value : Char → Nat) (digits : List Char) : Nat :=
  digits.foldl (fun n c => base * n + value c) 0

/-- The value of an ASCII decimal digit. -/
def digit (c : Char) : Nat := c.toNat - 0x30

/-- The most digits of a decimal integer that is read. -/
def maxDigits : Nat := 4300

/-- The text of an integer. -/
def intText (n : Int) : List Char := (toString n).toList

/-- The places a floating-point number is written positionally in. -/
structure Places where
  /-- The lowest exponent of ten of the leading digit. -/
  low : Int
  /-- The exponent of ten from which on a number has an exponent. -/
  high : Int

/-- The places in use. -/
def places : Places := ⟨-4, 16⟩

/-- The text of an exponent. -/
def exponentText (exponent : Int) : List Char :=
  let digits := (toString exponent.natAbs).toList
  'e' :: (if exponent < 0 then '-' else '+') ::
    (if digits.length < 2 then '0' :: digits else digits)

/-- The text of a positive decimal number. -/
def decimalText (d : Decimal) : List Char :=
  let digits := (toString d.digits).toList
  let point : Int := digits.length + d.exponent
  if point - 1 < places.low || point - 1 ≥ places.high then
    let fraction := digits.drop 1
    digits.take 1 ++ (if fraction.isEmpty then [] else '.' :: fraction) ++ exponentText (point - 1)
  else if point ≤ 0 then '0' :: '.' :: List.replicate (-point).toNat '0' ++ digits
  else
    let whole := digits.take point.toNat ++ List.replicate (point.toNat - digits.length) '0'
    let fraction := digits.drop point.toNat
    whole ++ '.' :: if fraction.isEmpty then ['0'] else fraction

/-- The bit of the sign. -/
def signBit : Nat := Nat.pow 2 63

/-- The text of a finite floating-point number. -/
def finiteText (x : Float) : List Char :=
  let bits := x.toBits.toNat
  let magnitude := bits % signBit
  (if bits ≥ signBit then ['-'] else []) ++
    if magnitude = 0 then "0.0".toList else decimalText (shortest magnitude)

/-- The spellings of what is no finite number. -/
structure Extremes where
  /-- No number. -/
  nan : String
  /-- Greater than every number. -/
  infinity : String
  /-- Less than every number. -/
  negativeInfinity : String

/-- The text of a floating-point number. -/
def floatText (extremes : Extremes) (x : Float) : List Char :=
  if x.isNaN then extremes.nan.toList
  else if x.isInf then (if x > 0 then extremes.infinity else extremes.negativeInfinity).toList
  else finiteText x

/-- The plain spellings. -/
def plainExtremes : Extremes := ⟨"nan", "inf", "-inf"⟩

/-- The floating-point number nearest to `digits · 10 ^ exponent`. -/
def floatOf (isNegative : Bool) (digits : Nat) (exponent : Int) : Float :=
  let magnitude : Int := (toString digits).length + exponent
  let x : Float :=
    if digits = 0 || magnitude < -400 then 0.0
    else if magnitude > 400 then 1.0 / 0.0
    else if exponent ≥ 0 then Float.ofScientific (digits * Nat.pow 10 exponent.toNat) false 0
    else Float.ofScientific digits true exponent.natAbs
  if isNegative then -x else x

end FoldMark.Number
