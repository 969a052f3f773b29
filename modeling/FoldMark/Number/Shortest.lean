/-!
# The shortest decimal of a floating-point number

A finite number is an integer times a power of two, and every real in an interval around it rounds
to it. Of the decimals in that interval, the ones with the fewest digits are sought, and of these
the nearest to the number. For each count of digits it is enough to try the two neighbours of the
number on the decimal grid.
-/

namespace FoldMark.Number

/-- A positive binary number `mantissa · 2 ^ exponent`. -/
structure Binary where
  /-- The integer part. -/
  mantissa : Nat
  /-- The exponent of two. -/
  exponent : Int
  /-- The next smaller number is nearer than the next greater one. -/
  isLowerBoundary : Bool

/-- A positive decimal number `digits · 10 ^ exponent`. -/
structure Decimal where
  /-- The digits as a number. -/
  digits : Nat
  /-- The exponent of ten. -/
  exponent : Int
  deriving DecidableEq, Repr

/-- The bits of a mantissa in storage. -/
def mantissaBits : Nat := 52

/-- The least mantissa of a number that is stored in full. -/
def leastMantissa : Nat := Nat.pow 2 mantissaBits

/-- The bits of an exponent in storage. -/
def exponentBits : Nat := 11

/-- Takes the bits of a finite number apart, without its sign. -/
def Binary.ofBits (bits : Nat) : Binary :=
  let fraction : Nat := bits % leastMantissa
  let biased : Nat := bits / leastMantissa % Nat.pow 2 exponentBits
  if biased = 0 then ⟨fraction, -1074, false⟩
  else ⟨leastMantissa + fraction, (biased : Int) - 1075, fraction = 0 && biased > 1⟩

namespace Binary

/-- A positive rational number. -/
structure Ratio where
  /-- The numerator. -/
  num : Nat
  /-- The denominator. -/
  den : Nat

/-- An integer times a power of two. -/
def Ratio.scaled (n : Nat) (exponent : Int) : Ratio :=
  if exponent ≥ 0 then ⟨n * Nat.pow 2 exponent.toNat, 1⟩ else ⟨n, Nat.pow 2 (-exponent).toNat⟩

/-- An integer times a power of ten. -/
def Ratio.decimal (n : Nat) (exponent : Int) : Ratio :=
  if exponent ≥ 0 then ⟨n * Nat.pow 10 exponent.toNat, 1⟩ else ⟨n, Nat.pow 10 (-exponent).toNat⟩

/-- Whether one number is at most another. -/
def Ratio.le (a b : Ratio) : Bool := a.num * b.den ≤ b.num * a.den

/-- The distance of two numbers. -/
def Ratio.distance (a b : Ratio) : Ratio :=
  let x := a.num * b.den
  let y := b.num * a.den
  ⟨if x ≤ y then y - x else x - y, a.den * b.den⟩

/-- The number itself. -/
def value (b : Binary) : Ratio := .scaled (4 * b.mantissa) (b.exponent - 2)

/-- The least real that rounds to the number. -/
def low (b : Binary) : Ratio :=
  .scaled (4 * b.mantissa - if b.isLowerBoundary then 1 else 2) (b.exponent - 2)

/-- The greatest real that rounds to the number. -/
def high (b : Binary) : Ratio := .scaled (4 * b.mantissa + 2) (b.exponent - 2)

/-- Whether a real rounds to the number. The ends of the interval do if the mantissa is even. -/
def roundsTo (b : Binary) (r : Ratio) : Bool :=
  if b.mantissa % 2 = 0 then b.low.le r && r.le b.high else !r.le b.low && !b.high.le r

/-- The largest exponent of ten whose power is at most the number, searched down from a bound. -/
def leadingWithin (r : Ratio) : Nat → Int → Int
  | 0, exponent => exponent
  | steps + 1, exponent =>
    if (Ratio.decimal 1 exponent).le r then exponent else leadingWithin r steps (exponent - 1)

/-- The exponent of ten of the leading digit. -/
def leading (b : Binary) : Int := leadingWithin b.value 640 309

/-- The decimal on a grid that rounds to the number and is nearest to it. -/
def onGrid? (b : Binary) (exponent : Int) : Option Decimal :=
  let v := b.value
  let unit := Ratio.decimal 1 exponent
  let below := v.num * unit.den / (v.den * unit.num)
  let hits := [below, below + 1].filter fun n => n > 0 && b.roundsTo (.decimal n exponent)
  match hits with
  | [n] => some ⟨n, exponent⟩
  | [n, m] =>
    let left := (Ratio.decimal n exponent).distance v
    let right := (Ratio.decimal m exponent).distance v
    if left.le right && !(right.le left && n % 2 = 1) then some ⟨n, exponent⟩
    else some ⟨m, exponent⟩
  | _ => none

/-- The shortest decimal with at most `count` more digits than `digits`. -/
def shortestWithin (b : Binary) (leading : Int) : Nat → Nat → Decimal
  | 0, _ => ⟨b.mantissa, 0⟩
  | count + 1, digits =>
    match b.onGrid? (leading - digits) with
    | some decimal => decimal
    | none => shortestWithin b leading count (digits + 1)

end Binary

namespace Decimal

/-- Drops zeros at the end of the digits, of which there are at most `count`. -/
def trimWithin : Nat → Decimal → Decimal
  | 0, d => d
  | count + 1, d =>
    if d.digits % 10 = 0 && d.digits > 0 then trimWithin count ⟨d.digits / 10, d.exponent + 1⟩
    else d

end Decimal

/-- The shortest decimal of a positive number given by its bits. -/
def shortest (bits : Nat) : Decimal :=
  let b := Binary.ofBits bits
  (b.shortestWithin b.leading 17 0).trimWithin 20

end FoldMark.Number
