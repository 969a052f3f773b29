import FoldMark.Text.Class

/-!
# Punycode

The ASCII form of a host name's label. The characters outside ASCII are written, in ascending
order, as the distances between their insertions, each a number in base 36 whose digits weigh by
a bias that adapts to the distances so far.
-/

namespace FoldMark.Text.Punycode

/-- The digit of a value: letters, then digits. -/
def digitChar (value : Nat) : Char := Char.ofNat (if value < 26 then 0x61 + value else 22 + value)

/-- The value of a digit. -/
def digitValue? (c : Char) : Option Nat :=
  let n := c.toNat
  if 0x61 ≤ n && n ≤ 0x7A then some (n - 0x61)
  else if 0x41 ≤ n && n ≤ 0x5A then some (n - 0x41)
  else if 0x30 ≤ n && n ≤ 0x39 then some (n - 22)
  else none

/-- The threshold of a digit by its place. -/
def threshold (place bias : Nat) : Nat := max 1 (min 26 (36 * (place + 1) - bias))

/-- Scales a distance down, counting the divisions. -/
def scaleWithin : Nat → Nat → Nat → Nat × Nat
  | 0, delta, divisions => (delta, divisions)
  | fuel + 1, delta, divisions =>
    if delta > 455 then scaleWithin fuel (delta / 35) (divisions + 36) else (delta, divisions)

/-- The bias after a distance has been written. -/
def adapt (delta : Nat) (isFirst : Bool) (count : Nat) : Nat :=
  let damped := if isFirst then delta / 700 else delta / 2
  let spread := damped + damped / count
  let (scaled, divisions) := scaleWithin spread spread 0
  divisions + 36 * scaled / (scaled + 38)

/-- Writes a number, of at most `fuel` digits. -/
def writeWithin (bias : Nat) : Nat → Nat → Nat → List Char
  | 0, _, _ => []
  | fuel + 1, place, value =>
    let t := threshold place bias
    if value < t then [digitChar value]
    else
      digitChar (t + (value - t) % (36 - t)) ::
        writeWithin bias fuel (place + 1) ((value - t) / (36 - t))

/-- The state of a writer between two insertions. -/
structure Writer where
  /-- What is written, back to front by numbers. -/
  written : List (List Char) := []
  /-- The distance since the last insertion. -/
  delta : Nat := 0
  /-- The bias of the next number. -/
  bias : Nat := 72
  /-- Characters inserted so far. -/
  count : Nat

/-- Passes one character of the label while the code point `point` is inserted. -/
def Writer.pass (basic point : Nat) (writer : Writer) (c : Char) : Writer :=
  if c.toNat < point then { writer with delta := writer.delta + 1 }
  else if c.toNat = point then
    { written := writeWithin writer.bias (writer.delta + 1) 0 writer.delta :: writer.written
      delta := 0
      bias := adapt writer.delta (writer.count == basic) (writer.count + 1)
      count := writer.count + 1 }
  else writer

/-- Inserts the code points of a label in ascending order. -/
def Writer.insertAll (label : List Char) (basic : Nat) : List Nat → Nat → Writer → Writer
  | [], _, writer => writer
  | point :: points, next, writer =>
    let ready := { writer with delta := writer.delta + (point - next) * (writer.count + 1) }
    let after := label.foldl (Writer.pass basic point) ready
    insertAll label basic points (point + 1) { after with delta := after.delta + 1 }

/-- The ASCII form of a label. -/
def encode (label : List Char) : List Char :=
  let basic := label.filter fun c => c.toNat < 0x80
  let points := ((label.filter fun c => c.toNat ≥ 0x80).map Char.toNat).mergeSort.eraseDups
  let writer := Writer.insertAll label basic.length points 0x80 { count := basic.length }
  (if basic.isEmpty then [] else basic ++ ['-']) ++ writer.written.reverse.flatten

/-- Reads a number: its value and the digits after it. -/
def read? (bias : Nat) : Nat → Nat → Nat → List Char → Option (Nat × List Char)
  | _, _, _, [] => none
  | place, weight, value, c :: rest => do
    let digit ← digitValue? c
    let t := threshold place bias
    let total := value + digit * weight
    if digit < t then some (total, rest) else read? bias (place + 1) (weight * (36 - t)) total rest

/-- Inserts the characters that the numbers describe, of which there are at most `fuel`. -/
def insertWithin : Nat → Nat → Nat → Nat → Bool → List Char → List Char → Option (List Char)
  | 0, _, _, _, _, label, _ | _, _, _, _, _, label, [] => some label
  | fuel + 1, point, index, bias, isFirst, label, digits => do
    let (delta, rest) ← read? bias 0 1 0 digits
    let size := label.length + 1
    let offset := index + delta
    let next := point + offset / size
    if next.isValidChar then
      let place := offset % size
      insertWithin fuel next (place + 1) (adapt delta isFirst size) false
        (label.take place ++ Char.ofNat next :: label.drop place) rest
    else none

/-- The label that an ASCII form stands for. -/
def decode? (form : List Char) : Option (List Char) :=
  if form.all fun c => c.toNat < 0x80 then
    let reversed := form.reverse
    let digits := (reversed.takeWhile (· != '-')).reverse
    let basic := ((reversed.dropWhile (· != '-')).drop 1).reverse
    insertWithin digits.length 0x80 0 72 true basic digits
  else none

end FoldMark.Text.Punycode
