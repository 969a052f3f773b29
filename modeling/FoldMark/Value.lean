import FoldMark.Calendar
import FoldMark.Text.CodePoint

/-!
# Values of front matter

What a decoded front matter holds. A mapping keeps its entries in order, and its keys differ as
numbers, texts or times do: a key that is written again keeps its place and gets the new value.

In a format with references one container can stand in several places, or within itself. Such
containers have an identity, by which a writer tells a second occurrence from an equal value, and an
occurrence within itself is `again`.
-/

namespace FoldMark

/-- A decoded value. -/
inductive Value where
  /-- No value. -/
  | null
  /-- A truth value. -/
  | bool (b : Bool)
  /-- An integer. -/
  | int (n : Int)
  /-- A floating-point number. -/
  | float (x : Float)
  /-- A text. -/
  | str (s : CodeText)
  /-- A sequence of bytes. -/
  | bytes (data : List UInt8)
  /-- A date. -/
  | date (id : Option Nat) (d : Date)
  /-- A date with a time. -/
  | dateTime (id : Option Nat) (t : DateTime)
  /-- A time of day. -/
  | time (t : TimeOfDay)
  /-- A list. -/
  | list (id : Option Nat) (items : List Value)
  /-- A list of fixed length. -/
  | tuple (items : List Value)
  /-- A set. -/
  | set (id : Option Nat) (items : List Value)
  /-- A mapping. -/
  | map (id : Option Nat) (entries : List (Value × Value))
  /-- The container with an identity, within itself. -/
  | again (id : Nat)

namespace Value

/-- What kind of value it is, as messages call it. -/
def kindName : Value → String
  | null => "NoneType"
  | bool _ => "bool"
  | int _ => "int"
  | float _ => "float"
  | str _ => "str"
  | bytes _ => "bytes"
  | date .. => "date"
  | dateTime .. => "datetime"
  | time _ => "time"
  | list .. => "list"
  | tuple _ => "tuple"
  | set .. => "set"
  | map .. => "dict"
  | again _ => "dict"

/-- The bits of a floating-point number's magnitude. -/
def magnitudeBits (x : Float) : Nat := x.toBits.toNat % Number.signBit

/-- Whether a finite floating-point number is an integer. -/
def floatIsInt (x : Float) (n : Int) : Bool :=
  let b := Number.Binary.ofBits (magnitudeBits x)
  let r := Number.Binary.Ratio.scaled b.mantissa b.exponent
  x.isFinite && n.natAbs * r.den == r.num && (n = 0 || (n < 0) == (x < 0))

/-- The number that a key stands for; truth values are numbers. -/
def keyNumber? : Value → Option (Int ⊕ Float)
  | bool b => some (.inl (if b then 1 else 0))
  | int n => some (.inl n)
  | float x => some (.inr x)
  | _ => none

/-- Whether two values are one key. -/
def sameKey (a b : Value) : Bool :=
  match a.keyNumber?, b.keyNumber? with
  | some (.inl n), some (.inl m) => n == m
  | some (.inl n), some (.inr x) | some (.inr x), some (.inl n) => floatIsInt x n
  | some (.inr x), some (.inr y) => x == y
  | _, _ =>
    match a, b with
    | null, null => true
    | str s, str t => s == t
    | bytes s, bytes t => s == t
    | date _ d, date _ e => d == e
    | dateTime _ t, dateTime _ u => t.same u
    | time t, time u => t == u
    | _, _ => false

/-- Gives a key a value. -/
def insert (entries : List (Value × Value)) (key value : Value) : List (Value × Value) :=
  if entries.any fun entry => entry.1.sameKey key then
    entries.map fun entry => if entry.1.sameKey key then (entry.1, value) else entry
  else entries ++ [(key, value)]

/-- The value of a text key. -/
def find? (entries : List (Value × Value)) (key : String) : Option Value :=
  (entries.find? fun entry => entry.1.sameKey (.str key)).map (·.2)

/-- Whether a value counts as nothing: no value, false, zero, or an empty text or container. -/
def isNothing : Value → Bool
  | null => true
  | bool b => !b
  | int n => n == 0
  | float x => x == 0
  | str s => s.isEmpty
  | bytes data => data.isEmpty
  | list _ items | tuple items | set _ items => items.isEmpty
  | map _ entries => entries.isEmpty
  | _ => false

end Value

end FoldMark
