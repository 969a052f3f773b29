import FoldMark.Toml.Text
import FoldMark.Value

/-!
# Single values in TOML

Truth values, numbers with single low lines between their digits, dates and times. Each reader takes
its construct from the front of a text and returns what follows it.
-/

namespace FoldMark.Toml

open FoldMark.Text

/-- Whether a character is a digit in a base. -/
def isDigitIn (base : Nat) (c : Char) : Bool := (asciiDigit? base c).isSome

/-- Takes digits off the front, between which low lines may stand. -/
def spanDigits (base : Nat) : List Char → List Char × List Char
  | '_' :: c :: rest =>
    if isDigitIn base c then
      let (digits, after) := spanDigits base rest
      (c :: digits, after)
    else ([], '_' :: c :: rest)
  | c :: rest =>
    if isDigitIn base c then
      let (digits, after) := spanDigits base rest
      (c :: digits, after)
    else ([], c :: rest)
  | [] => ([], [])

/-- Takes digits off the front, of which the first is not a low line. -/
def digits? (base : Nat) (text : List Char) : Option (List Char × List Char) :=
  match text with
  | c :: _ => if isDigitIn base c then some (spanDigits base text) else none
  | [] => none

/-- The value of digits. -/
def digitsValue (base : Nat) (digits : List Char) : Nat :=
  Number.ofDigits base (fun c => (asciiDigit? 16 c).getD 0) digits

/-- Takes a sign off the front. -/
def readSign : List Char → Bool × List Char
  | '-' :: rest => (true, rest)
  | '+' :: rest => (false, rest)
  | text => (false, text)

/-- The base that the letter of a number names. -/
def base? : Char → Option Nat
  | 'x' => some 16
  | 'o' => some 8
  | 'b' => some 2
  | _ => none

/-- A number in another base at the front. -/
def readBased? : List Char → Option (Value × List Char)
  | '0' :: letter :: rest => do
    let base ← base? letter
    let (digits, rest) ← digits? base rest
    some (.int (digitsValue base digits), rest)
  | _ => none

/-- The digits of a fraction at the front. -/
def readFraction (text : List Char) : List Char × List Char :=
  match text with
  | '.' :: rest => (digits? 10 rest).getD ([], text)
  | _ => ([], text)

/-- The exponent at the front. -/
def readExponent (text : List Char) : Option Int × List Char :=
  match text with
  | [] => (none, text)
  | e :: rest =>
    let (isNegative, rest) := readSign rest
    match (if e == 'e' || e == 'E' then digits? 10 rest else none) with
    | some (digits, rest) =>
      let n : Int := digitsValue 10 digits
      (some (if isNegative then -n else n), rest)
    | none => (none, text)

/-- A decimal number at the front. -/
def readDecimal? (text : List Char) : Option (Value × List Char) := do
  let (isNegative, rest) := readSign text
  let (whole, rest) ← match rest with
    | '0' :: rest => some (['0'], rest)
    | _ => digits? 10 rest
  let (fraction, rest) := readFraction rest
  let (exponent, rest) := readExponent rest
  let n := digitsValue 10 (whole ++ fraction)
  if fraction.isEmpty && exponent.isNone then
    if whole.length > Number.maxDigits then none
    else some (.int (if isNegative then -n else n), rest)
  else some (.float (Number.floatOf isNegative n (exponent.getD 0 - fraction.length)), rest)

/-- What is no finite number, at the front. -/
def readExtreme? (text : List Char) : Option (Value × List Char) :=
  let (isNegative, rest) := readSign text
  match rest with
  | 'i' :: 'n' :: 'f' :: rest => some (.float (if isNegative then -1.0 / 0.0 else 1.0 / 0.0), rest)
  | 'n' :: 'a' :: 'n' :: rest => some (.float (0.0 / 0.0), rest)
  | _ => none

/-- A number at the front. -/
def readNumber? (text : List Char) : Option (Value × List Char) :=
  (readBased? text).or ((readDecimal? text).or (readExtreme? text))

/-- A number of exactly `count` digits at the front. -/
def fixed? (count : Nat) (text : List Char) : Option (Nat × List Char) :=
  let digits := text.take count
  if digits.length == count && digits.all (isDigitIn 10) then
    some (digitsValue 10 digits, text.drop count)
  else none

/-- Drops a character from the front. -/
def dropChar? (c : Char) : List Char → Option (List Char)
  | [] => none
  | d :: rest => if d == c then some rest else none

/-- The microseconds at the front; further digits are dropped. -/
def readMicros (text : List Char) : Nat × List Char :=
  match text with
  | '.' :: rest =>
    let digits := rest.takeWhile (isDigitIn 10)
    if digits.isEmpty then (0, text)
    else
      let kept := digits.take 6
      (digitsValue 10 (kept ++ List.replicate (6 - kept.length) '0'), rest.drop digits.length)
  | _ => (0, text)

/-- The time of day at the front. -/
def readTime? (text : List Char) : Option (TimeOfDay × List Char) := do
  let (hour, rest) ← fixed? 2 text
  let (minute, rest) ← fixed? 2 (← dropChar? ':' rest)
  let (second, rest) ← fixed? 2 (← dropChar? ':' rest)
  let (micro, rest) := readMicros rest
  let time ← TimeOfDay.make? hour minute second micro
  some (time, rest)

/-- The date at the front. -/
def readDate? (text : List Char) : Option (Date × List Char) := do
  let (year, rest) ← fixed? 4 text
  let (month, rest) ← fixed? 2 (← dropChar? '-' rest)
  let (day, rest) ← fixed? 2 (← dropChar? '-' rest)
  let date ← Date.make? year month day
  some (date, rest)

/-- The distance from universal time at the front. -/
def readOffset (text : List Char) : Option Int × List Char :=
  match text with
  | [] => (none, text)
  | c :: rest =>
    let offset? : Option (Int × List Char) := do
      let (hours, rest) ← fixed? 2 rest
      let (minutes, rest) ← fixed? 2 (← dropChar? ':' rest)
      let total : Int := hours * 60 + minutes
      if hours < 24 && minutes < 60 then some (if c == '-' then -total else total, rest) else none
    if c == 'Z' || c == 'z' then (some 0, rest)
    else
      match (if c == '+' || c == '-' then offset? else none) with
      | some (offset, rest) => (some offset, rest)
      | none => (none, text)

/-- A date at the front, with a time if there is one. -/
def readDateTime? (text : List Char) : Option (Value × List Char) := do
  let (date, rest) ← readDate? text
  let time? := match rest with
    | c :: rest => if c == 'T' || c == 't' || c == ' ' then readTime? rest else none
    | [] => none
  match time? with
  | some (time, rest) =>
    let (offset, rest) := readOffset rest
    some (.dateTime none ⟨date, time, offset⟩, rest)
  | none => some (.date none date, rest)

/-- Whether a date stands at the front. -/
def startsDate (text : List Char) : Bool :=
  ((fixed? 4 text).bind fun found => dropChar? '-' found.2).isSome

/-- Whether a time stands at the front. -/
def startsTime (text : List Char) : Bool :=
  ((fixed? 2 text).bind fun found => dropChar? ':' found.2).isSome

/-- A value that is neither a list nor a table. -/
def readScalar? (text : List Char) : Option (Value × List Char) :=
  match text with
  | '"' :: _ | '\'' :: _ => (readText? text).map fun (s, rest) => (.str s, rest)
  | 't' :: 'r' :: 'u' :: 'e' :: rest => some (.bool true, rest)
  | 'f' :: 'a' :: 'l' :: 's' :: 'e' :: rest => some (.bool false, rest)
  | _ =>
    if startsDate text then readDateTime? text
    else if startsTime text then (readTime? text).map fun (time, rest) => (.time time, rest)
    else readNumber? text

end FoldMark.Toml
