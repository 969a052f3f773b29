import FoldMark.Text.Class
import FoldMark.Value

/-!
# Reading JSON

Each reader takes its construct from the front of a text and returns what follows it. Besides
numbers, `NaN` and the infinities are read. Of members with one name the last gives the value and
the first the place.
-/

namespace FoldMark.Json

open Text

/-- White space between the parts of a text. -/
def isSpace (c : Char) : Bool := c == ' ' || c == '\t' || c == '\n' || c == '\r'

/-- Drops white space from the front. -/
def skipSpace (text : List Char) : List Char := text.dropWhile isSpace

/-- The number that four hexadecimal digits write. -/
def hex4? (a b c d : Char) : Option Nat := do
  let a ← asciiDigit? 16 a
  let b ← asciiDigit? 16 b
  let c ← asciiDigit? 16 c
  let d ← asciiDigit? 16 d
  some (((a * 16 + b) * 16 + c) * 16 + d)

/-- The character that a letter after a backslash stands for. -/
def escape? : Char → Option Char
  | '"' => some '"'
  | '\\' => some '\\'
  | '/' => some '/'
  | 'b' => some '\x08'
  | 'f' => some '\x0c'
  | 'n' => some '\n'
  | 'r' => some '\r'
  | 't' => some '\t'
  | _ => none

/-- The first half of a pair of surrogates. -/
def isHighSurrogate (n : Nat) : Bool := 0xD800 ≤ n && n < 0xDC00

/-- The second half of a pair of surrogates. -/
def isLowSurrogate (n : Nat) : Bool := 0xDC00 ≤ n && n < 0xE000

/-- The character of a pair of surrogates. -/
def pairChar (high low : Nat) : Char :=
  Char.ofNat (0x10000 + (high - 0xD800) * 0x400 + (low - 0xDC00))

/-- Reads the rest of a string after its opening quote. -/
def readString? : List Char → Option (CodeText × List Char)
  | [] => none
  | '"' :: rest => some ([], rest)
  | '\\' :: 'u' :: a :: b :: c :: d :: '\\' :: 'u' :: e :: f :: g :: h :: rest => do
    let first ← hex4? a b c d
    match (if isHighSurrogate first then (hex4? e f g h).filter isLowSurrogate else none) with
    | some second =>
      let (text, rest) ← readString? rest
      some (.char (pairChar first second) :: text, rest)
    | none =>
      let (text, rest) ← readString? ('\\' :: 'u' :: e :: f :: g :: h :: rest)
      some (.ofNat first :: text, rest)
  | '\\' :: 'u' :: a :: b :: c :: d :: rest => do
    let first ← hex4? a b c d
    let (text, rest) ← readString? rest
    some (.ofNat first :: text, rest)
  | '\\' :: c :: rest => do
    let c ← escape? c
    let (text, rest) ← readString? rest
    some (.char c :: text, rest)
  | c :: rest =>
    if c.toNat < 0x20 then none
    else do
      let (text, rest) ← readString? rest
      some (.char c :: text, rest)

/-- Takes the decimal digits off the front of a text. -/
def spanDigits (text : List Char) : List Char × List Char :=
  (text.takeWhile Char.isDigit, text.dropWhile Char.isDigit)

/-- Takes the fraction off the front of a text: a point and digits. -/
def readFraction (text : List Char) : List Char × List Char :=
  match text with
  | '.' :: rest =>
    let (digits, after) := spanDigits rest
    if digits.isEmpty then ([], text) else (digits, after)
  | _ => ([], text)

/-- Takes the exponent off the front of a text: the letter, a sign and digits. -/
def readExponent (text : List Char) : Option Int × List Char :=
  match text with
  | e :: rest =>
    if e == 'e' || e == 'E' then
      let (isNegative, rest) := match rest with
        | '-' :: rest => (true, rest)
        | '+' :: rest => (false, rest)
        | _ => (false, rest)
      let (digits, after) := spanDigits rest
      if digits.isEmpty then (none, text)
      else
        let n : Int := Number.ofDigits 10 Number.digit digits
        (some (if isNegative then -n else n), after)
    else (none, text)
  | [] => (none, text)

/-- Reads a number without sign. -/
def readMagnitude? (isNegative : Bool) (text : List Char) : Option (Value × List Char) :=
  let (whole, rest) := match text with
    | '0' :: rest => (['0'], rest)
    | _ => spanDigits text
  if whole.isEmpty then none
  else
    let (fraction, rest) := readFraction rest
    let (exponent, rest) := readExponent rest
    let digits := Number.ofDigits 10 Number.digit (whole ++ fraction)
    if fraction.isEmpty && exponent.isNone then
      if whole.length > Number.maxDigits then none
      else some (.int (if isNegative then -digits else digits), rest)
    else some (.float (Number.floatOf isNegative digits (exponent.getD 0 - fraction.length)), rest)

/-- Drops a word from the front. -/
def dropWord? (word : String) (text : List Char) : Option (List Char) :=
  if word.toList.isPrefixOf text then some (text.drop word.length) else none

/-- Reads a word or a number. -/
def readScalar? (text : List Char) : Option (Value × List Char) :=
  match text with
  | 'n' :: _ => (dropWord? "null" text).map (.null, ·)
  | 't' :: _ => (dropWord? "true" text).map (.bool true, ·)
  | 'f' :: _ => (dropWord? "false" text).map (.bool false, ·)
  | 'N' :: _ => (dropWord? "NaN" text).map (.float (0.0 / 0.0), ·)
  | 'I' :: _ => (dropWord? "Infinity" text).map (.float (1.0 / 0.0), ·)
  | '-' :: 'I' :: rest => (dropWord? "Infinity" ('I' :: rest)).map (.float (-1.0 / 0.0), ·)
  | '-' :: rest => readMagnitude? true rest
  | _ => readMagnitude? false text

mutual

/-- Reads a value in at most `fuel` nested steps. -/
def readValue? : Nat → List Char → Option (Value × List Char)
  | 0, _ => none
  | fuel + 1, text =>
    match text with
    | '"' :: rest => (readString? rest).map fun (s, rest) => (.str s, rest)
    | '[' :: rest =>
      match skipSpace rest with
      | ']' :: rest => some (.list none [], rest)
      | rest => (readItems? fuel rest).map fun (items, rest) => (.list none items, rest)
    | '\x7b' :: rest =>
      match skipSpace rest with
      | '\x7d' :: rest => some (.map none [], rest)
      | rest => (readMembers? fuel [] rest).map fun (entries, rest) => (.map none entries, rest)
    | _ => readScalar? text

/-- Reads the items of a list and its closing bracket. -/
def readItems? : Nat → List Char → Option (List Value × List Char)
  | 0, _ => none
  | fuel + 1, text => do
    let (item, rest) ← readValue? fuel text
    match skipSpace rest with
    | ',' :: rest =>
      let (items, rest) ← readItems? fuel (skipSpace rest)
      some (item :: items, rest)
    | ']' :: rest => some ([item], rest)
    | _ => none

/-- Reads the members of a mapping and its closing brace, given those before. -/
def readMembers? : Nat → List (Value × Value) → List Char →
    Option (List (Value × Value) × List Char)
  | 0, _, _ => none
  | fuel + 1, entries, text =>
    match text with
    | '"' :: rest => do
      let (name, rest) ← readString? rest
      match skipSpace rest with
      | ':' :: rest =>
        let (value, rest) ← readValue? fuel (skipSpace rest)
        let entries := Value.insert entries (.str name) value
        match skipSpace rest with
        | ',' :: rest => readMembers? fuel entries (skipSpace rest)
        | '\x7d' :: rest => some (entries, rest)
        | _ => none
      | _ => none
    | _ => none

end

/-- Reads a text that is one value. -/
def read? (text : List Char) : Option Value := do
  let (value, rest) ← readValue? (text.length + 1) (skipSpace text)
  if (skipSpace rest).isEmpty then some value else none

end FoldMark.Json
