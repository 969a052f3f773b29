import FoldMark.Text.Blank
import FoldMark.Text.Class

/-!
# Tags

A tag says what kind of value a node stands for. A text that has no tag gets one by its form: the
words for truth values and for no value, numbers, dates, and the signs for merging and for a default
key are told from other texts.
-/

namespace FoldMark.Yaml

open FoldMark.Text

/-- What kind of value a node stands for. -/
inductive Tag where
  /-- No value. -/
  | null
  /-- A truth value. -/
  | bool
  /-- An integer. -/
  | int
  /-- A floating-point number. -/
  | float
  /-- Bytes. -/
  | binary
  /-- A date, with a time or not. -/
  | timestamp
  /-- A list of pairs whose keys differ. -/
  | omap
  /-- A list of pairs. -/
  | pairs
  /-- A set. -/
  | set
  /-- A text. -/
  | str
  /-- A list. -/
  | seq
  /-- A mapping. -/
  | map
  /-- The key whose value is merged into its mapping. -/
  | merge
  /-- The key whose value stands for its mapping. -/
  | default
  /-- Any other kind. -/
  | other (name : List Char)
  deriving DecidableEq, Repr

namespace Tag

/-- The names of the kinds that every document knows. -/
def names : List (String × Tag) :=
  [("null", null), ("bool", bool), ("int", int), ("float", float), ("binary", binary),
    ("timestamp", timestamp), ("omap", omap), ("pairs", pairs), ("set", set), ("str", str),
    ("seq", seq), ("map", map), ("merge", merge), ("value", default)]

/-- What the names of those kinds start with. -/
def core : List Char := "tag:yaml.org,2002:".toList

/-- The tag with a full name. -/
def ofName (name : List Char) : Tag :=
  let known := names.find? fun entry => core ++ entry.1.toList == name
  (known.map (·.2)).getD (other name)

/-- A decimal digit or a low line. -/
def isDigitOrLow (c : Char) : Bool := c.isDigit || c == '_'

/-- Drops a sign from the front. -/
def dropSign : List Char → List Char
  | '+' :: rest | '-' :: rest => rest
  | text => text

/-- Whether a text is a number below sixty in one or two digits. -/
def isSixtieth : List Char → Bool
  | [a] => a.isDigit
  | [a, b] => '0' ≤ a && a ≤ '5' && b.isDigit
  | _ => false

/-- Whether a text is one or more numbers below sixty, each after a colon, of which the last has the
given form. -/
def isSixtieths (isLast : List Char → Bool) (text : List Char) : Bool :=
  match splitAt (· == ':') text with
  | [] :: part :: parts =>
    (part :: parts).dropLast.all isSixtieth && isLast ((part :: parts).getLastD [])
  | _ => false

/-- Whether a text is a whole number: binary, octal, decimal, hexadecimal or in parts of sixty. -/
def isInt (text : List Char) : Bool :=
  match dropSign text with
  | '0' :: 'b' :: rest => !rest.isEmpty && rest.all fun c => c == '0' || c == '1' || c == '_'
  | '0' :: 'x' :: rest => !rest.isEmpty && rest.all fun c => isHexDigit c || c == '_'
  | '0' :: rest => rest.all fun c => ('0' ≤ c && c ≤ '7') || c == '_'
  | c :: rest =>
    let after := rest.dropWhile isDigitOrLow
    c.isDigit && (after.isEmpty || isSixtieths isSixtieth after)
  | [] => false

/-- Whether a text is an exponent with its sign, or nothing. -/
def isExponent (text : List Char) : Bool :=
  match text with
  | [] => true
  | e :: sign :: digits =>
    (e == 'e' || e == 'E') && (sign == '+' || sign == '-') &&
      !digits.isEmpty && digits.all Char.isDigit
  | _ => false

/-- Whether a text is one of some spellings. -/
def isOneOf (spellings : List String) (text : List Char) : Bool :=
  spellings.any fun spelling => spelling.toList == text

/-- Whether a text is a number below sixty and a fraction. -/
def isFractional (text : List Char) : Bool :=
  match text.dropWhile (· != '.') with
  | _ :: fraction => isSixtieth (text.takeWhile (· != '.')) && fraction.all isDigitOrLow
  | [] => false

/-- Whether a text is a number with a point. -/
def isFloat (text : List Char) : Bool :=
  let digitsFirst (text : List Char) : Bool :=
    match text with
    | c :: rest =>
      c.isDigit &&
        match rest.dropWhile isDigitOrLow with
        | '.' :: rest => isExponent (rest.dropWhile isDigitOrLow)
        | rest => isSixtieths isFractional rest
    | [] => false
  let pointFirst : Bool :=
    match text with
    | '.' :: c :: rest => c.isDigit && isExponent (rest.dropWhile isDigitOrLow)
    | _ => false
  digitsFirst (dropSign text) || pointFirst || isOneOf [".inf", ".Inf", ".INF"] (dropSign text) ||
    isOneOf [".nan", ".NaN", ".NAN"] text

/-- The digits at the front, of which there are at least and at most as many as given. -/
def digits? (least most : Nat) (text : List Char) : Option (List Char × List Char) :=
  let digits := (text.take most).takeWhile Char.isDigit
  if digits.length < least then none else some (digits, text.drop digits.length)

/-- Drops a character from the front. -/
def dropChar? (c : Char) : List Char → Option (List Char)
  | [] => none
  | d :: rest => if d == c then some rest else none

/-- The parts of a date and, if it has one, of the time on it. -/
structure Timestamp where
  /-- The year. -/
  year : List Char
  /-- The month. -/
  month : List Char
  /-- The day. -/
  day : List Char
  /-- Hour, minute, second and digits of the fraction. -/
  time : Option (List Char × List Char × List Char × List Char)
  /-- The sign, hours and minutes of the distance from universal time. -/
  zone : Option (Char × List Char × List Char)

/-- The distance from universal time, which is all of a text but for spaces before it. -/
def zone? (text : List Char) : Option (Option (Char × List Char × List Char)) := do
  if text.isEmpty then return none
  match text.dropWhile isSpaceOrTab with
  | ['Z'] => return some ('+', ['0'], ['0'])
  | sign :: rest =>
    if sign != '+' && sign != '-' then failure
    let (hours, rest) ← digits? 1 2 rest
    if rest.isEmpty then return some (sign, hours, ['0'])
    let (minutes, rest) ← digits? 2 2 (← dropChar? ':' rest)
    if rest.isEmpty then return some (sign, hours, minutes) else failure
  | [] => failure

/-- The time of a date, after what separates them. -/
def time? (date : Timestamp) (text : List Char) : Option Timestamp := do
  let (hour, rest) ← digits? 1 2 text
  let (minute, rest) ← digits? 2 2 (← dropChar? ':' rest)
  let (second, rest) ← digits? 2 2 (← dropChar? ':' rest)
  let (fraction, rest) := match rest with
    | '.' :: rest => (rest.takeWhile Char.isDigit, rest.dropWhile Char.isDigit)
    | _ => ([], rest)
  let zone ← zone? rest
  some { date with time := some (hour, minute, second, fraction), zone }

/-- The parts of a date, with a time or not. -/
def timestamp? (text : List Char) : Option Timestamp := do
  let (year, rest) ← digits? 4 4 text
  let (month, rest) ← digits? 1 2 (← dropChar? '-' rest)
  let (day, rest) ← digits? 1 2 (← dropChar? '-' rest)
  let date : Timestamp := ⟨year, month, day, none, none⟩
  match rest with
  | [] => some date
  | c :: after =>
    if c == 'T' || c == 't' then time? date after
    else if isSpaceOrTab c then time? date (rest.dropWhile isSpaceOrTab)
    else none

/-- Whether a text is a date; one without a time has two digits for month and day. -/
def isTimestamp (text : List Char) : Bool :=
  (timestamp? text).any fun date => date.time.isSome || text.length == 10

/-- The tag of a text that has none. -/
def ofText (text : List Char) : Tag :=
  if isOneOf ["yes", "Yes", "YES", "no", "No", "NO", "true", "True", "TRUE", "false", "False",
      "FALSE", "on", "On", "ON", "off", "Off", "OFF"] text then bool
  else if isFloat text then float
  else if isInt text then int
  else if text == ['<', '<'] then merge
  else if isOneOf ["~", "null", "Null", "NULL", ""] text then null
  else if isTimestamp text then timestamp
  else if text == ['='] then default
  else if isOneOf ["!", "&", "*"] text then other (core ++ "yaml".toList)
  else str

end Tag

end FoldMark.Yaml
