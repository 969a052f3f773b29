import FoldMark.Value

/-!
# Values shown within a text

A format without a kind of value writes it as a text: times as they are written elsewhere, bytes and
sets with what they hold between marks.
-/

namespace FoldMark.Value

open Text

/-- How a byte is shown between quotes of the given kind. -/
def shownByte (quote : Char) (byte : UInt8) : List Char :=
  let c := Char.ofNat byte.toNat
  if c = quote || c = '\\' then ['\\', c]
  else if c = '\n' then ['\\', 'n']
  else if c = '\r' then ['\\', 'r']
  else if c = '\t' then ['\\', 't']
  else if 0x20 ≤ byte && byte < 0x7F then [c]
  else '\\' :: 'x' :: hexDigits 2 byte.toNat

/-- Bytes between quotes, after a letter. -/
def shownBytes (data : List UInt8) : List Char :=
  let quote := quoteFor (data.map fun byte => Char.ofNat byte.toNat)
  'b' :: quote :: data.flatMap (shownByte quote) ++ [quote]

/-- Fields between parentheses. -/
def shownFields (name : String) (fields : List (List Char)) : List Char :=
  name.toList ++ '(' :: (", ".toList).intercalate fields ++ [')']

/-- The text of a natural number. -/
def natText (n : Nat) : List Char := (toString n).toList

/-- A distance from universal time. -/
def shownOffset (minutes : Int) : List Char :=
  if minutes = 0 then "datetime.timezone.utc".toList
  else
    let seconds := "seconds=".toList ++ natText ((minutes * 60) % 86400).toNat
    let days := if minutes < 0 then ["days=-1".toList] else []
    shownFields "datetime.timezone" [shownFields "datetime.timedelta" (days ++ [seconds])]

/-- A date with a time; zeros at the end are left out. -/
def shownDateTime (t : DateTime) : List Char :=
  let micros := if t.time.micro = 0 then [] else [t.time.micro]
  let seconds := if t.time.second = 0 && micros.isEmpty then [] else t.time.second :: micros
  let fields := [t.date.year, t.date.month, t.date.day, t.time.hour, t.time.minute] ++ seconds
  let zone := t.offset.toList.map fun minutes => "tzinfo=".toList ++ shownOffset minutes
  shownFields "datetime.datetime" (fields.map natText ++ zone)

/-- A value as it is shown as a member of a set. -/
def shownMember : Value → List Char
  | null => "None".toList
  | bool b => (if b then "True" else "False").toList
  | int n => Number.intText n
  | float x => Number.floatText Number.plainExtremes x
  | str s => s.quoted
  | bytes data => shownBytes data
  | date _ d => shownFields "datetime.date" [natText d.year, natText d.month, natText d.day]
  | dateTime _ t => shownDateTime t
  | _ => []

/-- A set. -/
def shownSet (items : List Value) : List Char :=
  if items.isEmpty then "set()".toList
  else '\x7b' :: (", ".toList).intercalate (items.map shownMember) ++ ['\x7d']

/-- The text of a value that has no place in a format. -/
def shown : Value → List Char
  | bytes data => shownBytes data
  | date _ d => d.text
  | dateTime _ t => t.text ' '
  | time t => t.text
  | set _ items => shownSet items
  | value => shownMember value

end FoldMark.Value
