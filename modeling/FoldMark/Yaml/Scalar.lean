import FoldMark.Number.Reader
import FoldMark.Text.Base64
import FoldMark.Value
import FoldMark.Yaml.Node

/-!
# Single values

The value of a text by its tag. A tag can be given to any text, so each kind has its own way to
refuse one.
-/

namespace FoldMark.Yaml

open FoldMark.Text

/-- Why a document has no value. -/
inductive ReadError where
  /-- The text is no document, or a node is not of the form that its tag asks for. -/
  | malformed
  /-- A node that is no mapping has the tag of one. -/
  | noMapping (found : Node)
  /-- A node that is no mapping is to be merged into one. -/
  | noMerge (around found : Node) (isListed : Bool)
  /-- A node that is no mapping stands in a list of pairs. -/
  | noPair (around found : Node)
  /-- A text is no truth value. -/
  | noTruth
  /-- A text is no date. -/
  | noTimestamp
  /-- A text for a number is empty. -/
  | noDigits
  /-- A text has the form of a number, a date or a character that there is not. -/
  | noSuchValue
  /-- A text has a number that is too great for what is done with it. -/
  | overflow
  /-- A node for a date has no text of its own. -/
  | noText
  /-- A node that stands for its default is within itself. -/
  | endless
  deriving DecidableEq, Repr

/-- Why a text that is no document has no value. -/
def ReadError.ofText : TextError → ReadError
  | .malformed => .malformed
  | .noCharacter => .noSuchValue
  | .overflow => .overflow

/-- Whether the reader stopped on a text that it has no rule for; any other error tells that the
document is not valid. -/
def ReadError.isFault : ReadError → Bool
  | .noTruth | .noTimestamp | .noDigits | .overflow | .noText | .endless => true
  | _ => false

namespace Scalar

/-- The words for truth values. -/
def truthWords : List (String × Bool) :=
  [("yes", true), ("no", false), ("true", true), ("false", false), ("on", true), ("off", false)]

/-- The truth value of a word in any letter case. -/
def bool (text : List Char) : Except ReadError Value :=
  match truthWords.lookup (String.ofList (text.map Char.toLower)) with
  | some b => .ok (.bool b)
  | none => .error .noTruth

/-- A value, or the error that there is none. -/
def orNone {α : Type} (value : Option α) : Except ReadError α :=
  match value with
  | some value => .ok value
  | none => .error .noSuchValue

/-- Drops low lines and takes the sign off what is left. -/
def signed (text : List Char) : Bool × List Char := Number.readSign (text.filter (· != '_'))

/-- The number that parts of sixty are, from the greatest on. -/
def sixtieths (parts : List Int) : Int := parts.foldl (fun n part => n * 60 + part) 0

/-- The magnitude of an integer. -/
def magnitude (digits : List Char) : Except ReadError Int :=
  match digits with
  | [] => .error .noDigits
  | ['0'] => .ok 0
  | '0' :: 'b' :: rest => orNone (Number.intOf? 2 rest)
  | '0' :: 'x' :: rest => orNone (Number.intOf? 16 rest)
  | '0' :: _ => orNone (Number.intOf? 8 digits)
  | _ =>
    if digits.contains ':' then
      orNone (((splitAt (· == ':') digits).mapM (Number.intOf? 10)).map sixtieths)
    else orNone (Number.intOf? 10 digits)

/-- An integer. -/
def int (text : List Char) : Except ReadError Value := do
  let (isNegative, digits) := signed text
  let n ← magnitude digits
  return .int (if isNegative then -n else n)

/-- From which integer on there is no floating-point number near it. -/
def maxFloat : Nat := Nat.pow 2 1024

/-- The number that parts of sixty are, from the smallest on. The weight of a part is an integer
that must have a floating-point number near it. -/
def floatSixtieths (parts : List Float) : Except ReadError Float :=
  if Nat.pow 60 (parts.length - 1) ≥ maxFloat then .error .overflow
  else
    let add (sum : Float × Nat) (part : Float) : Float × Nat :=
      (sum.1 + part * Float.ofNat sum.2, sum.2 * 60)
    .ok (parts.foldl add (0.0, 1)).1

/-- The magnitude of a floating-point number. -/
def floatMagnitude (digits : List Char) : Except ReadError Float :=
  if digits == ".inf".toList then .ok (1.0 / 0.0)
  else if digits == ".nan".toList then .ok (0.0 / 0.0)
  else if digits.contains ':' then do
    floatSixtieths (← orNone ((splitAt (· == ':') digits).mapM Number.float?)).reverse
  else orNone (Number.float? digits)

/-- A floating-point number. -/
def float (text : List Char) : Except ReadError Value := do
  let (isNegative, digits) := signed (text.map Char.toLower)
  if digits.isEmpty && !(text.any fun c => c == '+' || c == '-') then throw .noDigits
  let x ← floatMagnitude digits
  return .float (if isNegative then -x else x)

/-- Bytes. -/
def binary (text : List Char) : Except ReadError Value :=
  if text.all fun c => c.toNat < 0x80 then
    match Base64.decode? text with
    | some bytes => .ok (.bytes bytes)
    | none => .error .malformed
  else .error .malformed

/-- The number that digits write. -/
def natOf (digits : List Char) : Nat := Number.ofDigits 10 Number.digit digits

/-- The microseconds that the digits of a fraction write. -/
def microsOf (digits : List Char) : Nat :=
  let kept := digits.take 6
  natOf (kept ++ List.replicate (6 - kept.length) '0')

/-- The value of a date's parts. -/
def ofTimestamp? (id : Nat) (parts : Tag.Timestamp) : Option Value := do
  let date ← Date.make? (natOf parts.year) (natOf parts.month) (natOf parts.day)
  match parts.time with
  | none => some (.date (some id) date)
  | some (hour, minute, second, fraction) =>
    let time ← TimeOfDay.make? (natOf hour) (natOf minute) (natOf second) (microsOf fraction)
    let offset : Option Int := parts.zone.map fun (sign, hours, minutes) =>
      let total : Int := natOf hours * 60 + natOf minutes
      if sign == '-' then -total else total
    if offset.all DateTime.isOffset then some (.dateTime (some id) ⟨date, time, offset⟩) else none

/-- A date, which has the identity of its node. -/
def timestamp (id : Nat) (text : List Char) : Except ReadError Value :=
  match Tag.timestamp? text with
  | none => .error .noTimestamp
  | some parts => orNone (ofTimestamp? id parts)

/-- The value of a node's text by its tag. Half a surrogate pair counts only within a text. -/
def ofTag (id : Nat) (tag : Tag) (text : CodeText) : Except ReadError Value :=
  match tag with
  | .null => .ok .null
  | .bool => bool text.toList
  | .int => int text.toList
  | .float => float text.toList
  | .binary => binary text.toList
  | .timestamp => timestamp id text.toList
  | .str => .ok (.str text)
  | _ => .error .malformed

end Scalar

end FoldMark.Yaml
