import FoldMark.FrontMatter
import FoldMark.Number.Literal
import FoldMark.Payload
import FoldMark.Text.Utf8

/-!
# Fields of settings

A setting comes from a file, from the environment or from the command line, so a field accepts every
spelling of its value: a switch accepts words, a number accepts a text of digits. All fields of a
mapping are checked before any problem is reported. `Checked` collects the problems in the order of
the fields.
-/

namespace FoldMark

/-- What is wrong, and in which field. -/
structure Problem (ε : Type) where
  /-- The field, and the item within it. -/
  place : List String
  /-- What is wrong. -/
  cause : ε

namespace Problem

/-- The wording of a problem. -/
def message {ε : Type} (wording : ε → String) (problem : Problem ε) : String :=
  let place := ".".intercalate problem.place
  if place.isEmpty then wording problem.cause else place ++ ": " ++ wording problem.cause

/-- The wording of several problems on one line. -/
def messages {ε : Type} (wording : ε → String) (problems : List (Problem ε)) : String :=
  "; ".intercalate (problems.map (message wording))

/-- Moves a problem into a field. -/
def within {ε : Type} (name : String) (problem : Problem ε) : Problem ε :=
  { problem with place := name :: problem.place }

/-- Takes the cause of a problem for another. -/
def map {ε φ : Type} (change : ε → φ) (problem : Problem ε) : Problem φ :=
  ⟨problem.place, change problem.cause⟩

end Problem

/-- A value, or the problems that keep it from being one. -/
inductive Checked (ε α : Type) where
  /-- A value. -/
  | good (value : α)
  /-- Problems. -/
  | bad (problems : List (Problem ε))

namespace Checked

/-- The problems of what was checked. -/
def problems {ε α : Type} : Checked ε α → List (Problem ε)
  | good _ => []
  | bad problems => problems

/-- Changes the value. -/
def map {ε α β : Type} (change : α → β) : Checked ε α → Checked ε β
  | good value => good (change value)
  | bad problems => bad problems

/-- Applies a function; the problems of both sides are kept. -/
def apply {ε α β : Type} (change : Checked ε (α → β)) (value : Checked ε α) : Checked ε β :=
  match change, value with
  | good change, good value => good (change value)
  | change, value => bad (change.problems ++ value.problems)

instance {ε : Type} : Applicative (Checked ε) where
  pure := good
  seq change value := apply change (value ())

/-- Adds problems found elsewhere. -/
def also {ε α : Type} (checked : Checked ε α) (others : List (Problem ε)) : Checked ε α :=
  match checked, others with
  | good value, [] => good value
  | checked, others => bad (checked.problems ++ others)

/-- The value, or its problems. -/
def toExcept {ε α : Type} : Checked ε α → Except (List (Problem ε)) α
  | good value => .ok value
  | bad problems => .error problems

/-- Takes the causes of problems for others. -/
def mapCause {ε φ α : Type} (change : ε → φ) : Checked ε α → Checked φ α
  | good value => good value
  | bad problems => bad (problems.map (Problem.map change))

end Checked

namespace Fields

open Text

/-- Why a value does not suit a field. -/
inductive Error where
  /-- A field that must be given is not. -/
  | missing
  /-- There is no such field. -/
  | unknown
  /-- The value is of a kind that is no switch. -/
  | notBool
  /-- The value is of a kind that could be a switch, but is none. -/
  | unclearBool
  /-- The value is no text. -/
  | notText
  /-- The value is no set. -/
  | notSet
  /-- The value is of a kind that is no integer. -/
  | notInt
  /-- The number is not whole. -/
  | fractional
  /-- The text is no integer. -/
  | unclearInt
  /-- The number is too great. -/
  | hugeInt
  /-- The number is infinite or none. -/
  | notFinite
  /-- The value is no notation of front matter. -/
  | notKind
  /-- The value is no output format. -/
  | notFormat
  /-- The number is outside of its range. -/
  | outOfRange
  /-- The text is none of the words of the field. -/
  | notWord
  /-- A set of levels is empty. -/
  | noLevels
  /-- A set of levels holds numbers that are none. -/
  | badLevels (levels : List Int)
  deriving DecidableEq, Repr

/-- Numbers between brackets. -/
def listText (numbers : List Int) : String := "[" ++ ", ".intercalate (numbers.map toString) ++ "]"

/-- The wording of an error. -/
def Error.message : Error → String
  | missing => "Field required"
  | unknown => "Extra inputs are not permitted"
  | notBool => "Input should be a valid boolean"
  | unclearBool => "Input should be a valid boolean, unable to interpret input"
  | notText => "Input should be a valid string"
  | notSet => "Input should be a valid frozenset"
  | notInt => "Input should be a valid integer"
  | fractional => "Input should be a valid integer, got a number with a fractional part"
  | unclearInt => "Input should be a valid integer, unable to parse string as an integer"
  | hugeInt => "Unable to parse input string as an integer, exceeded maximum size"
  | notFinite => "Input should be a finite number"
  | notKind => "Input should be 'refdef', 'json', 'yaml' or 'toml'"
  | notFormat => "Input should be 'html', 'json', 'yaml' or 'toml'"
  | outOfRange => "Input should be between 1 and 65535"
  | notWord => "Input should be one of its words"
  | noLevels => "Value error, at least one heading level is required"
  | badLevels levels =>
    "Value error, heading levels must be between 1 and 6, got " ++ listText levels

/-- The characters of the text that a value holds; bytes hold the text that they encode. -/
def text? : Value → Option (List Char)
  | .str s => some s.toList
  | .bytes data => (Utf8.decode data).toOption
  | _ => none

/-- Whether a value holds a text or could hold one. -/
def isTextual : Value → Bool
  | .str _ | .bytes _ => true
  | _ => false

/-- A text. -/
def text (value : Value) : Except Error (List Char) :=
  match text? value with
  | some chars => .ok chars
  | none => .error .notText

/-- A text that may be absent. -/
def optionalText : Value → Except Error (Option (List Char))
  | .null => .ok none
  | value => (text value).map some

/-- The words for a switch. -/
def switchWords : List (String × Bool) :=
  [("0", false), ("f", false), ("n", false), ("no", false), ("off", false), ("false", false),
    ("1", true), ("t", true), ("y", true), ("on", true), ("yes", true), ("true", true)]

/-- The bound on the magnitude of an integer that is read from a floating-point number. -/
def maxWhole : Nat := Nat.pow 2 63

/-- The switch that a number means: zero or one. -/
def switchOfInt (n : Int) : Except Error Bool :=
  if n.natAbs ≥ maxWhole && n ≠ -(maxWhole : Int) then .error .notBool
  else if n = 0 then .ok false
  else if n = 1 then .ok true
  else .error .unclearBool

/-- The integer that a floating-point number is. -/
def wholeOf (x : Float) : Except Error Int :=
  if !x.isFinite then .error .notFinite
  else
    let b := Number.Binary.ofBits (Value.magnitudeBits x)
    let r := Number.Binary.Ratio.scaled b.mantissa b.exponent
    if r.num % r.den ≠ 0 then .error .fractional
    else if r.num / r.den ≥ maxWhole then .error .hugeInt
    else .ok (if x < 0 then -((r.num / r.den : Nat) : Int) else ((r.num / r.den : Nat) : Int))

/-- A switch. -/
def switch : Value → Except Error Bool
  | .bool b => .ok b
  | .int n => switchOfInt n
  | .float x =>
    match wholeOf x with
    | .ok n => switchOfInt n
    | .error _ => .error .notBool
  | value =>
    if isTextual value then
      match (text? value).bind fun chars =>
          switchWords.lookup (String.ofList (chars.map Char.toLower)) with
      | some b => .ok b
      | none => .error .unclearBool
    else .error .notBool

/-- White space around a numeral: blank characters but the information separators. -/
def isMargin (c : Char) : Bool := isBlank c && !(0x1C ≤ c.toNat && c.toNat ≤ 0x1F)

/-- Drops white space from both ends. -/
def dropMargins (chars : List Char) : List Char := dropTrailing isMargin (chars.dropWhile isMargin)

/-- Drops the zeros in front of a numeral, and the low lines between them. A zero that stands before
a point or at the end is kept. -/
def dropLeadingZeros : List Char → List Char
  | c :: d :: rest =>
    if (c == '0' || c == '_') && (d == '_' || d.isDigit) then dropLeadingZeros (d :: rest)
    else c :: d :: rest
  | chars => chars

/-- Drops a point that only zeros follow. -/
def dropZeroFraction (chars : List Char) : List Char :=
  match cutAt (· == '.') chars with
  | some (whole, fraction) => if fraction.all (· == '0') then whole else chars
  | none => chars

/-- Whether a low line stands at an end or beside another. -/
def hasStrayLowLine : List Char → Bool
  | [] => false
  | ['_'] => true
  | '_' :: '_' :: _ => true
  | _ :: rest => hasStrayLowLine rest

/-- Drops the low lines between digits. -/
def dropLowLines (chars : List Char) : List Char :=
  if chars.head? == some '_' || hasStrayLowLine chars then chars else chars.filter (· != '_')

/-- The digits of a numeral and whether it is negative, without what does not count. -/
def numeral (chars : List Char) : Bool × List Char :=
  match dropMargins chars with
  | '-' :: rest =>
    match dropLowLines (dropZeroFraction ('-' :: rest)) with
    | '-' :: digits => (true, digits)
    | digits => (true, digits)
  | '+' :: '0' :: rest => (false, dropLowLines (dropZeroFraction (dropLeadingZeros ('0' :: rest))))
  | '0' :: rest => (false, dropLowLines (dropZeroFraction (dropLeadingZeros ('0' :: rest))))
  | '+' :: rest => (false, dropLowLines (dropZeroFraction rest))
  | rest => (false, dropLowLines (dropZeroFraction rest))

/-- The integer that a text writes: digits without a zero in front, after a sign or not. -/
def intOfText (chars : List Char) : Except Error Int :=
  let (isNegative, digits) := numeral chars
  if digits.isEmpty || !digits.all Char.isDigit ||
      (digits.length > 1 && digits.head? == some '0') then
    .error .unclearInt
  else if digits.length > Number.maxDigits then .error .hugeInt
  else
    let n : Nat := Number.ofDigits 10 Number.digit digits
    .ok (if isNegative then -(n : Int) else n)

/-- An integer. -/
def int : Value → Except Error Int
  | .bool b => .ok (if b then 1 else 0)
  | .int n => .ok n
  | .float x => wholeOf x
  | value =>
    if isTextual value then
      match text? value with
      | some chars => intOfText chars
      | none => .error .unclearInt
    else .error .notInt

/-- A notation of front matter that may be absent. -/
def kind : Value → Except Error (Option FrontMatter.Kind)
  | .null => .ok none
  | value =>
    match (text? value).bind fun chars => FrontMatter.Kind.ofName? (String.ofList chars) with
    | some kind => .ok (some kind)
    | none => .error .notKind

/-- An output format. -/
def outputFormat (value : Value) : Except Error PayloadFormat :=
  match (text? value).bind fun chars => PayloadFormat.ofName? (String.ofList chars) with
  | some format => .ok format
  | none => .error .notFormat

/-- A mapping of field names to values. -/
abbrev Entries := List (String × Value)

/-- Reads a field, which is `absent` if it is not given. -/
def readField {ε α : Type} (entries : Entries) (name : String) (reader : Value → Except ε α)
    (absent : α) : Checked ε α :=
  match entries.lookup name with
  | none => .good absent
  | some value =>
    match reader value with
    | .ok found => .good found
    | .error cause => .bad [⟨[name], cause⟩]

/-- The fields that are none of some names. -/
def unknown (names : List String) (entries : Entries) : List (Problem Error) :=
  (entries.filter fun entry => !names.contains entry.1).map fun entry => ⟨[entry.1], .unknown⟩

end Fields

end FoldMark
