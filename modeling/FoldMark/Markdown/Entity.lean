import FoldMark.Markdown.Character
import FoldMark.Markdown.Entity.Table

/-!
# Character references and backslash escapes

`&name;`, `&#38;` and `&#x26;` stand for characters. In running text each reference is read on its
own; in link destinations, link titles and info strings `unescape` replaces references and
backslash escapes at once.
-/

namespace FoldMark.Markdown.Entity

open FoldMark.Text

/-- The number that hexadecimal digits write; a character that is no digit counts as zero. -/
def number (base : Nat) (digits : List Char) : Nat :=
  digits.foldl (fun n c => base * n + (asciiDigit? base c).getD 0) 0

/-- One entry of the table: a name and its character. -/
def entry? (text : List Char) : Option (List Char × Char) :=
  (cutAt (· == ':') text).map fun (name, point) => (name, Char.ofNat (number 16 point))

/-- The names of one character. -/
def singles : List (List Char × Char) :=
  entityTable.flatMap fun line => (words line.toList).filterMap entry?

/-- The names with what they stand for. -/
def named : List (List Char × List Char) :=
  singles.map (fun (name, c) => (name, [c])) ++
    entityPairs.map fun (name, first, second) =>
      (name.toList, [Char.ofNat first, Char.ofNat second])

/-- What a name stands for. -/
def named? (name : List Char) : Option (List Char) := named.lookup name

/-- Whether a number may be referred to: a code point that is neither a surrogate, a noncharacter
nor a control other than the tab, the line feed, the form feed and the carriage return. -/
def isReferable (n : Nat) : Bool :=
  !((0xD800 ≤ n && n ≤ 0xDFFF) || (0xFDD0 ≤ n && n ≤ 0xFDEF) || n % 0x10000 ≥ 0xFFFE || n ≤ 0x08 ||
    n == 0x0B || (0x0E ≤ n && n ≤ 0x1F) || (0x7F ≤ n && n ≤ 0x9F) || n > 0x10FFFF)

/-- The base and the digits of a numeric reference's body, at most as many as its base allows. -/
def digits? (maxDecimal maxHex : Nat) : List Char → Option (Nat × List Char)
  | '#' :: c :: rest =>
    let (base, digits, limit) :=
      if c == 'x' || c == 'X' then (16, rest, maxHex) else (10, c :: rest, maxDecimal)
    if !digits.isEmpty && digits.length ≤ limit && digits.all (fun d => (asciiDigit? base d).isSome)
    then some (base, digits) else none
  | _ => none

/-- The character of a numeric reference in running text; one that may not be referred to is
replaced. -/
def numeric? (body : List Char) : Option Char := do
  let (base, digits) ← digits? 7 6 body
  let n := number base digits
  some (if isReferable n then Char.ofNat n else '\uFFFD')

/-- The body of the reference at the front of a text, between the ampersand and the semicolon. -/
def body? : List Char → Option (List Char)
  | '&' :: rest =>
    match cutAt (fun c => !(isAsciiAlphanumeric c || c == '#')) (rest.take 34) with
    | some (body, _) => if (rest.drop body.length).head? == some ';' then some body else none
    | none => none
  | _ => none

/-- The reference at the front of running text: what it stands for and its length. -/
def atFront? (text : List Char) : Option (List Char × Nat) := do
  let body ← body? text
  let meaning ← match body with
    | '#' :: _ => (numeric? body).map fun c => [c]
    | _ => named? body
  some (meaning, body.length + 2)

/-- The reference at the front of a destination, a title or an info string. -/
def atFrontOfPart? (text : List Char) : Option (List Char × Nat) := do
  let body ← body? text
  if body.length < 2 || body.length > 32 || (body.drop 1).contains '#' then none
  else
    let meaning ← match named? body with
      | some meaning => some meaning
      | none => do
        let (base, digits) ← digits? 8 8 body
        let n := number base digits
        if isReferable n then some [Char.ofNat n] else none
    some (meaning, body.length + 2)

/-- Replaces references and backslash escapes, in at most `fuel` steps. -/
def unescapeWithin : Nat → List Char → List Char
  | 0, text => text
  | _ + 1, [] => []
  | fuel + 1, c :: rest =>
    match c, rest with
    | '\\', d :: more =>
      if isEscapable d then d :: unescapeWithin fuel more else c :: unescapeWithin fuel rest
    | _, _ =>
      match atFrontOfPart? (c :: rest) with
      | some (meaning, size) => meaning ++ unescapeWithin fuel (rest.drop (size - 1))
      | none => c :: unescapeWithin fuel rest

/-- Replaces references and backslash escapes. -/
def unescape (text : List Char) : List Char := unescapeWithin text.length text

end FoldMark.Markdown.Entity
