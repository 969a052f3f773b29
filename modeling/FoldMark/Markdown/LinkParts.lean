import FoldMark.Markdown.Entity

/-!
# Destinations and titles

The two parts of a link after its label, read from the front of a text. Each reader returns what
it read, with escapes and references replaced, and how many characters that took.
-/

namespace FoldMark.Markdown

open FoldMark.Text

/-- The deepest nesting of parentheses in a destination. -/
def maxParentheses : Nat := 32

/-- The size of a destination between angle brackets, without the brackets. -/
def angledSize? : List Char → Option Nat
  | [] => none
  | '\\' :: _ :: rest => (angledSize? rest).map (· + 2)
  | c :: rest =>
    if c == '>' then some 0
    else if c == '<' || c == '\n' then none
    else (angledSize? rest).map (· + 1)

/-- A character that ends a destination without brackets. -/
def endsDestination (c : Char) : Bool := c.toNat ≤ 0x20 || c.toNat == 0x7F

/-- The size of a destination without brackets, whose parentheses are balanced; `depth` of them are
open. -/
def bareSize? : Nat → List Char → Option Nat
  | depth, [] => if depth = 0 then some 0 else none
  | depth, '\\' :: c :: rest =>
    if c == ' ' then (if depth = 0 then some 0 else none) else (bareSize? depth rest).map (· + 2)
  | depth, c :: rest =>
    if endsDestination c then (if depth = 0 then some 0 else none)
    else if c == '(' then
      if depth + 1 > maxParentheses then none else (bareSize? (depth + 1) rest).map (· + 1)
    else if c == ')' then
      if depth = 0 then some 0 else (bareSize? (depth - 1) rest).map (· + 1)
    else (bareSize? depth rest).map (· + 1)

/-- The destination at the front of a text. -/
def destination? (text : List Char) : Option (List Char × Nat) :=
  match text with
  | '<' :: rest => (angledSize? rest).map fun size => (Entity.unescape (rest.take size), size + 2)
  | _ =>
    match bareSize? 0 text with
    | none | some 0 => none
    | some size => some (Entity.unescape (text.take size), size)

/-- The size of a title up to its closing mark. -/
def titleSize? (closer : Char) : List Char → Option Nat
  | [] => none
  | '\\' :: _ :: rest => (titleSize? closer rest).map (· + 2)
  | c :: rest =>
    if c == closer then some 0
    else if c == '(' && closer == ')' then none
    else (titleSize? closer rest).map (· + 1)

/-- The mark that closes a title. -/
def titleCloser? : Char → Option Char
  | '"' => some '"'
  | '\'' => some '\''
  | '(' => some ')'
  | _ => none

/-- The title at the front of a text. -/
def title? : List Char → Option (List Char × Nat)
  | [] => none
  | c :: rest => do
    let closer ← titleCloser? c
    let size ← titleSize? closer rest
    some (Entity.unescape (rest.take size), size + 2)

end FoldMark.Markdown
