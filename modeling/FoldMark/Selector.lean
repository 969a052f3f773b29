import FoldMark.Text.Blank
import FoldMark.Text.Class
import FoldMark.Text.Quoted

/-!
# Heading selectors

A selector names the headings that fold: a set of levels, and possibly the text of the heading. It
is written as levels such as `h2`, `h2+` for a level and all deeper ones, and `h2,h4`, followed by
a colon or an equals sign and the text.
-/

namespace FoldMark

open Text

/-- The levels of headings. -/
def headingLevels : List Nat := [1, 2, 3, 4, 5, 6]

/-- A set of heading levels, possibly narrowed to one text. -/
structure Selector where
  /-- The levels in ascending order. -/
  levels : List Nat
  /-- The text that the heading has. -/
  text : Option (List Char)
  /-- The levels are some of the levels of headings, in their order. -/
  canonical : levels = headingLevels.filter levels.contains
  /-- There is a level. -/
  nonempty : levels ≠ []
  deriving DecidableEq

namespace Selector

/-- The levels of headings among some numbers, in ascending order. -/
def sortLevels (levels : List Nat) : List Nat := headingLevels.filter levels.contains

/-- Sorting levels a second time changes nothing. -/
theorem sortLevels_sortLevels (levels : List Nat) :
    sortLevels (sortLevels levels) = sortLevels levels := by
  simp only [sortLevels]
  apply List.filter_congr
  intro level member
  simp [List.mem_filter, member]

/-- The selector of some levels, if there is one among them. -/
def ofLevels? (levels : List Nat) (text : Option (List Char)) : Option Selector :=
  if nonempty : sortLevels levels ≠ [] then
    some ⟨sortLevels levels, text, (sortLevels_sortLevels levels).symm, nonempty⟩
  else none

/-- Whether a heading is selected. -/
def selects (selector : Selector) (level : Nat) (text : List Char) : Bool :=
  selector.levels.contains level && selector.text.all (· == trim text)

/-- Why a text is no selector. -/
inductive ParseError where
  /-- An item is no level. -/
  | badItem (spec : List Char)
  /-- An item is a level that headings do not have. -/
  | badLevel (spec : List Char) (level : Nat)
  deriving DecidableEq, Repr

/-- The wording of an error. -/
def ParseError.message : ParseError → String
  | .badItem spec =>
    "Invalid heading selector " ++ String.ofList (quoted spec) ++
      ": expected items like 'h2', 'h2+' or 'h2,h4'"
  | .badLevel spec level =>
    "Invalid heading selector " ++ String.ofList (quoted spec) ++ ": h" ++ toString level ++
      " is not a heading level"

/-- The digit of an item and whether all deeper levels are meant. -/
def item? (item : List Char) : Option (Nat × Bool) :=
  match trim item with
  | [h, digit] => if h == 'h' || h == 'H' then (digitValue? digit).map (·, false) else none
  | [h, digit, '+'] => if h == 'h' || h == 'H' then (digitValue? digit).map (·, true) else none
  | _ => none

/-- The levels that an item means. -/
def itemLevels (spec item : List Char) : Except ParseError (List Nat) :=
  match item? item with
  | none => .error (.badItem spec)
  | some (level, isOpen) =>
    if headingLevels.contains level then
      .ok (if isOpen then headingLevels.filter (level ≤ ·) else [level])
    else .error (.badLevel spec level)

/-- Whether a character ends the levels. -/
def endsLevels (c : Char) : Bool := c == ':' || c == '='

/-- The levels of a selector's text, and the text to narrow it by. A blank one narrows nothing. -/
def splitText (spec : List Char) : List Char × Option (List Char) :=
  match cutAt endsLevels spec with
  | none => (spec, none)
  | some (levels, text) => (levels, if isBlankText text then none else some (trim text))

/-- Reads a selector. -/
def parse (spec : List Char) : Except ParseError Selector := do
  let (levels, text) := splitText spec
  let levels ← (splitAt (· == ',') levels).mapM (itemLevels spec)
  match ofLevels? levels.flatten text with
  | some selector => .ok selector
  | none => .error (.badItem spec)

end Selector

end FoldMark
