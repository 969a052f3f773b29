import FoldMark.Markdown.Token

/-!
# Delimiters

Asterisks, low lines and tildes are read as text first and noted as delimiters. Afterwards closing
delimiters are paired with opening ones, and the text of a pair becomes the start and the end of a
span. Two adjacent pairs of one mark make strong emphasis.
-/

namespace FoldMark.Markdown

/-- A mark that may open or close a span. -/
structure Delimiter where
  /-- The character of the mark. -/
  mark : Char
  /-- The length of the run that the mark belongs to; zero if runs of any length match. -/
  length : Nat
  /-- The place of the mark in the content. -/
  item : Nat
  /-- The mark may open a span. -/
  canOpen : Bool
  /-- The mark may close a span. -/
  canClose : Bool
  /-- The delimiter that closes the span which this one opens. -/
  partner : Option Nat := none
  deriving Inhabited, Repr

namespace Delimiter

/-- Of a delimiter that can both open and close, and a partner, the lengths may not add up to a
multiple of three unless both are one. -/
def matches? (opener closer : Delimiter) : Bool :=
  !((opener.canClose || closer.canOpen) && (opener.length + closer.length) % 3 == 0 &&
    (opener.length % 3 != 0 || closer.length % 3 != 0))

end Delimiter

/-- The state of pairing delimiters from left to right. -/
structure Pairing where
  /-- The delimiters, with the partners found so far. -/
  delimiters : Array Delimiter
  /-- How many delimiters before one need not be looked at. -/
  jumps : Array Nat := #[]
  /-- For kinds of closing delimiters, the delimiters at the front that cannot open them. -/
  floors : List ((Char × Bool × Nat) × Nat) := []
  /-- The first delimiter of the current run. -/
  runStart : Nat := 0
  /-- The place where the current run would go on. -/
  runNext : Option Nat := none

namespace Pairing

/-- The last opener for a closer among the first `count` delimiters, not counting the first
`floor`; the first argument bounds the steps. -/
def opener? (state : Pairing) (closer : Delimiter) (floor : Nat) : Nat → Nat → Option Nat
  | 0, _ => none
  | steps + 1, count =>
    if count ≤ floor then none
    else
      let index := count - 1
      let opener := state.delimiters.getD index default
      if opener.mark == closer.mark && opener.canOpen && opener.partner.isNone &&
          opener.matches? closer then some index
      else opener? state closer floor steps (index - state.jumps.getD index 0)

/-- Takes the next delimiter into account. -/
def step (state : Pairing) (index : Nat) : Pairing :=
  let closer := state.delimiters.getD index default
  let header := state.delimiters.getD state.runStart default
  let goesOn := header.mark == closer.mark && state.runNext == some closer.item
  let runStart := if goesOn then state.runStart else index
  let state :=
    { state with jumps := state.jumps.push 0, runStart, runNext := some (closer.item + 1) }
  if !closer.canClose then state
  else
    let kind := (closer.mark, closer.canOpen, closer.length % 3)
    let floor := (state.floors.lookup kind).getD 0
    let count := runStart - state.jumps.getD runStart 0
    match state.opener? closer floor count count with
    | none => { state with floors := (kind, count) :: state.floors }
    | some place =>
      let opener := state.delimiters.getD place default
      let jump :=
        if place > 0 && !(state.delimiters.getD (place - 1) default).canOpen then
          state.jumps.getD (place - 1) 0 + 1
        else 0
      { state with
        jumps := (state.jumps.setIfInBounds index (index - place + jump)).setIfInBounds place jump
        delimiters :=
          (state.delimiters.setIfInBounds index { closer with canOpen := false }).setIfInBounds
            place { opener with partner := some index, canClose := false }
        runNext := none }

end Pairing

namespace Delimiter

/-- Finds the partners of delimiters. -/
def pair (delimiters : Array Delimiter) : Array Delimiter :=
  ((List.range delimiters.size).foldl Pairing.step { delimiters }).delimiters

/-- The closing delimiter of a pair. -/
def closer? (delimiters : Array Delimiter) (opener : Delimiter) : Option Delimiter :=
  opener.partner.bind fun index => delimiters[index]?

/-- Whether a piece of content is a tilde on its own. -/
def isLoneTilde : Inline → Bool
  | .text ['~'] => true
  | _ => false

/-- Whether a piece of content ends struck-out text. -/
def endsStrikethrough : Inline → Bool
  | .closing .strikethrough => true
  | _ => false

/-- Moves the piece at a place behind the ends of struck-out text that follow it. -/
def moveBehindEnds (items : Array Inline) (place : Nat) : Array Inline :=
  let count := ((items.toList.drop (place + 1)).takeWhile endsStrikethrough).length
  items.swapIfInBounds place (place + count)

/-- Turns pairs of tildes into spans. A tilde left over from a run of odd length is moved out of
the spans that end after it. -/
def strikeOut (delimiters : Array Delimiter) (items : Array Inline) : Array Inline :=
  let (items, places) := delimiters.foldl
    (fun (items, places) opener =>
      match if opener.mark == '~' then closer? delimiters opener else none with
      | none => (items, places)
      | some closer =>
        let items := (items.setIfInBounds opener.item (.opening .strikethrough)).setIfInBounds
          closer.item (.closing .strikethrough)
        if (items[closer.item - 1]?).any isLoneTilde then (items, (closer.item - 1) :: places)
        else (items, places))
    (items, [])
  places.foldl moveBehindEnds items

/-- Whether a pair and the pair before it make one strong pair. -/
def isStrong (delimiters : Array Delimiter) (before opener closer : Delimiter) : Bool :=
  match opener.partner with
  | none => false
  | some index =>
    before.partner == some (index + 1) && before.mark == opener.mark &&
      before.item + 1 == opener.item &&
      (delimiters[index + 1]?).any (·.item == closer.item + 1)

/-- Turns a pair into a span. -/
def enclose (items : Array Inline) (span : Span) (opener closer : Delimiter) : Array Inline :=
  (items.setIfInBounds opener.item (.opening span)).setIfInBounds closer.item (.closing span)

/-- The closing delimiter of a pair of asterisks or low lines. -/
def emphasisCloser? (delimiters : Array Delimiter) (opener : Delimiter) : Option Delimiter :=
  if opener.mark == '*' || opener.mark == '_' then closer? delimiters opener else none

/-- Turns the first `count` delimiters into emphasis where they open a pair. -/
def emphasize (delimiters : Array Delimiter) : Nat → Array Inline → Array Inline
  | 0, items => items
  | 1, items =>
    let opener := delimiters.getD 0 default
    match emphasisCloser? delimiters opener with
    | none => items
    | some closer => enclose items .emphasis opener closer
  | index + 2, items =>
    let opener := delimiters.getD (index + 1) default
    match emphasisCloser? delimiters opener with
    | none => emphasize delimiters (index + 1) items
    | some closer =>
      let before := delimiters.getD index default
      if isStrong delimiters before opener closer then
        let items := enclose items .strong opener closer
        let items := items.setIfInBounds before.item (.text [])
        emphasize delimiters index (items.setIfInBounds (closer.item + 1) (.text []))
      else emphasize delimiters (index + 1) (enclose items .emphasis opener closer)

/-- Turns delimiters into spans. -/
def resolve (delimiters : Array Delimiter) (items : Array Inline) : Array Inline :=
  let delimiters := pair delimiters
  emphasize delimiters delimiters.size (strikeOut delimiters items)

end Delimiter

/-- Joins adjacent texts. -/
def Inline.joinTexts : List Inline → List Inline
  | [] => []
  | item :: rest =>
    match item, joinTexts rest with
    | .text a, .text b :: others => .text (a ++ b) :: others
    | _, joined => item :: joined

end FoldMark.Markdown
