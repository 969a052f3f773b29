import FoldMark.Markdown.Definition
import FoldMark.Markdown.HtmlTag
import FoldMark.Markdown.Token

/-!
# Constructs of running text

A construct is what running text holds besides plain characters: a code span, a link, a tag and so
on. `Construct.at?` recognises the construct at a position without reading its content, so it also
serves to find the end of a label, over whose constructs the search steps as a whole. Positions
that were stepped over are remembered, which keeps nested brackets cheap.
-/

namespace FoldMark.Markdown

open FoldMark.Text

/-- Running text with what its constructs refer to. -/
structure RunningText where
  /-- The characters. -/
  chars : Array Char
  /-- The additions to the language. -/
  features : Features
  /-- The link reference definitions of the document. -/
  references : References
  /-- The labels of the footnote definitions of the document. -/
  notes : List (List Char)

namespace RunningText

/-- The characters between two positions. -/
def slice (text : RunningText) (start stop : Nat) : List Char :=
  (text.chars.extract start stop).toList

/-- The characters from a position on. -/
def fromPosition (text : RunningText) (start : Nat) : List Char := text.slice start text.chars.size

end RunningText

/-- A construct; positions are those of the running text. -/
inductive Construct where
  /-- Characters that stand for themselves. -/
  | plain
  /-- A line end. -/
  | lineEnd
  /-- A line end after a backslash. -/
  | brokenLine
  /-- An escaped character or a character reference. -/
  | literal (content : List Char)
  /-- A code span. -/
  | code (content : List Char)
  /-- A link whose label ends at the position. -/
  | link (labelStop : Nat) (reference : Reference)
  /-- A picture whose description ends at the position. -/
  | image (labelStop : Nat) (reference : Reference)
  /-- A footnote whose text ends at the position. -/
  | note (labelStop : Nat)
  /-- A reference to a footnote. -/
  | noteMark (label : List Char)
  /-- A destination between angle brackets. -/
  | autoLink (destination shown : List Char)
  /-- An HTML tag or the like. -/
  | html

/-- The steps taken so far: for a position, the position after its construct. -/
abbrev Steps := Array (Option Nat)

/-- A search that remembers its steps. -/
abbrev Search := StateM Steps

namespace Construct

/-- Characters that may start a construct or are looked at one by one. -/
def isSpecial (c : Char) : Bool :=
  "\n!#$%&*+-:<=>@[\\]^_\x60\x7b\x7d~".toList.contains c

/-- The size of a text up to the first run of exactly `length` back ticks. The first argument
bounds the number of runs. -/
def codeSize? (length : Nat) : Nat → List Char → Option Nat
  | 0, _ => none
  | runs + 1, text =>
    let before := text.takeWhile (· != '\x60')
    let rest := text.drop before.length
    let run := rest.takeWhile (· == '\x60')
    if run.isEmpty then none
    else if run.length = length then some before.length
    else (codeSize? length runs (rest.drop run.length)).map (· + before.length + run.length)

/-- The content of a code span: line ends are spaces, and one space is dropped from both ends unless
all are spaces. -/
def codeContent (text : List Char) : List Char :=
  let content := text.map fun c => if c == '\n' then ' ' else c
  if content.head? == some ' ' && content.getLast? == some ' ' && content.any (· != ' ') then
    (content.drop 1).dropLast
  else content

/-- The code span at the front of a text, or its back ticks alone. -/
def codeAt (text : List Char) : Construct × Nat :=
  let run := text.takeWhile (· == '\x60')
  let rest := text.drop run.length
  match codeSize? run.length rest.length rest with
  | some size => (.code (codeContent (rest.take size)), run.length + size + run.length)
  | none => (.plain, run.length)

/-- Whether a text is the local part of a mail address. -/
def isMailbox (text : List Char) : Bool :=
  !text.isEmpty && text.all fun c =>
    isAsciiAlphanumeric c || ".!#$%&'*+/=?^_\x60\x7b|\x7d~-".toList.contains c

/-- Whether a text is a label of a mail address's domain. -/
def isMailLabel (text : List Char) : Bool :=
  text.length ≤ 63 && text.head?.any isAsciiAlphanumeric && text.getLast?.any isAsciiAlphanumeric &&
    text.all fun c => isAsciiAlphanumeric c || c == '-'

/-- Whether a text is a mail address. -/
def isMailAddress (text : List Char) : Bool :=
  match cutAt (· == '@') text with
  | some (mailbox, domain) => isMailbox mailbox && (splitAt (· == '.') domain).all isMailLabel
  | none => false

/-- Whether a text is a scheme of two to thirty-two characters, a colon and no blank. -/
def isAbsolute (text : List Char) : Bool :=
  match cutAt (· == ':') text with
  | some (scheme, rest) =>
    scheme.head?.any isAsciiLetter && 2 ≤ scheme.length && scheme.length ≤ 32 &&
      scheme.all (fun c => isAsciiAlphanumeric c || c == '+' || c == '.' || c == '-') &&
      rest.all fun c => c.toNat > 0x20 && c != '<' && c != '>'
  | none => false

/-- The link at the front of a text that starts with an angle bracket. A line end before the
closing bracket is not looked at. -/
def autoLink? (text : List Char) : Option (Construct × Nat) :=
  let url := (text.drop 1).takeWhile fun c => c != '<' && c != '>'
  if (text.drop (url.length + 1)).head? ≠ some '>' then none
  else
    let line := if url.getLast? == some '\n' then url.dropLast else url
    let target :=
      if isAbsolute line then some url
      else if isMailAddress line then some ("mailto:".toList ++ url)
      else none
    match target with
    | none => none
    | some target =>
      let destination := Url.normalize target
      if Url.isSafe destination then some (.autoLink destination (Url.display url), url.length + 2)
      else none

/-- What follows the label of a link. -/
inductive Tail where
  /-- A destination and a title in parentheses, of the given size. -/
  | target (reference : Reference) (size : Nat)
  /-- No target; a label may follow after the given size. -/
  | missing (size : Nat)
  /-- An opening parenthesis at the end of the text. -/
  | unfinished

/-- Reads a destination and a title in parentheses from the front of a text. -/
def tail (text : List Char) : Tail :=
  match text with
  | '(' :: rest =>
    let inner := Definition.skipSpace rest
    if inner.isEmpty then .unfinished
    else
      let target := (destination? inner).map fun (raw, size) => (Url.normalize raw, size)
      let (destination, afterTarget) := match target with
        | some (destination, size) =>
          if Url.isSafe destination then (destination, inner.drop size) else ([], inner)
        | none => ([], inner)
      let spaced := Definition.skipSpace afterTarget
      let titled := if spaced.length < afterTarget.length then title? spaced else none
      let (title, rest) := match titled with
        | some (title, size) => (title, Definition.skipSpace (spaced.drop size))
        | none => ([], spaced)
      let size := text.length - rest.length + 1
      if rest.head? == some ')' then .target ⟨destination, title⟩ size else .missing size
  | _ => .missing 0

/-- The label of the footnote reference at the front of a text. -/
def noteLabel? : List Char → Option (List Char)
  | '[' :: '^' :: rest =>
    let label := rest.takeWhile fun c => c != ' ' && c != '\n' && c != ']'
    if !label.isEmpty && (rest.drop label.length).head? == some ']' then some label else none
  | _ => none

/-- Finds the bracket that closes the label whose opening bracket stands before a position, where
`depth` brackets are open. The first argument bounds the steps. -/
def labelStopFrom? (text : RunningText) (stop : Nat) (allowLinks : Bool) (skip : Nat → Search Nat) :
    Nat → Nat → Nat → Search (Option Nat)
  | 0, _, _ => pure none
  | steps + 1, depth, position => do
    if position ≥ stop then return none
    let c := text.chars.getD position '\x00'
    if c == ']' && depth = 1 then return some position
    let depth := if c == ']' then depth - 1 else depth
    let next ← skip position
    if c == '[' then
      if next = position + 1 then labelStopFrom? text stop allowLinks skip steps (depth + 1) next
      else if allowLinks then labelStopFrom? text stop allowLinks skip steps depth next
      else return none
    else labelStopFrom? text stop allowLinks skip steps depth next

/-- Finds the bracket that closes the label whose opening bracket stands at a position. -/
def labelStop? (text : RunningText) (stop : Nat) (allowLinks : Bool) (skip : Nat → Search Nat)
    (position : Nat) : Search (Option Nat) :=
  labelStopFrom? text stop allowLinks skip (stop - position) 1 (position + 1)

/-- What a link or a picture refers to by a label: the one at `position`, or else its own, which
stands from `start` to `labelStop`. -/
def labelled? (text : RunningText) (stop : Nat) (skip : Nat → Search Nat)
    (start labelStop position : Nat) : Search (Option (Reference × Nat)) := do
  if text.references.isEmpty then return none
  let found ←
    if position < stop && text.chars[position]? == some '[' then
      labelStop? text stop true skip position
    else pure none
  let own := text.slice start labelStop
  let (label, next) := match found with
    | some labelEnd =>
      let label := text.slice (position + 1) labelEnd
      (if label.isEmpty then own else label, labelEnd + 1)
    | none => (own, labelStop + 1)
  return (text.references.find? label).map fun reference => (reference, next)

/-- The link whose opening bracket stands at a position. -/
def link? (text : RunningText) (stop : Nat) (skip : Nat → Search Nat) (position : Nat) :
    Search (Option (Construct × Nat)) := do
  let some labelStop ← labelStop? text stop false skip position | return none
  match tail (text.slice (labelStop + 1) stop) with
  | .unfinished => return none
  | .target reference size => return some (.link labelStop reference, labelStop + 1 + size)
  | .missing size =>
    let found ← labelled? text stop skip (position + 1) labelStop (labelStop + 1 + size)
    return found.map fun (reference, next) => (.link labelStop reference, next)

/-- The picture whose exclamation mark stands at a position. -/
def image? (text : RunningText) (stop : Nat) (skip : Nat → Search Nat) (position : Nat) :
    Search (Option (Construct × Nat)) := do
  if text.chars[position + 1]? ≠ some '[' then return none
  let some labelStop ← labelStop? text stop true skip (position + 1) | return none
  match tail (text.slice (labelStop + 1) stop) with
  | .unfinished => return none
  | .target reference size => return some (.image labelStop reference, labelStop + 1 + size)
  | .missing size =>
    if size > 0 then return none
    let found ← labelled? text stop skip (position + 2) labelStop (labelStop + 1)
    return found.map fun (reference, next) => (.image labelStop reference, next)

/-- The footnote whose circumflex stands at a position. -/
def note? (text : RunningText) (stop : Nat) (skip : Nat → Search Nat) (position : Nat) :
    Search (Option (Construct × Nat)) := do
  if !text.features.footnotes || position + 2 ≥ stop || text.chars[position + 1]? ≠ some '[' then
    return none
  let found ← labelStop? text stop true skip (position + 1)
  return found.map fun labelStop => (.note labelStop, labelStop + 1)

/-- The footnote reference at a position. -/
def noteMark? (text : RunningText) (stop position : Nat) : Option (Construct × Nat) :=
  match noteLabel? (text.slice position stop) with
  | some label =>
    if text.notes.contains label then some (.noteMark label, position + label.length + 3) else none
  | none => none

/-- The escape at the front of a text that starts with a backslash. -/
def escape? (text : List Char) : Option (Construct × Nat) :=
  match text.drop 1 with
  | [] => none
  | '\n' :: rest => some (.brokenLine, 2 + (rest.takeWhile isSpaceOrTab).length)
  | c :: _ => some (.literal (if isEscapable c then [c] else ['\\', c]), 2)

/-- The end of the characters that stand for themselves, at most `count` from a position on. -/
def plainStop (text : RunningText) : Nat → Nat → Nat
  | 0, position => position
  | count + 1, position =>
    if (text.chars[position]?).any isSpecial then position
    else plainStop text count (position + 1)

/-- The construct at a position and the position after it. Delimiters are no constructs. -/
def at? (text : RunningText) (stop : Nat) (skip : Nat → Search Nat) (position : Nat) :
    Search (Option (Construct × Nat)) := do
  let shift (found : Option (Construct × Nat)) := found.map fun (c, size) => (c, position + size)
  match text.chars[position]? with
  | none => return none
  | some '\n' =>
    let space := (text.slice (position + 1) stop).takeWhile isSpaceOrTab
    return some (.lineEnd, position + 1 + space.length)
  | some '\\' => return shift (escape? (text.slice position stop))
  | some '\x60' => return shift (some (codeAt (text.fromPosition position)))
  | some '[' =>
    match ← link? text stop skip position with
    | some found => return some found
    | none => return noteMark? text stop position
  | some '!' => image? text stop skip position
  | some '^' => note? text stop skip position
  | some '<' =>
    match autoLink? (text.slice position stop) with
    | some found => return shift (some found)
    | none =>
      if position + 2 ≥ stop then return none
      else
        return shift
          ((HtmlTag.inlineSize? (text.fromPosition position)).map fun size => (.html, size))
  | some '&' =>
    if position + 1 ≥ stop then return none
    else
      return shift ((Entity.atFront? (text.fromPosition position)).map fun (content, size) =>
        (.literal content, size))
  | some c =>
    if isSpecial c then return none
    else return some (.plain, plainStop text (stop - position) position)

/-- Steps over the construct or the character at a position, where constructs may be nested
`depth` deep; deeper ones take all that is left. -/
def skipWithin (text : RunningText) (stop : Nat) : Nat → Nat → Search Nat
  | 0, position => do
    if let some next := ((← get)[position]?).join then return next
    modify fun steps => steps.setIfInBounds position (some (stop + 1))
    return stop + 1
  | depth + 1, position => do
    if let some next := ((← get)[position]?).join then return next
    let found ← at? text stop (skipWithin text stop depth) position
    let next := match found with
      | some (_, next) => next
      | none => position + 1
    modify fun steps => steps.setIfInBounds position (some next)
    return next

end Construct

end FoldMark.Markdown
