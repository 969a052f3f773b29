import FoldMark.Markdown.Character
import FoldMark.Markdown.Token

/-!
# Smart punctuation

Signs in parentheses, ellipses and dashes are replaced within single texts. Quotation marks become
curly ones in pairs, which may lie in different texts of one nesting level, and a single mark that
is no quotation becomes an apostrophe. The text of an automatic link stays.
-/

namespace FoldMark.Markdown.Typography

open FoldMark.Text

/-! ## Signs and dashes -/

/-- Replaces signs in parentheses. -/
def replaceSigns : List Char → List Char
  | '(' :: a :: ')' :: rest =>
    if a == 'c' || a == 'C' then '©' :: replaceSigns rest
    else if a == 'r' || a == 'R' then '®' :: replaceSigns rest
    else '(' :: replaceSigns (a :: ')' :: rest)
  | '(' :: a :: b :: ')' :: rest =>
    if (a == 't' || a == 'T') && (b == 'm' || b == 'M') then '™' :: replaceSigns rest
    else '(' :: replaceSigns (a :: b :: ')' :: rest)
  | c :: rest => c :: replaceSigns rest
  | [] => []

/-- Whether a text holds a sign in parentheses. -/
def hasSigns (text : List Char) : Bool := replaceSigns text != text

/-- Whether a text holds one of the sequences that make replacements worth while. -/
def hasSequences : List Char → Bool
  | '+' :: '-' :: _ | '.' :: '.' :: _ | ',' :: ',' :: _ | '-' :: '-' :: _ => true
  | '?' :: '?' :: '?' :: '?' :: _ | '!' :: '!' :: '!' :: '!' :: _ => true
  | _ :: rest => hasSequences rest
  | [] => false

/-- Replaces a plus sign before a hyphen. -/
def replacePlusMinus : List Char → List Char
  | '+' :: '-' :: rest => '±' :: replacePlusMinus rest
  | c :: rest => c :: replacePlusMinus rest
  | [] => []

/-- Replaces the maximal runs of at least `least` characters that satisfy the test. -/
def replaceRuns (test : Char → Bool) (least : Nat) (replace : List Char → List Char)
    (text : List Char) : List Char :=
  (text.splitBy fun a b => test a && test b).flatMap fun run =>
    if run.any test && least ≤ run.length then replace run else run

/-- A question or an exclamation mark. -/
def isQuery (c : Char) : Bool := c == '?' || c == '!'

/-- Writes an ellipsis after a question or an exclamation mark as two full stops. -/
def splitEllipsis : List Char → List Char
  | c :: '…' :: rest =>
    if isQuery c then c :: '.' :: '.' :: splitEllipsis rest else c :: splitEllipsis ('…' :: rest)
  | c :: rest => c :: splitEllipsis rest
  | [] => []

/-- Replaces runs of `size` hyphens by a dash where the character before and the one after satisfy
the tests, or where the line starts or ends; the first argument bounds the steps. -/
def replaceDashesWithin (size : Nat) (dash : Char) (before after : Char → Bool) :
    Nat → Bool → List Char → List Char
  | 0, _, text => text
  | _ + 1, _, [] => []
  | steps + 1, atStart, c :: rest =>
    let fits (text : List Char) : Bool :=
      (List.replicate size '-').isPrefixOf text &&
        match text.drop size with
        | [] => true
        | d :: _ => d == '\n' || after d
    if atStart && fits (c :: rest) then
      dash :: replaceDashesWithin size dash before after steps false ((c :: rest).drop size)
    else if before c && fits rest then
      c :: dash :: replaceDashesWithin size dash before after steps false (rest.drop size)
    else c :: replaceDashesWithin size dash before after steps (c == '\n') rest

/-- Replaces runs of hyphens by a dash. -/
def replaceDashes (size : Nat) (dash : Char) (test : Char → Bool) (text : List Char) : List Char :=
  replaceDashesWithin size dash test test text.length true text

/-- Replaces sequences of punctuation. Two hyphens are a dash between blanks or between others, but
not at the border of a word. -/
def replaceSequences (text : List Char) : List Char :=
  if !hasSequences text then text
  else
    let text := replacePlusMinus text
    let text := splitEllipsis (replaceRuns (· == '.') 2 (fun _ => ['…']) text)
    let text := replaceRuns isQuery 4 (fun run => List.replicate 3 (run.getLastD '?')) text
    let text := replaceRuns (· == ',') 2 (fun _ => [',']) text
    let text := replaceDashes 3 '—' (· != '-') text
    let text := replaceDashes 2 '–' isBlank text
    replaceDashes 2 '–' (fun c => c != '-' && !isBlank c) text

/-- Replaces within the texts of a content, but not within automatic links. -/
def mapTexts (replace : List Char → List Char) : Bool → List Inline → List Inline
  | _, [] => []
  | _, .opening (.link destination title true) :: rest =>
    .opening (.link destination title true) :: mapTexts replace true rest
  | _, .closing (.link destination title true) :: rest =>
    .closing (.link destination title true) :: mapTexts replace false rest
  | inAuto, .text content :: rest =>
    .text (if inAuto then content else replace content) :: mapTexts replace inAuto rest
  | inAuto, item :: rest => item :: mapTexts replace inAuto rest

/-! ## Quotation marks -/

/-- Whether a character is a straight quotation mark. -/
def isQuote (c : Char) : Bool := c == '"' || c == '\''

/-- The characters that a piece of content shows to its neighbours. -/
def shown : Inline → List Char
  | .text content | .literal content | .code content | .html content => content
  | .image _ _ source _ => source
  | _ => []

/-- Whether a piece of content ends a line. -/
def endsLine : Inline → Bool
  | .softBreak | .hardBreak => true
  | _ => false

/-- The first character of a content on its first line, or a space. -/
def firstChar : List Inline → Char
  | [] => ' '
  | item :: rest =>
    if endsLine item then ' '
    else
      match shown item with
      | [] => firstChar rest
      | c :: _ => c

/-- The last character of a content on its last line, given back to front, or a space. -/
def lastChar : List Inline → Char
  | [] => ' '
  | item :: rest => if endsLine item then ' ' else (shown item).getLast?.getD (lastChar rest)

/-- A quotation mark that may open a quotation. -/
structure Opener where
  /-- The piece of content that holds the mark. -/
  item : Nat
  /-- Its place there. -/
  place : Nat
  /-- Whether it is a single mark. -/
  isSingle : Bool
  /-- The nesting level of the piece. -/
  level : Nat

/-- The state of pairing quotation marks from left to right. -/
structure Quotes where
  /-- The marks that may still be closed, the latest first. -/
  openers : List Opener := []
  /-- What is written in place of marks: the piece, the place and the character. -/
  changes : List (Nat × Nat × Char) := []

namespace Quotes

/-- The opener that a mark closes, with the openers before it. -/
def opener? (isSingle : Bool) (level : Nat) : List Opener → Option (Opener × List Opener)
  | [] => none
  | opener :: rest =>
    if opener.level < level then none
    else if opener.isSingle == isSingle && opener.level == level then some (opener, rest)
    else opener? isSingle level rest

/-- Writes a character in place of a mark. -/
def change (state : Quotes) (item place : Nat) (c : Char) : Quotes :=
  { state with changes := (item, place, c) :: state.changes }

/-- Takes a quotation mark between two characters into account. -/
def step (state : Quotes) (level item place : Nat) (quote before after : Char) : Quotes :=
  let isSingle := quote == '\''
  let left := Flank.of before
  let right := Flank.of after
  let canOpen := left.attached right
  let canClose := right.attached left
  let isInch := quote == '"' && after == '"' && before.isDigit
  let (canOpen, canClose) :=
    if isInch then (false, false)
    else if canOpen && canClose then (left.mark, right.mark)
    else (canOpen, canClose)
  let apostrophe := if isSingle then state.change item place '’' else state
  if !canOpen && !canClose then apostrophe
  else
    match if canClose then opener? isSingle level state.openers else none with
    | some (opener, openers) =>
      let (start, stop) := if isSingle then ('‘', '’') else ('“', '”')
      { (state.change item place stop).change opener.item opener.place start with openers }
    | none =>
      if canOpen then { state with openers := ⟨item, place, isSingle, level⟩ :: state.openers }
      else apostrophe

/-- Takes the marks of a text into account; `before` is the character before the text and `after`
the one behind it. -/
def stepText (level item : Nat) (after : Char) : Quotes → Nat → Char → List Char → Quotes
  | state, _, _, [] => state
  | state, place, before, c :: rest =>
    let state :=
      if isQuote c then state.step level item place c before (rest.headD after) else state
    stepText level item after state (place + 1) c rest

/-- Takes the pieces of a content into account; `before` holds those already seen, back to front. -/
def stepItems : Quotes → Nat → Nat → List Inline → List Inline → Quotes
  | state, _, _, _, [] => state
  | state, level, item, before, next :: rest =>
    let inner := match next with
      | .closing _ => level - 1
      | _ => level
    let outer := match next with
      | .opening _ => level + 1
      | _ => inner
    let state := { state with openers := state.openers.dropWhile (·.level > inner) }
    let state := match next with
      | .text content => state.stepText inner item (firstChar rest) 0 (lastChar before) content
      | _ => state
    stepItems state outer (item + 1) (next :: before) rest

end Quotes

/-- Writes curly quotation marks and apostrophes. -/
def curl (content : List Inline) : List Inline :=
  let changes := (Quotes.stepItems {} 0 0 [] content).changes
  content.zipIdx.map fun (next, item) =>
    match next with
    | .text chars =>
      .text (chars.zipIdx.map fun (c, place) =>
        match changes.find? fun (i, p, _) => i == item && p == place with
        | some (_, _, c) => c
        | none => c)
    | next => next

/-! ## Documents -/

/-- Replaces signs and sequences in running text that holds any. -/
def replaceMarks (source : List Char) (content : List Inline) : List Inline :=
  let content := if hasSigns source then mapTexts replaceSigns false content else content
  if hasSequences source then mapTexts replaceSequences false content else content

/-- Writes curly quotation marks in running text that holds straight ones. -/
def replaceQuotes (source : List Char) (content : List Inline) : List Inline :=
  if source.any isQuote then curl content else content

/-- Applies smart punctuation to running text. -/
def apply (source : List Char) (content : List Inline) : List Inline :=
  replaceQuotes source (replaceMarks source content)

end FoldMark.Markdown.Typography
