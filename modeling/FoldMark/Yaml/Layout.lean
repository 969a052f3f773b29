import FoldMark.Yaml.Token

/-!
# Indentation and keys

Lists and mappings without brackets are told by indentation, whose changes become tokens. A key is
known as one only by the colon after it, so what may be a key is kept pending: when the colon comes,
the tokens before the key are put in at its place. A pending key is given up at the end of its line
or after too many characters, and a key that had to come there makes the text malformed.

Tokens are taken only as they are asked for. Where a text cannot be read any further, the tokens
before what may still be a key were given out, and what they mean is looked at first.
-/

namespace FoldMark.Yaml

open Cursor

/-- What may turn out to be a key. -/
structure PendingKey where
  /-- The number of tokens before it. -/
  position : Nat
  /-- Whether nothing but a key can stand there. -/
  isRequired : Bool
  /-- Where it starts. -/
  mark : Mark
  deriving DecidableEq, Repr

/-- The tokens so far, with what decides on the next. -/
structure Layout where
  /-- What is left. -/
  cursor : Cursor
  /-- The tokens so far. -/
  tokens : Array Token
  /-- The indentation, one less than none outside of everything. -/
  indent : Int
  /-- The indentations around it. -/
  outer : List Int
  /-- What may be a key, on the innermost level of brackets. -/
  pending : Option PendingKey
  /-- What may be a key, on the levels of brackets around it. -/
  enclosing : List (Option PendingKey)
  /-- Whether a key may start. -/
  allowsKey : Bool

namespace Layout

/-- The most characters of a key without its own sign. -/
def maxKeySize : Nat := 1024

/-- The start of a text. -/
def ofText (text : List Char) : Layout := ⟨Cursor.ofText text, #[], -1, [], none, [], true⟩

/-- Whether the text is within brackets. -/
def inFlow (layout : Layout) : Bool := !layout.enclosing.isEmpty

/-- The place. -/
def mark (layout : Layout) : Mark := layout.cursor.mark

/-- The column. -/
def column (layout : Layout) : Int := layout.mark.column

/-- Adds a token without characters. -/
def addHere (layout : Layout) (kind : Token.Kind) : Layout :=
  { layout with tokens := layout.tokens.push ⟨kind, layout.mark, layout.mark⟩ }

/-- Adds a token up to a cursor. -/
def addUpTo (layout : Layout) (kind : Token.Kind) (cursor : Cursor) : Layout :=
  { layout with tokens := layout.tokens.push ⟨kind, layout.mark, cursor.mark⟩, cursor }

/-- Adds a token of some characters. -/
def addSign (layout : Layout) (kind : Token.Kind) (size : Nat) : Layout :=
  layout.addUpTo kind (layout.cursor.advance size)

/-- Puts a token in at the place of a key. -/
def putIn (layout : Layout) (key : PendingKey) (kind : Token.Kind) : Layout :=
  let token : Token := ⟨kind, key.mark, key.mark⟩
  { layout with
    tokens := layout.tokens.extract 0 key.position ++ #[token] ++
      layout.tokens.extract key.position layout.tokens.size }

/-- Passes spaces, comments and line ends, in at most `fuel` lines. -/
def skipLines : Nat → Layout → Layout
  | 0, layout => layout
  | fuel + 1, layout =>
    let cursor := layout.cursor.skipSpaces
    let cursor := if cursor.peek == '#' then cursor.skipLine else cursor
    if isBreak cursor.peek then
      skipLines fuel
        { layout with
          cursor := cursor.lineBreak.2, allowsKey := layout.allowsKey || !layout.inFlow }
    else { layout with cursor }

/-- Passes what stands before the next token. -/
def skip (layout : Layout) : Layout :=
  let cursor := layout.cursor
  let cursor := if cursor.mark.index = 0 && cursor.peek == '\uFEFF' then cursor.step else cursor
  skipLines (cursor.rest.length + 1) { layout with cursor }

/-- Whether what may be a key is too far away. -/
def isStale (layout : Layout) (key : PendingKey) : Bool :=
  key.mark.line != layout.mark.line || layout.mark.index - key.mark.index > maxKeySize

/-- Gives up what may be a key, unless a key is required. -/
def giveUp? : Option PendingKey → Option (Option PendingKey)
  | some key => if key.isRequired then none else some none
  | none => some none

/-- Gives up what may be a key where it is too far away. -/
def giveUpStale? (layout : Layout) (key : Option PendingKey) : Option (Option PendingKey) :=
  if key.any layout.isStale then giveUp? key else some key

/-- Gives up keys that are too far away. -/
def dropStale? (layout : Layout) : Option Layout := do
  let pending ← layout.giveUpStale? layout.pending
  let enclosing ← layout.enclosing.mapM layout.giveUpStale?
  some { layout with pending, enclosing }

/-- Gives up what may be a key on the innermost level. -/
def dropPending? (layout : Layout) : Option Layout := do
  let pending ← giveUp? layout.pending
  some { layout with pending }

/-- Ends the indentations that are deeper than a column, given those around each. -/
def unwindFrom (column : Int) : List Int → Layout → Layout
  | [], layout => layout
  | indent :: outer, layout =>
    if layout.indent > column then
      unwindFrom column outer { layout.addHere .blockEnd with indent, outer }
    else layout

/-- Ends what is indented deeper than a column. -/
def unwind (layout : Layout) (column : Int) : Layout :=
  if layout.inFlow then layout else unwindFrom column layout.outer layout

/-- Whether a column is deeper than the indentation. -/
def isDeeper (layout : Layout) (column : Nat) : Bool := layout.indent < column

/-- Starts an indentation. -/
def indentTo (layout : Layout) (column : Nat) : Layout :=
  { layout with indent := column, outer := layout.indent :: layout.outer }

/-- Starts an indented list or mapping here, if it is indented deeper. -/
def openBlock (layout : Layout) (kind : Token.Kind) : Layout :=
  if !layout.inFlow && layout.isDeeper layout.mark.column then
    (layout.addHere kind).indentTo layout.mark.column
  else layout

/-- Keeps what starts here as what may be a key. -/
def keep? (layout : Layout) : Option Layout :=
  if layout.allowsKey then do
    let isRequired := !layout.inFlow && layout.indent == layout.column
    let layout ← layout.dropPending?
    some { layout with pending := some ⟨layout.tokens.size, isRequired, layout.mark⟩ }
  else some layout

/-- Allows a key to follow, or not. -/
def allow (layout : Layout) (allowsKey : Bool) : Layout := { layout with allowsKey }

/-- Ends everything at the end of a document. -/
def endDocument? (layout : Layout) : Option Layout :=
  ((layout.unwind (-1)).dropPending?).map (·.allow false)

/-- Takes an opening bracket. -/
def openFlow? (layout : Layout) (kind : Token.Kind) : Option Layout := do
  let layout ← layout.keep?
  let layout := { layout with enclosing := layout.pending :: layout.enclosing, pending := none }
  some ((layout.addSign kind 1).allow true)

/-- Takes a closing bracket. -/
def closeFlow? (layout : Layout) (kind : Token.Kind) : Option Layout := do
  let layout ← layout.dropPending?
  match layout.enclosing with
  | [] => none
  | pending :: enclosing =>
    some (({ layout with pending, enclosing }.addSign kind 1).allow false)

/-- Takes the comma between items. -/
def takeComma? (layout : Layout) : Option Layout :=
  layout.dropPending?.map fun layout => (layout.addSign .flowEntry 1).allow true

/-- Takes the sign before an item. -/
def takeEntry? (layout : Layout) : Option Layout := do
  if !layout.inFlow && !layout.allowsKey then none
  let layout ← (layout.openBlock .listStart).dropPending?
  some ((layout.addSign .entry 1).allow true)

/-- Takes the sign before a key. -/
def takeKey? (layout : Layout) : Option Layout := do
  if !layout.inFlow && !layout.allowsKey then none
  let layout ← (layout.openBlock .mapStart).dropPending?
  some ((layout.addSign .key 1).allow !layout.inFlow)

/-- Takes the sign before a value, before which a key may be pending. -/
def takeValue? (layout : Layout) : Option Layout :=
  match layout.pending with
  | some key =>
    let layout := { layout with pending := none }.putIn key .key
    let layout :=
      if !layout.inFlow && layout.isDeeper key.mark.column then
        (layout.putIn key .mapStart).indentTo key.mark.column
      else layout
    some ((layout.addSign .value 1).allow false)
  | none => do
    if !layout.inFlow && !layout.allowsKey then none
    let layout := layout.openBlock .mapStart
    some ((layout.addSign .value 1).allow !layout.inFlow)

/-- Takes a token that may be a key. -/
def takeKeyLike? (layout : Layout) (found : Option (Token.Kind × Cursor)) : Option Layout := do
  let layout ← layout.keep?
  let (kind, cursor) ← found
  some ((layout.addUpTo kind cursor).allow false)

/-- Takes a text without quotes. -/
def takePlain? (layout : Layout) : Option Layout := do
  let layout ← layout.keep?
  let found := PlainText.read layout.inFlow (layout.indent + 1) layout.cursor
  some ((layout.addUpTo (.text found.text true) found.cursor).allow found.endsLine)

/-- Takes an indented text. -/
def takeBlockText? (layout : Layout) (isFolded : Bool) : Option Layout := do
  let layout ← layout.dropPending?
  let (content, cursor) ← BlockText.read? isFolded layout.indent layout.cursor.step
  some ((layout.addUpTo (.text content false) cursor).allow true)

/-- Whether a text without quotes starts here. -/
def startsPlain (layout : Layout) : Bool :=
  let c := layout.cursor.peek
  let isSign := isGap c || "-?:,[]\x7b\x7d#&*!|>'\"%@`".toList.contains c
  !isSign ||
    (!isGap (layout.cursor.peekAt 1) && (c == '-' || (!layout.inFlow && (c == '?' || c == ':'))))

/-- A layout, or the error that there is none. -/
def orMalformed (found : Option Layout) : Except TextError Layout :=
  match found with
  | some layout => .ok layout
  | none => .error .malformed

/-- Takes a text between quotes. -/
def takeQuoted (layout : Layout) : Except TextError Layout := do
  let layout ← orMalformed layout.keep?
  let (content, cursor) ← QuotedText.read layout.cursor
  return (layout.addUpTo (.text content false) cursor).allow false

/-- Takes the token that starts here. -/
def take (layout : Layout) : Except TextError Layout :=
  let cursor := layout.cursor
  let c := cursor.peek
  let atStart := cursor.mark.column == 0
  let beforeGap := isGap (cursor.peekAt 1)
  if c == '%' && atStart then
    orMalformed do
      let layout ← layout.endDocument?
      let (kind, cursor) ← Token.readDirective? cursor
      some (layout.addUpTo kind cursor)
  else if atStart && cursor.atDocumentLine then
    orMalformed (layout.endDocument?.map
      (·.addSign (if c == '-' then .documentStart else .documentEnd) 3))
  else if c == '[' then orMalformed (layout.openFlow? .flowListStart)
  else if c == '\x7b' then orMalformed (layout.openFlow? .flowMapStart)
  else if c == ']' then orMalformed (layout.closeFlow? .flowListEnd)
  else if c == '\x7d' then orMalformed (layout.closeFlow? .flowMapEnd)
  else if c == ',' then orMalformed layout.takeComma?
  else if c == '-' && beforeGap then orMalformed layout.takeEntry?
  else if c == '?' && (layout.inFlow || beforeGap) then orMalformed layout.takeKey?
  else if c == ':' && (layout.inFlow || beforeGap) then orMalformed layout.takeValue?
  else if c == '*' || c == '&' then
    orMalformed (layout.takeKeyLike? ((Token.readName? cursor).map fun (name, cursor) =>
      (if c == '*' then .alias name else .anchor name, cursor)))
  else if c == '!' then orMalformed (layout.takeKeyLike? (Token.readTag? cursor))
  else if (c == '|' || c == '>') && !layout.inFlow then
    orMalformed (layout.takeBlockText? (c == '>'))
  else if c == '\'' || c == '"' then layout.takeQuoted
  else if layout.startsPlain then orMalformed layout.takePlain?
  else .error .malformed

/-- Passes what stands before the next token, and ends what is indented deeper. -/
def toNext (layout : Layout) : Except TextError Layout := do
  let layout ← orMalformed layout.skip.dropStale?
  return layout.unwind layout.column

/-- Takes the end of the text. -/
def takeEnd (layout : Layout) : Except TextError Layout := do
  let layout ← orMalformed layout.endDocument?
  return layout.addHere .streamEnd

/-- What may still turn out to be a key. -/
def openKeys (layout : Layout) : List PendingKey :=
  (layout.pending :: layout.enclosing).filterMap fun key =>
    key.filter fun key => !layout.isStale key

/-- The tokens that are given out before the next is taken. -/
def givenOut (layout : Layout) : List Token :=
  let positions := layout.openKeys.map PendingKey.position
  layout.tokens.toList.take (positions.foldl min layout.tokens.size)

end Layout

/-- The tokens of a text up to its end or to where it cannot be read. -/
structure Tokens where
  /-- The tokens. -/
  list : List Token
  /-- Why no token follows them. -/
  failure : TextError
  deriving DecidableEq, Repr

namespace Tokens

/-- Takes all tokens, of which there are at most `fuel`. -/
def takeAll : Nat → Layout → Tokens
  | 0, layout => ⟨layout.givenOut, .malformed⟩
  | fuel + 1, layout =>
    match layout.toNext with
    | .error error => ⟨layout.givenOut, error⟩
    | .ok next =>
      if next.cursor.peek == '\x00' then
        match next.takeEnd with
        | .error error => ⟨layout.givenOut, error⟩
        | .ok whole => ⟨whole.tokens.toList, .malformed⟩
      else
        match next.take with
        | .error error => ⟨layout.givenOut, error⟩
        | .ok next => takeAll fuel next

/-- The tokens of a text. -/
def ofText (text : List Char) : Tokens :=
  if text.all isReadable then takeAll (text.length + 2) (Layout.ofText text)
  else ⟨[], .malformed⟩

end Tokens

end FoldMark.Yaml
