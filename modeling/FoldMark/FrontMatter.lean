import FoldMark.FrontMatter.Line
import FoldMark.Text.Quoted

/-!
# Front matter

What a document tells about itself before its text starts. It is looked for in one notation: YAML or
TOML between fences, JSON between fences or as an object, or lines that define references. A byte
order mark and blank lines may precede it, and blank lines after it do not belong to the text.
-/

namespace FoldMark

open Text

/-- A notation of front matter. -/
inductive FrontMatter.Kind where
  /-- Lines that define references. -/
  | refdef
  /-- JSON. -/
  | json
  /-- YAML. -/
  | yaml
  /-- TOML. -/
  | toml
  deriving DecidableEq, Repr

/-- Front matter as it was found. -/
structure FrontMatter where
  /-- The notation. -/
  kind : FrontMatter.Kind
  /-- What is to be decoded. -/
  payload : List Char
  /-- Offset of its first character. -/
  start : Nat
  /-- Offset of the first character of the text after it. -/
  stop : Nat
  deriving DecidableEq, Repr

namespace FrontMatter

namespace Kind

/-- The name of a notation. -/
def name : Kind → String
  | refdef => "refdef"
  | json => "json"
  | yaml => "yaml"
  | toml => "toml"

/-- The notations. -/
def all : List Kind := [refdef, json, yaml, toml]

/-- The notation of a name. -/
def ofName? (name : String) : Option Kind := all.find? fun kind => kind.name == name

/-- The fences that open front matter, each with those that close it. -/
def fences : Kind → List (String × List String)
  | refdef => []
  | json => [(";;;", [";;;"]), ("---", ["---"])]
  | yaml => [("---", ["---", "..."])]
  | toml => [("+++", ["+++"]), ("---", ["---"])]

/-- What closes front matter that a line opens. -/
def closers? (kind : Kind) (line : List Char) : Option (List (List Char)) :=
  (kind.fences.find? fun fence => fence.1.toList == trimRight line).map
    fun fence => fence.2.map String.toList

end Kind

/-- Why front matter has no end. -/
inductive Unclosed where
  /-- The fence on the given line is not closed. -/
  | fence (kind : Kind) (line : List Char)
  /-- The braces of an object are not closed. -/
  | braces
  deriving DecidableEq, Repr

/-- The wording of an error. -/
def Unclosed.message : Unclosed → String
  | .fence kind line =>
    kind.name ++ " front matter opened with " ++ String.ofList (quoted (trim line)) ++
      " but never closed"
  | .braces => "json front matter object is never closed"

/-- The payload at the front of a text, and how many characters lie before the text after it. -/
structure Found where
  /-- What is to be decoded. -/
  payload : List Char
  /-- The characters that it takes with its fences and the rest of its last line. -/
  size : Nat

/-- The number of characters in some lines. -/
def size (lines : List (List Char)) : Nat := lines.flatten.length

/-- The front matter between fences at the front of some lines. -/
def fenced? (kind : Kind) : List (List Char) → Except Unclosed (Option Found)
  | [] => .ok none
  | opener :: lines =>
    match kind.closers? opener with
    | none => .ok none
    | some closers =>
      let inner := lines.takeWhile fun line => !closers.contains (trimRight line)
      match lines.drop inner.length with
      | [] => .error (.fence kind opener)
      | closer :: _ => .ok (some ⟨inner.flatten, size (opener :: inner ++ [closer])⟩)

/-- What the reader of an object is within. -/
inductive ScanMode where
  /-- Between strings. -/
  | plain
  /-- Within a string. -/
  | quoted
  /-- Within a string, after a backslash. -/
  | escaped
  deriving DecidableEq, Repr

/-- The number of characters up to the brace that closes the open ones, of which there are `depth`
already. -/
def closeAfter? : ScanMode → Nat → List Char → Option Nat
  | _, _, [] => none
  | .escaped, depth, _ :: rest => (closeAfter? .quoted depth rest).map (· + 1)
  | .quoted, depth, c :: rest =>
    let mode := if c = '\\' then .escaped else if c = '"' then .plain else .quoted
    (closeAfter? mode depth rest).map (· + 1)
  | .plain, depth, c :: rest =>
    if c = '\x7d' && depth ≤ 1 then some 1
    else
      let mode := if c = '"' then .quoted else .plain
      let depth := if c = '\x7b' then depth + 1 else if c = '\x7d' then depth - 1 else depth
      (closeAfter? mode depth rest).map (· + 1)

/-- The object at the front of a text, if nothing follows it on its last line. -/
def object? (text : List Char) : Except Unclosed (Option Found) :=
  match text with
  | '\x7b' :: _ =>
    match closeAfter? .plain 0 text with
    | none => .error .braces
    | some count =>
      let lineRest := (Text.lines (text.drop count)).headD []
      .ok (if isBlankText lineRest then some ⟨text.take count, count + lineRest.length⟩ else none)
  | _ => .ok none

/-- Whether a line with its end defines a reference. -/
def isDefinition (line : List Char) : Bool := (DefinitionLine.ofLine? (withoutEnd line)).isSome

/-- The definitions at the front of some lines, with blank lines between them. -/
def definitions? (lines : List (List Char)) : Option Found :=
  let front := lines.takeWhile fun line => isBlankText line || isDefinition line
  let payload := (dropBlankTail front).flatten
  if payload.isEmpty then none else some ⟨payload, size front⟩
where
  /-- Drops blank lines from the end. -/
  dropBlankTail (lines : List (List Char)) : List (List Char) :=
    lines.foldr (fun line rest => if rest.isEmpty && isBlankText line then [] else line :: rest) []

/-- The front matter at the front of a text without blank lines before it. -/
def find? (kind : Kind) (text : List Char) : Except Unclosed (Option Found) :=
  let lines := Text.lines text
  match kind with
  | .refdef => .ok (definitions? lines)
  | .json => do
    match ← fenced? .json lines with
    | some found => .ok (some found)
    | none => object? text
  | kind => fenced? kind lines

/-- The number of characters in the blank lines at the front of a text. -/
def blankSize (text : List Char) : Nat := size ((Text.lines text).takeWhile isBlankText)

/-- The number of characters in a byte order mark at the front of a text. -/
def markSize : List Char → Nat
  | '\uFEFF' :: _ => 1
  | _ => 0

/-- The front matter of a document. -/
def locate? (kind : Kind) (document : List Char) : Except Unclosed (Option FrontMatter) := do
  let mark := markSize document
  let start := mark + blankSize (document.drop mark)
  match ← find? kind (document.drop start) with
  | none => .ok none
  | some found =>
    let after := start + found.size
    .ok (some ⟨kind, found.payload, start, after + blankSize (document.drop after)⟩)

/-- A document without its front matter. -/
def body (front : Option FrontMatter) (document : List Char) : List Char :=
  match front with
  | none => document
  | some front => document.drop front.stop

/-- The front matter of a document in a notation, if one is asked for, and the text after it. -/
def extract (kind : Option Kind) (document : List Char) :
    Except Unclosed (Option FrontMatter × List Char) := do
  let front ← match kind with
    | none => .ok none
    | some kind => locate? kind document
  return (front, body front document)

/-- The front matter of a document, where front matter without an end is none. -/
def sniff (kind : Option Kind) (document : List Char) : Option FrontMatter × List Char :=
  match extract kind document with
  | .ok found => found
  | .error _ => (none, document)

end FrontMatter

end FoldMark
