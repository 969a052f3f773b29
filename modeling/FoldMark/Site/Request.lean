import FoldMark.Path
import FoldMark.Payload
import FoldMark.Text.Percent
import FoldMark.Text.Quoted

/-!
# Requests

The path of a URL names a document below the root. Its escapes are decoded once, and then it is cut
into segments, of which those that lead up cancel the ones before them. What would lead above the
root is refused before any file is looked at. The suffix of the last segment tells the output
format, and the candidates are the files that may hold the document, in the order in which they are
tried.
-/

namespace FoldMark.Site

open Text

/-- Why a path is refused. -/
inductive Forbidden where
  /-- It holds a null character. -/
  | nullCharacter (url : List Char)
  /-- It leads above the root. -/
  | aboveRoot (url : List Char)
  deriving DecidableEq, Repr

/-- The wording of a refusal. -/
def Forbidden.message : Forbidden → String
  | nullCharacter url => String.ofList (quoted url) ++ " contains a NUL byte"
  | aboveRoot url => String.ofList (quoted url) ++ " escapes the served root"

/-- Whether a character separates segments. -/
def isSeparator (c : Char) : Bool := c == '/' || c == '\\'

/-- The segments of a decoded path that count. -/
def segments (decoded : List Char) : List Name :=
  (splitAt isSeparator decoded).filter fun name => !name.isEmpty && name != Name.here

/-- Cancels each segment that leads up with the nearest name before it; the names so far are given
from the last one on. Nothing is left to cancel where a path leads above the root. -/
def cancel : List Name → List Name → Option (List Name)
  | names, [] => some names.reverse
  | names, segment :: rest =>
    if segment = Name.up then
      match names with
      | [] => none
      | _ :: names => cancel names rest
    else cancel (segment :: names) rest

/-- The names that the path of a URL leads through. -/
def normalize (url : List Char) : Except Forbidden (List Name) :=
  let decoded := Percent.decode url
  if decoded.contains '\x00' then .error (.nullCharacter url)
  else
    match cancel [] (segments decoded) with
    | some names => .ok names
    | none => .error (.aboveRoot url)

/-- What is asked for. -/
structure Request where
  /-- The files or directories to try below the root. -/
  candidates : List (List Name)
  /-- The output format. -/
  format : PayloadFormat
  deriving DecidableEq, Repr

/-- The suffixes of Markdown files. -/
def markdownSuffixes : List String := [".md", ".markdown"]

/-- The output formats by suffix. -/
def formatSuffixes : List (String × PayloadFormat) :=
  [(".html", .html), (".json", .json), (".yaml", .yaml), (".yml", .yaml), (".toml", .toml)]

/-- A name with the suffix of a Markdown file added. -/
def asMarkdown (name : Name) : Name := name ++ ".md".toList

/-- What a path of at least one name asks for. -/
def Request.ofName (parents : List Name) (name : Name) : Request :=
  let suffix := String.ofList (lower (Name.suffix name))
  if markdownSuffixes.contains suffix then ⟨[parents ++ [name]], .html⟩
  else
    match formatSuffixes.lookup suffix with
    | some format =>
      let stem := Name.stem name
      ⟨[parents ++ [asMarkdown stem], parents ++ [stem]], format⟩
    | none =>
      if suffix.isEmpty then ⟨[parents ++ [asMarkdown name], parents ++ [name]], .html⟩
      else ⟨[parents ++ [name]], .html⟩

/-- What the path of a URL asks for. -/
def Request.ofUrl (url : List Char) : Except Forbidden Request := do
  let names ← normalize url
  match names.getLast? with
  | none => .ok ⟨[[]], .html⟩
  | some name => .ok (Request.ofName names.dropLast name)

end FoldMark.Site
