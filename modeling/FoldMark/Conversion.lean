import FoldMark.Fault
import FoldMark.Page.File
import FoldMark.Tree.Change

/-!
# Conversions

The Markdown files of a directory are rendered into another one, each under its own path with the
suffix of the output format. Links to directories are not entered. A conversion stops at the first
file that cannot be converted, and what was written before stays. A page that is no Unicode text
stops it only when its file is written, which is left empty.
-/

namespace FoldMark.Conversion

open Text

/-- Whether a path leads to a Markdown file. -/
def isSource (tree : Tree) (path : Path) : Except FileError Bool := do
  return (← tree.isFile path) && path.isMarkdown

/-- The paths of all that stands below a directory; links are not entered. -/
def pathsBelow (tree : Tree) (path : Path) : Except FileError (List Path) := do
  if ← tree.isDirectory path then
    let place ← tree.locate path
    return tree.nodes.filterMap fun (spot, _) =>
      if place.isPrefixOf spot && place != spot then some (path.append (spot.drop place.length))
      else none
  else return []

/-- The Markdown files at or below a path, in order. -/
def discover (tree : Tree) (path : Path) : Except FileError (List Path) := do
  if ← tree.isFile path then return if path.isMarkdown then [path] else []
  else
    let sources ← (← pathsBelow tree path).filterM (isSource tree)
    return sources.mergeSort Path.isBefore

/-- Why a file is not converted. -/
inductive Cause where
  /-- It cannot be read, or its page cannot be written. -/
  | file (error : FileError)
  /-- It is no UTF-8. -/
  | bytes (fault : Utf8.Fault)
  /-- Its front matter is not closed. -/
  | unclosed (error : FrontMatter.Unclosed)
  /-- Its front matter holds what the output format does not have. -/
  | refused (error : WriteError)
  /-- Something stops the conversion altogether. -/
  | stopped (fault : Fault)

/-- A file that is not converted. -/
structure Failure where
  /-- The file. -/
  source : Path
  /-- The output format. -/
  format : PayloadFormat
  /-- Why it is not converted. -/
  cause : Cause

namespace Failure

/-- What a failure says in any case. -/
def headline (failure : Failure) : String := "Failed to convert " ++ failure.source.string

/-- The wording of a failure, without what a decoder or the file system tells of it. -/
def summary (failure : Failure) : String :=
  match failure.cause with
  | .unclosed error => failure.headline ++ ": " ++ error.message
  | .refused _ => failure.headline ++ ": front matter cannot be written as " ++ failure.format.name
  | _ => failure.headline

/-- The wording of a failure. -/
def message (failure : Failure) : String :=
  match failure.cause with
  | .file error => failure.summary ++ ": " ++ error.message
  | .bytes fault => failure.summary ++ ": " ++ fault.message
  | .unclosed _ | .stopped _ => failure.summary
  | .refused error => failure.summary ++ ": " ++ error.message failure.format

end Failure

/-- A failure of a file operation; a name with a null character stops everything. -/
def Cause.ofFile (error : FileError) : Cause :=
  if error.cause = .nullInName then .stopped (.file error) else .file error

/-- Why a file has no page. -/
def Cause.ofPage : Page.FileFault → Cause
  | .unreadable (.file error) => ofFile error
  | .unreadable (.bytes fault) => .bytes fault
  | .page (.unclosed error) => .unclosed error
  | .page (.stopped error) => .stopped (.frontMatter error)

/-- Why a page has no text. -/
def Cause.ofWriter (error : WriteError) : Cause :=
  if error.isRefusal then .refused error else .stopped (.writer error)

/-- What a file becomes in an output format. -/
def textOf (tree : Tree) (extensions : Extensions) (format : PayloadFormat) (source : Path) :
    Except Cause CodeText := do
  let page ← (Page.ofFile tree extensions source).mapError .ofPage
  (page.write format).mapError .ofWriter

/-- The bytes that a text leaves in a file: none if there are no bytes for all of it. -/
def bytesOf (text : CodeText) : List UInt8 := Utf8.encode (text.chars?.getD [])

/-- Writes a text to a file, and makes the directories around it. -/
def writeText (tree : Tree) (path : Path) (text : CodeText) : Except FileError Tree := do
  let tree ← tree.ensureDirectories path.parent
  tree.write path (bytesOf text)

/-- What a conversion leaves behind. -/
structure Outcome (α : Type) where
  /-- The tree. -/
  tree : Tree
  /-- What was done, or why it stopped. -/
  result : Except Failure α

/-- Converts one file. Nothing is done before it has a text; where that cannot be written, the
directories around the destination that could be made stay, and so does an empty file where there
are no bytes for the text. -/
def convertFile (tree : Tree) (extensions : Extensions) (format : PayloadFormat)
    (source destination : Path) : Outcome Unit :=
  match textOf tree extensions format source with
  | .error cause => ⟨tree, .error ⟨source, format, cause⟩⟩
  | .ok text =>
    match writeText tree destination text with
    | .ok tree =>
      match text.chars? with
      | some _ => ⟨tree, .ok ()⟩
      | none => ⟨tree, .error ⟨source, format, .stopped (.unencodable text)⟩⟩
    | .error error =>
      ⟨(tree.makeDirectories destination.parent).tree, .error ⟨source, format, .ofFile error⟩⟩

/-- Converts files to their destinations, in order. -/
def convertAll (extensions : Extensions) (format : PayloadFormat) :
    Tree → List (Path × Path) → Outcome Unit
  | tree, [] => ⟨tree, .ok ()⟩
  | tree, (source, destination) :: rest =>
    match convertFile tree extensions format source destination with
    | ⟨tree, .ok _⟩ => convertAll extensions format tree rest
    | failed => failed

/-- Where a file below a path is written. -/
def destination (base output : Path) (format : PayloadFormat) (source : Path) : Path :=
  let relative : Path := ⟨.none, source.names.drop base.names.length⟩
  output.join (relative.withSuffix ('.' :: format.name.toList))

/-- The files at or below a path with their destinations. -/
def plan (tree : Tree) (path output : Path) (format : PayloadFormat) :
    Except FileError (List (Path × Path)) := do
  let base := if ← tree.isDirectory path then path else path.parent
  let sources ← discover tree path
  return sources.map fun source => (source, destination base output format source)

/-- Converts the files at or below a path. -/
def run (tree : Tree) (extensions : Extensions) (format : PayloadFormat) (path output : Path) :
    Outcome (List (Path × Path)) :=
  match plan tree path output format with
  | .error error => ⟨tree, .error ⟨path, format, .stopped (.file error)⟩⟩
  | .ok pairs =>
    let outcome := convertAll extensions format tree pairs
    ⟨outcome.tree, outcome.result.map fun _ => pairs⟩

end FoldMark.Conversion
