import FoldMark.Page
import FoldMark.Tree

/-!
# Pages of files

A file is read as UTF-8 with any kind of line end and rendered.
-/

namespace FoldMark

open Text

/-- Why a file has no text. -/
inductive ReadTextError where
  /-- It cannot be read. -/
  | file (error : FileError)
  /-- It is no UTF-8. -/
  | bytes (fault : Utf8.Fault)

/-- The text of the file that a path leads to, with line feeds for all line ends. -/
def Tree.readText (tree : Tree) (path : Path) : Except ReadTextError (List Char) := do
  let data ← (tree.read path).mapError .file
  let text ← (Utf8.decode data).mapError .bytes
  return normalizeNewlines text

namespace Page

/-- Why a file has no page. -/
inductive FileFault where
  /-- It has no text. -/
  | unreadable (error : ReadTextError)
  /-- Its text has no page. -/
  | page (error : Error)

/-- The page of the file that a path leads to. -/
def ofFile (tree : Tree) (extensions : Extensions) (path : Path) : Except FileFault Page := do
  let text ← (tree.readText path).mapError .unreadable
  (render extensions text).mapError .page

end Page

end FoldMark
