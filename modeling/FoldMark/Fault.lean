import FoldMark.FrontMatter.Metadata
import FoldMark.Payload
import FoldMark.Tree.Resolve

/-!
# Faults

What no caller is prepared for. A fault stops what is being done and is not told as an error of the
input, though an input can bring it about.
-/

namespace FoldMark

/-- What stops the program. -/
inductive Fault where
  /-- The decoder of front matter. -/
  | frontMatter (error : FrontMatter.DecodeError)
  /-- The decoder of a settings file. -/
  | settings (error : Yaml.ReadError)
  /-- A key of a settings file that is no text. -/
  | keyNotText
  /-- The writer of an output format. -/
  | writer (error : WriteError)
  /-- A file operation. -/
  | file (error : FileError)
  /-- A path without a place. -/
  | place (error : Tree.ResolveError)

/-- A text that there are no bytes for. -/
def Fault.unencodable (text : CodeText) : Fault := .writer (.unrepresentable (.str text))

end FoldMark
