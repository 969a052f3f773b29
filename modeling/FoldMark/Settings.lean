import FoldMark.Extensions

/-!
# Settings

What is set for a run: where documents are served from and written to, and the extensions they are
rendered with. A heading selector stays a text here and is read when the extensions are put
together.
-/

namespace FoldMark

open Fields

/-- How much is logged. -/
inductive LogLevel where
  /-- Everything. -/
  | debug
  /-- What is done. -/
  | info
  /-- What may be wrong. -/
  | warning
  /-- What is wrong. -/
  | error
  /-- What stops the program. -/
  | critical
  deriving DecidableEq, Repr

namespace LogLevel

/-- The name of a level in small letters. -/
def name : LogLevel → String
  | debug => "debug"
  | info => "info"
  | warning => "warning"
  | error => "error"
  | critical => "critical"

/-- The word for a level in settings. -/
def word : LogLevel → String
  | debug => "DEBUG"
  | info => "INFO"
  | warning => "WARNING"
  | error => "ERROR"
  | critical => "CRITICAL"

/-- The levels. -/
def all : List LogLevel := [debug, info, warning, error, critical]

/-- The level of a word. -/
def ofWord? (word : String) : Option LogLevel := all.find? fun level => level.word == word

end LogLevel

/-- The greatest port. -/
def maxPort : Nat := 65535

/-- Settings. -/
structure Settings where
  /-- The directory that is served. -/
  root : List Char := ".".toList
  /-- The interface that is listened on. -/
  host : List Char := "127.0.0.1".toList
  /-- The port that is listened on. -/
  port : Nat := 8083
  /-- The file that stands for its directory. -/
  index : List Char := "index.md".toList
  /-- The directory that documents are written to. -/
  output : List Char := "dist".toList
  /-- The format that documents are written in. -/
  format : PayloadFormat := .html
  /-- How much is logged. -/
  logLevel : LogLevel := .info
  /-- The additions to the language. -/
  features : Markdown.Features := {}
  /-- The front matter that is looked for. -/
  frontMatter : Option FrontMatter.Kind := none
  /-- The headings that fold. -/
  selector : Option (List Char) := none
  /-- Front matter that is opened must be closed. -/
  isStrict : Bool := false
  /-- The port is one. -/
  port_valid : 1 ≤ port ∧ port ≤ maxPort := by decide

namespace Settings

/-- A port. -/
def readPort (value : Value) : Except Error { port : Nat // 1 ≤ port ∧ port ≤ maxPort } := do
  let n ← int value
  if h : 1 ≤ n.toNat ∧ n.toNat ≤ maxPort then .ok ⟨n.toNat, h⟩ else .error .outOfRange

/-- How much is logged. -/
def readLogLevel (value : Value) : Except Error LogLevel := do
  let word ← text value
  match LogLevel.ofWord? (String.ofList word) with
  | some level => .ok level
  | none => .error .notWord

/-- The names of the fields, in order. -/
def fieldNames : List String :=
  ["root", "host", "port", "index_file", "output_dir", "output_format", "log_level"] ++
    Extensions.fieldNames

/-- Reads settings from their fields; other entries do not count. -/
def ofEntries (entries : Entries) : Except (List (Problem Error)) Settings :=
  let absent : Settings := {}
  let make root host (port : { port : Nat // 1 ≤ port ∧ port ≤ maxPort }) index output format
      logLevel features frontMatter selector isStrict : Settings :=
    ⟨root, host, port.val, index, output, format, logLevel, features, frontMatter, selector,
      isStrict, port.property⟩
  let settings : Checked Error Settings :=
    make <$> readField entries "root" text absent.root <*>
      readField entries "host" text absent.host <*>
      readField entries "port" readPort ⟨absent.port, absent.port_valid⟩ <*>
      readField entries "index_file" text absent.index <*>
      readField entries "output_dir" text absent.output <*>
      readField entries "output_format" outputFormat absent.format <*>
      readField entries "log_level" readLogLevel absent.logLevel <*>
      Extensions.readFeatures entries <*> readField entries "front_matter" kind none <*>
      readField entries "collapsible_headers" optionalText none <*>
      readField entries "strict_front_matter" switch false
  settings.toExcept

/-- The extensions that settings ask for. -/
def extensions (settings : Settings) : Except Extensions.Problems Extensions :=
  match Extensions.selectorOfText (settings.selector.getD []) with
  | .ok selector =>
    Extensions.combine settings.features settings.frontMatter selector settings.isStrict
  | .error cause => .error [⟨["collapsible_headers"], cause⟩]

end Settings

end FoldMark
