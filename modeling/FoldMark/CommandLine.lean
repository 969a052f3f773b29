import FoldMark.CommandLine.Word
import FoldMark.Fields
import FoldMark.Markdown.Token
import FoldMark.Number.Reader

/-!
# Commands

A command line names a command, its options and its operands. `convert` takes the path of what is
converted, and `serve` takes no operand. Options override what is set elsewhere; a switch can only
be turned on.
-/

namespace FoldMark.CommandLine

open Fields

/-- What an option is for. -/
inductive Purpose where
  /-- To show how the program is used. -/
  | help
  /-- To name the file of settings. -/
  | settings
  /-- To name the directory that is written to. -/
  | output
  /-- To name the output format. -/
  | format
  /-- To name the directory that is served. -/
  | root
  /-- To name the interface that is listened on. -/
  | host
  /-- To name the port that is listened on. -/
  | port
  /-- To name the front matter that is looked for. -/
  | frontMatter
  /-- To select the headings that fold. -/
  | selector
  /-- To turn a field on. -/
  | turnOn (field : String)
  deriving DecidableEq, Repr

/-- The options of every command. -/
def sharedSpellings : List (Spelling Purpose) :=
  [⟨"help", none, false, .help⟩, ⟨"config", some 'c', true, .settings⟩,
    ⟨"tables", some 't', false, .turnOn "tables"⟩,
    ⟨"footnotes", some 'f', false, .turnOn "footnotes"⟩,
    ⟨"strikethrough", some 's', false, .turnOn "strikethrough"⟩,
    ⟨"tasklists", some 'l', false, .turnOn "tasklists"⟩,
    ⟨"smart-punctuation", some 'p', false, .turnOn "smart_punctuation"⟩,
    ⟨"header-attributes", some 'a', false, .turnOn "header_attributes"⟩,
    ⟨"emoji-shortcodes", some 'e', false, .turnOn "emoji_shortcodes"⟩,
    ⟨"front-matter", some 'm', true, .frontMatter⟩,
    ⟨"collapsible-headers", some 'k', true, .selector⟩]

/-- The options of `convert`. -/
def convertSpellings : List (Spelling Purpose) :=
  [⟨"out-dir", some 'o', true, .output⟩, ⟨"format", some 'F', true, .format⟩] ++ sharedSpellings

/-- The options of `serve`. -/
def serveSpellings : List (Spelling Purpose) :=
  [⟨"root", none, true, .root⟩, ⟨"host", none, true, .host⟩, ⟨"port", none, true, .port⟩] ++
    sharedSpellings

/-- The options before a command. -/
def leadingSpellings : List (Spelling Purpose) := [⟨"help", none, false, .help⟩]

/-- A command. -/
inductive Command where
  /-- Converts what stands at a path; `output` is the directory that is asked for. -/
  | convert (path : Word) (output : Option Word)
  /-- Serves a directory. -/
  | serve
  deriving DecidableEq, Repr

/-- What a command line asks for. -/
structure Invocation where
  /-- The command. -/
  command : Command
  /-- The file of settings that is named. -/
  settings : Option Word
  /-- The fields that options set. -/
  overrides : Entries

/-- Why a command line asks for no command. -/
inductive Stop where
  /-- It asks how the program is used. -/
  | help
  /-- It is not one that the program understands. -/
  | misuse
  deriving DecidableEq, Repr

/-- The text of a word as a value. -/
def textValue (word : Word) : Value := .str word

/-- The integer that a word writes; single low lines may stand between its digits. -/
def integer? (word : Word) : Option Int :=
  let (isNegative, digits) := Number.readSign (Text.trim word)
  (Number.intOf? 10 (dropLowLines digits)).bind fun n =>
    if (Number.readSign digits).2 = digits then some (if isNegative then -n else n) else none

/-- The value that an option gives a field, if its word is one that the option accepts. -/
def fieldValue? (purpose : Purpose) (word : Word) : Option Value :=
  match purpose with
  | .format => (PayloadFormat.ofName? (String.ofList word)).map fun format => .str format.name
  | .frontMatter => (FrontMatter.Kind.ofName? (String.ofList word)).map fun kind => .str kind.name
  | .port => (integer? word).map .int
  | _ => some (textValue word)

/-- The fields that options with a value set. -/
def valueFields : List (Purpose × String) :=
  [(.output, "output_dir"), (.format, "output_format"), (.root, "root"), (.host, "host"),
    (.port, "port"), (.frontMatter, "front_matter"), (.selector, "collapsible_headers")]

/-- The fields that the options of a command line set. -/
def overrides? (line : Line Purpose) : Option Entries := do
  let values ← valueFields.filterMapM fun (purpose, field) =>
    match line.value? purpose with
    | none => some none
    | some word => (fieldValue? purpose word).map fun value => some (field, value)
  let turnedOn := line.given.filterMap fun (purpose, _) =>
    match purpose with
    | .turnOn field => some (field, Value.bool true)
    | _ => none
  some (values ++ turnedOn)

/-- What the words after a command ask for. -/
def readCommand (spellings : List (Spelling Purpose)) (command? : Line Purpose → Option Command)
    (words : List Word) : Except Stop Invocation :=
  match readLine spellings words with
  | none => .error .misuse
  | some line =>
    if line.has .help then .error .help
    else
      match command? line, overrides? line with
      | some command, some overrides => .ok ⟨command, line.value? .settings, overrides⟩
      | _, _ => .error .misuse

/-- The command `convert` with its one operand. -/
def convert? (line : Line Purpose) : Option Command :=
  match line.words with
  | [path] => some (.convert path (line.value? .output))
  | _ => none

/-- The command `serve` without an operand. -/
def serve? (line : Line Purpose) : Option Command :=
  if line.words.isEmpty then some .serve else none

/-- What the words from the name of a command on ask for. -/
def readNamed : List Word → Except Stop Invocation
  | [] => .error .misuse
  | name :: words =>
    if name = "convert".toList then readCommand convertSpellings convert? words
    else if name = "serve".toList then readCommand serveSpellings serve? words
    else .error .misuse

/-- What a command line asks for; `isHelp` tells whether help was asked for before. -/
def readFrom (isHelp : Bool) : List Word → Except Stop Invocation
  | [] => .error (if isHelp then .help else .misuse)
  | word :: rest =>
    if word = endOfOptions then if isHelp then .error .help else readNamed rest
    else
      match readOptions? leadingSpellings word with
      | none => if isHelp then .error .help else readNamed (word :: rest)
      | some none => .error .misuse
      | some (some _) => readFrom true rest

/-- What a command line asks for. -/
def read (words : List Word) : Except Stop Invocation := readFrom false words

end FoldMark.CommandLine
