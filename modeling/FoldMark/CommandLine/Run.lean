import FoldMark.CommandLine
import FoldMark.Conversion
import FoldMark.Settings.Source
import FoldMark.Text.Control

/-!
# Running commands

A command reads the settings, converts documents or tells what is to be served, and leaves a tree of
files behind. One document without a directory to write it to is written to the output. What is told
keeps its control sequences on terminals only.
-/

namespace FoldMark.CommandLine

/-- What a server is started with. -/
structure Server where
  /-- The interface that is listened on. -/
  host : List Char
  /-- The port that is listened on. -/
  port : Nat
  /-- How much is logged. -/
  logLevel : LogLevel
  /-- The directory that is served. -/
  root : Place
  /-- The file that stands for its directory. -/
  index : List Char
  /-- The extensions that documents are rendered with. -/
  extensions : Extensions

/-- How a command ends. -/
inductive Ending where
  /-- It did what it was asked for. -/
  | done
  /-- A server is to be started. -/
  | serving (server : Server)
  /-- It failed with a message. -/
  | failed (message : String)
  /-- It stopped. -/
  | stopped (fault : Fault)
  /-- It told how the program is used. -/
  | helped
  /-- The command line was not understood. -/
  | misused

/-- What a command leaves behind. -/
structure Outcome where
  /-- How the command ended. -/
  ending : Ending
  /-- What it wrote to the output. -/
  output : List Char
  /-- The tree of files. -/
  tree : Tree

/-- The number that tells how a command ended. -/
def Ending.exitCode : Ending → Nat
  | done | serving _ | helped => 0
  | failed _ | stopped _ => 1
  | misused => 2

/-- Why a command ends early. -/
inductive Break where
  /-- It fails with a message. -/
  | failing (message : String)
  /-- It stops. -/
  | stopping (fault : Fault)

/-- How a command ends that ends early. -/
def Break.ending : Break → Ending
  | failing message => .failed message
  | stopping fault => .stopped fault

/-- Why a command ends early that has no settings. -/
def Break.ofLoad : Settings.LoadError → Break
  | .stopped fault => .stopping fault
  | error => .failing (error.message?.getD "")

/-- Why a command ends early that has a failed conversion. -/
def Break.ofConversion (failure : Conversion.Failure) : Break :=
  match failure.cause with
  | .stopped (.writer .endless) => .failing (WriteError.endless.message failure.format)
  | .stopped fault => .stopping fault
  | _ => .failing failure.message

/-- Why a command ends early that writes a document to the output. -/
def Break.ofCause (source : Path) : Conversion.Cause → Break
  | .stopped fault => .stopping fault
  | cause => .failing (Conversion.Failure.headline ⟨source, .html, cause⟩)

/-- A text that ends its last line. -/
def endLine (text : List Char) : List Char :=
  if text.getLast? == some '\n' then text else text ++ ['\n']

/-- A line of the output. -/
def line (words : String) : List Char := words.toList ++ ['\n']

/-- What is told of a conversion. -/
def report (pairs : List (Path × Path)) (output : Path) : List Char :=
  pairs.flatMap (fun (source, destination) =>
    line ("  " ++ source.string ++ " -> " ++ destination.string)) ++
    line ("Converted " ++ toString pairs.length ++ " document(s) to " ++ output.string ++ "/")

/-- Writes a document to the output. -/
def convertToOutput (tree : Tree) (extensions : Extensions) (format : PayloadFormat) (path : Path) :
    Outcome :=
  match Conversion.textOf tree extensions format path with
  | .ok text =>
    match text.chars? with
    | some chars => ⟨.done, endLine chars, tree⟩
    | none => ⟨.stopped (.unencodable text), [], tree⟩
  | .error cause => ⟨(Break.ofCause path cause).ending, [], tree⟩

/-- Writes documents to a directory. -/
def convertToDirectory (tree : Tree) (extensions : Extensions) (format : PayloadFormat)
    (path output : Path) : Outcome :=
  let outcome := Conversion.run tree extensions format path output
  match outcome.result with
  | .ok pairs => ⟨.done, report pairs output, outcome.tree⟩
  | .error failure => ⟨(Break.ofConversion failure).ending, [], outcome.tree⟩

/-- Whether a path leads to anything, and whether to a file. -/
def sourceKind (tree : Tree) (path : Path) : Except Break (Bool × Bool) := do
  let isPresent ← (tree.isPresent path).mapError (.stopping <| .file ·)
  let isFile ← (tree.isFile path).mapError (.stopping <| .file ·)
  return (isPresent, isFile)

/-- Converts what stands at a path. -/
def convert (tree : Tree) (settings : Settings) (extensions : Extensions) (name : Word)
    (output : Option Word) : Outcome :=
  let path := Path.parse name
  match sourceKind tree path with
  | .error ended => ⟨ended.ending, [], tree⟩
  | .ok (false, _) => ⟨.failed (String.ofList name ++ " does not exist"), [], tree⟩
  | .ok (true, isFile) =>
    if output.isNone && isFile then convertToOutput tree extensions settings.format path
    else convertToDirectory tree extensions settings.format path (Path.parse settings.output)

/-- Tells what is served and where. -/
def serving (settings : Settings) (root : Place) : List Char :=
  line ("Serving " ++ (Tree.pathOf root).string ++ " on http://" ++ String.ofList settings.host ++
    ":" ++ toString settings.port)

/-- Starts a server. -/
def serve (tree : Tree) (settings : Settings) (extensions : Extensions) : Outcome :=
  let path := Path.parse settings.root
  match tree.isDirectory path with
  | .error error => ⟨.stopped (.file error), [], tree⟩
  | .ok false => ⟨.failed (String.ofList settings.root ++ " is not a directory"), [], tree⟩
  | .ok true =>
    match tree.resolve path with
    | .error error => ⟨.stopped (.place error), [], tree⟩
    | .ok root =>
      let server : Server :=
        ⟨settings.host, settings.port, settings.logLevel, root, settings.index, extensions⟩
      ⟨.serving server, serving settings root, tree⟩

/-- The settings of a command and its extensions. -/
def configure (tree : Tree) (environment : List (String × String)) (invocation : Invocation) :
    Except Break (Settings × Extensions) := do
  let settings ← (Settings.load tree environment invocation.settings invocation.overrides).mapError
    Break.ofLoad
  let extensions ← settings.extensions.mapError fun problems =>
    Break.failing (Extensions.message problems)
  return (settings, extensions)

/-- Runs a command. -/
def invoke (tree : Tree) (environment : List (String × String)) (invocation : Invocation) :
    Outcome :=
  match configure tree environment invocation with
  | .error ended => ⟨ended.ending, [], tree⟩
  | .ok (settings, extensions) =>
    match invocation.command with
    | .convert path output => convert tree settings extensions path output
    | .serve => serve tree settings extensions

/-- Which streams are terminals. -/
structure Terminals where
  /-- The output is one. -/
  output : Bool := false
  /-- What messages are written to is one. -/
  messages : Bool := false

/-- A text as it is told. -/
def told (isTerminal : Bool) (text : List Char) : List Char :=
  if isTerminal then text else Text.withoutControls text

/-- How a command ends, as it is told. -/
def Ending.told (isTerminal : Bool) : Ending → Ending
  | failed message => .failed (String.ofList (CommandLine.told isTerminal message.toList))
  | ending => ending

/-- What a command leaves behind, as it is told. -/
def Outcome.told (terminals : Terminals) (outcome : Outcome) : Outcome :=
  ⟨outcome.ending.told terminals.messages, CommandLine.told terminals.output outcome.output,
    outcome.tree⟩

/-- Runs a command line. -/
def run (tree : Tree) (environment : List (String × String)) (words : List Word)
    (terminals : Terminals := {}) : Outcome :=
  match read words with
  | .error .help => ⟨.helped, [], tree⟩
  | .error .misuse => ⟨.misused, [], tree⟩
  | .ok invocation => (invoke tree environment invocation).told terminals

end FoldMark.CommandLine
