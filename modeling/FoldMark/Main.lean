import FoldMark.CommandLine.Run
import FoldMark.Site.Exchange

/-!
# The program

Reads the part of the file system that a command line can reach from the working directory, runs the
command on it, and writes back the files that it made. A server answers the targets that it reads,
one a line.
-/

namespace FoldMark.Program

/-- The names of a path of the system. -/
def placeOf (path : String) : Place := Path.namesOf path.toList

/-- The path of a place. -/
def pathText (place : Place) : String := (Tree.pathOf place).string

/-- Everything at and below a place of the file system; links stand for the places they lead to. -/
partial def scan (place : Place) : IO (List (Place × Node)) := do
  let start ← IO.currentDir
  let path := start / pathText place
  try
    match (← path.symlinkMetadata).type with
    | .dir =>
      let mut found := [(place, Node.directory)]
      for entry in ← path.readDir do
        found := found ++ (← scan (place ++ [entry.fileName.toList]))
      return found
    | .symlink => return [(place, .link (← IO.FS.realPath path).toString.toList)]
    | .file => return [(place, .file (← IO.FS.readBinFile path).toList)]
    | .other => return []
  catch _ => return []

/-- The directories around a place, which links on the way do not belong to. -/
def around (place : Place) : List (Place × Node) :=
  (List.range place.length).map fun n => (place.take (n + 1), .directory)

/-- The places that a command line names: the working directory and the absolute paths. -/
def reachable (workplace : Place) (words : List String) : List Place :=
  workplace :: words.filterMap fun word =>
    if word.startsWith "/" then some (placeOf word) else none

/-- The tree that a command line can reach. -/
def treeFor (words : List String) : IO Tree := do
  let workplace := placeOf (← IO.currentDir).toString
  let found ← (reachable workplace words).mapM fun place => do
    return around place ++ (← scan place)
  return ⟨found.flatten.filter (!·.1.isEmpty), workplace⟩

/-- Writes the files of a tree that another one does not have. -/
def writeBack (before after : Tree) : IO Unit := do
  for (place, node) in after.nodes do
    match node with
    | .file data =>
      if before.node? place != some node then
        let path := (← IO.currentDir) / pathText place
        for folder in path.parent do
          IO.FS.createDirAll folder
        IO.FS.writeBinFile path ⟨data.toArray⟩
    | _ => pure ()

/-- The environment's variables that hold settings. -/
def environment : IO (List (String × String)) := do
  let names := Settings.fieldNames.map fun name => Settings.variableStart ++ name.toUpper
  let found ← names.mapM fun name => do
    return (← IO.getEnv name).toList.map fun value => (name, value)
  return found.flatten

/-- Answers targets as long as there are any. -/
partial def answerAll (server : CommandLine.Server) (words : List String) : IO Unit := do
  let target ← (← IO.getStdin).getLine
  if target.isEmpty then return
  let tree ← treeFor words
  let exchange := Site.serve tree server.extensions (Tree.pathOf server.root) server.index "GET"
    target.trimAscii.toString.toList
  IO.println exchange.response.body.toString
  answerAll server words

/-- How the program is used. -/
def usage : String :=
  "Usage: foldmark convert PATH [-o DIR] [-F html|json|yaml|toml] [OPTIONS]\n" ++
    "       foldmark serve [--root DIR] [--host HOST] [--port PORT] [OPTIONS]"

/-- Runs the command that the words of a command line name. -/
def run (words : List String) : IO UInt32 := do
  let tree ← treeFor words
  let terminals : CommandLine.Terminals := ⟨← (← IO.getStdout).isTty, ← (← IO.getStderr).isTty⟩
  let outcome := CommandLine.run tree (← environment) (words.map String.toList) terminals
  writeBack tree outcome.tree
  IO.print (String.ofList outcome.output)
  match outcome.ending with
  | .failed message => IO.eprintln ("Error: " ++ message)
  | .stopped _ => IO.eprintln "Error: the program stopped"
  | .helped => IO.println usage
  | .misused => IO.eprintln usage
  | .serving server => answerAll server words
  | .done => pure ()
  return outcome.ending.exitCode.toUInt32

end FoldMark.Program

/-- Runs the command that the arguments name. -/
def main (words : List String) : IO UInt32 := FoldMark.Program.run words
