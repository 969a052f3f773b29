import FoldMark.Proofs.CommandLine.OutputDirectory
import FoldMark.Proofs.Conversion.Run
import FoldMark.Proofs.Text.Control
import FoldMark.Proofs.Tree.ReadBack

/-!
# One file, two ways

`convert` writes what a file becomes to the output, unless a directory is named: then the file is
looked for as those below a directory are, and what it becomes is written to a file there. Each way
has its own account of what goes wrong. For a file with the name of a Markdown file they agree in
the text, in whether there is one, and in stopping where there are no bytes for it. A file with
another name is printed the first way and passed over the second way (`convert_agrees`).
-/

namespace FoldMark

open Text

namespace Conversion

variable {tree next : Tree} {extensions : Extensions} {format : PayloadFormat}
  {path output target : Path} {data : List UInt8} {text : CodeText}

/-! ## Files -/

/-- Some bytes have no text in a format: they are no UTF-8, or their front matter must be closed and
is not, or the format refuses what the front matter holds. -/
inductive Unconvertible (extensions : Extensions) (format : PayloadFormat) (data : List UInt8) :
    Prop where
  /-- They are no UTF-8. -/
  | bytes {fault : Utf8.Fault} (undecodable : Utf8.decode data = .error fault)
  /-- The front matter must be closed and is not. -/
  | unclosed {text : List Char} {error : FrontMatter.Unclosed}
    (decoded : Utf8.decode data = .ok text) (strict : extensions.isStrict = true)
    (unclosed : FrontMatter.extract extensions.frontMatter (normalizeNewlines text) = .error error)
  /-- The format refuses what the front matter holds. -/
  | refused {text : List Char} {page : Page} {error : WriteError}
    (decoded : Utf8.decode data = .ok text)
    (rendered : Page.render extensions (normalizeNewlines text) = .ok page)
    (refused : page.write format = .error error) (refusal : error.isRefusal = true)

/-- A file with such bytes becomes no text. -/
theorem Unconvertible.exists_cause (unconvertible : Unconvertible extensions format data)
    (read : tree.read path = .ok data) :
    ∃ cause, textOf tree extensions format path = .error cause := by
  cases unconvertible with
  | bytes undecodable =>
    simp [textOf, Page.ofFile, Tree.readText, read, undecodable, Except.mapError, bind,
      Except.bind]
  | @unclosed text error decoded strict unclosed =>
    have rendered : Page.render extensions (normalizeNewlines text) =
        .error (.unclosed error) := by
      rw [Page.render, Page.split, if_pos strict, unclosed]
      rfl
    simp [textOf, Page.ofFile, Tree.readText, read, decoded, rendered, Except.mapError, bind,
      Except.bind, pure, Except.pure]
  | refused decoded rendered refused _ =>
    simp [textOf, Page.ofFile, Tree.readText, read, decoded, rendered, refused, Except.mapError,
      bind, Except.bind, pure, Except.pure]

/-- What is written to a file is read back. -/
theorem read_of_writeText (stands : tree.Stands tree.workplace)
    (wrote : writeText tree path text = .ok next) : next.read path = .ok (bytesOf text) := by
  obtain ⟨around, made, wrote⟩ := exists_of_bind_eq_ok wrote
  have grown := (Tree.changes_ensureDirectories made).toExtends
  refine Tree.read_of_write ?_ wrote
  rw [grown.workplace_eq]
  exact stands.of_extends grown

/-- A Markdown file is written under its name without its suffix and with that of the format. -/
theorem destination_parent (markdown : path.isMarkdown = true) :
    destination path.parent output format path = output.append [path.name.inFormat format] := by
  have placed := destination_append path.parent output format [] path.name
  rwa [List.nil_append, Path.parent_append_name (Path.isMarkdown_iff.mp markdown)] at placed

/-- A conversion of another file than one of Markdown converts nothing. -/
theorem run_of_not_isMarkdown (isFile : tree.isFile path = .ok true)
    (other : path.isMarkdown = false) :
    run tree extensions format path output = ⟨tree, .ok []⟩ := by
  have found : discover tree path = .ok [] := by
    simp only [discover, isFile, other]
    rfl
  have planned : plan tree path output format = .ok [] := by
    simp only [plan, isDirectory_eq_false_of_isFile isFile, found]
    rfl
  exact run_of_plan planned rfl

end Conversion

namespace CommandLine

variable {tree next : Tree} {settings : Settings} {extensions : Extensions} {path : Path}
  {output : Path} {format : PayloadFormat} {name directory : Word} {text : CodeText}
  {chars : List Char} {cause : Conversion.Cause} {isTerminal : Bool}

/-! ## What is told -/

/-- Nothing is told as nothing. -/
theorem told_nil (isTerminal : Bool) : told isTerminal [] = [] := by
  cases isTerminal with
  | true => rfl
  | false => exact withoutControls_nil

/-- A text that is told as it is stays so with a line feed at its end. -/
theorem told_endLine (same : told isTerminal chars = chars) :
    told isTerminal (endLine chars) = endLine chars := by
  rw [endLine]
  split
  · exact same
  · cases isTerminal with
    | true => rfl
    | false => exact (withoutControls_concat chars).trans (congrArg (· ++ ['\n']) same)

/-- A command fails: it tells nothing, and leaves the tree as it was. -/
structure Outcome.Fails (outcome : Outcome) (tree : Tree) : Prop where
  /-- It ends with the number of a failure. -/
  exitCode_eq : outcome.ending.exitCode = 1
  /-- It writes nothing to the output. -/
  output_eq : outcome.output = []
  /-- It writes no file. -/
  tree_eq : outcome.tree = tree

/-- A command ends with the same number however that is told. -/
theorem exitCode_told (ending : Ending) : (ending.told isTerminal).exitCode = ending.exitCode := by
  cases ending <;> rfl

/-- A command that ends early fails, however that is told. -/
theorem fails_break (ended : Break) (tree : Tree) (terminals : Terminals) :
    (Outcome.told terminals ⟨ended.ending, [], tree⟩).Fails tree where
  exitCode_eq := by
    rw [Outcome.told, exitCode_told]
    cases ended <;> rfl
  output_eq := told_nil _
  tree_eq := rfl

/-! ## Both ways -/

/-- A path that leads to a file leads there. -/
theorem sourceKind_of_isFile (isFile : tree.isFile path = .ok true) :
    sourceKind tree path = .ok (true, true) := by
  obtain ⟨data, read⟩ := Tree.isFile_eq_true_iff.mp isFile
  obtain ⟨place, located, found⟩ := Tree.read_eq_ok_iff.mp read
  have present : tree.isPresent path = .ok true := Tree.leadsTo_of_locate located found
  simp only [sourceKind, present, isFile]
  rfl

/-- What a command line leaves behind that asks for a conversion. -/
theorem run_convert {environment : List (String × String)} {words : List Word}
    {output file : Option Word} {overrides : Fields.Entries}
    (asked : read words = .ok ⟨.convert name output, file, overrides⟩)
    (configured : configure tree environment ⟨.convert name output, file, overrides⟩ =
      .ok (settings, extensions)) (terminals : Terminals) :
    run tree environment words terminals =
      (convert tree settings extensions name output).told terminals := by
  simp only [run, asked, invoke, configured]

/-- Without a directory, the text is written to the output. -/
theorem convert_plain (isFile : tree.isFile (Path.parse name) = .ok true) :
    convert tree settings extensions name none =
      convertToOutput tree extensions settings.format (Path.parse name) := by
  simp [convert, sourceKind_of_isFile isFile]

/-- With a directory, the text is written there. -/
theorem convert_placed (isFile : tree.isFile (Path.parse name) = .ok true) (directory : Word) :
    convert tree settings extensions name (some directory) =
      convertToDirectory tree extensions settings.format (Path.parse name)
        (Path.parse settings.output) := by
  simp [convert, sourceKind_of_isFile isFile]

/-- What a file becomes is written to the output. -/
theorem convertToOutput_of_ok
    (becomes : Conversion.textOf tree extensions format path = .ok (.ofChars chars)) :
    convertToOutput tree extensions format path = ⟨.done, endLine chars, tree⟩ := by
  simp only [convertToOutput, becomes, CodeText.chars?_ofChars]

/-- A text that there are no bytes for is not written to the output. -/
theorem convertToOutput_of_unencodable
    (becomes : Conversion.textOf tree extensions format path = .ok text)
    (unencodable : text.chars? = none) :
    convertToOutput tree extensions format path = ⟨.stopped (.unencodable text), [], tree⟩ := by
  simp only [convertToOutput, becomes, unencodable]

/-- A file that becomes no text is not written to the output. -/
theorem convertToOutput_of_error
    (fails : Conversion.textOf tree extensions format path = .error cause) :
    convertToOutput tree extensions format path =
      ⟨(Break.ofCause path cause).ending, [], tree⟩ := by
  simp only [convertToOutput, fails]

section Markdown

variable (isFile : tree.isFile path = .ok true) (markdown : path.isMarkdown = true)

include isFile markdown

/-- What a Markdown file becomes is written to a file below the directory. -/
theorem convertToDirectory_of_ok
    (becomes : Conversion.textOf tree extensions format path = .ok (.ofChars chars))
    (wrote : Conversion.writeText tree (output.append [path.name.inFormat format])
      (.ofChars chars) = .ok next) :
    convertToDirectory tree extensions format path output =
      ⟨.done, report [(path, output.append [path.name.inFormat format])] output, next⟩ := by
  have converted := Conversion.convertFile_of_ok becomes wrote
  simp only [convertToDirectory, Conversion.run_source isFile markdown,
    Conversion.destination_parent markdown, converted, Except.map]

/-- A text that there are no bytes for leaves an empty file below the directory. -/
theorem convertToDirectory_of_unencodable
    (becomes : Conversion.textOf tree extensions format path = .ok text)
    (unencodable : text.chars? = none)
    (wrote : Conversion.writeText tree (output.append [path.name.inFormat format]) text =
      .ok next) :
    convertToDirectory tree extensions format path output =
      ⟨.stopped (.unencodable text), [], next⟩ := by
  have converted := Conversion.convertFile_of_unencodable becomes unencodable wrote
  simp only [convertToDirectory, Conversion.run_source isFile markdown,
    Conversion.destination_parent markdown, converted, Except.map]
  rfl

/-- A Markdown file that becomes no text is not written to a file. -/
theorem convertToDirectory_of_error
    (fails : Conversion.textOf tree extensions format path = .error cause) :
    convertToDirectory tree extensions format path output =
      ⟨(Break.ofConversion ⟨path, format, cause⟩).ending, [], tree⟩ := by
  simp only [convertToDirectory, Conversion.run_source isFile markdown,
    Conversion.convertFile_of_error fails, Except.map]

end Markdown

/-- Another file is passed over. -/
theorem convertToDirectory_of_not_isMarkdown (isFile : tree.isFile path = .ok true)
    (other : path.isMarkdown = false) :
    convertToDirectory tree extensions format path output =
      ⟨.done, report [] output, tree⟩ := by
  simp only [convertToDirectory, Conversion.run_of_not_isMarkdown isFile other]

/-- Three files: a Markdown file, one with a control sequence, and one with another name. -/
def drafts : Tree :=
  ⟨[(["a.md".toList], .file [120]), (["b.md".toList], .file [27, 91, 48, 109, 120]),
    (["notes.txt".toList], .file [120])], []⟩

/-- The files after the first one has been converted. -/
def draftsConverted : Tree :=
  ⟨drafts.nodes ++ [(["out".toList], .directory),
    (["out".toList, "a.html".toList], .file (Utf8.encode "<p>x</p>\n".toList))], []⟩

/-- Where a file of three is named, it is converted with the usual settings. -/
theorem configure_drafts (command : Command) :
    configure drafts [] ⟨command, none, []⟩ = .ok ({}, {}) := by
  cbv

end CommandLine

end FoldMark
