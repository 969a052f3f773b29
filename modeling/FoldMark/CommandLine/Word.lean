import FoldMark.Text.Blank

/-!
# Words of a command line

A word that starts with a dash names options: two dashes start one long name, and one dash starts
letters of which each is an option. A value follows an equals sign after a long name, the rest of
the letters is the value of one that takes a value, and else the next word is it. After two dashes
alone every word stands for itself.
-/

namespace FoldMark.CommandLine

open Text

/-- A word. -/
abbrev Word := List Char

/-- How an option is written, and what it is for. -/
structure Spelling (α : Type) where
  /-- The long name without its dashes. -/
  long : String
  /-- The letter. -/
  letter : Option Char
  /-- Whether a value is given with it. -/
  takesValue : Bool
  /-- What it is for. -/
  purpose : α

/-- An option as it was given, with its value. -/
abbrev Given (α : Type) := List (α × Word)

/-- What a word gives: options, and possibly one whose value is the next word. -/
structure Reading (α : Type) where
  /-- The options that are complete. -/
  given : Given α
  /-- The option without its value. -/
  waiting : Option α

variable {α : Type}

/-- Reads letters. -/
def readLetters (spellings : List (Spelling α)) : List Char → Option (Reading α)
  | [] => some ⟨[], none⟩
  | c :: rest => do
    let spelling ← spellings.find? (·.letter == some c)
    if !spelling.takesValue then
      let later ← readLetters spellings rest
      some { later with given := (spelling.purpose, []) :: later.given }
    else if rest.isEmpty then some ⟨[], some spelling.purpose⟩
    else some ⟨[(spelling.purpose, rest)], none⟩

/-- Reads a long name, and the value after its equals sign. -/
def readLong (spellings : List (Spelling α)) (word : Word) : Option (Reading α) := do
  let (name, value) := match cutAt (· == '=') word with
    | some (name, value) => (name, some value)
    | none => (word, none)
  let spelling ← spellings.find? (·.long.toList == name)
  match value, spelling.takesValue with
  | some value, true => some ⟨[(spelling.purpose, value)], none⟩
  | some _, false => none
  | none, true => some ⟨[], some spelling.purpose⟩
  | none, false => some ⟨[(spelling.purpose, [])], none⟩

/-- Reads a word that names options; any other word names none. -/
def readOptions? (spellings : List (Spelling α)) : Word → Option (Option (Reading α))
  | '-' :: '-' :: name => some (readLong spellings name)
  | '-' :: c :: letters => some (readLetters spellings (c :: letters))
  | _ => none

/-- What a command line gives: options and words that stand for themselves. -/
structure Line (α : Type) where
  /-- The options. -/
  given : Given α
  /-- The words that stand for themselves. -/
  words : List Word

/-- Two dashes alone. -/
def endOfOptions : Word := ['-', '-']

/-- Reads the words of a command line, where words that stand for themselves may stand anywhere. -/
def readLine (spellings : List (Spelling α)) : List Word → Option (Line α)
  | [] => some ⟨[], []⟩
  | word :: rest =>
    if word = endOfOptions then some ⟨[], rest⟩
    else
      match readOptions? spellings word with
      | none => (readLine spellings rest).map fun line => { line with words := word :: line.words }
      | some none => none
      | some (some ⟨given, none⟩) =>
        (readLine spellings rest).map fun line => { line with given := given ++ line.given }
      | some (some ⟨given, some waiting⟩) =>
        match rest with
        | [] => none
        | value :: rest =>
          (readLine spellings rest).map fun line =>
            { line with given := given ++ (waiting, value) :: line.given }

/-- The value of an option, of which the last one counts. -/
def Line.value? [BEq α] (line : Line α) (purpose : α) : Option Word :=
  (line.given.reverse.find? (·.1 == purpose)).map (·.2)

/-- Whether an option was given. -/
def Line.has [BEq α] (line : Line α) (purpose : α) : Bool := line.given.any (·.1 == purpose)

end FoldMark.CommandLine
