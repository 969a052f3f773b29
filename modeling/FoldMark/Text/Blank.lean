/-!
# Blank characters, words and lines

What separates words, what trimming removes, and where a text is cut into lines. A text is handled
as a list of characters, so that an offset counts characters. Cutting into lines loses nothing:
`flatten_lines` joins them back.
-/

namespace FoldMark.Text

/-- The space, the tab and line controls, the four information separators and every Unicode space,
line or paragraph separator. -/
def isBlank (c : Char) : Bool :=
  let n := c.toNat
  (0x09 ≤ n && n ≤ 0x0D) || (0x1C ≤ n && n ≤ 0x20) || n == 0x85 || n == 0xA0 || n == 0x1680 ||
    (0x2000 ≤ n && n ≤ 0x200A) || n == 0x2028 || n == 0x2029 || n == 0x202F || n == 0x205F ||
    n == 0x3000

/-- The characters that end a line in a text read by the widest rule: the line feed, the carriage
return, the vertical tab, the form feed, three information separators, the next-line control and
the Unicode line and paragraph separators. -/
def isLineBoundary (c : Char) : Bool :=
  let n := c.toNat
  (0x0A ≤ n && n ≤ 0x0D) || (0x1C ≤ n && n ≤ 0x1E) || n == 0x85 || n == 0x2028 || n == 0x2029

/-- A space or a tab. -/
def isSpaceOrTab (c : Char) : Bool := c == ' ' || c == '\t'

/-- Drops the longest tail whose characters satisfy the test. -/
def dropTrailing (test : Char → Bool) (text : List Char) : List Char :=
  text.foldr (fun c rest => if rest.isEmpty && test c then [] else c :: rest) []

/-- Drops the characters that satisfy the test from both ends. -/
def trimBy (test : Char → Bool) (text : List Char) : List Char :=
  dropTrailing test (text.dropWhile test)

/-- Drops blank characters from the front. -/
def trimLeft (text : List Char) : List Char := text.dropWhile isBlank

/-- Drops blank characters from the end. -/
def trimRight (text : List Char) : List Char := dropTrailing isBlank text

/-- Drops blank characters from both ends. -/
def trim (text : List Char) : List Char := trimBy isBlank text

/-- Holds of a text without a character that trimming keeps. -/
def isBlankText (text : List Char) : Bool := text.all isBlank

/-- The maximal runs of characters that fail the test. -/
def splitRuns (separates : Char → Bool) : List Char → List (List Char)
  | [] => []
  | c :: rest =>
    if separates c then splitRuns separates rest
    else
      match rest, splitRuns separates rest with
      | d :: _, word :: words => if separates d then [c] :: word :: words else (c :: word) :: words
      | _, words => [c] :: words

/-- The maximal runs of characters that are not blank. -/
def words (text : List Char) : List (List Char) := splitRuns isBlank text

/-- The pieces between separators, of which there is one more than there are separators. -/
def splitAt (separates : Char → Bool) : List Char → List (List Char)
  | [] => [[]]
  | c :: rest =>
    if separates c then [] :: splitAt separates rest
    else
      match splitAt separates rest with
      | [] => [[c]]
      | piece :: pieces => (c :: piece) :: pieces

/-- The lines of a text, each with the line feed that ends it; only the last may lack one. -/
def lines : List Char → List (List Char)
  | [] => []
  | c :: rest =>
    if c = '\n' then [c] :: lines rest
    else
      match lines rest with
      | [] => [[c]]
      | line :: others => (c :: line) :: others

/-- Joining the lines of a text restores it. -/
theorem flatten_lines (text : List Char) : (lines text).flatten = text := by
  induction text with
  | nil => rfl
  | cons c rest ih =>
    rw [lines]
    split
    · simp [ih]
    · split
      · rename_i h
        have : rest = [] := by rw [← ih, h]; rfl
        simp [this]
      · rename_i line others h
        rw [h] at ih
        simp only [List.flatten_cons] at ih ⊢
        rw [List.cons_append, ih]

/-- The lines of a text cut at every line boundary, without what ends them; a carriage return and
the line feed after it are one end. -/
def splitLines : List Char → List (List Char)
  | [] => []
  | '\r' :: '\n' :: rest => [] :: splitLines rest
  | c :: rest =>
    if isLineBoundary c then [] :: splitLines rest
    else
      match rest, splitLines rest with
      | [], _ => [[c]]
      | _, [] => [[c]]
      | _, line :: others => (c :: line) :: others

/-- Drops the carriage returns and line feeds at the end of a line. -/
def withoutEnd (line : List Char) : List Char :=
  dropTrailing (fun c => c == '\r' || c == '\n') line

/-- Writes every carriage return, with the line feed after it if there is one, as a line feed. -/
def normalizeNewlines : List Char → List Char
  | [] => []
  | '\r' :: '\n' :: rest => '\n' :: normalizeNewlines rest
  | c :: rest => (if c = '\r' then '\n' else c) :: normalizeNewlines rest

/-- The parts around the first character that satisfies the test, without it. -/
def cutAt (test : Char → Bool) : List Char → Option (List Char × List Char)
  | [] => none
  | c :: rest =>
    if test c then some ([], rest)
    else (cutAt test rest).map fun (before, after) => (c :: before, after)

end FoldMark.Text
