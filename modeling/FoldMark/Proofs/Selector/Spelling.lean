import FoldMark.Proofs.Chain
import FoldMark.Proofs.Text.Fronts
import FoldMark.Selector
import Mathlib

/-!
# Spellings of selectors

How the text of a selector is spelled. It is cut at the first colon or equals sign, and what stands
before it into items at the commas, so that every text has such a spelling (`exists_spelling`). A
text is a selector exactly if each of its items is a level (`parse_grammar`); the selector has the
levels that the items mean and the text behind the mark. Otherwise the first item that is no level
tells what is wrong. A printed selector is read as itself, in whatever order its levels are.
-/

namespace FoldMark.Selector

open Text

/-! ## Items -/

/-- An item is written as a level: within blanks, the letter of levels in either case, a decimal
digit of any script, and a plus sign if all deeper levels are meant. -/
def IsWrittenAs (item : List Char) (level : Nat) (isOpen : Bool) : Prop :=
  ∃ letter digit, (letter = 'h' ∨ letter = 'H') ∧ digitValue? digit = some level ∧
    trim item = letter :: digit :: if isOpen then ['+'] else []

/-- An item is a level that headings have. -/
def IsItem (item : List Char) (level : Nat) (isOpen : Bool) : Prop :=
  IsWrittenAs item level isOpen ∧ 1 ≤ level ∧ level ≤ 6

/-- An item means its level, and the deeper ones if it ends with a plus sign. -/
def Means (item : List Char) (level : Nat) : Prop :=
  ∃ first isOpen, IsItem item first isOpen ∧
    (level = first ∨ isOpen = true ∧ first ≤ level ∧ level ≤ 6)

/-- What is wrong with an item. -/
def ItemFails (spec item : List Char) (error : ParseError) : Prop :=
  (error = .badItem spec ∧ ∀ level isOpen, ¬ IsWrittenAs item level isOpen) ∨
    ∃ level isOpen, error = .badLevel spec level ∧ IsWrittenAs item level isOpen ∧
      ¬ (1 ≤ level ∧ level ≤ 6)

variable {spec item : List Char} {level : Nat} {isOpen : Bool}

/-- The levels of headings are those from one to six. -/
theorem mem_headingLevels_iff : level ∈ headingLevels ↔ 1 ≤ level ∧ level ≤ 6 := by
  simp only [headingLevels, List.mem_cons, List.not_mem_nil, or_false]
  omega

/-- The letter and the digit of an item are read as its level. -/
theorem level_eq_some_iff {letter digit : Char} {hasPlus : Bool} :
    (if letter == 'h' || letter == 'H' then (digitValue? digit).map (·, hasPlus) else none) =
        some (level, isOpen) ↔
      (letter = 'h' ∨ letter = 'H') ∧ digitValue? digit = some level ∧ hasPlus = isOpen := by
  simp [Option.ite_none_right_eq_some]

/-- An item is read as the level that it is written as. -/
theorem item?_eq_some_iff : item? item = some (level, isOpen) ↔ IsWrittenAs item level isOpen := by
  constructor
  · intro reads
    unfold item? at reads
    split at reads
    · rename_i letter digit trimmed
      obtain ⟨isLetter, found, rfl⟩ := level_eq_some_iff.mp reads
      exact ⟨letter, digit, isLetter, found, trimmed⟩
    · rename_i letter digit trimmed
      obtain ⟨isLetter, found, rfl⟩ := level_eq_some_iff.mp reads
      exact ⟨letter, digit, isLetter, found, trimmed⟩
    · cases reads
  · rintro ⟨letter, digit, isLetter, value, trimmed⟩
    rw [item?, trimmed]
    cases isOpen with
    | false => exact level_eq_some_iff.mpr ⟨isLetter, value, rfl⟩
    | true => exact level_eq_some_iff.mpr ⟨isLetter, value, rfl⟩

/-- An item that is a level is so in one way. -/
theorem IsItem.eq {other : Nat} {otherOpen : Bool} (isItem : IsItem item level isOpen)
    (also : IsItem item other otherOpen) : level = other ∧ isOpen = otherOpen := by
  have same := (item?_eq_some_iff.mpr isItem.1).symm.trans (item?_eq_some_iff.mpr also.1)
  simpa using same

/-- The levels of an item are those that it means. -/
theorem itemLevels_eq_ok_iff {levels : List Nat} :
    itemLevels spec item = .ok levels ↔
      ∃ level isOpen, IsItem item level isOpen ∧
        levels = if isOpen then headingLevels.filter (level ≤ ·) else [level] := by
  constructor
  · intro reads
    rw [itemLevels] at reads
    split at reads
    · cases reads
    · rename_i first firstOpen found
      split at reads
      · rename_i inside
        have bounds := mem_headingLevels_iff.mp (List.contains_iff_mem.mp inside)
        exact ⟨first, firstOpen, ⟨item?_eq_some_iff.mp found, bounds⟩, (Except.ok.inj reads).symm⟩
      · cases reads
  · rintro ⟨level, isOpen, ⟨written, bounds⟩, rfl⟩
    have inside := List.contains_iff_mem.mpr (mem_headingLevels_iff.mpr bounds)
    simp only [itemLevels, item?_eq_some_iff.mpr written, inside, if_true]

/-- An item that is no level fails for what is wrong with it. -/
theorem itemLevels_eq_error_iff {error : ParseError} :
    itemLevels spec item = .error error ↔ ItemFails spec item error := by
  simp only [ItemFails, ← item?_eq_some_iff, ← mem_headingLevels_iff]
  rw [itemLevels]
  cases item? item with
  | none => simp [eq_comm]
  | some found =>
    obtain ⟨level, isOpen⟩ := found
    by_cases inside : level ∈ headingLevels <;> simp [inside, eq_comm]

/-- An item is read if it is a level. -/
theorem exists_itemLevels_iff :
    (∃ levels, itemLevels spec item = .ok levels) ↔ ∃ level isOpen, IsItem item level isOpen := by
  constructor
  · rintro ⟨levels, reads⟩
    obtain ⟨level, isOpen, isItem, _⟩ := itemLevels_eq_ok_iff.mp reads
    exact ⟨level, isOpen, isItem⟩
  · rintro ⟨level, isOpen, isItem⟩
    exact ⟨_, itemLevels_eq_ok_iff.mpr ⟨level, isOpen, isItem, rfl⟩⟩

/-- An item is read as the levels that it means. -/
theorem exists_levels_iff :
    (∃ levels, itemLevels spec item = .ok levels ∧ level ∈ levels) ↔ Means item level := by
  constructor
  · rintro ⟨_, reads, member⟩
    obtain ⟨first, isOpen, isItem, rfl⟩ := itemLevels_eq_ok_iff.mp reads
    refine ⟨first, isOpen, isItem, ?_⟩
    cases isOpen with
    | false => exact Or.inl (List.mem_singleton.mp member)
    | true =>
      obtain ⟨inside, deeper⟩ := List.mem_filter.mp member
      exact Or.inr ⟨rfl, by simpa using deeper, (mem_headingLevels_iff.mp inside).2⟩
  · rintro ⟨first, isOpen, isItem, meant⟩
    refine ⟨_, itemLevels_eq_ok_iff.mpr ⟨first, isOpen, isItem, rfl⟩, ?_⟩
    have bounds := isItem.2
    cases isOpen with
    | false => simpa using meant
    | true =>
      have deeper : first ≤ level ∧ level ≤ 6 := by omega
      refine List.mem_filter.mpr ⟨mem_headingLevels_iff.mpr ⟨?_, deeper.2⟩, by simpa using deeper.1⟩
      exact Nat.le_trans bounds.1 deeper.1

/-- What an item means is a level that headings have. -/
theorem Means.mem_headingLevels (means : Means item level) : level ∈ headingLevels := by
  obtain ⟨first, isOpen, ⟨_, bounds⟩, meant⟩ := means
  rw [mem_headingLevels_iff]
  omega

/-- An item that is a level means that level. -/
theorem IsItem.means (isItem : IsItem item level isOpen) : Means item level :=
  ⟨level, isOpen, isItem, Or.inl rfl⟩

/-! ## Spellings -/

/-- How the text of a selector is spelled. -/
structure Spelling where
  /-- The items before the mark that ends the levels. -/
  items : List (List Char)
  /-- The mark that ends the levels and what follows it, if there is one. -/
  narrowing : Option (Char × List Char)
  /-- There is an item, be it empty. -/
  items_ne_nil : items ≠ []
  /-- Neither a comma nor a mark is within an item. -/
  items_free : ∀ item ∈ items, ∀ c ∈ item, c ≠ ',' ∧ c ≠ ':' ∧ c ≠ '='
  /-- The mark is a colon or an equals sign. -/
  mark_of_narrowing : ∀ mark rest, narrowing = some (mark, rest) → mark = ':' ∨ mark = '='

namespace Spelling

/-- The items, joined by commas. -/
def front (spelling : Spelling) : List Char := [','].intercalate spelling.items

/-- The text. -/
def source (spelling : Spelling) : List Char :=
  match spelling.narrowing with
  | none => spelling.front
  | some (mark, rest) => spelling.front ++ mark :: rest

/-- The text that a heading must have: what follows the mark without the blanks around it, if there
is anything else. -/
def text (spelling : Spelling) : Option (List Char) :=
  match spelling.narrowing with
  | none => none
  | some (_, rest) => if isBlankText rest then none else some (trim rest)

/-- Each item is a level. -/
def IsProper (spelling : Spelling) : Prop :=
  ∀ item ∈ spelling.items, ∃ level isOpen, IsItem item level isOpen

/-- A selector is what a text spells: its levels are those that the items mean. -/
structure Spells (spelling : Spelling) (selector : Selector) : Prop where
  /-- Each item is a level. -/
  isProper : spelling.IsProper
  /-- The levels are those of all items. -/
  mem_levels_iff : ∀ level, level ∈ selector.levels ↔ ∃ item ∈ spelling.items, Means item level
  /-- The text is that behind the mark. -/
  text_eq : selector.text = spelling.text

/-- A text spells no selector because of the first item that is no level. -/
def Fails (spelling : Spelling) (error : ParseError) : Prop :=
  ∃ before item after, spelling.items = before ++ item :: after ∧
    (∀ passed ∈ before, ∃ level isOpen, IsItem passed level isOpen) ∧
      ItemFails spelling.source item error

/-! ### Texts and their spellings -/

variable (spelling : Spelling)

/-- No mark is in front of that which ends the levels. -/
theorem front_free : ∀ c ∈ spelling.front, endsLevels c = false := by
  intro c inside
  rcases mem_of_mem_intercalate inside with rfl | ⟨item, listed, within⟩
  · decide
  · obtain ⟨_, noColon, noEquals⟩ := spelling.items_free item listed c within
    simp [endsLevels, noColon, noEquals]

/-- What ends the levels is a mark. -/
theorem endsLevels_of_narrowing {mark : Char} {rest : List Char}
    (narrowing : spelling.narrowing = some (mark, rest)) : endsLevels mark = true := by
  rcases spelling.mark_of_narrowing mark rest narrowing with rfl | rfl <;> decide

/-- A text is cut into its items and what follows the mark. -/
theorem splitText_source : splitText spelling.source = (spelling.front, spelling.text) := by
  cases narrowing : spelling.narrowing with
  | none =>
    have uncut := cutAt_eq_none_iff.mpr spelling.front_free
    simp only [source, text, narrowing, splitText, uncut]
  | some found =>
    obtain ⟨mark, rest⟩ := found
    have cut : cutAt endsLevels (spelling.front ++ mark :: rest) = some (spelling.front, rest) :=
      cutAt_eq_some_iff.mpr ⟨mark, rfl, spelling.endsLevels_of_narrowing narrowing,
        spelling.front_free⟩
    simp only [source, text, narrowing, splitText, cut]

/-- The items are what stands between the commas. -/
theorem splitAt_front : splitAt (· == ',') spelling.front = spelling.items := by
  refine splitAt_intercalate (fun item listed c within => ?_) (by decide) spelling.items_ne_nil
  simpa using (spelling.items_free item listed c within).1

/-- The front of a text without marks is spelled by what stands between its commas. -/
def ofParts (front : List Char) (narrowing : Option (Char × List Char))
    (free : ∀ c ∈ front, endsLevels c = false)
    (isMark : ∀ mark rest, narrowing = some (mark, rest) → endsLevels mark = true) : Spelling where
  items := splitAt (· == ',') front
  narrowing := narrowing
  items_ne_nil := splitAt_ne_nil _ front
  items_free := by
    intro item listed c within
    obtain ⟨inside, noComma⟩ := mem_of_mem_splitAt listed c within
    have noMark := free c inside
    simp only [endsLevels, Bool.or_eq_false_iff] at noMark
    simpa using And.intro noComma noMark
  mark_of_narrowing := by
    intro mark rest found
    simpa [endsLevels] using isMark mark rest found

/-- Every text is spelled in some way. -/
theorem exists_spelling (spec : List Char) : ∃ spelling : Spelling, spelling.source = spec := by
  cases cut : cutAt endsLevels spec with
  | none =>
    refine ⟨ofParts spec none (cutAt_eq_none_iff.mp cut) nofun, ?_⟩
    exact intercalate_splitAt ',' spec
  | some parts =>
    obtain ⟨front, rest⟩ := parts
    obtain ⟨mark, rfl, isMark, free⟩ := cutAt_eq_some_iff.mp cut
    refine ⟨ofParts front (some (mark, rest)) free ?_, ?_⟩
    · rintro _ _ ⟨⟩
      exact isMark
    · exact congrArg (· ++ mark :: rest) (intercalate_splitAt ',' front)

end Spelling

/-! ## Reading -/

/-- The selector of some levels has those that headings can have. -/
theorem ofLevels?_eq_some_iff {levels : List Nat} {text : Option (List Char)}
    {selector : Selector} :
    ofLevels? levels text = some selector ↔
      (∀ level, level ∈ selector.levels ↔ level ∈ headingLevels ∧ level ∈ levels) ∧
        selector.text = text := by
  constructor
  · intro made
    rw [ofLevels?] at made
    split at made
    · cases made
      exact ⟨fun level => by simp [sortLevels, List.mem_filter], rfl⟩
    · cases made
  · rintro ⟨same, rfl⟩
    obtain ⟨own, text, canonical, nonempty⟩ := selector
    have sorted : sortLevels levels = own := by
      rw [canonical, sortLevels]
      refine List.filter_congr fun level inside => Bool.eq_iff_iff.mpr ?_
      simpa [inside] using (same level).symm
    rw [ofLevels?, dif_pos (by rwa [sorted])]
    simp only [sorted]

namespace Spelling

variable (spelling : Spelling)

/-- A spelled text is read item by item. -/
theorem parse_source : parse spelling.source =
    spelling.items.mapM (itemLevels spelling.source) >>= fun levels =>
      match ofLevels? levels.flatten spelling.text with
      | some selector => .ok selector
      | none => .error (.badItem spelling.source) := by
  rewrite [parse, splitText_source]
  dsimp only
  rewrite [splitAt_front]
  rfl

/-- The levels of the items are those that the items mean. -/
theorem mem_flatten_iff {levels : List (List Nat)} {level : Nat}
    (reads : spelling.items.mapM (itemLevels spelling.source) = .ok levels) :
    level ∈ levels.flatten ↔ ∃ item ∈ spelling.items, Means item level := by
  have results := mapM_eq_ok_iff.mp reads
  have mem_iff (own : List Nat) :
      own ∈ levels ↔ ∃ item ∈ spelling.items, itemLevels spelling.source item = .ok own := by
    rw [← List.mem_map, results]
    simp
  have means_iff (item : List Char) : Means item level ↔
      ∃ own, itemLevels spelling.source item = .ok own ∧ level ∈ own := exists_levels_iff.symm
  simp only [List.mem_flatten, mem_iff, means_iff]
  constructor
  · rintro ⟨own, ⟨item, listed, read⟩, member⟩
    exact ⟨item, listed, own, read, member⟩
  · rintro ⟨item, listed, own, read, member⟩
    exact ⟨own, ⟨item, listed, read⟩, member⟩

/-- All items can be read if each of them is a level. -/
theorem exists_levels_iff_isProper :
    (∃ levels, spelling.items.mapM (itemLevels spelling.source) = .ok levels) ↔
      spelling.IsProper := by
  constructor
  · rintro ⟨levels, reads⟩ item listed
    have result := List.mem_map_of_mem (f := itemLevels spelling.source) listed
    rw [mapM_eq_ok_iff.mp reads] at result
    obtain ⟨own, _, read⟩ := List.mem_map.mp result
    exact exists_itemLevels_iff.mp ⟨own, read.symm⟩
  · intro proper
    cases reads : spelling.items.mapM (itemLevels spelling.source) with
    | ok levels => exact ⟨levels, rfl⟩
    | error error =>
      obtain ⟨before, item, after, items_eq, _, fails⟩ := mapM_eq_error_iff.mp reads
      obtain ⟨own, read⟩ := exists_itemLevels_iff.mpr (proper item (by simp [items_eq]))
      rw [read] at fails
      cases fails

/-- Items that can be read are the levels of a selector. -/
theorem exists_selector {levels : List (List Nat)}
    (reads : spelling.items.mapM (itemLevels spelling.source) = .ok levels) :
    ∃ selector, ofLevels? levels.flatten spelling.text = some selector := by
  obtain ⟨item, listed⟩ := List.exists_mem_of_ne_nil _ spelling.items_ne_nil
  obtain ⟨level, _, isItem⟩ := spelling.exists_levels_iff_isProper.mp ⟨levels, reads⟩ item listed
  have member : level ∈ sortLevels levels.flatten := by
    refine List.mem_filter.mpr ⟨isItem.means.mem_headingLevels, List.contains_iff_mem.mpr ?_⟩
    exact (spelling.mem_flatten_iff reads).mpr ⟨item, listed, isItem.means⟩
  rw [ofLevels?, dif_pos (List.ne_nil_of_mem member)]
  exact ⟨_, rfl⟩

/-- The selector that is read from a text is the one that the text spells. -/
theorem parse_eq_ok_iff {selector : Selector} :
    parse spelling.source = .ok selector ↔ spelling.Spells selector := by
  rw [parse_source]
  constructor
  · intro parsed
    obtain ⟨levels, reads, made⟩ := exists_of_bind_eq_ok parsed
    obtain ⟨found, isFound⟩ := spelling.exists_selector reads
    obtain rfl : found = selector := by simpa [isFound] using made
    obtain ⟨mem_iff, text_eq⟩ := ofLevels?_eq_some_iff.mp isFound
    refine ⟨spelling.exists_levels_iff_isProper.mp ⟨levels, reads⟩, fun level => ?_, text_eq⟩
    rw [mem_iff, spelling.mem_flatten_iff reads, and_iff_right_iff_imp]
    rintro ⟨item, _, means⟩
    exact means.mem_headingLevels
  · rintro ⟨proper, mem_iff, text_eq⟩
    obtain ⟨levels, reads⟩ := spelling.exists_levels_iff_isProper.mpr proper
    have made : ofLevels? levels.flatten spelling.text = some selector := by
      refine ofLevels?_eq_some_iff.mpr ⟨fun level => ?_, text_eq⟩
      rw [mem_iff, spelling.mem_flatten_iff reads, iff_and_self]
      rintro ⟨item, _, means⟩
      exact means.mem_headingLevels
    exact bind_eq_ok reads (by rw [made])

/-- A text is refused for the first item that is no level. -/
theorem parse_eq_error_iff {error : ParseError} :
    parse spelling.source = .error error ↔ spelling.Fails error := by
  simp only [parse_source, bind_eq_error_iff, mapM_eq_error_iff, itemLevels_eq_error_iff,
    exists_itemLevels_iff, Fails, or_iff_left_iff_imp]
  rintro ⟨levels, reads, impossible⟩
  obtain ⟨found, isFound⟩ := spelling.exists_selector reads
  rw [isFound] at impossible
  cases impossible

end Spelling

/-! ## Printing -/

/-- A level as it is printed. -/
def printLevel (level : Nat) : List Char := 'h' :: Nat.toDigits 10 level

/-- Levels and the text to narrow them by, as they are printed. -/
def print (levels : List Nat) (text : Option (List Char)) : List Char :=
  let front := [','].intercalate (levels.map printLevel)
  match text with
  | none => front
  | some text => front ++ ':' :: text

/-- A printed level is an item. -/
theorem isItem_printLevel (inside : level ∈ headingLevels) :
    IsItem (printLevel level) level false := by
  have all : ∀ level ∈ headingLevels, item? (printLevel level) = some (level, false) := by decide
  exact ⟨item?_eq_some_iff.mp (all level inside), mem_headingLevels_iff.mp inside⟩

/-- A printed level means itself alone. -/
theorem means_printLevel_iff {other : Nat} (inside : level ∈ headingLevels) :
    Means (printLevel level) other ↔ other = level := by
  constructor
  · rintro ⟨first, isOpen, isItem, meant⟩
    obtain ⟨rfl, rfl⟩ := (isItem_printLevel inside).eq isItem
    simpa using meant
  · rintro rfl
    exact (isItem_printLevel inside).means

/-- Neither a comma nor a mark is within a printed level. -/
theorem free_printLevel (inside : level ∈ headingLevels) :
    ∀ c ∈ printLevel level, c ≠ ',' ∧ c ≠ ':' ∧ c ≠ '=' := by
  have all : (headingLevels.all fun level =>
      (printLevel level).all fun c => c != ',' && c != ':' && c != '=') = true := by decide
  intro c within
  simpa [and_assoc] using List.all_eq_true.mp (List.all_eq_true.mp all level inside) c within

/-- A text that trimming keeps is not blank if it is not empty. -/
theorem isBlankText_of_trim {text : List Char} (trimmed : trim text = text) (nonempty : text ≠ []) :
    isBlankText text = false := by
  rw [← Bool.not_eq_true]
  intro blank
  have dropped : text.dropWhile isBlank = [] :=
    List.dropWhile_eq_nil_iff.mpr (List.all_eq_true.mp blank)
  rw [trim, trimBy, dropped] at trimmed
  exact nonempty trimmed.symm

variable {levels : List Nat} {text : Option (List Char)}

/-- How a printed selector is spelled. -/
def Spelling.ofPrinted (levels : List Nat) (text : Option (List Char)) (nonempty : levels ≠ [])
    (inside : ∀ level ∈ levels, level ∈ headingLevels) : Spelling where
  items := levels.map printLevel
  narrowing := text.map (':', ·)
  items_ne_nil := by simpa using nonempty
  items_free := by
    intro item listed
    obtain ⟨level, member, rfl⟩ := List.mem_map.mp listed
    exact free_printLevel (inside level member)
  mark_of_narrowing := by
    intro mark rest found
    obtain ⟨_, _, same⟩ := Option.map_eq_some_iff.mp found
    exact Or.inl (Prod.mk.inj same).1.symm

/-- A printed selector is read as that selector, in whatever order its levels are printed. -/
theorem parse_print {selector : Selector}
    (same : ∀ level, level ∈ levels ↔ level ∈ selector.levels)
    (trimmed : ∀ text ∈ selector.text, text ≠ [] ∧ trim text = text) :
    parse (print levels selector.text) = .ok selector := by
  have inside : ∀ level ∈ levels, level ∈ headingLevels := by
    intro level member
    have own := (same level).mp member
    rw [selector.canonical] at own
    exact (List.mem_filter.mp own).1
  have nonempty : levels ≠ [] := by
    obtain ⟨level, member⟩ := List.exists_mem_of_ne_nil _ selector.nonempty
    exact List.ne_nil_of_mem ((same level).mpr member)
  let spelling := Spelling.ofPrinted levels selector.text nonempty inside
  have printed : spelling.source = print levels selector.text := by
    simp only [spelling, Spelling.source, Spelling.ofPrinted, Spelling.front, print]
    cases selector.text <;> rfl
  rw [← printed, Spelling.parse_eq_ok_iff]
  refine ⟨?_, fun level => ?_, ?_⟩
  · intro item listed
    obtain ⟨level, member, rfl⟩ := List.mem_map.mp listed
    exact ⟨level, false, isItem_printLevel (inside level member)⟩
  · rw [← same]
    constructor
    · intro member
      exact ⟨_, List.mem_map_of_mem member, (isItem_printLevel (inside level member)).means⟩
    · rintro ⟨_, listed, means⟩
      obtain ⟨own, member, rfl⟩ := List.mem_map.mp listed
      rwa [(means_printLevel_iff (inside own member)).mp means]
  · cases narrowed : selector.text with
    | none => simp only [spelling, Spelling.text, Spelling.ofPrinted, narrowed, Option.map_none]
    | some text =>
      obtain ⟨notEmpty, kept⟩ := trimmed text narrowed
      simp [spelling, Spelling.text, Spelling.ofPrinted, narrowed, kept,
        isBlankText_of_trim kept notEmpty]

/-- Selectors are read by their grammar, and what is printed is read back. Every text is items with
commas between them, and possibly a colon or an equals sign with something behind it. It is read as
a selector exactly if each item is a level that headings have, and then as the one that it spells;
otherwise it is refused for the first item that is none. A selector that is narrowed by no text, or
by one that trimming keeps, is what is read of its levels and its text as they are printed, in
whatever order and however often its levels are. -/
theorem parse_grammar :
    (∀ spec, ∃ spelling : Spelling, spelling.source = spec) ∧
      (∀ spelling : Spelling,
        ((∃ selector, parse spelling.source = .ok selector) ↔ spelling.IsProper) ∧
          (∀ selector, parse spelling.source = .ok selector ↔ spelling.Spells selector) ∧
            ∀ error, parse spelling.source = .error error ↔ spelling.Fails error) ∧
      ∀ (selector : Selector) (levels : List Nat),
        (∀ level, level ∈ levels ↔ level ∈ selector.levels) →
          (∀ text ∈ selector.text, text ≠ [] ∧ trim text = text) →
            parse (print levels selector.text) = .ok selector := by
  refine ⟨Spelling.exists_spelling, fun spelling => ⟨?_, fun selector => spelling.parse_eq_ok_iff,
    fun error => spelling.parse_eq_error_iff⟩, fun selector levels => parse_print⟩
  rw [← spelling.exists_levels_iff_isProper]
  constructor
  · rintro ⟨selector, parsed⟩
    exact spelling.exists_levels_iff_isProper.mpr (spelling.parse_eq_ok_iff.mp parsed).isProper
  · rintro ⟨levels, reads⟩
    obtain ⟨selector, made⟩ := spelling.exists_selector reads
    exact ⟨selector, spelling.parse_source.trans (bind_eq_ok reads (by rw [made]))⟩

/-- A selector is printed with its levels in any order, and a text that looks like a selector is
read as a text. -/
theorem parse_grammar_of_twoLevels :
    let selector : Selector := ⟨[2, 4], some "h1,h3+=x:y".toList, rfl, by decide⟩
    (∀ level, level ∈ [4, 2, 4] ↔ level ∈ selector.levels) ∧
      (∀ text ∈ selector.text, text ≠ [] ∧ trim text = text) ∧
        print [4, 2, 4] selector.text = "h4,h2,h4:h1,h3+=x:y".toList ∧
          parse (print [4, 2, 4] selector.text) = .ok selector := by
  intro selector
  have same : ∀ level, level ∈ [4, 2, 4] ↔ level ∈ selector.levels := by
    intro level
    simp [selector]
    omega
  have trimmed : ∀ text ∈ selector.text, text ≠ [] ∧ trim text = text := by decide
  exact ⟨same, trimmed, rfl, parse_grammar.2.2 selector [4, 2, 4] same trimmed⟩

end FoldMark.Selector
