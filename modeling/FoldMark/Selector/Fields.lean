import FoldMark.Fields
import FoldMark.Selector

/-!
# Selectors from fields

A selector can also be given as a mapping of its levels and its text.
-/

namespace FoldMark.Selector

open Fields

/-- The problems of the items of a list, and the values of those that have none. -/
def readItems {ε α : Type} (reader : Value → Except ε α) : Nat → List Value → Checked ε (List α)
  | _, [] => .good []
  | index, item :: rest =>
    let first : Checked ε α := match reader item with
      | .ok value => .good value
      | .error cause => .bad [⟨[toString index], cause⟩]
    (Checked.map List.cons first).apply (readItems reader (index + 1) rest)

/-- The items of a list or a set. -/
def items? : Value → Option (List Value)
  | .list _ items | .tuple items | .set _ items => some items
  | _ => none

/-- Numbers in ascending order, each once. -/
def ascending (numbers : List Int) : List Int := numbers.eraseDups.mergeSort (· ≤ ·)

/-- Levels, if they are some and all of them are levels of headings. -/
def checkLevels (numbers : List Int) : Except Error (List Nat) :=
  let bad := ascending (numbers.filter fun n => !(1 ≤ n && n ≤ 6))
  if numbers.isEmpty then .error .noLevels
  else if bad.isEmpty then .ok (numbers.map Int.toNat)
  else .error (.badLevels bad)

/-- Reads a set of levels. -/
def readLevels (value : Value) : Checked Error (List Nat) :=
  match items? value with
  | none => .bad [⟨[], .notSet⟩]
  | some items =>
    match readItems int 0 items with
    | .bad problems => .bad problems
    | .good numbers =>
      match checkLevels numbers with
      | .ok levels => .good levels
      | .error cause => .bad [⟨[], cause⟩]

/-- Reads the field of the levels, which must be there. -/
def levelsField (entries : Entries) : Checked Error (List Nat) :=
  let found : Checked Error (List Nat) := match entries.lookup "levels" with
    | none => .bad [⟨[], .missing⟩]
    | some value => readLevels value
  match found with
  | .good levels => .good levels
  | .bad problems => .bad (problems.map (Problem.within "levels"))

/-- Reads a selector from its fields. -/
def ofEntries (entries : Entries) : Except (List (Problem Error)) Selector := do
  let fields : Checked Error (List Nat × Option (List Char)) :=
    Prod.mk <$> levelsField entries <*> readField entries "text" optionalText none
  let (levels, text) ← (fields.also (unknown ["levels", "text"] entries)).toExcept
  match ofLevels? levels text with
  | some selector => .ok selector
  | none => .error [⟨["levels"], .noLevels⟩]

/-- The wording of what is wrong with the fields of a selector. -/
def fieldsMessage (problems : List (Problem Error)) : String :=
  "Invalid HeadingSelector: " ++ Problem.messages Error.message problems

end FoldMark.Selector
