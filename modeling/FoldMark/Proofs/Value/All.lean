import FoldMark.Payload

/-!
# Tests of values at every depth

A value passes a test throughout if it does itself and so does all that is within it, the keys of
mappings and the members of sets included. What is put together of such values is one
(`all_insert`), and a test that follows from another follows throughout (`all_mono`). Three tests
tell the formats apart in what they can hold: `isUntimed`, `isUnshared` and `isShort`. A fourth,
`isUnicode`, is passed by the texts that there are bytes for.
-/

namespace FoldMark.Value

mutual

/-- Whether a value and all that is within it pass a test. -/
def all (test : Value → Bool) : Value → Bool
  | .list id items => test (.list id items) && allItems test items
  | .tuple items => test (.tuple items) && allItems test items
  | .set id items => test (.set id items) && allItems test items
  | .map id entries => test (.map id entries) && allEntries test entries
  | value => test value

/-- Whether values pass a test throughout. -/
def allItems (test : Value → Bool) : List Value → Bool
  | [] => true
  | item :: rest => item.all test && allItems test rest

/-- Whether keys and their values pass a test throughout. -/
def allEntries (test : Value → Bool) : List (Value × Value) → Bool
  | [] => true
  | (key, value) :: rest => key.all test && value.all test && allEntries test rest

end

/-- Whether a value is no time of day. -/
def isUntimed : Value → Bool
  | .time _ => false
  | _ => true

/-- Whether a value has no identity, and so stands in one place. -/
def isUnshared : Value → Bool
  | .date id _ | .dateTime id _ | .list id _ | .set id _ | .map id _ => id.isNone
  | .again _ => false
  | _ => true

/-- Whether a value is no integer of too many digits. -/
def isShort : Value → Bool
  | .int n => !isLongInt n
  | _ => true

/-- Whether a value is no text with half a surrogate pair. -/
def isUnicode : Value → Bool
  | .str s => s.chars?.isSome
  | _ => true

/-- Whether a value is no time of day, stands in one place and is no integer of too many digits. -/
def isPlain (value : Value) : Bool := value.isUntimed && value.isUnshared && value.isShort

variable {test other : Value → Bool} {items : List Value} {entries : List (Value × Value)}
  {key value : Value}

/-- An integer has no more digits than are written if it is below the power of ten that has more. -/
theorem isLongInt_eq_false_iff {n : Int} :
    isLongInt n = false ↔ n.natAbs < Nat.pow 10 Number.maxDigits := by
  have positive : 0 < Number.maxDigits := by decide
  rw [isLongInt, decide_eq_false_iff_not, Nat.not_lt]
  generalize Number.maxDigits = limit at positive ⊢
  exact Nat.length_toDigits_le_iff (by decide) positive

/-- Values pass a test throughout if each of them does. -/
@[simp] theorem allItems_iff :
    allItems test items = true ↔ ∀ item ∈ items, item.all test = true := by
  induction items with
  | nil => simp [allItems]
  | cons item rest hypothesis => simp [allItems, hypothesis]

/-- Entries pass a test throughout if each key and each value does. -/
@[simp] theorem allEntries_iff :
    allEntries test entries = true ↔
      ∀ entry ∈ entries, entry.1.all test = true ∧ entry.2.all test = true := by
  induction entries with
  | nil => simp [allEntries]
  | cons entry rest hypothesis =>
    obtain ⟨key, value⟩ := entry
    simp [allEntries, hypothesis]

/-- Entries that pass a test throughout do so with one more, or with another value of a key. -/
theorem all_insert (passes : allEntries test entries = true) (keyPasses : key.all test = true)
    (valuePasses : value.all test = true) : allEntries test (insert entries key value) = true := by
  rw [allEntries_iff] at passes ⊢
  intro entry member
  rw [insert] at member
  split at member
  · obtain ⟨old, listed, rfl⟩ := List.mem_map.mp member
    split
    · exact ⟨(passes old listed).1, valuePasses⟩
    · exact passes old listed
  · rcases List.mem_append.mp member with before | last
    · exact passes entry before
    · rw [List.mem_singleton.mp last]
      exact ⟨keyPasses, valuePasses⟩

mutual

/-- A test that follows from another follows throughout a value. -/
theorem all_mono (implies : ∀ value, test value = true → other value = true)
    (value : Value) (passes : value.all test = true) : value.all other = true := by
  cases value with
  | list id items | tuple items | set id items =>
    obtain ⟨itself, inner⟩ := Bool.and_eq_true_iff.mp passes
    exact Bool.and_eq_true_iff.mpr ⟨implies _ itself, allItems_mono implies items inner⟩
  | map id entries =>
    obtain ⟨itself, inner⟩ := Bool.and_eq_true_iff.mp passes
    exact Bool.and_eq_true_iff.mpr ⟨implies _ itself, allEntries_mono implies entries inner⟩
  | _ => exact implies _ passes

/-- A test that follows from another follows throughout values. -/
theorem allItems_mono (implies : ∀ value, test value = true → other value = true)
    (items : List Value) (passes : allItems test items = true) :
    allItems other items = true := by
  cases items with
  | nil => rfl
  | cons item rest =>
    obtain ⟨first, later⟩ := Bool.and_eq_true_iff.mp passes
    exact Bool.and_eq_true_iff.mpr ⟨all_mono implies item first, allItems_mono implies rest later⟩

/-- A test that follows from another follows throughout entries. -/
theorem allEntries_mono (implies : ∀ value, test value = true → other value = true)
    (entries : List (Value × Value)) (passes : allEntries test entries = true) :
    allEntries other entries = true := by
  cases entries with
  | nil => rfl
  | cons entry rest =>
    obtain ⟨key, value⟩ := entry
    obtain ⟨first, later⟩ := Bool.and_eq_true_iff.mp passes
    obtain ⟨keyPasses, valuePasses⟩ := Bool.and_eq_true_iff.mp first
    exact Bool.and_eq_true_iff.mpr ⟨Bool.and_eq_true_iff.mpr
      ⟨all_mono implies key keyPasses, all_mono implies value valuePasses⟩,
      allEntries_mono implies rest later⟩

end

mutual

/-- A value that passes each of two tests throughout passes both throughout. -/
theorem all_and (value : Value) (passes : value.all test = true)
    (passesOther : value.all other = true) :
    (value.all fun value => test value && other value) = true := by
  cases value with
  | list id items | tuple items | set id items =>
    obtain ⟨itself, inner⟩ := Bool.and_eq_true_iff.mp passes
    obtain ⟨itselfOther, innerOther⟩ := Bool.and_eq_true_iff.mp passesOther
    exact Bool.and_eq_true_iff.mpr ⟨Bool.and_eq_true_iff.mpr ⟨itself, itselfOther⟩,
      allItems_and items inner innerOther⟩
  | map id entries =>
    obtain ⟨itself, inner⟩ := Bool.and_eq_true_iff.mp passes
    obtain ⟨itselfOther, innerOther⟩ := Bool.and_eq_true_iff.mp passesOther
    exact Bool.and_eq_true_iff.mpr ⟨Bool.and_eq_true_iff.mpr ⟨itself, itselfOther⟩,
      allEntries_and entries inner innerOther⟩
  | _ => exact Bool.and_eq_true_iff.mpr ⟨passes, passesOther⟩

/-- Values that pass each of two tests throughout pass both throughout. -/
theorem allItems_and (items : List Value) (passes : allItems test items = true)
    (passesOther : allItems other items = true) :
    allItems (fun value => test value && other value) items = true := by
  cases items with
  | nil => rfl
  | cons item rest =>
    obtain ⟨first, later⟩ := Bool.and_eq_true_iff.mp passes
    obtain ⟨firstOther, laterOther⟩ := Bool.and_eq_true_iff.mp passesOther
    exact Bool.and_eq_true_iff.mpr
      ⟨all_and item first firstOther, allItems_and rest later laterOther⟩

/-- Entries that pass each of two tests throughout pass both throughout. -/
theorem allEntries_and (entries : List (Value × Value)) (passes : allEntries test entries = true)
    (passesOther : allEntries other entries = true) :
    allEntries (fun value => test value && other value) entries = true := by
  cases entries with
  | nil => rfl
  | cons entry rest =>
    obtain ⟨key, value⟩ := entry
    obtain ⟨first, later⟩ := Bool.and_eq_true_iff.mp passes
    obtain ⟨keyPasses, valuePasses⟩ := Bool.and_eq_true_iff.mp first
    obtain ⟨firstOther, laterOther⟩ := Bool.and_eq_true_iff.mp passesOther
    obtain ⟨keyOther, valueOther⟩ := Bool.and_eq_true_iff.mp firstOther
    exact Bool.and_eq_true_iff.mpr ⟨Bool.and_eq_true_iff.mpr
      ⟨all_and key keyPasses keyOther, all_and value valuePasses valueOther⟩,
      allEntries_and rest later laterOther⟩

end

end FoldMark.Value
