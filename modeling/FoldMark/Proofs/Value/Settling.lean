import FoldMark.Proofs.Chain
import FoldMark.Proofs.Text.CodePoint
import FoldMark.Proofs.Value.All
import FoldMark.Toml.Writer

/-!
# Values that are settled

A writer refuses some values for their kinds. A value is settled if nothing but a refusal keeps it
from being written where nothing else can: where it does not contain itself, and no integer in it
has too many digits. A value that is settled is written only there.
-/

namespace FoldMark

open Value

/-! ## Settled outcomes -/

/-- An outcome is a refusal, or a value that satisfies a condition. -/
abbrev Refuses {α : Type} (condition : α → Prop) (outcome : Except WriteError α) : Prop :=
  Ends (fun error => error.isRefusal = true) condition outcome

/-- An outcome is a value that satisfies a condition only if it can be one, and where it can be one,
it is that or a refusal. -/
def Settles {α : Type} (can : Prop) (condition : α → Prop) (outcome : Except WriteError α) : Prop :=
  Ends (fun error => can → error.isRefusal = true) (fun value => can ∧ condition value) outcome

namespace Settles

variable {α β : Type} {can later : Prop} {condition : α → Prop} {result : β → Prop}
  {outcome : Except WriteError α}

/-- A refusal. -/
theorem refusal {error : WriteError} (isRefusal : error.isRefusal = true) :
    Settles can condition (.error error) := fun _ => isRefusal

/-- What cannot be a value is none. -/
theorem never {error : WriteError} (cannot : ¬can) : Settles can condition (.error error) :=
  fun possible => absurd possible cannot

/-- The same possibility, told otherwise. -/
theorem of_iff (same : can ↔ later) (settles : Settles can condition outcome) :
    Settles later condition outcome := propext same ▸ settles

/-- A weaker condition. -/
theorem mono {weaker : α → Prop} (settles : Settles can condition outcome)
    (implies : ∀ value, condition value → weaker value) : Settles can weaker outcome :=
  Ends.mono settles fun value holds => ⟨holds.1, implies value holds.2⟩

/-- Changing a value. -/
theorem map {change : α → β} (settles : Settles can condition outcome)
    (changed : ∀ value, condition value → result (change value)) :
    Settles can result (outcome.map change) :=
  Ends.map settles fun value holds => ⟨holds.1, changed value holds.2⟩

/-- A step after another. -/
theorem bind {next : α → Except WriteError β} (settles : Settles can condition outcome)
    (after : ∀ value, condition value → Settles later result (next value)) :
    Settles (can ∧ later) result (outcome >>= next) := by
  cases outcome with
  | error error => exact fun both => settles both.1
  | ok value =>
    refine Ends.mono_error (Ends.mono (after value settles.2) fun found holds => ?_) ?_
    · exact ⟨⟨settles.1, holds.1⟩, holds.2⟩
    · exact fun error refused both => refused both.2

/-- What can be a value is one or a refusal. -/
theorem refuses (settles : Settles can condition outcome) (possible : can) :
    Refuses condition outcome :=
  (Ends.mono settles fun _ holds => holds.2).mono_error fun _ refused => refused possible

/-- What is a value can be one. -/
theorem possible {value : α} (settles : Settles can condition outcome)
    (found : outcome = .ok value) : can := by
  subst found
  exact settles.1

end Settles

/-! ## Values within themselves -/

namespace Toml

variable {items : List Value} {entries : List (Value × Value)} {value : Value}

/-- Values are not endless if none of them is. -/
theorem anyEndless_eq_false_iff :
    anyEndless items = false ↔ ∀ item ∈ items, isEndless item = false := by
  induction items with
  | nil => simp [anyEndless]
  | cons item rest hypothesis => simp [anyEndless, hypothesis]

/-- Entries are not endless if no value of them is. -/
theorem anyEntryEndless_eq_false_iff :
    anyEntryEndless entries = false ↔ ∀ entry ∈ entries, isEndless entry.2 = false := by
  induction entries with
  | nil => simp [anyEntryEndless]
  | cons entry rest hypothesis => simp [anyEntryEndless, hypothesis]

mutual

/-- A value that stands in one place is not within itself. -/
theorem isEndless_of_unshared (value : Value) (unshared : value.all isUnshared = true) :
    isEndless value = false := by
  cases value with
  | list id items | tuple items =>
    rw [all, Bool.and_eq_true] at unshared
    exact anyEndless_of_unshared items unshared.2
  | map id entries => exact anyEntryEndless_of_unshared entries (Bool.and_eq_true_iff.mp unshared).2
  | again id => cases unshared
  | _ => rfl

/-- Values that stand in one place are not within themselves. -/
theorem anyEndless_of_unshared (items : List Value) (unshared : allItems isUnshared items = true) :
    anyEndless items = false := by
  cases items with
  | nil => rfl
  | cons item rest =>
    obtain ⟨first, later⟩ := Bool.and_eq_true_iff.mp unshared
    exact Bool.or_eq_false_iff.mpr
      ⟨isEndless_of_unshared item first, anyEndless_of_unshared rest later⟩

/-- Values of keys that stand in one place are not within themselves. -/
theorem anyEntryEndless_of_unshared (entries : List (Value × Value))
    (unshared : allEntries isUnshared entries = true) : anyEntryEndless entries = false := by
  cases entries with
  | nil => rfl
  | cons entry rest =>
    obtain ⟨key, value⟩ := entry
    obtain ⟨first, later⟩ := Bool.and_eq_true_iff.mp unshared
    exact Bool.or_eq_false_iff.mpr
      ⟨isEndless_of_unshared value (Bool.and_eq_true_iff.mp first).2,
        anyEntryEndless_of_unshared rest later⟩

end

end Toml

/-! ## Values that can be written -/

namespace Value

/-- A value does not contain itself and has no integer of too many digits. -/
def CanWrite (value : Value) : Prop := Toml.isEndless value = false ∧ value.all isShort = true

/-- Values do not contain themselves and have no integer of too many digits. -/
def CanWriteItems (items : List Value) : Prop :=
  Toml.anyEndless items = false ∧ allItems isShort items = true

/-- Entries do not contain themselves and have no integer of too many digits. -/
def CanWriteEntries (entries : List (Value × Value)) : Prop :=
  Toml.anyEntryEndless entries = false ∧ allEntries isShort entries = true

/-- Of some values, the first and the others. -/
theorem canWriteItems_cons {item : Value} {rest : List Value} :
    CanWriteItems (item :: rest) ↔ item.CanWrite ∧ CanWriteItems rest := by
  simp only [CanWriteItems, CanWrite, Toml.anyEndless, allItems, Bool.or_eq_false_iff,
    Bool.and_eq_true]
  exact and_and_and_comm

/-- Of some entries, the key and the value of the first and the others. -/
theorem canWriteEntries_cons {key value : Value} {rest : List (Value × Value)} :
    CanWriteEntries ((key, value) :: rest) ↔
      key.all isShort = true ∧ value.CanWrite ∧ CanWriteEntries rest := by
  simp only [CanWriteEntries, CanWrite, Toml.anyEntryEndless, allEntries, Bool.or_eq_false_iff,
    Bool.and_eq_true]
  tauto

/-- Values can be written if each of them can. -/
theorem canWriteItems_iff {items : List Value} :
    CanWriteItems items ↔ ∀ item ∈ items, item.CanWrite := by
  rw [CanWriteItems, Toml.anyEndless_eq_false_iff, allItems_iff]
  exact forall₂_and.symm

/-- The values of entries that can be written can be. -/
theorem CanWriteEntries.value {entries : List (Value × Value)} (can : CanWriteEntries entries)
    {entry : Value × Value} (member : entry ∈ entries) : entry.2.CanWrite :=
  ⟨Toml.anyEntryEndless_eq_false_iff.mp can.1 entry member,
    (allEntries_iff.mp can.2 entry member).2⟩

mutual

/-- A value has no integer of too many digits if none is found in it. -/
theorem longInt?_eq_none_iff (value : Value) :
    value.longInt? = none ↔ value.all isShort = true := by
  cases value with
  | int n => cases long : isLongInt n <;> simp [longInt?, all, isShort, long]
  | list id items | tuple items | set id items => exact longItem?_eq_none_iff items
  | map id entries => exact longPair?_eq_none_iff entries
  | _ => exact iff_of_true rfl rfl

/-- Values have no integer of too many digits if none is found in them. -/
theorem longItem?_eq_none_iff (items : List Value) :
    longItem? items = none ↔ allItems isShort items = true := by
  cases items with
  | nil => exact iff_of_true rfl rfl
  | cons item rest =>
    rw [longItem?, Option.or_eq_none_iff, longInt?_eq_none_iff item, longItem?_eq_none_iff rest,
      allItems, Bool.and_eq_true]

/-- Entries have no integer of too many digits if none is found in them. -/
theorem longPair?_eq_none_iff (entries : List (Value × Value)) :
    longPair? entries = none ↔ allEntries isShort entries = true := by
  cases entries with
  | nil => exact iff_of_true rfl rfl
  | cons entry rest =>
    obtain ⟨key, value⟩ := entry
    rw [longPair?, Option.or_eq_none_iff, Option.or_eq_none_iff, longInt?_eq_none_iff key,
      longInt?_eq_none_iff value, longPair?_eq_none_iff rest, allEntries, Bool.and_eq_true,
      Bool.and_eq_true]

end

/-- A value is shown as characters if no integer in it has too many digits. -/
theorem settles_writeShown (value : Value) :
    Settles (value.all isShort = true) CodeText.IsUnicode (writeShown value) := by
  rw [writeShown]
  split
  · rename_i n found
    refine .never fun short => ?_
    rw [(longInt?_eq_none_iff value).mpr short] at found
    cases found
  · exact ⟨(longInt?_eq_none_iff value).mp ‹_›, CodeText.isUnicode_ofChars _⟩

/-- A value that does not contain itself is settled by being shown. -/
theorem settles_shown {value : Value} (ends : Toml.isEndless value = false) :
    Settles value.CanWrite CodeText.IsUnicode (writeShown value) :=
  (settles_writeShown value).of_iff (and_iff_right ends).symm

end Value

end FoldMark
