import FoldMark.Page
import Mathlib.Logic.Relation

/-!
# Leaving out what has no value

What stands in a pruned value is what stood in it before without nulls, each item and each value of
a key pruned in turn (`children_withoutNulls`). So at no depth a null is left, and nothing else is
missing: `withoutNulls_exact`.
-/

namespace FoldMark

namespace Value

/-- Whether it is no value. -/
def isNull : Value → Bool
  | .null => true
  | _ => false

/-- Whether it is a list of fixed length. -/
def isTuple : Value → Bool
  | .tuple _ => true
  | _ => false

/-- What stands in a value: the items of a sequence, or the values of the keys of a mapping. -/
def children : Value → List Value
  | .list _ items | .tuple items => items
  | .map _ entries => entries.map (·.2)
  | _ => []

/-- A value stands within another, at any depth. -/
def Within : Value → Value → Prop := Relation.TransGen fun inner outer => inner ∈ outer.children

variable {inner outer : Value}

/-- What stands in a value is smaller. -/
theorem sizeOf_lt_of_mem_children (member : inner ∈ outer.children) :
    sizeOf inner < sizeOf outer := by
  cases outer with
  | list id items | tuple items =>
    have smaller : sizeOf inner < sizeOf items := List.sizeOf_lt_of_mem member
    simp only [list.sizeOf_spec, tuple.sizeOf_spec]
    omega
  | map id entries =>
    obtain ⟨entry, listed, rfl⟩ := List.mem_map.mp member
    have smaller : sizeOf entry < sizeOf entries := List.sizeOf_lt_of_mem listed
    obtain ⟨key, value⟩ := entry
    simp only [map.sizeOf_spec, Prod.mk.sizeOf_spec] at smaller ⊢
    omega
  | _ => simp [children] at member

/-- What holds of a value if it holds of all that stands in it holds of every value. -/
theorem children_induction {motive : Value → Prop}
    (step : ∀ value, (∀ child ∈ value.children, motive child) → motive value) (value : Value) :
    motive value :=
  step value fun child _ => children_induction step child
termination_by sizeOf value
decreasing_by exact sizeOf_lt_of_mem_children ‹_›

/-- Nothing stands within what is no value. -/
theorem Within.isNull_eq_false (within : Within inner outer) : outer.isNull = false := by
  obtain ⟨middle, -, member⟩ := Relation.TransGen.tail'_iff.mp within
  cases outer with
  | null => simp [children] at member
  | _ => rfl

end Value

namespace Toml

open Value

/-- Items are left out for being no value alone. -/
theorem itemsWithoutNulls_eq (items : List Value) :
    itemsWithoutNulls items = (items.filter fun item => !item.isNull).map withoutNulls := by
  induction items with
  | nil => rfl
  | cons item rest hypothesis =>
    cases item with
    | null => exact hypothesis
    | _ => exact congrArg (_ :: ·) hypothesis

/-- Entries are left out for having no value alone. -/
theorem entriesWithoutNulls_eq (entries : List (Value × Value)) :
    entriesWithoutNulls entries =
      (entries.filter fun entry => !entry.2.isNull).map fun entry =>
        (entry.1, withoutNulls entry.2) := by
  induction entries with
  | nil => rfl
  | cons entry rest hypothesis =>
    obtain ⟨key, value⟩ := entry
    cases value with
    | null => exact hypothesis
    | _ => exact congrArg (_ :: ·) hypothesis

/-- What stands in a pruned value. -/
theorem children_withoutNulls (value : Value) :
    (withoutNulls value).children =
      (value.children.filter fun child => !child.isNull).map withoutNulls := by
  cases value with
  | list id items | tuple items => exact itemsWithoutNulls_eq items
  | map id entries =>
    simp only [withoutNulls, children, entriesWithoutNulls_eq, List.filter_map, List.map_map]
    rfl
  | _ => rfl

/-- What stands in a pruned value stood in it before and was pruned. -/
theorem mem_children_withoutNulls {inner value : Value} :
    inner ∈ (withoutNulls value).children ↔
      ∃ child ∈ value.children, child.isNull = false ∧ inner = withoutNulls child := by
  rw [children_withoutNulls, List.mem_map]
  constructor
  · rintro ⟨child, kept, rfl⟩
    obtain ⟨member, solid⟩ := List.mem_filter.mp kept
    exact ⟨child, member, by simpa using solid, rfl⟩
  · rintro ⟨child, member, solid, rfl⟩
    exact ⟨child, List.mem_filter.mpr ⟨member, by simp [solid]⟩, rfl⟩

/-- Pruning makes nothing of no value. -/
theorem isNull_withoutNulls (value : Value) : (withoutNulls value).isNull = value.isNull := by
  cases value <;> rfl

/-- Pruning leaves no list of fixed length. -/
theorem isTuple_withoutNulls (value : Value) : (withoutNulls value).isTuple = false := by
  cases value <;> rfl

/-- What stands within a pruned value are the pruned values that stood within it before and are not
null. -/
theorem within_withoutNulls_iff {inner value : Value} :
    Within inner (withoutNulls value) ↔
      ∃ original, Within original value ∧ original.isNull = false ∧
        inner = withoutNulls original := by
  constructor
  · intro within
    induction value using children_induction with
    | step value hypothesis =>
      cases within with
      | single member =>
        obtain ⟨child, listed, solid, rfl⟩ := mem_children_withoutNulls.mp member
        exact ⟨child, .single listed, solid, rfl⟩
      | tail deeper member =>
        obtain ⟨child, listed, -, rfl⟩ := mem_children_withoutNulls.mp member
        obtain ⟨original, below, solid, same⟩ := hypothesis child listed deeper
        exact ⟨original, below.tail listed, solid, same⟩
  · rintro ⟨original, within, solid, rfl⟩
    induction within with
    | single member =>
      exact .single (mem_children_withoutNulls.mpr ⟨original, member, solid, rfl⟩)
    | tail deeper member hypothesis =>
      have passed := Within.isNull_eq_false deeper
      exact hypothesis.tail (mem_children_withoutNulls.mpr ⟨_, member, passed, rfl⟩)

/-- Nothing is left out of items that are not null and are changed by nothing. -/
theorem itemsWithoutNulls_of_same {items : List Value}
    (same : ∀ item ∈ items, item.isNull = false ∧ withoutNulls item = item) :
    itemsWithoutNulls items = items := by
  have kept : ∀ item ∈ items, (!item.isNull) = true := fun item member => by
    simp [(same item member).1]
  rw [itemsWithoutNulls_eq, List.filter_eq_self.mpr kept,
    List.map_congr_left fun item member => (same item member).2, List.map_id']

/-- Nothing is left out of entries whose values are not null and are changed by nothing. -/
theorem entriesWithoutNulls_of_same {entries : List (Value × Value)}
    (same : ∀ entry ∈ entries, entry.2.isNull = false ∧ withoutNulls entry.2 = entry.2) :
    entriesWithoutNulls entries = entries := by
  have kept : ∀ entry ∈ entries, (!entry.2.isNull) = true := fun entry member => by
    simp [(same entry member).1]
  have unchanged : ∀ entry ∈ entries, (entry.1, withoutNulls entry.2) = entry :=
    fun entry member => by rw [(same entry member).2]
  rw [entriesWithoutNulls_eq, List.filter_eq_self.mpr kept, List.map_congr_left unchanged,
    List.map_id']

/-- Pruning changes nothing in a value that holds neither nulls nor lists of fixed length. -/
theorem withoutNulls_of_pruned (value : Value) (listed : value.isTuple = false)
    (pruned : ∀ inner, Within inner value → inner.isNull = false ∧ inner.isTuple = false) :
    withoutNulls value = value := by
  induction value using children_induction with
  | step value hypothesis =>
    have same : ∀ child ∈ value.children, child.isNull = false ∧ withoutNulls child = child := by
      intro child member
      obtain ⟨solid, isListed⟩ := pruned child (.single member)
      have below : ∀ inner, Within inner child → inner.isNull = false ∧ inner.isTuple = false :=
        fun inner within => pruned inner (within.tail member)
      exact ⟨solid, hypothesis child member isListed below⟩
    cases value with
    | list id items => exact congrArg (Value.list id) (itemsWithoutNulls_of_same same)
    | map id entries =>
      have each : ∀ entry ∈ entries, entry.2.isNull = false ∧ withoutNulls entry.2 = entry.2 :=
        fun entry member => same entry.2 (List.mem_map_of_mem member)
      exact congrArg (Value.map id) (entriesWithoutNulls_of_same each)
    | tuple items => cases listed
    | _ => rfl

/-- Pruning leaves neither nulls nor lists of fixed length within a value. -/
theorem pruned_withoutNulls {inner value : Value} (within : Within inner (withoutNulls value)) :
    inner.isNull = false ∧ inner.isTuple = false := by
  obtain ⟨original, -, solid, rfl⟩ := within_withoutNulls_iff.mp within
  exact ⟨(isNull_withoutNulls original).trans solid, isTuple_withoutNulls original⟩

/-! ## Writing -/

/-- Writes a table all of whose values TOML has. -/
def encode (table : Value) : Except WriteError CodeText :=
  (writeTables [] table).map fun tables => (CodeText.ofString "\n").intercalate tables

/-- A table that is not endless is pruned and encoded. -/
theorem write_eq_encode {value : Value} (ends : isEndless value = false) :
    write value = encode (withoutNulls value) := by
  rw [write, ends, if_neg Bool.false_ne_true, encode]

/-- Pruning drops the items and the entries of a mapping that are null, at every depth, and nothing
else: the others stay in order and under their keys, each pruned, and lists of fixed length become
lists. So what stands within a pruned value is what stood there before without nulls, pruned; it is
neither a null nor a list of fixed length. Pruning again changes nothing, and neither does pruning
what holds none of both. A page is written in TOML by encoding its pruned payload. -/
theorem withoutNulls_exact (value : Value) :
    (∀ inner, Within inner (withoutNulls value) → inner.isNull = false ∧ inner.isTuple = false) ∧
    (∀ inner, Within inner (withoutNulls value) ↔
      ∃ original, Within original value ∧ original.isNull = false ∧
        inner = withoutNulls original) ∧
    (∀ id items, value = .list id items → withoutNulls value =
      .list id ((items.filter fun item => !item.isNull).map withoutNulls)) ∧
    (∀ items, value = .tuple items → withoutNulls value =
      .list none ((items.filter fun item => !item.isNull).map withoutNulls)) ∧
    (∀ id entries, value = .map id entries → withoutNulls value =
      .map id ((entries.filter fun entry => !entry.2.isNull).map fun entry =>
        (entry.1, withoutNulls entry.2))) ∧
    withoutNulls (withoutNulls value) = withoutNulls value ∧
    (value.isTuple = false →
      (∀ inner, Within inner value → inner.isNull = false ∧ inner.isTuple = false) →
      withoutNulls value = value) ∧
    ∀ page : Page, page.payload = value → isEndless value = false →
      page.write .toml = encode (withoutNulls value) := by
  refine ⟨fun _ => pruned_withoutNulls, fun _ => within_withoutNulls_iff, ?_, ?_, ?_, ?_,
    withoutNulls_of_pruned value, ?_⟩
  · rintro id items rfl
    rw [withoutNulls, itemsWithoutNulls_eq]
  · rintro items rfl
    rw [withoutNulls, itemsWithoutNulls_eq]
  · rintro id entries rfl
    rw [withoutNulls, entriesWithoutNulls_eq]
  · exact withoutNulls_of_pruned _ (isTuple_withoutNulls value) fun _ => pruned_withoutNulls
  · rintro page rfl ends
    exact write_eq_encode ends

end Toml

end FoldMark
