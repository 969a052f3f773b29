import FoldMark.Proofs.Value.Settling
import FoldMark.Yaml.Writer

/-!
# Values written as YAML

A value without a time of day and without an integer of too many digits is written
(`Yaml.exists_write`). A value that holds one of these, and in which no container stands twice, is
not, and the error tells of it (`Yaml.stops_write`).
-/

namespace FoldMark

open Value

/-- Whether a value has a representation in YAML: it is no time of day and no integer of too many
digits. -/
def Value.isRepresentable (value : Value) : Bool := value.isUntimed && value.isShort

namespace Yaml

/-! ## Values that are met once -/

namespace Met

mutual

/-- A value that stands in one place is not met again. -/
theorem visit_of_unshared (met : Met) (value : Value) (unshared : value.all isUnshared = true) :
    met.visit value = met := by
  cases value with
  | date id | dateTime id =>
    obtain rfl : id = .none := Option.isNone_iff_eq_none.mp unshared
    rfl
  | tuple items => exact visitItems_of_unshared met items unshared
  | list id items | set id items =>
    obtain ⟨alone, inner⟩ := Bool.and_eq_true_iff.mp unshared
    obtain rfl : id = .none := Option.isNone_iff_eq_none.mp alone
    exact visitItems_of_unshared met items inner
  | map id entries =>
    obtain ⟨alone, inner⟩ := Bool.and_eq_true_iff.mp unshared
    obtain rfl : id = .none := Option.isNone_iff_eq_none.mp alone
    exact visitEntries_of_unshared met entries inner
  | again id => cases unshared
  | _ => rfl

/-- Items that stand in one place are not met again. -/
theorem visitItems_of_unshared (met : Met) (items : List Value)
    (unshared : allItems isUnshared items = true) : met.visitItems items = met := by
  cases items with
  | nil => rfl
  | cons item rest =>
    obtain ⟨first, later⟩ := Bool.and_eq_true_iff.mp unshared
    rw [visitItems, visit_of_unshared met item first, visitItems_of_unshared met rest later]

/-- Entries that stand in one place are not met again. -/
theorem visitEntries_of_unshared (met : Met) (entries : List (Value × Value))
    (unshared : allEntries isUnshared entries = true) : met.visitEntries entries = met := by
  cases entries with
  | nil => rfl
  | cons entry rest =>
    obtain ⟨key, value⟩ := entry
    obtain ⟨first, later⟩ := Bool.and_eq_true_iff.mp unshared
    obtain ⟨keyUnshared, valueUnshared⟩ := Bool.and_eq_true_iff.mp first
    rw [visitEntries, visit_of_unshared met key keyUnshared,
      visit_of_unshared met value valueUnshared, visitEntries_of_unshared met rest later]

end

end Met

/-! ## What is written -/

namespace Form

variable {again : List Nat} {id : Option Nat} {α β : Type}
  {form : Option Nat → Written → Except WriteError (Form × Written)}

/-- A value that is always written is written once or referred to. -/
theorem exists_once (written : Written)
    (inner : ∀ anchor written, ∃ found, form anchor written = .ok found) :
    ∃ found, once again id form written = .ok found := by
  unfold once
  split
  · split
    · exact ⟨_, rfl⟩
    · exact inner _ _
  · exact inner _ _

mutual

/-- A value with a representation at every depth has a form. -/
theorem exists_ofValue (again : List Nat) (written : Written) (value : Value)
    (fits : value.all isRepresentable = true) :
    ∃ found, ofValue again written value = .ok found := by
  cases value with
  | null | bool | float | str | bytes | again => exact ⟨_, rfl⟩
  | int n =>
    have none := (longInt?_eq_none_iff (.int n)).mpr fits
    exact ⟨_, bind_eq_ok (by rw [writeShown, none]) rfl⟩
  | date | dateTime =>
    rw [ofValue]
    exact exists_once written fun _ _ => ⟨_, rfl⟩
  | time t => cases fits
  | tuple items =>
    rw [all, Bool.and_eq_true] at fits
    obtain ⟨found, made⟩ := exists_ofItems again written items fits.2
    exact ⟨_, bind_eq_ok made rfl⟩
  | list id items | set id items =>
    rw [all, Bool.and_eq_true] at fits
    rw [ofValue]
    refine exists_once written fun anchor written => ?_
    obtain ⟨found, made⟩ := exists_ofItems again written items fits.2
    exact ⟨_, bind_eq_ok made rfl⟩
  | map id entries =>
    rw [all, Bool.and_eq_true] at fits
    rw [ofValue]
    refine exists_once written fun anchor written => ?_
    obtain ⟨found, made⟩ := exists_ofEntries again written entries fits.2
    exact ⟨_, bind_eq_ok made rfl⟩

/-- Items with representations at every depth have forms. -/
theorem exists_ofItems (again : List Nat) (written : Written) (items : List Value)
    (fits : allItems isRepresentable items = true) :
    ∃ found, ofItems again written items = .ok found := by
  cases items with
  | nil => exact ⟨_, rfl⟩
  | cons item rest =>
    obtain ⟨itemFits, restFits⟩ := Bool.and_eq_true_iff.mp fits
    obtain ⟨first, firstMade⟩ := exists_ofValue again written item itemFits
    obtain ⟨later, laterMade⟩ := exists_ofItems again first.2 rest restFits
    exact ⟨_, bind_eq_ok firstMade (bind_eq_ok laterMade rfl)⟩

/-- Entries with representations at every depth have forms. -/
theorem exists_ofEntries (again : List Nat) (written : Written) (entries : List (Value × Value))
    (fits : allEntries isRepresentable entries = true) :
    ∃ found, ofEntries again written entries = .ok found := by
  cases entries with
  | nil => exact ⟨_, rfl⟩
  | cons entry rest =>
    obtain ⟨key, value⟩ := entry
    obtain ⟨entryFits, restFits⟩ := Bool.and_eq_true_iff.mp fits
    obtain ⟨keyFits, valueFits⟩ := Bool.and_eq_true_iff.mp entryFits
    obtain ⟨first, firstMade⟩ := exists_ofValue again written key keyFits
    obtain ⟨second, secondMade⟩ := exists_ofValue again first.2 value valueFits
    obtain ⟨later, laterMade⟩ := exists_ofEntries again second.2 rest restFits
    exact ⟨_, bind_eq_ok firstMade (bind_eq_ok secondMade (bind_eq_ok laterMade rfl))⟩

end

/-! ## What is not -/

/-- An outcome is the error that a value has no representation. -/
def Stops (outcome : Except WriteError α) : Prop :=
  ∃ value, value.isRepresentable = false ∧ outcome = .error (.unrepresentable value)

/-- What follows such an error does not count. -/
theorem Stops.bind {first : Except WriteError α} {next : α → Except WriteError β}
    (stops : Stops first) : Stops (first >>= next) := by
  obtain ⟨value, bad, rfl⟩ := stops
  exact ⟨value, bad, rfl⟩

/-- Such an error after what was written. -/
theorem Stops.after {first : Except WriteError α} {next : α → Except WriteError β} {value : α}
    (made : first = .ok value) (stops : Stops (next value)) : Stops (first >>= next) := by
  subst made
  exact stops

/-- A value is not referred to if none was met again. -/
theorem once_nil (written : Written) : once [] id form written = form .none written := by
  unfold once
  split
  · rename_i refers
    cases refers
  · rfl

mutual

/-- Where no value was met again, one that holds something without a representation has no form. -/
theorem stops_ofValue (written : Written) (value : Value)
    (bad : value.all isRepresentable = false) : Stops (ofValue [] written value) := by
  cases value with
  | null | bool | float | str | bytes | date | dateTime | again => cases bad
  | int n =>
    obtain ⟨found, long⟩ := Option.ne_none_iff_exists'.mp fun none =>
      Bool.eq_false_iff.mp bad ((longInt?_eq_none_iff (.int n)).mp none)
    refine Stops.bind ⟨.int found, ?_, by rw [writeShown, long]⟩
    rw [longInt?] at long
    split at long
    · obtain rfl := Option.some.inj long
      simp [isRepresentable, isShort, *]
    · cases long
  | time t => exact ⟨.time t, rfl, rfl⟩
  | tuple items => exact (stops_ofItems written items bad).bind
  | list id items | set id items =>
    rw [ofValue, once_nil]
    exact (stops_ofItems written items bad).bind
  | map id entries =>
    rw [ofValue, once_nil]
    exact (stops_ofEntries written entries bad).bind

/-- Items of which one holds something without a representation have no forms. -/
theorem stops_ofItems (written : Written) (items : List Value)
    (bad : allItems isRepresentable items = false) : Stops (ofItems [] written items) := by
  cases items with
  | nil => cases bad
  | cons item rest =>
    cases first : item.all isRepresentable with
    | false => exact (stops_ofValue written item first).bind
    | true =>
      rw [allItems, first, Bool.true_and] at bad
      obtain ⟨found, made⟩ := exists_ofValue [] written item first
      exact .after made (stops_ofItems found.2 rest bad).bind

/-- Entries of which one holds something without a representation have no forms. -/
theorem stops_ofEntries (written : Written) (entries : List (Value × Value))
    (bad : allEntries isRepresentable entries = false) : Stops (ofEntries [] written entries) := by
  cases entries with
  | nil => cases bad
  | cons entry rest =>
    obtain ⟨key, value⟩ := entry
    cases first : key.all isRepresentable with
    | false => exact (stops_ofValue written key first).bind
    | true =>
      obtain ⟨foundKey, keyMade⟩ := exists_ofValue [] written key first
      cases second : value.all isRepresentable with
      | false => exact .after keyMade (stops_ofValue foundKey.2 value second).bind
      | true =>
        rw [allEntries, first, second, Bool.true_and, Bool.true_and] at bad
        obtain ⟨foundValue, valueMade⟩ := exists_ofValue [] foundKey.2 value second
        exact .after keyMade (.after valueMade (stops_ofEntries foundValue.2 rest bad).bind)

end

end Form

/-! ## Documents -/

/-- A value with a representation at every depth is written. -/
theorem exists_write (value : Value) (fits : value.all isRepresentable = true) :
    ∃ text, write value = .ok text := by
  obtain ⟨form, made⟩ := Form.exists_ofValue (Met.none.visit value).again [] value fits
  rw [write, Form.of, made]
  exact ⟨_, rfl⟩

/-- A value in which nothing is met again and something has no representation is not written. -/
theorem stops_write (value : Value) (once : (Met.none.visit value).again = [])
    (bad : value.all isRepresentable = false) : Form.Stops (write value) := by
  obtain ⟨found, unfit, stops⟩ := Form.stops_ofValue [] value bad
  refine ⟨found, unfit, ?_⟩
  rw [write, Form.of, once, stops]
  rfl

end Yaml

end FoldMark
