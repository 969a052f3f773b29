import FoldMark.Text.Blank
import FoldMark.Text.Case

/-!
# Brackets in keys

No text is lost by a change of case. A closing bracket has no case, and no other character has it
for its lower or upper case. So the text that texts share when they differ in case only has a
closing bracket exactly if they do, and the words of a text have one exactly if the text does.
-/

namespace FoldMark.Text

variable {c d : Char} {text : List Char}

/-! ## Case -/

/-- A text that is not empty is not empty in lower case. -/
theorem lower_eq_nil_iff : lower text = [] ↔ text = [] := by
  constructor
  · intro none
    cases text with
    | nil => rfl
    | cons c rest =>
      have first : lowerChar c = [] := List.flatMap_eq_nil_iff.mp none c List.mem_cons_self
      rw [lowerChar] at first
      split at first
      · cases first
      · split at first <;> cases first
  · rintro rfl
    rfl

/-- The code point of a closing bracket is that of no other character. -/
theorem eq_of_ofNat_eq_bracket {n : Nat} (same : Char.ofNat n = ']') : n = 0x5D := by
  by_cases valid : n.isValidChar
  · have own : Char.ofNat n = Char.ofNatAux n valid := dif_pos valid
    exact congrArg Char.toNat (own.symm.trans same)
  · have null : Char.ofNat n = '\x00' := dif_neg valid
    exact absurd (null.symm.trans same) (by decide)

/-- No character that runs change becomes a closing bracket. -/
theorem applyRuns?_ne_bracket {runs : Array CaseRun}
    (apart : ∀ run ∈ runs, run.contains ((0x5D : Int) - run.shift).toNat = false)
    (mapped : applyRuns? runs c = some d) : d ≠ ']' := by
  obtain ⟨run, found, rfl⟩ := Option.map_eq_some_iff.mp mapped
  intro same
  have image : ((c.toNat : Int) + run.shift).toNat = 0x5D := eq_of_ofNat_eq_bracket same
  have source : ((0x5D : Int) - run.shift).toNat = c.toNat := by omega
  have member := Array.find?_some found
  rw [← source, apart run (Array.mem_of_find?_eq_some found)] at member
  cases member

/-- An ASCII character becomes a closing bracket by a change of case only if it is one. -/
theorem ascii_bracket (ascii : c.toNat < 0x80) :
    (c.toLower = ']' ↔ c = ']') ∧ (c.toUpper = ']' ↔ c = ']') := by
  have all : ∀ n < 0x80, ((Char.ofNat n).toLower = ']' ↔ Char.ofNat n = ']') ∧
      ((Char.ofNat n).toUpper = ']' ↔ Char.ofNat n = ']') := by decide
  have own := all c.toNat ascii
  rwa [Char.ofNat_toNat] at own

/-- Only a closing bracket is one in lower case. -/
theorem bracket_mem_lowerChar_iff : ']' ∈ lowerChar c ↔ c = ']' := by
  rw [lowerChar]
  split
  · rename_i ascii
    rw [List.mem_singleton, eq_comm, (ascii_bracket ascii).1]
  · rename_i foreign
    have other : c ≠ ']' := fun same => foreign (by rw [same]; decide)
    refine iff_of_false ?_ other
    split
    · decide
    · rw [List.mem_singleton]
      cases mapped : applyRuns? lowerRuns c with
      | none => exact Ne.symm other
      | some d => exact Ne.symm (applyRuns?_ne_bracket (by decide +kernel) mapped)

/-- Only a closing bracket is one in upper case. -/
theorem bracket_mem_upperChar_iff : ']' ∈ upperChar c ↔ c = ']' := by
  rw [upperChar]
  split
  · rename_i ascii
    rw [List.mem_singleton, eq_comm, (ascii_bracket ascii).2]
  · rename_i foreign
    have other : c ≠ ']' := fun same => foreign (by rw [same]; decide)
    refine iff_of_false ?_ other
    split
    · rename_i expansion found
      have apart : ∀ entry ∈ upperExpansions, 0x5D ∉ entry.2 := by decide +kernel
      obtain ⟨front, back, listed, -⟩ := List.lookup_eq_some_iff.mp found
      intro inside
      obtain ⟨n, member, same⟩ := List.mem_map.mp inside
      have entry : (c.toNat, expansion) ∈ upperExpansions := by
        rw [listed]
        exact List.mem_append_right _ List.mem_cons_self
      exact apart _ entry (eq_of_ofNat_eq_bracket same ▸ member)
    · rw [List.mem_singleton]
      cases mapped : applyRuns? upperRuns c with
      | none => exact Ne.symm other
      | some d => exact Ne.symm (applyRuns?_ne_bracket (by decide +kernel) mapped)

/-- What texts share that differ in case only has a closing bracket exactly if they do. -/
theorem bracket_mem_caseKey_iff : ']' ∈ caseKey text ↔ ']' ∈ text := by
  simp [caseKey, upper, lower, List.mem_flatMap, bracket_mem_upperChar_iff,
    bracket_mem_lowerChar_iff]

/-! ## Words -/

/-- The words of a text hold what does not separate them. -/
theorem mem_flatten_splitRuns_iff {separates : Char → Bool} (solid : separates c = false) :
    c ∈ (splitRuns separates text).flatten ↔ c ∈ text := by
  induction text with
  | nil => rfl
  | cons first text hypothesis =>
    rw [splitRuns.eq_def]
    dsimp only
    split
    · rename_i blank
      have other : c ≠ first := by
        rintro rfl
        rw [solid] at blank
        cases blank
      rw [hypothesis, List.mem_cons, or_iff_right other]
    · rw [List.mem_cons, ← hypothesis]
      split
      · rename_i word words runs
        rw [runs]
        split <;> simp
      · simp

end FoldMark.Text
