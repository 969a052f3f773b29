/-!
# Lists of entries

A list of entries that is looked up by a key, of which the first entry counts. An entry is put in
the place of one with its key or, if there is none, at the end: `lookup_put` says what is found
afterwards.
-/

namespace FoldMark

variable {α β : Type} [BEq α] [LawfulBEq α] [DecidableEq α]

/-- Replacing the entries of a key leaves those of other keys. -/
theorem lookup_replace (entries : List (α × β)) (name : α) (value : β) (key : α) :
    (entries.map fun entry => if entry.1 == name then (name, value) else entry).lookup key =
      if key = name then if entries.any (·.1 == name) then some value else none
      else entries.lookup key := by
  induction entries with
  | nil => simp
  | cons entry rest hypothesis =>
    obtain ⟨first, former⟩ := entry
    rw [List.map_cons, List.any_cons]
    by_cases here : first = name
    · subst here
      by_cases same : key = first
      · simp [same]
      · have apart : (key == first) = false := beq_eq_false_iff_ne.mpr same
        simp only [beq_self_eq_true, if_true, List.lookup_cons, apart, hypothesis, if_neg same]
    · have elsewhere : (first == name) = false := beq_eq_false_iff_ne.mpr here
      simp only [elsewhere, Bool.false_eq_true, if_false, Bool.false_or, List.lookup_cons,
        hypothesis]
      by_cases same : key = name
      · subst same
        have apart : (key == first) = false := beq_eq_false_iff_ne.mpr (Ne.symm here)
        simp only [apart, if_true]
      · simp only [if_neg same]

/-- A value that is put under a key is found there, and all else is found as before. -/
theorem lookup_put (entries : List (α × β)) (name : α) (value : β) (key : α) :
    (if entries.any (·.1 == name) then
        entries.map fun entry => if entry.1 == name then (name, value) else entry
      else entries ++ [(name, value)]).lookup key =
      if key = name then some value else entries.lookup key := by
  split
  · rename_i listed
    rw [lookup_replace, if_pos listed]
  · rename_i missing
    rw [List.lookup_append]
    by_cases same : key = name
    · subst same
      have none : entries.lookup key = none := by
        rw [List.lookup_eq_none_iff]
        intro entry member
        rw [bne_iff_ne]
        rintro rfl
        exact missing (List.any_eq_true.mpr ⟨entry, member, beq_self_eq_true _⟩)
      simp [none]
    · have apart : (key == name) = false := beq_eq_false_iff_ne.mpr same
      simp only [List.lookup_cons, apart, List.lookup_nil, Option.or_none, if_neg same]

end FoldMark
