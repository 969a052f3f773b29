import FoldMark.FrontMatter.Metadata
import FoldMark.Proofs.Text.CodePoint
import Mathlib.Data.List.Basic
import Mathlib.Data.List.Count
import Mathlib.Data.List.Induction

/-!
# Definitions by label

What it is to group definitions by their labels: every label has a group, the groups stand in the
order in which their labels appear first, and each holds the definitions of its label in order
(`IsGrouping`). Metadata from definitions is such a grouping (`isGrouping_groupByLabel`), and a
grouping tells the definitions but for how those of different labels follow each other
(`perm_of_isGrouping`).
-/

namespace FoldMark.FrontMatter

variable {lines other : List DefinitionLine}
  {groups : List (List Char × List DefinitionLine)}

/-- The label of each definition. -/
def labelsOf (lines : List DefinitionLine) : List (List Char) := lines.map (·.label)

/-- Definitions grouped by their labels. -/
structure IsGrouping (lines : List DefinitionLine)
    (groups : List (List Char × List DefinitionLine)) : Prop where
  /-- The labels with a group are those of the definitions. -/
  labels : ∀ label, label ∈ groups.map Prod.fst ↔ label ∈ labelsOf lines
  /-- A label whose group stands before that of another appears before it. -/
  ordered : (groups.map Prod.fst).Pairwise fun first second =>
    (labelsOf lines).idxOf first < (labelsOf lines).idxOf second
  /-- A group holds the definitions of its label in their order. -/
  members : ∀ group ∈ groups, group.2 = lines.filter (·.label == group.1)

/-- The mapping from labels to what their definitions tell. -/
def groupEntries (groups : List (List Char × List DefinitionLine)) : List (Value × Value) :=
  groups.map fun (label, lines) =>
    (.str label, .list none (lines.map DefinitionLine.entry))

/-! ## Labels in order -/

/-- The labels in the order in which they appear first. -/
def firstLabels (labels : List (List Char)) : List (List Char) :=
  labels.foldl (fun seen l => if seen.contains l then seen else seen ++ [l]) []

/-- A label after others is new or has appeared among them. -/
theorem firstLabels_concat (labels : List (List Char)) (label : List Char) :
    firstLabels (labels ++ [label]) =
      if label ∈ firstLabels labels then firstLabels labels
      else firstLabels labels ++ [label] := by
  simp [firstLabels]

/-- No label gets lost and none is new. -/
theorem mem_firstLabels {labels : List (List Char)} {label : List Char} :
    label ∈ firstLabels labels ↔ label ∈ labels := by
  induction labels using List.reverseRecOn with
  | nil => simp [firstLabels]
  | append_singleton labels last hypothesis =>
    rw [firstLabels_concat, List.mem_append, List.mem_singleton, ← hypothesis]
    split
    · rename_i known
      exact ⟨Or.inl, fun listed => listed.elim id fun same => same ▸ known⟩
    · rw [List.mem_append, List.mem_singleton]

/-- A label that stands before another appears before it. -/
theorem pairwise_firstLabels (labels : List (List Char)) :
    (firstLabels labels).Pairwise fun first second =>
      labels.idxOf first < labels.idxOf second := by
  induction labels using List.reverseRecOn with
  | nil => exact List.Pairwise.nil
  | append_singleton labels last hypothesis =>
    have within : ∀ {label}, label ∈ firstLabels labels →
        (labels ++ [last]).idxOf label = labels.idxOf label :=
      fun listed => List.idxOf_append_of_mem (mem_firstLabels.mp listed)
    have earlier : (firstLabels labels).Pairwise fun first second =>
        (labels ++ [last]).idxOf first < (labels ++ [last]).idxOf second := by
      refine hypothesis.imp_of_mem fun first second before => ?_
      rw [within first, within second]
      exact before
    rw [firstLabels_concat]
    split
    · exact earlier
    · rename_i new
      refine List.pairwise_append.mpr ⟨earlier, List.pairwise_singleton _ _, ?_⟩
      intro first listed second same
      obtain rfl := List.mem_singleton.mp same
      rw [within listed, List.idxOf_append_of_notMem fun known => new (mem_firstLabels.mpr known)]
      have bound := List.idxOf_lt_length_of_mem (mem_firstLabels.mp listed)
      omega

/-! ## The grouping -/

/-- The groups that metadata is made from are a grouping. -/
theorem isGrouping_groupByLabel (lines : List DefinitionLine) :
    IsGrouping lines (groupByLabel lines) := by
  have labels : (groupByLabel lines).map Prod.fst = firstLabels (labelsOf lines) := by
    rw [groupByLabel, List.map_map]
    exact List.map_id _
  refine ⟨fun label => ?_, ?_, fun group listed => ?_⟩
  · rw [labels, mem_firstLabels]
  · rw [labels]
    exact pairwise_firstLabels _
  · obtain ⟨label, -, rfl⟩ := List.mem_map.mp listed
    rfl

/-- Of each label, definitions in one grouping are the same in the same order. -/
theorem filter_eq_of_isGrouping (first : IsGrouping lines groups)
    (second : IsGrouping other groups) (label : List Char) :
    lines.filter (·.label == label) = other.filter (·.label == label) := by
  by_cases grouped : label ∈ groups.map Prod.fst
  · obtain ⟨group, listed, rfl⟩ := List.mem_map.mp grouped
    rw [← first.members group listed, ← second.members group listed]
  · have none : ∀ {lines}, IsGrouping lines groups → lines.filter (·.label == label) = [] := by
      intro lines grouping
      rw [List.filter_eq_nil_iff]
      intro line member same
      have label : line.label ∈ labelsOf lines := List.mem_map_of_mem member
      exact grouped (beq_iff_eq.mp same ▸ (grouping.labels _).mpr label)
    rw [none first, none second]

/-- Definitions in one grouping are the same but for their order. -/
theorem perm_of_isGrouping (first : IsGrouping lines groups) (second : IsGrouping other groups) :
    lines.Perm other := by
  rw [List.perm_iff_count]
  intro line
  have counted : ∀ lines : List DefinitionLine,
      (lines.filter (·.label == line.label)).count line = lines.count line :=
    fun lines => List.count_filter (beq_self_eq_true _)
  rw [← counted lines, filter_eq_of_isGrouping first second, counted other]

/-! ## What the groups tell -/

/-- What a definition tells about its label tells its destination and title. -/
theorem entry_inj {first second : DefinitionLine} (same : first.entry = second.entry)
    (labels : first.label = second.label) : first = second := by
  obtain ⟨label, destination, title⟩ := first
  obtain ⟨_, other, otherTitle⟩ := second
  obtain rfl : label = _ := labels
  simp only [DefinitionLine.entry, Value.map.injEq, List.cons.injEq, Prod.mk.injEq, true_and,
    Value.str.injEq, CodeText.ofChars_inj] at same
  obtain ⟨rfl, titles⟩ := same
  cases title <;> cases otherTitle <;> simp_all

/-- What definitions of one label tell about it tells the definitions. -/
theorem map_entry_inj {label : List Char} (first : ∀ line ∈ lines, line.label = label)
    (second : ∀ line ∈ other, line.label = label)
    (same : lines.map DefinitionLine.entry = other.map DefinitionLine.entry) : lines = other := by
  induction lines generalizing other with
  | nil => exact (List.map_eq_nil_iff.mp same.symm).symm
  | cons line rest hypothesis =>
    cases other with
    | nil => cases same
    | cons head tail =>
      obtain ⟨heads, tails⟩ := List.cons.inj same
      rw [List.forall_mem_cons] at first second
      rw [entry_inj heads (first.1.trans second.1.symm), hypothesis first.2 second.2 tails]

/-- The mapping from labels to what their definitions tell tells the groups. -/
theorem groupEntries_inj {other : List (List Char × List DefinitionLine)}
    (first : ∀ group ∈ groups, ∀ line ∈ group.2, line.label = group.1)
    (second : ∀ group ∈ other, ∀ line ∈ group.2, line.label = group.1)
    (same : groupEntries groups = groupEntries other) : groups = other := by
  induction groups generalizing other with
  | nil => exact (List.map_eq_nil_iff.mp same.symm).symm
  | cons group rest hypothesis =>
    cases other with
    | nil => cases same
    | cons head tail =>
      obtain ⟨heads, tails⟩ := List.cons.inj same
      rw [List.forall_mem_cons] at first second
      obtain ⟨label, members⟩ := group
      obtain ⟨headLabel, headMembers⟩ := head
      simp only [Prod.mk.injEq, Value.str.injEq, CodeText.ofChars_inj, Value.list.injEq,
        true_and] at heads
      obtain ⟨rfl, told⟩ := heads
      obtain rfl : members = headMembers := map_entry_inj first.1 second.1 told
      rw [hypothesis first.2 second.2 tails]

/-- A group of a grouping holds definitions of its label alone. -/
theorem label_of_isGrouping (grouping : IsGrouping lines groups) :
    ∀ group ∈ groups, ∀ line ∈ group.2, line.label = group.1 := by
  intro group listed line member
  rw [grouping.members group listed, List.mem_filter] at member
  exact beq_iff_eq.mp member.2

end FoldMark.FrontMatter
