import FoldMark.Page
import FoldMark.Proofs.FrontMatter.Grouping

/-!
# References from definitions

A definition is usable if its destination is safe, and of the definitions of a key the first usable
one should count. But of several definitions of one label only the first is looked at, so that a
usable one is eclipsed by one before it of the same label that is not. What counts is the first
usable definition among those that lead their labels, and this is the first usable one of all
exactly if what counts in place of each eclipsed one tells the same (`first_usable_counts_iff`).
-/

namespace FoldMark.Page

open FrontMatter Markdown

variable {lines front back : List DefinitionLine} {line : DefinitionLine} {key : List Char}

/-! ## Usable definitions -/

/-- What a definition lets the text refer to, if its destination is safe. -/
def usable? (line : DefinitionLine) : Option Reference :=
  let destination := Url.normalize line.destination
  if Url.isSafe destination then some ⟨destination, line.title.getD []⟩ else none

/-- What a definition lets a key refer to. -/
def usableAs? (key : List Char) (line : DefinitionLine) : Option Reference :=
  if labelKey line.label = key then usable? line else none

/-- What the first usable definition of a key lets it refer to. -/
def firstUsable? (key : List Char) (lines : List DefinitionLine) : Option Reference :=
  lines.findSome? (usableAs? key)

theorem usableAs?_self (line : DefinitionLine) :
    usableAs? (labelKey line.label) line = usable? line :=
  if_pos rfl

/-- The first usable definition stands in the front, or else in the back. -/
theorem firstUsable?_append (key : List Char) (front back : List DefinitionLine) :
    firstUsable? key (front ++ back) = (firstUsable? key front).or (firstUsable? key back) :=
  List.findSome?_append

/-- A definition counts if it is usable, and else the first usable one after it. -/
theorem firstUsable?_cons (key : List Char) (line : DefinitionLine) (lines : List DefinitionLine) :
    firstUsable? key (line :: lines) = (usableAs? key line).or (firstUsable? key lines) :=
  (firstUsable?_append key [line] lines).trans (by simp [firstUsable?])

/-- Among fewer definitions there are no more usable ones. -/
theorem firstUsable?_eq_none_of_sublist (fewer : back.Sublist front)
    (unusable : firstUsable? key front = none) : firstUsable? key back = none := by
  rw [firstUsable?, List.findSome?_eq_none_iff] at *
  exact fun line member => unusable line (fewer.subset member)

/-! ## Definitions that lead their labels -/

/-- The definitions that are the first of their labels, where some labels have been seen before. -/
def leadersAfter (seen : List (List Char)) : List DefinitionLine → List DefinitionLine
  | [] => []
  | line :: rest =>
    let later := leadersAfter (seen ++ [line.label]) rest
    if line.label ∈ seen then later else line :: later

/-- The definitions that are the first of their labels. -/
def leaders (lines : List DefinitionLine) : List DefinitionLine := leadersAfter [] lines

/-- A definition leads if its label is not seen before it. -/
theorem leadersAfter_append (seen : List (List Char)) (front back : List DefinitionLine) :
    leadersAfter seen (front ++ back) =
      leadersAfter seen front ++ leadersAfter (seen ++ labelsOf front) back := by
  induction front generalizing seen with
  | nil => simp [labelsOf, leadersAfter]
  | cons line front hypothesis =>
    have labels : seen ++ [line.label] ++ labelsOf front = seen ++ labelsOf (line :: front) := by
      simp [labelsOf]
    rw [List.cons_append, leadersAfter, leadersAfter, hypothesis, labels]
    split <;> rfl

/-- Definitions that lead are some of all in their order. -/
theorem leadersAfter_sublist (seen : List (List Char)) (lines : List DefinitionLine) :
    (leadersAfter seen lines).Sublist lines := by
  induction lines generalizing seen with
  | nil => exact List.Sublist.refl []
  | cons line lines hypothesis =>
    rw [leadersAfter]
    split
    · exact (hypothesis _).cons line
    · exact (hypothesis _).cons_cons line

/-- The first of each group are the definitions that lead their labels. A label that has been seen
keeps its first definition, whatever follows. -/
theorem leaders_eq (lines : List DefinitionLine) :
    leaders lines = (groupByLabel lines).filterMap fun group => group.2.head? := by
  have grouped : ∀ lines : List DefinitionLine,
      (groupByLabel lines).filterMap (fun group => group.2.head?) =
        (firstLabels (labelsOf lines)).filterMap fun label =>
          (lines.filter (·.label == label)).head? := fun lines => List.filterMap_map ..
  rw [grouped, leaders]
  induction lines using List.reverseRecOn with
  | nil => rfl
  | append_singleton lines line hypothesis =>
    have kept : (firstLabels (labelsOf lines)).filterMap (fun label =>
        ((lines ++ [line]).filter (·.label == label)).head?) = leadersAfter [] lines := by
      rw [hypothesis]
      refine List.filterMap_congr fun label listed => ?_
      obtain ⟨known, member, rfl⟩ := List.mem_map.mp (mem_firstLabels.mp listed)
      have own : known ∈ lines.filter (·.label == known.label) :=
        List.mem_filter.mpr ⟨member, beq_self_eq_true known.label⟩
      obtain ⟨first, rest, same⟩ := List.exists_cons_of_ne_nil (List.ne_nil_of_mem own)
      rw [List.filter_append, same]
      rfl
    have labels : labelsOf (lines ++ [line]) = labelsOf lines ++ [line.label] := List.map_append
    rw [labels, firstLabels_concat, leadersAfter_append]
    by_cases known : line.label ∈ labelsOf lines
    · rw [if_pos (mem_firstLabels.mpr known), kept]
      simp [leadersAfter, known]
    · have unseen : lines.filter (·.label == line.label) = [] := by
        rw [List.filter_eq_nil_iff]
        exact fun other member same => known (List.mem_map.mpr ⟨other, member, beq_iff_eq.mp same⟩)
      have own : ((lines ++ [line]).filter (·.label == line.label)).head? = some line := by
        rw [List.filter_append, unseen]
        simp
      rw [if_neg fun listed => known (mem_firstLabels.mp listed), List.filterMap_append, kept,
        List.filterMap_cons]
      simp only [own]
      simp [leadersAfter, known]

/-! ## What the text may refer to -/

/-- Adds what a definition lets the text refer to. -/
def addUsable (references : References) (line : DefinitionLine) : References :=
  match usable? line with
  | some reference => references.add (labelKey line.label) reference
  | none => references

/-- The definitions that lead their labels are added one after the other. -/
theorem references_eq (lines : List DefinitionLine) :
    references lines = (leaders lines).foldl addUsable [] := by
  have labelled := label_of_isGrouping (isGrouping_groupByLabel lines)
  rw [leaders_eq, references]
  generalize groupByLabel lines = groups at labelled
  generalize ([] : References) = known
  induction groups generalizing known with
  | nil => rfl
  | cons group groups hypothesis =>
    rw [List.forall_mem_cons] at labelled
    obtain ⟨label, members⟩ := group
    rw [List.foldl_cons, hypothesis labelled.2]
    cases members with
    | nil => rfl
    | cons line others =>
      obtain rfl : line.label = label := labelled.1 line List.mem_cons_self
      have first : ((line.label, line :: others) :: groups).filterMap (fun group => group.2.head?) =
          line :: groups.filterMap fun group => group.2.head? := List.filterMap_cons_some rfl
      have added : addUsable known line =
          if Url.isSafe (Url.normalize line.destination) then
            References.add known (labelKey line.label)
              ⟨Url.normalize line.destination, line.title.getD []⟩
          else known := by
        by_cases safe : Url.isSafe (Url.normalize line.destination) = true <;>
          simp [addUsable, usable?, safe]
      rw [first, List.foldl_cons, added]
      rfl

/-- A key refers to what it did, or else to what is added for it. -/
theorem lookup_add (references : References) (added : List Char) (reference : Reference)
    (key : List Char) :
    (references.add added reference).lookup key =
      (references.lookup key).or (if added = key then some reference else none) := by
  rw [References.add]
  split
  · rename_i present
    by_cases same : added = key
    · subst same
      obtain ⟨entry, member, found⟩ := List.any_eq_true.mp present
      have isSome : (references.lookup added).isSome := by
        rw [List.lookup_isSome_iff]
        exact ⟨entry, member, beq_iff_eq.mpr (beq_iff_eq.mp found).symm⟩
      rw [Option.or_of_isSome isSome]
    · rw [if_neg same, Option.or_none]
  · rw [List.lookup_append, List.lookup_cons, List.lookup_nil]
    by_cases same : added = key
    · simp [same]
    · simp [same, beq_eq_false_iff_ne.mpr (Ne.symm same)]

/-- A key refers to what it did, or else to what the first usable of the added definitions tells. -/
theorem lookup_foldl_addUsable (key : List Char) (known : References)
    (lines : List DefinitionLine) :
    (lines.foldl addUsable known).lookup key = (known.lookup key).or (firstUsable? key lines) := by
  induction lines generalizing known with
  | nil => rw [List.foldl_nil, firstUsable?, List.findSome?_nil, Option.or_none]
  | cons line lines hypothesis =>
    have added : (addUsable known line).lookup key =
        (known.lookup key).or (usableAs? key line) := by
      rw [addUsable, usableAs?]
      cases usable? line with
      | none => simp
      | some reference => exact lookup_add known (labelKey line.label) reference key
    rw [List.foldl_cons, hypothesis, added, firstUsable?_cons, Option.or_assoc]

/-- A key refers to what the first usable definition tells among those that lead their labels. -/
theorem lookup_references (key : List Char) (lines : List DefinitionLine) :
    (references lines).lookup key = firstUsable? key (leaders lines) := by
  rw [references_eq, lookup_foldl_addUsable]
  exact Option.none_or

/-! ## Eclipsed definitions -/

/-- After some definitions, the first usable one of its key has a label that one of them has. -/
structure Eclipsed (front : List DefinitionLine) (line : DefinitionLine) : Prop where
  /-- The definition is usable. -/
  usable : (usable? line).isSome
  /-- None before it is, of its key. -/
  first : firstUsable? (labelKey line.label) front = none
  /-- One before it has its label. -/
  seen : line.label ∈ labelsOf front

/-- An eclipsed definition is passed over: what counts is the first usable one after it among those
that lead their labels. -/
theorem firstUsable?_leaders_of_eclipsed (eclipsed : Eclipsed front line)
    (back : List DefinitionLine) :
    firstUsable? (labelKey line.label) (leaders (front ++ line :: back)) =
      firstUsable? (labelKey line.label) (leadersAfter (labelsOf front ++ [line.label]) back) := by
  have before := firstUsable?_eq_none_of_sublist (leadersAfter_sublist [] front) eclipsed.first
  rw [leaders, leadersAfter_append, firstUsable?_append, before, Option.none_or, List.nil_append,
    leadersAfter, if_pos eclipsed.seen]

/-- A usable definition that is the first of its key and of its label counts. -/
theorem firstUsable?_leaders_of_unseen (first : firstUsable? (labelKey line.label) front = none)
    (usable : (usable? line).isSome) (unseen : line.label ∉ labelsOf front)
    (back : List DefinitionLine) :
    firstUsable? (labelKey line.label) (leaders (front ++ line :: back)) = usable? line := by
  have before := firstUsable?_eq_none_of_sublist (leadersAfter_sublist [] front) first
  rw [leaders, leadersAfter_append, firstUsable?_append, before, Option.none_or, List.nil_append,
    leadersAfter, if_neg unseen, firstUsable?_cons, usableAs?_self, Option.or_of_isSome usable]

/-- Where a definition is the first usable one of its key, it is the first usable one of all of this
key. -/
theorem firstUsable?_of_first (first : firstUsable? (labelKey line.label) front = none)
    (usable : (usable? line).isSome) (back : List DefinitionLine) :
    firstUsable? (labelKey line.label) (front ++ line :: back) = usable? line := by
  rw [firstUsable?_append, first, Option.none_or, firstUsable?_cons, usableAs?_self,
    Option.or_of_isSome usable]

/-- Of all definitions the first usable one of each key counts exactly if what counts in place of
each eclipsed definition tells the same as it. -/
theorem leaders_suffice_iff (lines : List DefinitionLine) :
    (∀ key, firstUsable? key (leaders lines) = firstUsable? key lines) ↔
      ∀ front line back, lines = front ++ line :: back → Eclipsed front line →
        firstUsable? (labelKey line.label) (leadersAfter (labelsOf front ++ [line.label]) back) =
          usable? line := by
  constructor
  · rintro same front line back rfl eclipsed
    rw [← firstUsable?_leaders_of_eclipsed eclipsed, same,
      firstUsable?_of_first eclipsed.first eclipsed.usable]
  · intro replaced key
    cases found : firstUsable? key lines with
    | none => exact firstUsable?_eq_none_of_sublist (leadersAfter_sublist [] lines) found
    | some reference =>
      obtain ⟨front, line, back, whole, own, first⟩ := List.findSome?_eq_some_iff.mp found
      obtain ⟨rfl, usable⟩ := Option.ite_none_right_eq_some.mp own
      have first : firstUsable? (labelKey line.label) front = none :=
        List.findSome?_eq_none_iff.mpr first
      have isSome : (usable? line).isSome := by rw [usable]; rfl
      subst whole
      by_cases seen : line.label ∈ labelsOf front
      · have eclipsed : Eclipsed front line := ⟨isSome, first, seen⟩
        rw [firstUsable?_leaders_of_eclipsed eclipsed, replaced front line back rfl eclipsed,
          usable]
      · rw [firstUsable?_leaders_of_unseen first isSome seen, usable]

/-! ## The law -/

/-- Definitions that are alike but for the spellings of their labels, which have the same keys. -/
def AreRespelled (lines other : List DefinitionLine) : Prop :=
  List.Forall₂ (fun first second => labelKey first.label = labelKey second.label ∧
    first.destination = second.destination ∧ first.title = second.title) lines other

/-- How labels are spelled does not matter to which usable definition is the first. -/
theorem firstUsable?_of_areRespelled {other : List DefinitionLine}
    (respelled : AreRespelled lines other) (key : List Char) :
    firstUsable? key lines = firstUsable? key other := by
  induction respelled with
  | nil => rfl
  | cons same _ hypothesis =>
    obtain ⟨keys, destinations, titles⟩ := same
    rw [firstUsable?_cons, firstUsable?_cons, hypothesis, usableAs?, usableAs?, usable?, usable?,
      keys, destinations, titles]

/-- A payload of definitions lets a key refer to what the first usable definition of the key tells
among those that lead their labels, and to nothing if there is none. This is the first usable
definition of all, for each key, exactly if what counts in place of each eclipsed definition tells
the same as it. Where it is, the spellings of the labels do not matter. -/
theorem first_usable_counts_iff (payload : List Char) (start stop : Nat) :
    let known := referencesOf (some ⟨.refdef, payload, start, stop⟩)
    let lines := definitionLines payload
    (∀ key, known.lookup key = firstUsable? key (leaders lines)) ∧
    ((∀ key, known.lookup key = firstUsable? key lines) ↔
      ∀ front line back, lines = front ++ line :: back → Eclipsed front line →
        firstUsable? (labelKey line.label) (leadersAfter (labelsOf front ++ [line.label]) back) =
          usable? line) ∧
    ∀ other, AreRespelled lines (definitionLines other) →
      (∀ key, known.lookup key = firstUsable? key lines) →
      (∀ key, (referencesOf (some ⟨.refdef, other, start, stop⟩)).lookup key =
        firstUsable? key (definitionLines other)) →
      ∀ key, known.lookup key = (referencesOf (some ⟨.refdef, other, start, stop⟩)).lookup key := by
  intro known lines
  have counts : ∀ key, known.lookup key = firstUsable? key (leaders lines) :=
    fun key => lookup_references key lines
  refine ⟨counts, ?_, fun other respelled first second key => ?_⟩
  · rw [← leaders_suffice_iff]
    exact forall_congr' fun key => by rw [counts key]
  · rw [first, second, firstUsable?_of_areRespelled respelled]

/-- A definition that runs code hides the one after it of the same label, so that the label stands
for nothing. With another spelling of its label that definition counts. -/
theorem usable_definition_eclipsed :
    let lines := definitionLines "[a]: javascript:x\n[a]: /y\n".toList
    let respelled := definitionLines "[a]: javascript:x\n[A]: /y\n".toList
    firstUsable? ['A'] lines = some ⟨"/y".toList, []⟩ ∧
      (references lines).lookup ['A'] = none ∧
      AreRespelled lines respelled ∧
      (references respelled).lookup ['A'] = some ⟨"/y".toList, []⟩ := by
  intro lines respelled
  have first : lines = [⟨['a'], "javascript:x".toList, none⟩, ⟨['a'], "/y".toList, none⟩] := by
    decide +kernel
  have second : respelled =
      [⟨['a'], "javascript:x".toList, none⟩, ⟨['A'], "/y".toList, none⟩] := by decide +kernel
  rw [first, second]
  refine ⟨by decide +kernel, by decide +kernel, ?_, by decide +kernel⟩
  exact .cons ⟨rfl, rfl, rfl⟩ (.cons ⟨by decide +kernel, rfl, rfl⟩ .nil)

end FoldMark.Page
