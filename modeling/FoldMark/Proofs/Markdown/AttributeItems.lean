import FoldMark.Proofs.Chain
import FoldMark.Proofs.Entries
import FoldMark.Proofs.Markdown.AttributeBlock
import Mathlib.Data.List.Forall2

/-!
# Items of a block of attributes

What the items of a block say, and what a heading's attributes become by them. An item is told by
its first character or else by its first equals sign (`parseItem?_eq_some_iff`), and a block is read
if it has items and all of them are (`parse?_eq_some_iff`). So the items of two blocks can be put
into one (`parse?_append_eq_none_iff`, `eq_append_of_parse?_append`). Reading an attribute after a
block has been applied only takes the values that the block gives for it (`get?_foldl_assign`): of
classes all of them, of any other attribute the last.
-/

namespace FoldMark.Markdown

/-! ## Values of attributes -/

namespace Attributes

/-- An attribute that is set has its value, and the others have theirs. -/
theorem get?_set (attributes : Attributes) (name value key : List Char) :
    (attributes.set name value).get? key =
      if key = name then some value else attributes.get? key :=
  lookup_put attributes name value key

/-- An attribute that is joined has its former value and the new one, and the others have theirs. -/
theorem get?_join (attributes : Attributes) (name value key : List Char) :
    (attributes.join name value).get? key =
      if key = name then some ([' '].intercalate ((attributes.get? name).toList ++ [value]))
      else attributes.get? key := by
  rw [join]
  cases attributes.get? name with
  | none => simp [get?_set]
  | some former => simp [get?_set, List.intercalate_cons_cons]

end Attributes

namespace HeadingAttributes

open Text

variable {item spec first second name : List Char} {entry : List Char × List Char}
  {entries others : Attributes} {values : List (List Char)}

/-! ## Items -/

/-- What an item says: which attribute it gives which value. -/
inductive Gives : List Char → List Char × List Char → Prop where
  /-- A name behind a number sign identifies. -/
  | identifier {name : List Char} (nonempty : name ≠ []) : Gives ('#' :: name) (idName, name)
  /-- A name behind a full stop classifies. -/
  | classifier {name : List Char} (nonempty : name ≠ []) : Gives ('.' :: name) (className, name)
  /-- Any other item is cut at its first equals sign, and has a key. -/
  | pair {first : Char} {key value : List Char} (noSign : first ≠ '#') (noStop : first ≠ '.')
      (free : '=' ∉ first :: key) :
      Gives (first :: key ++ '=' :: value) (first :: key, unquote value)

/-- An item that is recognised says what it is read as. -/
theorem gives_of_parseItem? (parsed : parseItem? item = some entry) : Gives item entry := by
  rw [parseItem?.eq_def] at parsed
  split at parsed
  · obtain rfl := Option.some.inj parsed
    exact .identifier (List.cons_ne_nil _ _)
  · obtain rfl := Option.some.inj parsed
    exact .classifier (List.cons_ne_nil _ _)
  · rename_i notIdentifier notClassifier
    split at parsed
    · cases parsed
    · cases parsed
    · rename_i key value keyed cut
      obtain rfl := Option.some.inj parsed
      obtain ⟨mark, rfl, isMark, free⟩ := cutAt_eq_some_iff.mp cut
      obtain rfl : mark = '=' := by simpa using isMark
      have noMark : '=' ∉ key := fun inside => by simpa using free '=' inside
      obtain ⟨first, rest, rfl⟩ := List.exists_cons_of_ne_nil keyed
      obtain ⟨second, others, more⟩ := List.exists_cons_of_ne_nil
        (List.append_ne_nil_of_right_ne_nil rest (List.cons_ne_nil '=' value))
      rw [List.cons_append, more] at notIdentifier notClassifier
      have noSign : first ≠ '#' := fun same => notIdentifier second others (by rw [same])
      have noStop : first ≠ '.' := fun same => notClassifier second others (by rw [same])
      exact .pair noSign noStop noMark

/-- An item that says something is read as that. -/
theorem Gives.parseItem? (gives : Gives item entry) : parseItem? item = some entry := by
  cases gives with
  | identifier nonempty =>
    obtain ⟨c, rest, rfl⟩ := List.exists_cons_of_ne_nil nonempty
    rfl
  | classifier nonempty =>
    obtain ⟨c, rest, rfl⟩ := List.exists_cons_of_ne_nil nonempty
    rfl
  | @pair first key value noSign noStop free =>
    have cut : cutAt (· == '=') (first :: key ++ '=' :: value) = some (first :: key, value) := by
      refine cutAt_eq_some_iff.mpr ⟨'=', rfl, beq_self_eq_true _, fun c inside => ?_⟩
      exact beq_eq_false_iff_ne.mpr fun same => free (same ▸ inside)
    rw [parseItem?.eq_3, cut]
    · exact fun _ _ whole => noSign (List.cons.inj whole).1
    · exact fun _ _ whole => noStop (List.cons.inj whole).1

/-- An item is recognised exactly if it says something, and is read as that. -/
theorem parseItem?_eq_some_iff : parseItem? item = some entry ↔ Gives item entry :=
  ⟨gives_of_parseItem?, Gives.parseItem?⟩

/-! ## Blocks -/

/-- A block has an item that says nothing. -/
def HasUnread (spec : List Char) : Prop := ∃ item ∈ words spec, ∀ entry, ¬Gives item entry

/-- The items of a block say some entries, one each. -/
def Lists (spec : List Char) (entries : Attributes) : Prop :=
  List.Forall₂ Gives (words spec) entries

/-- The entries of a block; one without items has none. -/
def entriesOf (spec : List Char) : Attributes := (parse? spec).getD []

/-- The items of a block are read if all of them say something. -/
theorem mapM_parseItem?_eq_some_iff :
    (words spec).mapM parseItem? = some entries ↔ Lists spec entries := by
  rw [mapM_eq_some_iff, ← List.forall₂_eq_eq_eq, List.forall₂_map_left_iff,
    List.forall₂_map_right_iff]
  simp only [parseItem?_eq_some_iff]
  rfl

/-- A block is read as what its items say, if there are any. -/
theorem parse?_eq_some_iff : parse? spec = some entries ↔ Lists spec entries ∧ entries ≠ [] := by
  rw [← mapM_parseItem?_eq_some_iff, parse?]
  cases (words spec).mapM parseItem? with
  | none => simp
  | some found =>
    cases found with
    | nil => simp
    | cons entry rest =>
      refine ⟨fun same => ⟨same, ?_⟩, fun same => same.1⟩
      rw [← Option.some.inj same]
      exact List.cons_ne_nil entry rest

/-- A block without items lists nothing, and no other does. -/
theorem Lists.words_eq_nil_iff (lists : Lists spec entries) : words spec = [] ↔ entries = [] := by
  rw [← List.length_eq_zero_iff, lists.length_eq, List.length_eq_zero_iff]

/-- What the items of a block say is what it is read as, or nothing. -/
theorem Lists.entriesOf_eq (lists : Lists spec entries) : entriesOf spec = entries := by
  rw [entriesOf]
  by_cases empty : entries = []
  · have unread : parse? spec = none := by
      rw [parse?, mapM_parseItem?_eq_some_iff.mpr lists, empty]
    rw [unread, empty, Option.getD_none]
  · rw [parse?_eq_some_iff.mpr ⟨lists, empty⟩, Option.getD_some]

/-- The items of a block are read unless one of them says nothing. -/
theorem exists_lists_iff : (∃ entries, Lists spec entries) ↔ ¬HasUnread spec := by
  simp only [Lists, HasUnread]
  induction words spec with
  | nil => simp
  | cons item rest hypothesis =>
    rw [List.exists_mem_cons_iff, not_or, ← hypothesis]
    constructor
    · rintro ⟨entries, listed⟩
      cases listed with
      | cons first later => exact ⟨fun unread => unread _ first, _, later⟩
    · rintro ⟨read, entries, later⟩
      obtain ⟨entry, first⟩ := not_forall_not.mp read
      exact ⟨entry :: entries, .cons first later⟩

/-- A block is not read exactly if one of its items says nothing or there is none. -/
theorem parse?_eq_none_iff : parse? spec = none ↔ HasUnread spec ∨ words spec = [] := by
  constructor
  · intro unread
    by_contra neither
    rw [not_or, ← exists_lists_iff] at neither
    obtain ⟨⟨entries, lists⟩, nonempty⟩ := neither
    have read := parse?_eq_some_iff.mpr ⟨lists, mt lists.words_eq_nil_iff.mpr nonempty⟩
    rw [unread] at read
    cases read
  · intro either
    rw [Option.eq_none_iff_forall_ne_some]
    intro entries read
    obtain ⟨lists, nonempty⟩ := parse?_eq_some_iff.mp read
    rcases either with unread | none
    · exact exists_lists_iff.mp ⟨entries, lists⟩ unread
    · exact nonempty (lists.words_eq_nil_iff.mp none)

/-! ## Two blocks in one -/

/-- The items of two blocks with a space between them are those of both. -/
theorem words_append (first second : List Char) :
    words (first ++ ' ' :: second) = words first ++ words second :=
  splitRuns_append (by decide) first second

/-- What two blocks list is listed by both in one. -/
theorem Lists.append (lists : Lists first entries) (later : Lists second others) :
    Lists (first ++ ' ' :: second) (entries ++ others) := by
  rw [Lists, words_append]
  exact List.rel_append lists later

/-- An item of two blocks in one that says nothing is one of either. -/
theorem hasUnread_append_iff :
    HasUnread (first ++ ' ' :: second) ↔ HasUnread first ∨ HasUnread second := by
  simp only [HasUnread, words_append, List.mem_append, or_and_right, exists_or]

/-- Two blocks in one are not read exactly if one of them has an item that says nothing or there is
no item in either. -/
theorem parse?_append_eq_none_iff :
    parse? (first ++ ' ' :: second) = none ↔
      HasUnread first ∨ HasUnread second ∨ words first = [] ∧ words second = [] := by
  rw [parse?_eq_none_iff, hasUnread_append_iff, words_append, List.append_eq_nil_iff, or_assoc]

/-- Two blocks in one are read as what both of them list. -/
theorem eq_append_of_parse?_append (read : parse? (first ++ ' ' :: second) = some entries) :
    entries = entriesOf first ++ entriesOf second := by
  obtain ⟨lists, -⟩ := parse?_eq_some_iff.mp read
  have recognised := exists_lists_iff.mp ⟨entries, lists⟩
  rw [hasUnread_append_iff, not_or, ← exists_lists_iff, ← exists_lists_iff] at recognised
  obtain ⟨⟨front, frontListed⟩, back, backListed⟩ := recognised
  calc entries = entriesOf (first ++ ' ' :: second) := lists.entriesOf_eq.symm
    _ = front ++ back := (frontListed.append backListed).entriesOf_eq
    _ = entriesOf first ++ entriesOf second := by
      rw [frontListed.entriesOf_eq, backListed.entriesOf_eq]

/-! ## Headings -/

/-- The values that entries give an attribute, in order. -/
def valuesOf (entries : Attributes) (name : List Char) : List (List Char) :=
  (entries.filter (·.1 == name)).map (·.2)

/-- What an attribute is by a further value. -/
def amend (name : List Char) (former : Option (List Char)) (value : List Char) : List Char :=
  if name = className then [' '].intercalate (former.toList ++ [value]) else value

/-- An entry amends its attribute and no other. -/
theorem get?_assign (attributes : Attributes) (entry : List Char × List Char) (key : List Char) :
    (assign attributes entry).get? key =
      if key = entry.1 then some (amend key (attributes.get? key) entry.2)
      else attributes.get? key := by
  rw [assign]
  by_cases isClass : entry.1 = className
  · rw [if_pos (by simpa using isClass), Attributes.get?_join]
    by_cases same : key = entry.1
    · rw [if_pos same, if_pos same, amend, if_pos (same.trans isClass), same]
    · rw [if_neg same, if_neg same]
  · rw [if_neg (by simpa using isClass), Attributes.get?_set]
    by_cases same : key = entry.1
    · rw [if_pos same, if_pos same, amend, if_neg fun named => isClass (same ▸ named)]
    · rw [if_neg same, if_neg same]

/-- What an attribute is after entries depends on the values that they give it, and on what it was
before. -/
theorem get?_foldl_assign (entries attributes : Attributes) (key : List Char) :
    (entries.foldl assign attributes).get? key =
      (valuesOf entries key).foldl (fun former value => some (amend key former value))
        (attributes.get? key) := by
  induction entries generalizing attributes with
  | nil => rfl
  | cons entry rest hypothesis =>
    rw [List.foldl_cons, hypothesis, get?_assign, valuesOf, valuesOf, List.filter_cons]
    by_cases same : key = entry.1
    · rw [if_pos same, if_pos (by simpa using same.symm), List.map_cons, List.foldl_cons]
    · rw [if_neg same, if_neg (by simpa using Ne.symm same)]

/-- Of the values of an attribute that is no class the last counts. -/
theorem foldl_amend_of_ne (other : name ≠ className) (values : List (List Char))
    (former : Option (List Char)) :
    values.foldl (fun former value => some (amend name former value)) former =
      values.getLast?.or former := by
  induction values generalizing former with
  | nil => rfl
  | cons value rest hypothesis =>
    rw [List.foldl_cons, hypothesis, amend, if_neg other, List.getLast?_cons]
    cases rest.getLast? <;> rfl

/-- Two texts that are joined can be joined with further ones. -/
theorem intercalate_joined (first second : List Char) (rest : List (List Char)) :
    [' '].intercalate ([' '].intercalate [first, second] :: rest) =
      [' '].intercalate (first :: second :: rest) := by
  cases rest with
  | nil => rw [List.intercalate_singleton]
  | cons third others => simp [List.intercalate_cons_cons]

/-- Classes are joined. -/
theorem foldl_amend_className (nonempty : values ≠ []) (former : Option (List Char)) :
    values.foldl (fun former value => some (amend className former value)) former =
      some ([' '].intercalate (former.toList ++ values)) := by
  induction values generalizing former with
  | nil => exact absurd rfl nonempty
  | cons value rest hypothesis =>
    have joined : [' '].intercalate (amend className former value :: rest) =
        [' '].intercalate (former.toList ++ value :: rest) := by
      rw [amend, if_pos rfl]
      cases former with
      | none => simp
      | some former => exact intercalate_joined former value rest
    rw [List.foldl_cons, ← joined]
    by_cases last : rest = []
    · rw [last, List.foldl_nil, List.intercalate_singleton]
    · exact hypothesis last _

/-- What a heading's attributes are by further entries. -/
structure Assigned (former entries result : Attributes) : Prop where
  /-- Of the values for an attribute that is no class the last counts. -/
  last : ∀ key, key ≠ className → ∀ value ∈ (valuesOf entries key).getLast?,
    result.get? key = some value
  /-- Classes stand behind those from before, with a space between each two. -/
  classes : valuesOf entries className ≠ [] → result.get? className =
    some ([' '].intercalate ((former.get? className).toList ++ valuesOf entries className))
  /-- Attributes without an entry are left as they are. -/
  unnamed : ∀ key, key ∉ entries.map (·.1) → result.get? key = former.get? key

/-- Entries are assigned one after the other. -/
theorem assigned_foldl (entries attributes : Attributes) :
    Assigned attributes entries (entries.foldl assign attributes) where
  last key other value isLast := by
    rw [get?_foldl_assign, foldl_amend_of_ne other, Option.mem_def.mp isLast, Option.some_or]
  classes nonempty := by
    rw [get?_foldl_assign, foldl_amend_className nonempty]
  unnamed key unnamed := by
    have none : valuesOf entries key = [] := by
      rw [valuesOf, List.map_eq_nil_iff, List.filter_eq_nil_iff]
      intro entry member same
      exact unnamed (List.mem_map.mpr ⟨entry, member, by simpa using same⟩)
    rw [get?_foldl_assign, none, List.foldl_nil]

/-- Blocks of attributes compose. Two blocks in one are refused exactly if one of them has an item
that says nothing or there is no item in either; else they are read as what both of them list. What
a block lists is assigned to a heading: of its values for an attribute the last counts, its classes
stand behind those from before, and the other attributes are left as they are. -/
theorem attributes_compose :
    (∀ first second : List Char,
      (parse? (first ++ ' ' :: second) = none ↔
        HasUnread first ∨ HasUnread second ∨ words first = [] ∧ words second = []) ∧
      ∀ entries ∈ parse? (first ++ ' ' :: second), entries = entriesOf first ++ entriesOf second) ∧
    (∀ (spec : List Char) (entries : Attributes), parse? spec = some entries →
      Lists spec entries ∧
        ∀ attributes, Assigned attributes entries (entries.foldl assign attributes)) ∧
    ∀ (front back : List Token) (level : Nat) (attributes entries : Attributes) (hidden : Bool)
        (source : List Char) (content changed : List Inline),
      split? content = some (changed, entries) →
        ∃ result, Assigned attributes entries result ∧
          apply (front ++ .opening (.heading level) attributes hidden :: .inline source content ::
              back) =
            apply front ++ .opening (.heading level) result hidden ::
              .inline (dropBlock source) changed :: apply back := by
  refine ⟨fun first second => ⟨parse?_append_eq_none_iff, fun entries read => ?_⟩,
    fun spec entries read => ⟨?_, ?_⟩, ?_⟩
  · exact eq_append_of_parse?_append (Option.mem_def.mp read)
  · exact (parse?_eq_some_iff.mp read).1
  · exact fun attributes => assigned_foldl entries attributes
  · intro front back level attributes entries hidden source content changed taken
    exact ⟨_, assigned_foldl entries attributes,
      apply_heading taken front back level attributes hidden source⟩

/-- Two blocks with an identifier each, of which one holds an equals sign, with a class in both
spellings and a key that is given twice, behind a heading that has a class already. -/
theorem attributes_compose_of_overlapping :
    let first := "#a=b .x=y".toList
    let second := "class=z k=1 id=w k=2".toList
    let source := ['T', ' ', '\x7b'] ++ (first ++ ' ' :: second) ++ ['\x7d']
    let former : Attributes := [(className, ['c']), ("lang".toList, "de".toList)]
    let entries := [(idName, "a=b".toList), (className, "x=y".toList), (className, ['z']),
      (['k'], ['1']), (idName, ['w']), (['k'], ['2'])]
    entriesOf first ++ entriesOf second = entries ∧ Lists (first ++ ' ' :: second) entries ∧
      ∃ result, apply [.opening (.heading 1) former false, .inline source [.text source],
          .closing (.heading 1) false] =
        [.opening (.heading 1) result false, .inline ['T'] [.text ['T']],
          .closing (.heading 1) false] ∧
        result.get? idName = some ['w'] ∧ result.get? className = some "c x=y z".toList ∧
        result.get? ['k'] = some ['2'] ∧ result.get? "lang".toList = some "de".toList := by
  intro first second source former entries
  have read : parse? (first ++ ' ' :: second) = some entries := by decide +kernel
  have taken : split? [.text source] = some ([.text ['T']], entries) := by decide +kernel
  have both := (attributes_compose.1 first second).2 entries read
  have lists := (attributes_compose.2.1 (first ++ ' ' :: second) entries read).1
  obtain ⟨result, assigned, applied⟩ := attributes_compose.2.2 [] [.closing (.heading 1) false] 1
    former entries false source [.text source] [.text ['T']] taken
  have dropped : dropBlock source = ['T'] := by decide +kernel
  rw [dropped] at applied
  refine ⟨both.symm, lists, result, applied, ?_, ?_, ?_, ?_⟩
  · exact assigned.last idName (by decide) ['w'] (by decide)
  · exact assigned.classes (by decide)
  · exact assigned.last ['k'] (by decide) ['2'] (by decide)
  · exact assigned.unnamed "lang".toList (by decide +kernel)

end HeadingAttributes

end FoldMark.Markdown
