import FoldMark.Proofs.Value.All
import FoldMark.Proofs.Yaml.Progress
import FoldMark.Toml.Reader

/-!
# Values of a TOML document

There is nothing in TOML by which a value could stand in two places: no value that is read has an
identity (`unshared_of_read`). The tables are filled through paths, and each step of filling keeps
that.
-/

namespace FoldMark.Toml

open Value
open Yaml (Gives gives_none gives_some)

/-- Of what any reader gives, nothing needs to be known. -/
theorem gives_any {α : Type} (found : Option α) : Gives (fun _ => True) found :=
  fun _ _ => trivial

/-! ## Tables -/

namespace Table

variable {table : Table} {key : Key} {item : Item}

/-- What the keys of a table stand for has no identity. -/
def IsUnshared (table : Table) : Prop := ∀ entry ∈ table, entry.2.toValue.all isUnshared = true

/-- The values of a table's keys. -/
theorem allEntries_entryValues (table : Table) :
    allEntries isUnshared (Item.entryValues table) = true ↔ table.IsUnshared := by
  induction table with
  | nil => simp [Item.entryValues, allEntries, IsUnshared]
  | cons entry rest hypothesis =>
    obtain ⟨key, item⟩ := entry
    have named : (Value.str key).all isUnshared = true := rfl
    simp only [Item.entryValues, allEntries, named, Bool.true_and, Bool.and_eq_true, hypothesis]
    simp [IsUnshared]

/-- A table within a table. -/
theorem isUnshared_table {isClosed : Bool} :
    (Item.table isClosed table).toValue.all isUnshared = true ↔ table.IsUnshared := by
  rw [Item.toValue, all, Bool.and_eq_true, allEntries_entryValues]
  exact and_iff_right rfl

/-- The value of a table. -/
theorem isUnshared_toValue : table.toValue.all isUnshared = true ↔ table.IsUnshared := by
  rw [toValue, all, Bool.and_eq_true, allEntries_entryValues]
  exact and_iff_right rfl

/-- Tables in a list. -/
theorem isUnshared_tables {earlier : List Value} :
    (Item.tables earlier table).toValue.all isUnshared = true ↔
      allItems isUnshared earlier = true ∧ table.IsUnshared := by
  have last : (Value.map none (Item.entryValues table)).all isUnshared = true ↔ table.IsUnshared :=
    isUnshared_toValue
  rw [Item.toValue, all, Bool.and_eq_true]
  refine (and_iff_right rfl).trans ?_
  simp only [allItems_iff, List.mem_append, List.mem_singleton, or_imp, forall_and, forall_eq, last]

/-- What a key stands for. -/
theorem IsUnshared.find? (unshared : table.IsUnshared) (found : table.find? key = some item) :
    item.toValue.all isUnshared = true := by
  obtain ⟨before, after, rfl, -⟩ := List.lookup_eq_some_iff.mp found
  exact unshared (key, item) (by simp)

/-- Letting a key stand for something else. -/
theorem IsUnshared.replace (unshared : table.IsUnshared)
    (alone : item.toValue.all isUnshared = true) : (table.replace key item).IsUnshared := by
  intro entry member
  obtain ⟨old, listed, rfl⟩ := List.mem_map.mp member
  split
  · exact alone
  · exact unshared old listed

/-- Adding a key. -/
theorem IsUnshared.add (unshared : table.IsUnshared) (alone : item.toValue.all isUnshared = true) :
    (table.add key item).IsUnshared := by
  intro entry member
  rcases List.mem_append.mp member with before | last
  · exact unshared entry before
  · rw [List.mem_singleton.mp last]
    exact alone

/-- A table without keys. -/
theorem isUnshared_nil : IsUnshared [] := nofun

/-- A change of tables gives nothing an identity. -/
def KeepsUnshared (change : Table → Option Table) : Prop :=
  ∀ table : Table, table.IsUnshared → Gives IsUnshared (change table)

/-- Changing the table at a path. -/
theorem keepsUnshared_update {change : Table → Option Table} (keeps : KeepsUnshared change)
    (path : List Key) : KeepsUnshared (update change path) := by
  induction path with
  | nil => exact keeps
  | cons key path hypothesis =>
    intro table unshared
    rw [update]
    cases found : table.find? key with
    | none =>
      exact (hypothesis [] isUnshared_nil).map fun inner alone =>
        unshared.add (isUnshared_table.mpr alone)
    | some item =>
      have before := unshared.find? found
      cases item with
      | value value => exact gives_none
      | table isClosed entries =>
        exact (hypothesis entries (isUnshared_table.mp before)).map fun inner alone =>
          unshared.replace (isUnshared_table.mpr alone)
      | tables earlier last =>
        obtain ⟨earlierAlone, lastAlone⟩ := isUnshared_tables.mp before
        exact (hypothesis last lastAlone).map fun inner alone =>
          unshared.replace (isUnshared_tables.mpr ⟨earlierAlone, alone⟩)

/-- Changing the table at a path through open tables. -/
theorem keepsUnshared_updateOpen {change : Table → Option Table} (keeps : KeepsUnshared change)
    (path : List Key) : KeepsUnshared (updateOpen change path) := by
  induction path with
  | nil => exact keeps
  | cons key path hypothesis =>
    intro table unshared
    rw [updateOpen]
    split
    · exact (hypothesis [] isUnshared_nil).map fun inner alone =>
        unshared.add (isUnshared_table.mpr alone)
    · rename_i inner found
      exact (hypothesis inner (isUnshared_table.mp (unshared.find? found))).map fun inner alone =>
        unshared.replace (isUnshared_table.mpr alone)
    · exact gives_none

/-- Adding a value at a path. -/
theorem keepsUnshared_insert {value : Value} (alone : value.all Value.isUnshared = true)
    (path : List Key) : KeepsUnshared (Table.insert path value) := by
  intro table unshared
  refine (gives_any path.getLast?).bind fun key _ =>
    keepsUnshared_updateOpen (fun table unshared => ?_) _ table unshared
  rw [addValue]
  split
  · exact gives_none
  · exact gives_some (unshared.add alone)

/-- Opening the table of a header. -/
theorem keepsUnshared_openTable (key : Key) : KeepsUnshared (openTable key) := by
  intro table unshared
  rw [openTable]
  split
  · exact gives_some (unshared.add rfl)
  · rename_i inner found
    have alone := isUnshared_table.mp (unshared.find? found)
    exact gives_some (unshared.replace (isUnshared_table.mpr alone))
  · exact gives_none

/-- Starting the next table of a list. -/
theorem keepsUnshared_openNext (key : Key) : KeepsUnshared (openNext key) := by
  intro table unshared
  rw [openNext]
  split
  · exact gives_some (unshared.add rfl)
  · rename_i earlier last found
    obtain ⟨earlierAlone, lastAlone⟩ := isUnshared_tables.mp (unshared.find? found)
    refine gives_some (unshared.replace (isUnshared_tables.mpr ⟨?_, isUnshared_nil⟩))
    rw [allItems_iff] at earlierAlone ⊢
    intro value member
    rcases List.mem_append.mp member with before | same
    · exact earlierAlone value before
    · rw [List.mem_singleton.mp same]
      exact isUnshared_toValue.mpr lastAlone
  · exact gives_none

/-- Closing the table of a key. -/
theorem keepsUnshared_close (key : Key) : KeepsUnshared (close key) := by
  intro table unshared
  rw [close]
  split
  · rename_i isClosed inner found
    have alone := isUnshared_table.mp (unshared.find? found)
    exact gives_some (unshared.replace (isUnshared_table.mpr alone))
  · exact gives_some unshared

end Table

/-! ## Documents -/

namespace Draft

/-- Changing the table that holds the last key of a path. -/
theorem keepsUnshared_atParent {change : Key → Table → Option Table}
    (keeps : ∀ key, Table.KeepsUnshared (change key)) (path : List Key) :
    Table.KeepsUnshared (atParent change path) := by
  intro root unshared
  exact (gives_any path.getLast?).bind fun key _ =>
    Table.keepsUnshared_update (keeps key) _ root unshared

/-- Closing the tables of a section. -/
theorem unshared_endSection {draft : Draft} (unshared : draft.root.IsUnshared) :
    Gives Table.IsUnshared draft.endSection := by
  obtain ⟨root, header, passed⟩ := draft
  rw [endSection]
  dsimp only at unshared ⊢
  induction passed generalizing root with
  | nil => exact gives_some unshared
  | cons path rest hypothesis =>
    rw [List.foldlM_cons]
    exact (keepsUnshared_atParent Table.keepsUnshared_close path root unshared).bind hypothesis

end Draft

/-- The value that a statement gives a key has no identity. -/
def Statement.IsUnshared : Statement → Prop
  | .pair _ value => value.all Value.isUnshared = true
  | _ => True

/-- Taking up a statement. -/
theorem Draft.unshared_add {draft : Draft} {statement : Statement}
    (unshared : draft.root.IsUnshared) (alone : statement.IsUnshared) :
    Gives (fun after => after.root.IsUnshared) (draft.add statement) := by
  cases statement with
  | table path =>
    refine (unshared_endSection unshared).bind fun root rootAlone => ?_
    exact (keepsUnshared_atParent Table.keepsUnshared_openTable path root rootAlone).bind
      fun _ opened => gives_some opened
  | tables path =>
    refine (unshared_endSection unshared).bind fun root rootAlone => ?_
    exact (keepsUnshared_atParent Table.keepsUnshared_openNext path root rootAlone).bind
      fun _ opened => gives_some opened
  | pair path value =>
    exact (Table.keepsUnshared_update (Table.keepsUnshared_insert alone path) draft.header
      draft.root unshared).bind fun _ filled => gives_some filled

/-- The value of statements. -/
theorem unshared_build {statements : List Statement}
    (alone : ∀ statement ∈ statements, statement.IsUnshared) :
    Gives (fun value => value.all isUnshared = true) (build? statements) := by
  have filled : ∀ draft : Draft, draft.root.IsUnshared →
      Gives (fun after => after.root.IsUnshared) (statements.foldlM Draft.add draft) := by
    induction statements with
    | nil => exact fun draft unshared => gives_some unshared
    | cons statement rest hypothesis =>
      intro draft unshared
      rw [List.foldlM_cons]
      exact (Draft.unshared_add unshared (alone statement (List.mem_cons_self ..))).bind
        (hypothesis fun other member => alone other (List.mem_cons_of_mem _ member))
  exact (filled ⟨[], [], []⟩ Table.isUnshared_nil).bind fun draft unshared =>
    gives_some (Table.isUnshared_toValue.mpr unshared)

/-! ## Readers -/

/-- A value that is read has no identity. -/
abbrev GivesUnshared (found : Option (Value × List Char)) : Prop :=
  Gives (fun found => found.1.all isUnshared = true) found

/-- The first of two readers that gives something. -/
theorem GivesUnshared.or {first second : Option (Value × List Char)}
    (left : GivesUnshared first) (right : GivesUnshared second) :
    GivesUnshared (first.or second) := by
  cases first with
  | none => exact right
  | some found => exact left

/-- A number. -/
theorem givesUnshared_readNumber (text : List Char) : GivesUnshared (readNumber? text) := by
  refine GivesUnshared.or ?_ (.or ?_ ?_)
  · unfold readBased?
    split
    · exact (gives_any _).bind fun _ _ => (gives_any _).bind fun _ _ => gives_some rfl
    · exact gives_none
  · unfold readDecimal?
    obtain ⟨isNegative, rest⟩ := readSign text
    dsimp only
    split
    all_goals
      refine (gives_any _).bind fun whole _ => ?_
      split
      · split
        · exact gives_none
        · exact gives_some rfl
      · exact gives_some rfl
  · unfold readExtreme?
    dsimp only
    split
    · exact gives_some rfl
    · exact gives_some rfl
    · exact gives_none

/-- A date, with a time or not. -/
theorem givesUnshared_readDateTime (text : List Char) : GivesUnshared (readDateTime? text) := by
  refine (gives_any _).bind fun date _ => ?_
  dsimp only
  split
  all_goals exact gives_some rfl

/-- A value that is neither a list nor a table. -/
theorem givesUnshared_readScalar (text : List Char) : GivesUnshared (readScalar? text) := by
  unfold readScalar?
  split
  · exact (gives_any _).map fun _ _ => rfl
  · exact (gives_any _).map fun _ _ => rfl
  · exact gives_some rfl
  · exact gives_some rfl
  · split
    · exact givesUnshared_readDateTime text
    · split
      · exact (gives_any _).map fun _ _ => rfl
      · exact givesUnshared_readNumber text

/-- What the readers of `fuel` steps give has no identity. -/
structure ReadersUnshared (fuel : Nat) : Prop where
  /-- Of a value. -/
  value : ∀ text, GivesUnshared (readValue? fuel text)
  /-- Of the items of a list. -/
  items : ∀ text, Gives (fun found => allItems isUnshared found.1 = true) (readItems? fuel text)
  /-- Of the entries of a table on one line. -/
  entries : ∀ (table : Table) (text), table.IsUnshared →
    Gives (fun found => found.1.IsUnshared) (readEntries? fuel table text)

/-- No reader gives anything an identity. -/
theorem readersUnshared (fuel : Nat) : ReadersUnshared fuel := by
  induction fuel with
  | zero => exact ⟨fun _ => gives_none, fun _ => gives_none, fun _ _ _ => gives_none⟩
  | succ fuel hypothesis =>
    refine ⟨fun text => ?_, fun text => ?_, fun table text unshared => ?_⟩
    · unfold readValue?
      split
      · refine (gives_any _).bind fun rest _ => ?_
        split
        · exact gives_some rfl
        · exact (hypothesis.items _).map fun found alone => alone
      · split
        · exact gives_some rfl
        · exact (hypothesis.entries [] _ Table.isUnshared_nil).map fun found alone =>
            Table.isUnshared_toValue.mpr alone
      · exact givesUnshared_readScalar text
    · have one : ∀ item : Value, item.all isUnshared = true →
          allItems isUnshared [item] = true := fun item alone => by simp [alone]
      unfold readItems?
      refine (hypothesis.value text).bind fun item alone => ?_
      refine (gives_any _).bind fun rest _ => ?_
      split
      · exact gives_some (one _ alone)
      · refine (gives_any _).bind fun rest _ => ?_
        split
        · exact gives_some (one _ alone)
        · exact (hypothesis.items _).bind fun items others =>
            gives_some (Bool.and_eq_true_iff.mpr ⟨alone, others⟩)
      · exact gives_none
    · unfold readEntries?
      refine (gives_any _).bind fun path _ => ?_
      refine (hypothesis.value _).bind fun value alone => ?_
      refine (Table.keepsUnshared_insert alone path.1 table unshared).bind fun table filled => ?_
      split
      · exact gives_some filled
      · exact hypothesis.entries table _ filled
      · exact gives_none

/-- A statement. -/
theorem unshared_readStatement (text : List Char) :
    Gives (fun found => found.1.IsUnshared) (readStatement? text) := by
  unfold readStatement?
  split
  · exact (gives_any _).bind fun _ _ => (gives_any _).bind fun _ _ => (gives_any _).bind fun _ _ =>
      gives_some trivial
  · exact (gives_any _).bind fun _ _ => (gives_any _).bind fun _ _ => gives_some trivial
  · exact (gives_any _).bind fun _ _ => ((readersUnshared _).value _).bind fun _ alone =>
      gives_some alone

/-- The statements of a text. -/
theorem unshared_readStatements (fuel : Nat) (text : List Char) :
    Gives (fun statements => ∀ statement ∈ statements, statement.IsUnshared)
      (readStatements? fuel text) := by
  induction fuel generalizing text with
  | zero => exact gives_some nofun
  | succ fuel hypothesis =>
    unfold readStatements?
    split
    · exact gives_some nofun
    · split
      · exact hypothesis _
      · split
        · exact (gives_any _).bind fun rest _ => hypothesis rest
        · refine (unshared_readStatement _).bind fun statement alone => ?_
          refine (gives_any _).bind fun rest _ => (hypothesis rest).bind fun later others => ?_
          exact gives_some (List.forall_mem_cons.mpr ⟨alone, others⟩)

/-- No value within a document has an identity. -/
theorem unshared_of_read {text : List Char} {value : Value} (read : read? text = some value) :
    value.all isUnshared = true :=
  (unshared_readStatements _ _).bind (fun _ alone => unshared_build alone) value read

end FoldMark.Toml
