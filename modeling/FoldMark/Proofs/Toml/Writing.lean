import FoldMark.Proofs.Value.Settling

/-!
# Values written as TOML

What stands on a line is settled (`Toml.settles_writeInline`). The writer of a document refuses or
writes what does not contain itself and has no integer of too many digits (`Toml.refuses_write`),
and it writes nothing else (`Toml.canWrite_of_write`). What has no value is left out before.
-/

namespace FoldMark.Toml

open Value CodeText

variable {text path : CodeText}

/-! ## Lines -/

/-- A text of characters between double quotes. -/
theorem isUnicode_writeText (unicode : text.IsUnicode) : (writeText text).IsUnicode := by
  have body : IsUnicode (text.flatMap writePoint) := by
    refine isUnicode_flatMap fun point member => ?_
    obtain ⟨c, rfl⟩ := unicode point member
    exact isUnicode_ofChars (writeChar c)
  simp [writeText, body]

/-- A part of a key of characters. -/
theorem isUnicode_writeKeyPart (unicode : text.IsUnicode) : (writeKeyPart text).IsUnicode := by
  rw [writeKeyPart]
  split
  · exact unicode
  · exact isUnicode_writeText unicode

/-- Spaces. -/
theorem isUnicode_indentation (level : Nat) : (indentation level).IsUnicode := by
  intro point member
  exact ⟨' ', List.eq_of_mem_replicate member⟩

/-- The items of a list, of characters. -/
theorem isUnicode_writeItemLines {level : Nat} {items : List CodeText}
    (each : ∀ item ∈ items, item.IsUnicode) : (writeItemLines level items).IsUnicode := by
  have lines : ∀ item ∈ items,
      IsUnicode (indentation (level + 1) ++ item ++ ofString ",\n") := by
    intro item member
    simp [isUnicode_indentation, each item member]
  rw [writeItemLines]
  split
  · simp
  · simp only [isUnicode_append, isUnicode_ofString, isUnicode_indentation,
      isUnicode_flatMap lines, and_self]

/-- A table on one line, of characters. -/
theorem isUnicode_writeLineTable {entries : List CodeText}
    (each : ∀ entry ∈ entries, entry.IsUnicode) : (writeLineTable entries).IsUnicode := by
  rw [writeLineTable]
  split
  · simp
  · simp [isUnicode_intercalate (isUnicode_ofString ", ") each]

/-- A key and its value, of characters. -/
theorem isUnicode_writePair {key value : CodeText} (keyUnicode : key.IsUnicode)
    (valueUnicode : value.IsUnicode) : (writePair key value).IsUnicode := by
  simp [writePair, keyUnicode, valueUnicode]

/-- A key is settled. -/
theorem settles_writeKey (key : Value) :
    Settles (key.all isShort = true) (fun name => key.all isUnicode = true → name.IsUnicode)
      (writeKey key) := by
  cases key with
  | str s =>
    exact ⟨rfl, fun unicode => isUnicode_writeKeyPart (isSome_chars?_iff.mp unicode)⟩
  | _ =>
    exact ((settles_writeShown _).bind fun _ _ => .refusal rfl).of_iff (and_iff_left trivial)

mutual

/-- A value after its key is settled. -/
theorem settles_writeInline (level : Nat) (value : Value) :
    Settles value.CanWrite (fun text => value.all isUnicode = true → text.IsUnicode)
      (writeInline level value) := by
  cases value with
  | null | bytes | set => exact .refusal rfl
  | bool b => cases b <;> exact ⟨⟨rfl, rfl⟩, fun _ => isUnicode_ofString _⟩
  | float | date | dateTime | time => exact ⟨⟨rfl, rfl⟩, fun _ => isUnicode_ofChars _⟩
  | int n => exact (settles_shown rfl).mono fun _ unicode _ => unicode
  | str s =>
    exact ⟨⟨rfl, rfl⟩, fun unicode => isUnicode_writeText (isSome_chars?_iff.mp unicode)⟩
  | list id items | tuple items =>
    exact (settles_writeItems (level + 1) items).map fun _ each unicode =>
      isUnicode_writeItemLines (each unicode)
  | map id entries =>
    exact (settles_writeEntries entries).map fun _ each unicode =>
      isUnicode_writeLineTable (each unicode)
  | again id => exact .never fun can => nomatch can.1

/-- The items of a list are settled. -/
theorem settles_writeItems (level : Nat) (items : List Value) :
    Settles (CanWriteItems items)
      (fun texts => allItems isUnicode items = true → ∀ text ∈ texts, text.IsUnicode)
      (writeItems level items) := by
  cases items with
  | nil => exact ⟨⟨rfl, rfl⟩, fun _ => List.forall_mem_nil _⟩
  | cons item rest =>
    refine .of_iff canWriteItems_cons.symm ?_
    refine (settles_writeInline level item).bind fun text first => ?_
    refine (settles_writeItems level rest).map fun texts later unicode => ?_
    obtain ⟨itemUnicode, restUnicode⟩ := Bool.and_eq_true_iff.mp unicode
    exact List.forall_mem_cons.mpr ⟨first itemUnicode, later restUnicode⟩

/-- The entries of a table on one line are settled. -/
theorem settles_writeEntries (entries : List (Value × Value)) :
    Settles (CanWriteEntries entries)
      (fun texts => allEntries isUnicode entries = true → ∀ text ∈ texts, text.IsUnicode)
      (writeEntries entries) := by
  cases entries with
  | nil => exact ⟨⟨rfl, rfl⟩, fun _ => List.forall_mem_nil _⟩
  | cons entry rest =>
    obtain ⟨key, value⟩ := entry
    refine .of_iff canWriteEntries_cons.symm ?_
    refine (settles_writeKey key).bind fun name named => ?_
    refine (settles_writeInline 0 value).bind fun text first => ?_
    refine (settles_writeEntries rest).map fun texts later unicode => ?_
    obtain ⟨entryUnicode, restUnicode⟩ := Bool.and_eq_true_iff.mp unicode
    obtain ⟨keyUnicode, valueUnicode⟩ := Bool.and_eq_true_iff.mp entryUnicode
    exact List.forall_mem_cons.mpr
      ⟨isUnicode_writePair (named keyUnicode) (first valueUnicode), later restUnicode⟩

end

/-! ## Documents that can be written -/

/-- Whether a list is written as tables is told or refused. -/
theorem refuses_isTableList (items : List Value) (can : CanWriteItems items) :
    Refuses (fun _ => True) (isTableList items) := by
  rw [isTableList]
  split
  · refine (Ends.allM fun item member => ?_).map fun _ _ => trivial
    have settles := settles_writeInline 0 item
    exact (settles.refuses (canWriteItems_iff.mp can item member)).map fun _ _ => trivial
  · trivial

/-- Whether a value has headers is told or refused. -/
theorem refuses_isSection (value : Value) (can : value.CanWrite) :
    Refuses (fun _ => True) (isSection value) := by
  cases value with
  | list id items | tuple items => exact refuses_isTableList items can
  | _ => trivial

/-- The lines of entries are written or refused. -/
theorem refuses_writeLines (entries : List (Value × Value)) (can : CanWriteEntries entries) :
    Refuses (fun text => allEntries isUnicode entries = true → text.IsUnicode)
      (writeLines entries) := by
  induction entries with
  | nil => exact fun _ => isUnicode_nil
  | cons entry rest hypothesis =>
    obtain ⟨key, value⟩ := entry
    obtain ⟨keyCan, valueCan, restCan⟩ := canWriteEntries_cons.mp can
    refine (refuses_isSection value valueCan).bind fun hasHeader _ => ?_
    cases hasHeader with
    | true =>
      refine (hypothesis restCan).mono fun text later unicode => ?_
      exact later (Bool.and_eq_true_iff.mp unicode).2
    | false =>
      refine ((settles_writeKey key).refuses keyCan).bind fun name named => ?_
      refine ((settles_writeInline 0 value).refuses valueCan).bind fun text first => ?_
      refine (hypothesis restCan).map fun lines later unicode => ?_
      obtain ⟨entryUnicode, restUnicode⟩ := Bool.and_eq_true_iff.mp unicode
      obtain ⟨keyUnicode, valueUnicode⟩ := Bool.and_eq_true_iff.mp entryUnicode
      have pair := isUnicode_writePair (named keyUnicode) (first valueUnicode)
      simp [pair, later restUnicode]

/-- The front of a table is written or refused. -/
theorem refuses_writeFront (isListed : Bool) (path : CodeText) (entries : List (Value × Value))
    (can : CanWriteEntries entries) :
    Refuses (fun texts => path.IsUnicode → allEntries isUnicode entries = true →
      ∀ text ∈ texts, text.IsUnicode) (writeFront isListed path entries) := by
  have sections : Refuses (fun _ => True) (entries.mapM fun entry => isSection entry.2) :=
    (Ends.mapM fun entry member => refuses_isSection entry.2 (can.value member)).mono
      fun _ _ => trivial
  refine sections.bind fun sections _ => ?_
  refine (refuses_writeLines entries can).map fun lines later pathUnicode unicode => ?_
  have headed : (header isListed path).IsUnicode := by
    cases isListed <;> simp [header, pathUnicode]
  have front : ∀ hasHeader : Bool,
      IsUnicode ((if hasHeader then header isListed path else []) ++ lines) := by
    intro hasHeader
    cases hasHeader <;> simp [headed, later unicode]
  intro text member
  rw [List.mem_ite_nil_left, List.mem_singleton] at member
  rw [member.2]
  exact front _

/-- The path of a table within another, of characters. -/
theorem isUnicode_extendPath {key : CodeText} (pathUnicode : path.IsUnicode)
    (keyUnicode : key.IsUnicode) : (extendPath path key).IsUnicode := by
  rw [extendPath]
  split
  · exact keyUnicode
  · simp [pathUnicode, keyUnicode]

mutual

/-- The tables of a value are written or refused. -/
theorem refuses_writeTables (path : CodeText) (value : Value) (can : value.CanWrite) :
    Refuses (fun texts => path.IsUnicode → value.all isUnicode = true →
      ∀ text ∈ texts, text.IsUnicode) (writeTables path value) := by
  cases value with
  | map id entries =>
    refine (refuses_writeFront false path entries can).bind fun front frontUnicode => ?_
    refine (refuses_writeSections path entries can).map fun rest restUnicode => ?_
    exact fun pathUnicode unicode => List.forall_mem_append.mpr
      ⟨frontUnicode pathUnicode unicode, restUnicode pathUnicode unicode⟩
  | list id items | tuple items =>
    refine (refuses_isTableList items can).bind fun isTables _ => ?_
    cases isTables with
    | true => exact refuses_writeListed path items can
    | false => exact fun _ _ => List.forall_mem_nil _
  | _ => exact fun _ _ => List.forall_mem_nil _

/-- The tables of a list are written or refused. -/
theorem refuses_writeListed (path : CodeText) (items : List Value) (can : CanWriteItems items) :
    Refuses (fun texts => path.IsUnicode → allItems isUnicode items = true →
      ∀ text ∈ texts, text.IsUnicode) (writeListed path items) := by
  cases items with
  | nil => exact fun _ _ => List.forall_mem_nil _
  | cons item rest =>
    obtain ⟨itemCan, restCan⟩ := canWriteItems_cons.mp can
    cases item with
    | map id entries =>
      refine (refuses_writeFront true path entries itemCan).bind fun front frontUnicode => ?_
      refine (refuses_writeSections path entries itemCan).bind fun inner innerUnicode => ?_
      refine (refuses_writeListed path rest restCan).map fun others restUnicode => ?_
      intro pathUnicode unicode
      obtain ⟨itemUnicode, laterUnicode⟩ := Bool.and_eq_true_iff.mp unicode
      exact List.forall_mem_append.mpr ⟨List.forall_mem_append.mpr
        ⟨frontUnicode pathUnicode itemUnicode, innerUnicode pathUnicode itemUnicode⟩,
        restUnicode pathUnicode laterUnicode⟩
    | _ =>
      exact (refuses_writeListed path rest restCan).mono fun _ restUnicode pathUnicode unicode =>
        restUnicode pathUnicode (Bool.and_eq_true_iff.mp unicode).2

/-- The entries with headers are written or refused. -/
theorem refuses_writeSections (path : CodeText) (entries : List (Value × Value))
    (can : CanWriteEntries entries) :
    Refuses (fun texts => path.IsUnicode → allEntries isUnicode entries = true →
      ∀ text ∈ texts, text.IsUnicode) (writeSections path entries) := by
  cases entries with
  | nil => exact fun _ _ => List.forall_mem_nil _
  | cons entry rest =>
    obtain ⟨key, value⟩ := entry
    obtain ⟨keyCan, valueCan, restCan⟩ := canWriteEntries_cons.mp can
    refine (refuses_isSection value valueCan).bind fun hasHeader _ => ?_
    cases hasHeader with
    | true =>
      refine ((settles_writeKey key).refuses keyCan).bind fun name named => ?_
      refine (refuses_writeTables _ value valueCan).bind fun tables tablesUnicode => ?_
      refine (refuses_writeSections path rest restCan).map fun others restUnicode => ?_
      intro pathUnicode unicode
      obtain ⟨entryUnicode, laterUnicode⟩ := Bool.and_eq_true_iff.mp unicode
      obtain ⟨keyUnicode, valueUnicode⟩ := Bool.and_eq_true_iff.mp entryUnicode
      exact List.forall_mem_append.mpr
        ⟨tablesUnicode (isUnicode_extendPath pathUnicode (named keyUnicode)) valueUnicode,
          restUnicode pathUnicode laterUnicode⟩
    | false =>
      exact (refuses_writeSections path rest restCan).mono fun _ restUnicode pathUnicode unicode =>
        restUnicode pathUnicode (Bool.and_eq_true_iff.mp unicode).2

end

/-! ## Documents that are written -/

/-- Entries written without headers have no integer of too many digits, where they need none. -/
theorem short_of_writeLines {entries : List (Value × Value)}
    (written : writeLines entries = .ok text) :
    ∀ entry ∈ entries, isSection entry.2 = .ok true ∨
      entry.1.all isShort = true ∧ entry.2.all isShort = true := by
  induction entries generalizing text with
  | nil => exact List.forall_mem_nil _
  | cons entry rest hypothesis =>
    obtain ⟨key, value⟩ := entry
    obtain ⟨hasHeader, told, written⟩ := exists_of_bind_eq_ok written
    cases hasHeader with
    | true => exact List.forall_mem_cons.mpr ⟨Or.inl told, hypothesis written⟩
    | false =>
      obtain ⟨name, named, written⟩ := exists_of_bind_eq_ok written
      obtain ⟨line, inline, written⟩ := exists_of_bind_eq_ok written
      obtain ⟨lines, others, -⟩ := exists_of_bind_eq_ok written
      have short := ((settles_writeInline 0 value).possible inline).2
      exact List.forall_mem_cons.mpr
        ⟨Or.inr ⟨(settles_writeKey key).possible named, short⟩, hypothesis others⟩

/-- Entries have no integer of too many digits if those with headers and the others have none. -/
theorem short_of_parts {isListed : Bool} {entries : List (Value × Value)}
    {front : List CodeText} (written : writeFront isListed path entries = .ok front)
    (sections : ∀ entry ∈ entries, isSection entry.2 = .ok true →
      entry.1.all isShort = true ∧ entry.2.all isShort = true) :
    allEntries isShort entries = true := by
  obtain ⟨_, -, written⟩ := exists_of_bind_eq_ok written
  obtain ⟨lines, written, -⟩ := exists_of_bind_eq_ok written
  refine allEntries_iff.mpr fun entry member => ?_
  rcases short_of_writeLines written entry member with headed | short
  · exact sections entry member headed
  · exact short

mutual

/-- A value whose tables are written has no integer of too many digits. -/
theorem short_of_writeTables (path : CodeText) (value : Value) {tables : List CodeText}
    (written : writeTables path value = .ok tables) (headed : isSection value = .ok true) :
    value.all isShort = true := by
  cases value with
  | map id entries =>
    obtain ⟨front, fronted, written⟩ := exists_of_bind_eq_ok written
    obtain ⟨rest, sections, -⟩ := exists_of_bind_eq_ok written
    exact short_of_parts fronted (short_of_writeSections path entries sections)
  | list id items | tuple items =>
    obtain ⟨isTables, told, written⟩ := exists_of_bind_eq_ok written
    obtain rfl : isTables = true := Except.ok.inj (told.symm.trans headed)
    refine short_of_writeListed path items written ?_
    rw [isTableList] at told
    split at told
    · exact (Bool.and_eq_true_iff.mp ‹_›).2
    · cases told
  | _ => cases headed

/-- The tables of a list that are written have no integer of too many digits. -/
theorem short_of_writeListed (path : CodeText) (items : List Value) {tables : List CodeText}
    (written : writeListed path items = .ok tables) (isTables : items.all isTable = true) :
    allItems isShort items = true := by
  cases items with
  | nil => rfl
  | cons item rest =>
    rw [List.all_cons, Bool.and_eq_true] at isTables
    cases item with
    | map id entries =>
      obtain ⟨front, fronted, written⟩ := exists_of_bind_eq_ok written
      obtain ⟨inner, sections, written⟩ := exists_of_bind_eq_ok written
      obtain ⟨others, listed, -⟩ := exists_of_bind_eq_ok written
      have first := short_of_parts fronted (short_of_writeSections path entries sections)
      exact Bool.and_eq_true_iff.mpr ⟨first, short_of_writeListed path rest listed isTables.2⟩
    | _ => cases isTables.1

/-- The entries with headers that are written have no integer of too many digits. -/
theorem short_of_writeSections (path : CodeText) (entries : List (Value × Value))
    {tables : List CodeText} (written : writeSections path entries = .ok tables) :
    ∀ entry ∈ entries, isSection entry.2 = .ok true →
      entry.1.all isShort = true ∧ entry.2.all isShort = true := by
  cases entries with
  | nil => exact List.forall_mem_nil _
  | cons entry rest =>
    obtain ⟨key, value⟩ := entry
    obtain ⟨hasHeader, told, written⟩ := exists_of_bind_eq_ok written
    cases hasHeader with
    | true =>
      obtain ⟨name, named, written⟩ := exists_of_bind_eq_ok written
      obtain ⟨inner, tabled, written⟩ := exists_of_bind_eq_ok written
      obtain ⟨others, sections, -⟩ := exists_of_bind_eq_ok written
      have short := short_of_writeTables _ value tabled told
      exact List.forall_mem_cons.mpr
        ⟨fun _ => ⟨(settles_writeKey key).possible named, short⟩,
          short_of_writeSections path rest sections⟩
    | false =>
      refine List.forall_mem_cons.mpr ⟨fun headed => ?_, short_of_writeSections path rest written⟩
      cases told.symm.trans headed

end

/-! ## What is left out -/

mutual

/-- Leaving out what has no value changes nothing about being endless. -/
theorem isEndless_withoutNulls (value : Value) :
    isEndless (withoutNulls value) = isEndless value := by
  cases value with
  | list id items | tuple items => exact anyEndless_withoutNulls items
  | map id entries => exact anyEntryEndless_withoutNulls entries
  | _ => rfl

/-- Leaving out items that have no value. -/
theorem anyEndless_withoutNulls (items : List Value) :
    anyEndless (itemsWithoutNulls items) = anyEndless items := by
  cases items with
  | nil => rfl
  | cons item rest =>
    have later := anyEndless_withoutNulls rest
    have first := isEndless_withoutNulls item
    cases item with
    | null => exact later
    | _ => simp only [itemsWithoutNulls, anyEndless, first, later]

/-- Leaving out entries that have no value. -/
theorem anyEntryEndless_withoutNulls (entries : List (Value × Value)) :
    anyEntryEndless (entriesWithoutNulls entries) = anyEntryEndless entries := by
  cases entries with
  | nil => rfl
  | cons entry rest =>
    obtain ⟨key, value⟩ := entry
    have later := anyEntryEndless_withoutNulls rest
    have first := isEndless_withoutNulls value
    cases value with
    | null => exact later
    | _ => simp only [entriesWithoutNulls, anyEntryEndless, first, later]

end

mutual

/-- A value passes a test without what has no value, if containers pass it with any contents. -/
theorem all_withoutNulls {test : Value → Bool} (lists : ∀ id items, test (.list id items) = true)
    (mappings : ∀ id entries, test (.map id entries) = true) (value : Value)
    (passes : value.all test = true) : (withoutNulls value).all test = true := by
  cases value with
  | list id items | tuple items =>
    have inner := all_itemsWithoutNulls lists mappings items (Bool.and_eq_true_iff.mp passes).2
    exact Bool.and_eq_true_iff.mpr ⟨lists _ _, inner⟩
  | map id entries =>
    have inner := all_entriesWithoutNulls lists mappings entries (Bool.and_eq_true_iff.mp passes).2
    exact Bool.and_eq_true_iff.mpr ⟨mappings _ _, inner⟩
  | _ => exact passes

/-- Items pass a test without those that have no value. -/
theorem all_itemsWithoutNulls {test : Value → Bool}
    (lists : ∀ id items, test (.list id items) = true)
    (mappings : ∀ id entries, test (.map id entries) = true) (items : List Value)
    (passes : allItems test items = true) : allItems test (itemsWithoutNulls items) = true := by
  cases items with
  | nil => rfl
  | cons item rest =>
    obtain ⟨itemPasses, restPasses⟩ := Bool.and_eq_true_iff.mp passes
    have later := all_itemsWithoutNulls lists mappings rest restPasses
    have first := all_withoutNulls lists mappings item itemPasses
    cases item with
    | null => exact later
    | _ => exact Bool.and_eq_true_iff.mpr ⟨first, later⟩

/-- Entries pass a test without those that have no value. -/
theorem all_entriesWithoutNulls {test : Value → Bool}
    (lists : ∀ id items, test (.list id items) = true)
    (mappings : ∀ id entries, test (.map id entries) = true) (entries : List (Value × Value))
    (passes : allEntries test entries = true) :
    allEntries test (entriesWithoutNulls entries) = true := by
  cases entries with
  | nil => rfl
  | cons entry rest =>
    obtain ⟨key, value⟩ := entry
    obtain ⟨entryPasses, restPasses⟩ := Bool.and_eq_true_iff.mp passes
    obtain ⟨keyPasses, valuePasses⟩ := Bool.and_eq_true_iff.mp entryPasses
    have later := all_entriesWithoutNulls lists mappings rest restPasses
    have first := all_withoutNulls lists mappings value valuePasses
    cases value with
    | null => exact later
    | _ =>
      exact Bool.and_eq_true_iff.mpr ⟨Bool.and_eq_true_iff.mpr ⟨keyPasses, first⟩, later⟩

end

/-! ## Documents -/

/-- A document is written or refused if, without what has no value, it can be written. -/
theorem refuses_write (value : Value) (can : (withoutNulls value).CanWrite) :
    Refuses (fun text => (withoutNulls value).all isUnicode = true → text.IsUnicode)
      (write value) := by
  have ends := (isEndless_withoutNulls value).symm.trans can.1
  rw [write, ends, if_neg Bool.false_ne_true]
  refine (refuses_writeTables [] _ can).map fun tables each unicode => ?_
  exact isUnicode_intercalate (isUnicode_ofString "\n") (each isUnicode_nil unicode)

/-- A mapping that is written can be, without what has no value. -/
theorem canWrite_of_write {id : Option Nat} {entries : List (Value × Value)}
    (written : write (.map id entries) = .ok text) : (withoutNulls (.map id entries)).CanWrite := by
  rw [write] at written
  split at written
  · cases written
  · rename_i ends
    obtain ⟨tables, tabled, -⟩ := exists_of_map_eq_ok written
    exact ⟨(isEndless_withoutNulls _).trans (Bool.eq_false_iff.mpr ends),
      short_of_writeTables [] _ tabled rfl⟩

end FoldMark.Toml
