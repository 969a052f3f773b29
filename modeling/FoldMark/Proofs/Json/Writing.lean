import FoldMark.Json.Writer
import FoldMark.Proofs.Value.Settling

/-!
# Values written as JSON

The writer of JSON settles every value, and writes a value whose texts are of characters as
characters: `Json.settles_writeValue`.
-/

namespace FoldMark.Json

open Value CodeText

variable {text : CodeText}

/-- A string of a text of characters. -/
theorem isUnicode_writeString (unicode : text.IsUnicode) : (writeString text).IsUnicode := by
  have body : IsUnicode (text.flatMap writePoint) := by
    refine isUnicode_flatMap fun point member => ?_
    obtain ⟨c, rfl⟩ := unicode point member
    exact isUnicode_ofChars (writeChar c)
  simp [writeString, body]

/-- Brackets around texts of characters. -/
theorem isUnicode_bracket {start stop : Char} {level : Nat} {items : List CodeText}
    (each : ∀ item ∈ items, item.IsUnicode) : (bracket start stop level items).IsUnicode := by
  have between : IsUnicode (.char ',' :: CodeText.ofChars (newLine (level + 1))) := by simp
  rw [bracket]
  split
  · simp
  · simp [isUnicode_intercalate between each]

/-- The text of a name is of characters if the name is. -/
theorem isUnicode_of_all (unicode : (Value.str text).all isUnicode = true) : text.IsUnicode :=
  isSome_chars?_iff.mp unicode

/-- The name of a member is settled by the key. -/
theorem settles_memberName (key : Value) :
    Settles (key.all isShort = true) (fun name => key.all isUnicode = true → name.IsUnicode)
      (memberName key) := by
  cases key with
  | str s => exact ⟨rfl, isUnicode_of_all⟩
  | null => exact ⟨rfl, fun _ => isUnicode_ofString _⟩
  | bool b => cases b <;> exact ⟨rfl, fun _ => isUnicode_ofString _⟩
  | int n => exact (settles_writeShown (.int n)).mono fun _ shown _ => shown
  | float x => exact ⟨rfl, fun _ => isUnicode_ofChars _⟩
  | _ => exact .refusal rfl

mutual

/-- A value is settled. -/
theorem settles_writeValue (level : Nat) (value : Value) :
    Settles value.CanWrite (fun text => value.all isUnicode = true → text.IsUnicode)
      (writeValue level value) := by
  cases value with
  | str s => exact ⟨⟨rfl, rfl⟩, fun unicode => isUnicode_writeString (isUnicode_of_all unicode)⟩
  | null => exact ⟨⟨rfl, rfl⟩, fun _ => isUnicode_ofString _⟩
  | bool b => cases b <;> exact ⟨⟨rfl, rfl⟩, fun _ => isUnicode_ofString _⟩
  | float x => exact ⟨⟨rfl, rfl⟩, fun _ => isUnicode_ofChars _⟩
  | int n => exact (settles_shown rfl).mono fun _ unicode _ => unicode
  | list id items | tuple items =>
    exact (settles_writeItems (level + 1) items).map fun _ each unicode =>
      isUnicode_bracket (each unicode)
  | map id entries =>
    exact (settles_writeMembers (level + 1) entries).map fun _ each unicode =>
      isUnicode_bracket (each unicode)
  | again id => exact .never fun can => nomatch can.1
  | bytes | date | dateTime | time | set =>
    exact (settles_shown rfl).map fun _ unicode _ => isUnicode_writeString unicode

/-- The items of a list are settled. -/
theorem settles_writeItems (level : Nat) (items : List Value) :
    Settles (CanWriteItems items)
      (fun texts => allItems isUnicode items = true → ∀ text ∈ texts, text.IsUnicode)
      (writeItems level items) := by
  cases items with
  | nil => exact ⟨⟨rfl, rfl⟩, fun _ => List.forall_mem_nil _⟩
  | cons item rest =>
    refine .of_iff canWriteItems_cons.symm ?_
    refine (settles_writeValue level item).bind fun text first => ?_
    refine (settles_writeItems level rest).map fun texts later unicode => ?_
    obtain ⟨itemUnicode, restUnicode⟩ := Bool.and_eq_true_iff.mp unicode
    exact List.forall_mem_cons.mpr ⟨first itemUnicode, later restUnicode⟩

/-- The members of a mapping are settled. -/
theorem settles_writeMembers (level : Nat) (entries : List (Value × Value)) :
    Settles (CanWriteEntries entries)
      (fun texts => allEntries isUnicode entries = true → ∀ text ∈ texts, text.IsUnicode)
      (writeMembers level entries) := by
  cases entries with
  | nil => exact ⟨⟨rfl, rfl⟩, fun _ => List.forall_mem_nil _⟩
  | cons entry rest =>
    obtain ⟨key, value⟩ := entry
    refine .of_iff canWriteEntries_cons.symm ?_
    refine (settles_memberName key).bind fun name named => ?_
    refine (settles_writeValue level value).bind fun text first => ?_
    refine (settles_writeMembers level rest).map fun texts later unicode => ?_
    obtain ⟨entryUnicode, restUnicode⟩ := Bool.and_eq_true_iff.mp unicode
    obtain ⟨keyUnicode, valueUnicode⟩ := Bool.and_eq_true_iff.mp entryUnicode
    have string := isUnicode_writeString (named keyUnicode)
    refine List.forall_mem_cons.mpr ⟨?_, later restUnicode⟩
    simp [string, first valueUnicode]

end

end FoldMark.Json
