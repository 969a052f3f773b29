import FoldMark.Proofs.Chain
import FoldMark.Text.CodePoint
import Mathlib.Data.List.Basic
import Mathlib.Data.Set.List

/-!
# Texts of characters

The characters of a text are those that it was made of (`CodeText.chars?_eq_some_iff`), and a text
is one of characters exactly if all its code points are (`CodeText.exists_ofChars_iff`), which what
is put together of such texts is again.
-/

namespace FoldMark

namespace CodePoint

/-- The code point with the number of a character is the character. -/
@[simp] theorem ofNat_toNat (c : Char) : ofNat c.toNat = char c := by
  have valid : ¬(c.toNat - firstHalf < 0x800 ∧ firstHalf ≤ c.toNat) := by
    rcases c.valid with below | ⟨above, -⟩
    · exact fun inside => Nat.not_le_of_lt below inside.2
    · have far : 0xDFFF < c.toNat := above
      rw [firstHalf]
      omega
  rw [ofNat, dif_neg valid, Char.ofNat_toNat]

end CodePoint

namespace CodeText

variable {text : CodeText} {chars : List Char}

/-- No characters. -/
@[simp] theorem ofChars_nil : ofChars [] = [] := rfl

/-- A character more. -/
@[simp] theorem ofChars_cons (c : Char) (chars : List Char) :
    ofChars (c :: chars) = .char c :: ofChars chars := rfl

/-- Characters after characters. -/
@[simp] theorem ofChars_append (first second : List Char) :
    ofChars (first ++ second) = ofChars first ++ ofChars second := List.map_append

/-- Characters between others. -/
@[simp] theorem ofChars_intercalate (separator : List Char) (texts : List (List Char)) :
    ofChars (separator.intercalate texts) =
      (ofChars separator).intercalate (texts.map ofChars) := by
  induction texts with
  | nil => rfl
  | cons text texts hypothesis =>
    cases texts with
    | nil => simp [List.intercalate_singleton]
    | cons next texts =>
      rw [List.intercalate_cons_cons, ofChars_append, ofChars_append, hypothesis]
      exact List.intercalate_cons_cons.symm

/-- There are as many code points as characters. -/
@[simp] theorem length_ofChars (chars : List Char) : (ofChars chars).length = chars.length :=
  List.length_map _

/-- A text is made of its characters in one way. -/
theorem ofChars_injective : Function.Injective ofChars :=
  List.map_injective_iff.mpr fun _ _ => CodePoint.char.inj

/-- Equal texts are made of equal characters. -/
@[simp] theorem ofChars_inj {first second : List Char} :
    ofChars first = ofChars second ↔ first = second := ofChars_injective.eq_iff

/-- Equal texts are texts of equal strings. -/
@[simp] theorem ofString_inj {first second : String} :
    ofString first = ofString second ↔ first = second := by
  rw [ofString, ofString, ofChars_inj, String.toList_inj]

/-- The characters of a text are those that it is made of. -/
theorem chars?_eq_some_iff : text.chars? = some chars ↔ text = ofChars chars := by
  rw [chars?, mapM_eq_some_iff]
  induction text generalizing chars with
  | nil => cases chars <;> simp [ofChars]
  | cons point text hypothesis =>
    cases chars with
    | nil => simp [ofChars]
    | cons c chars =>
      rw [List.map_cons, List.map_cons, List.cons.injEq, hypothesis, ofChars_cons, List.cons.injEq]
      cases point <;> simp [CodePoint.char?]

/-- A text that is made of characters has them. -/
@[simp] theorem chars?_ofChars (chars : List Char) : (ofChars chars).chars? = some chars :=
  chars?_eq_some_iff.mpr rfl

/-- All code points of a text are characters. -/
def IsUnicode (text : CodeText) : Prop := ∀ point ∈ text, ∃ c, point = .char c

/-- No code points. -/
@[simp] theorem isUnicode_nil : IsUnicode [] := List.forall_mem_nil _

/-- A code point more. -/
@[simp] theorem isUnicode_cons {point : CodePoint} :
    IsUnicode (point :: text) ↔ (∃ c, point = .char c) ∧ IsUnicode text := List.forall_mem_cons

/-- Code points after code points. -/
@[simp] theorem isUnicode_append {other : CodeText} :
    IsUnicode (text ++ other) ↔ IsUnicode text ∧ IsUnicode other := List.forall_mem_append

/-- A text is made of characters if each of its code points is one. -/
theorem exists_ofChars_iff : (∃ chars, text = ofChars chars) ↔ text.IsUnicode := by
  have ranges := Set.ext_iff.mp (Set.range_list_map CodePoint.char) text
  simp only [Set.mem_range, Set.mem_ofPred_eq, eq_comm] at ranges
  exact ranges

/-- A text of characters. -/
@[simp] theorem isUnicode_ofChars (chars : List Char) : (ofChars chars).IsUnicode :=
  exists_ofChars_iff.mp ⟨chars, rfl⟩

/-- A text of a string. -/
@[simp] theorem isUnicode_ofString (s : String) : (ofString s).IsUnicode :=
  isUnicode_ofChars s.toList

/-- All code points of a text are characters if it has characters. -/
theorem isSome_chars?_iff : text.chars?.isSome = true ↔ text.IsUnicode := by
  rw [Option.isSome_iff_exists, ← exists_ofChars_iff]
  exact exists_congr fun chars => chars?_eq_some_iff

/-- A text of texts. -/
theorem isUnicode_flatMap {α : Type} {items : List α} {write : α → CodeText}
    (each : ∀ item ∈ items, (write item).IsUnicode) : IsUnicode (items.flatMap write) := by
  intro point member
  obtain ⟨item, listed, inside⟩ := List.mem_flatMap.mp member
  exact each item listed point inside

/-- Texts are made of characters if each of them is. -/
theorem exists_map_ofChars {texts : List CodeText} (each : ∀ text ∈ texts, text.IsUnicode) :
    ∃ lists : List (List Char), texts = lists.map ofChars := by
  have ranges := Set.ext_iff.mp (Set.range_list_map ofChars) texts
  simp only [Set.mem_range, Set.mem_ofPred_eq, eq_comm] at ranges
  exact ranges.mpr fun text member => exists_ofChars_iff.mpr (each text member)

/-- Texts between texts. -/
theorem isUnicode_intercalate {separator : CodeText} {texts : List CodeText}
    (between : separator.IsUnicode) (each : ∀ text ∈ texts, text.IsUnicode) :
    IsUnicode (separator.intercalate texts) := by
  obtain ⟨chars, rfl⟩ := exists_ofChars_iff.mpr between
  obtain ⟨lists, rfl⟩ := exists_map_ofChars each
  rw [← ofChars_intercalate]
  exact isUnicode_ofChars _

/-- A text of characters is shown as them. -/
@[simp] theorem toList_ofChars (chars : List Char) : (ofChars chars).toList = chars := by
  rw [toList, ofChars, List.map_map]
  exact List.map_id chars

/-- A text of a string is shown as it. -/
@[simp] theorem toString_ofString (s : String) : (ofString s).toString = s := by
  rw [toString, ofString, toList_ofChars, String.ofList_toList]

end CodeText

end FoldMark
