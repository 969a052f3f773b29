import FoldMark.Proofs.Chain
import FoldMark.Proofs.Text.Pieces
import FoldMark.Yaml.Scalar

/-!
# Texts that suit their tags

The reader stops at a text for a truth value, a number or a date that is none, and at a
floating-point number in too many parts, `IsUnsuited`, and at no other: `faults_ofTag_iff`. A tag by
form suits its text but for the parts of a number, `ofText_suited`, so elsewhere only a tag that is
written can be at fault.
-/

namespace FoldMark.Yaml

open FoldMark.Text

/-- The digits of a floating-point number, without its sign. -/
def Scalar.floatDigits (text : List Char) : List Char := (signed (text.map Char.toLower)).2

/-- The parts of sixty that a number is written in are so many that the first weighs more than any
floating-point number. -/
def HasManyParts (digits : List Char) : Prop :=
  ∃ parts, (splitAt (· == ':') digits).mapM Number.float? = some parts ∧
    Nat.pow 60 (parts.length - 1) ≥ Scalar.maxFloat

/-- The reader has no rule for a text with a tag: it is no word for a truth value, no date, no digit
is left of a number, or a number is written in too many parts. -/
def IsUnsuited (tag : Tag) (text : List Char) : Prop :=
  match tag with
  | .bool => Scalar.truthWords.lookup (String.ofList (text.map Char.toLower)) = none
  | .int => (Scalar.signed text).2 = []
  | .float =>
    (Scalar.floatDigits text = [] ∧ ∀ c ∈ text, c ≠ '+' ∧ c ≠ '-') ∨
      HasManyParts (Scalar.floatDigits text)
  | .timestamp => Tag.timestamp? text = none
  | _ => False

/-- An outcome is a fault of the reader. -/
def Faults {α : Type} (outcome : Except ReadError α) : Prop :=
  ∃ error, outcome = .error error ∧ error.isFault = true

section Faults

variable {α β : Type}

/-- A value is no fault. -/
@[simp] theorem not_faults_ok (value : α) : ¬Faults (.ok value) := by
  rintro ⟨error, same, -⟩
  cases same

/-- An error is a fault if it is called one. -/
@[simp] theorem faults_error_iff {error : ReadError} :
    Faults (.error error : Except ReadError α) ↔ error.isFault = true :=
  ⟨fun ⟨_, same, fault⟩ => by cases same; exact fault, fun fault => ⟨error, rfl, fault⟩⟩

/-- That there is no value of some form is no fault. -/
@[simp] theorem not_faults_orNone (value : Option α) : ¬Faults (Scalar.orNone value) := by
  cases value <;> simp [Scalar.orNone, ReadError.isFault]

/-- A chain is a fault if its first part is, or its last if the first gives a value. -/
theorem faults_bind_iff {first : Except ReadError α} {next : α → Except ReadError β} :
    Faults (first >>= next) ↔ Faults first ∨ ∃ value, first = .ok value ∧ Faults (next value) := by
  cases first with
  | error error => simp [bind, Except.bind]
  | ok value => simp [bind, Except.bind]

end Faults

namespace Scalar

/-- The magnitude of an integer is a fault only without digits. -/
theorem faults_magnitude_iff {digits : List Char} : Faults (magnitude digits) ↔ digits = [] := by
  unfold magnitude
  split
  case h_1 => simp [ReadError.isFault]
  case h_6 nonempty _ _ _ _ =>
    have others : digits ≠ [] := nonempty
    split <;> simp [others]
  all_goals simp

/-- A number in one part has not too many. -/
theorem not_hasManyParts {digits : List Char} (one : ':' ∉ digits) : ¬HasManyParts digits := by
  rintro ⟨parts, read, many⟩
  have whole : splitAt (· == ':') digits = [digits] := splitAt_of_forall fun c member => by
    simpa using fun same : c = ':' => one (same ▸ member)
  rw [whole, mapM_eq_some_iff] at read
  have single : parts.length = 1 := by simpa using (congrArg List.length read).symm
  rw [single] at many
  have least : 1 < maxFloat := by decide +kernel
  exact absurd many (Nat.not_le_of_lt least)

/-- The magnitude of a floating-point number is a fault only if it is written in too many parts. -/
theorem faults_floatMagnitude_iff {digits : List Char} :
    Faults (floatMagnitude digits) ↔ HasManyParts digits := by
  unfold floatMagnitude
  split
  · rename_i same
    rw [beq_iff_eq.mp same]
    exact iff_of_false (not_faults_ok _) (not_hasManyParts (by decide))
  split
  · rename_i same
    rw [beq_iff_eq.mp same]
    exact iff_of_false (not_faults_ok _) (not_hasManyParts (by decide))
  split
  · rw [faults_bind_iff, HasManyParts]
    cases (splitAt (· == ':') digits).mapM Number.float? with
    | none => simp [orNone, ReadError.isFault]
    | some parts =>
      have weights : Faults (floatSixtieths parts.reverse) ↔
          Nat.pow 60 (parts.length - 1) ≥ maxFloat := by
        rw [floatSixtieths, List.length_reverse]
        split
        · exact iff_of_true (faults_error_iff.mpr rfl) ‹_›
        · exact iff_of_false (not_faults_ok _) ‹_›
      simpa [orNone] using weights
  · rename_i one
    exact iff_of_false (not_faults_orNone _) (not_hasManyParts (by simpa using one))

/-- A text with a tag is a fault exactly if it does not suit the tag. -/
theorem faults_ofTag_iff {id : Nat} {tag : Tag} {text : CodeText} :
    Faults (ofTag id tag text) ↔ IsUnsuited tag text.toList := by
  cases tag <;> simp only [ofTag, IsUnsuited, iff_false]
  case bool =>
    rw [bool]
    cases truthWords.lookup (String.ofList (text.toList.map Char.toLower)) <;>
      simp [ReadError.isFault]
  case int =>
    rw [int, faults_bind_iff, faults_magnitude_iff]
    simp [pure, Except.pure]
  case float =>
    have signs : (!text.toList.any fun c => c == '+' || c == '-') = true ↔
        ∀ c ∈ text.toList, c ≠ '+' ∧ c ≠ '-' := by simp
    rw [float, ← signs, ← List.isEmpty_iff, ← Bool.and_eq_true, floatDigits]
    dsimp only
    split
    · rename_i noDigits
      simp [noDigits, faults_bind_iff, throw, throwThe, MonadExceptOf.throw, ReadError.isFault]
    · rename_i digits
      rw [or_iff_right digits, ← faults_floatMagnitude_iff]
      simp [faults_bind_iff, pure, Except.pure]
  case timestamp =>
    rw [timestamp]
    cases Tag.timestamp? text.toList <;> simp [ReadError.isFault]
  case binary =>
    rw [binary]
    split
    · cases Base64.decode? text.toList <;> simp [ReadError.isFault]
    · simp [ReadError.isFault]
  all_goals simp [ReadError.isFault]

/-- A digit, a point or any other character that is neither a sign nor a low line is left of a
number. -/
theorem signed_ne_nil {text : List Char} {c : Char} (member : c ∈ text)
    (kept : c ≠ '_' ∧ c ≠ '+' ∧ c ≠ '-') : (signed text).2 ≠ [] := by
  have filtered : c ∈ text.filter (· != '_') := List.mem_filter.mpr ⟨member, by simp [kept.1]⟩
  have rest : c ∈ (signed text).2 := by
    rw [signed]
    generalize text.filter (· != '_') = digits at filtered ⊢
    unfold Number.readSign
    split
    · simpa [kept.2.2] using filtered
    · simpa [kept.2.1] using filtered
    · exact filtered
  exact List.ne_nil_of_mem rest

end Scalar

/-! ## Tags by form -/

namespace Tag

/-- Dropping a sign leaves characters of the text. -/
theorem dropSign_subset (text : List Char) : dropSign text ⊆ text := by
  unfold dropSign
  split
  · exact List.subset_cons_self ..
  · exact List.subset_cons_self ..
  · exact List.Subset.refl _

/-- A text that is one of some spellings is written like one of them. -/
theorem exists_of_isOneOf {spellings : List String} {text : List Char}
    (form : isOneOf spellings text = true) :
    ∃ spelling ∈ spellings, spelling.toList = text := by
  obtain ⟨spelling, member, same⟩ := List.any_eq_true.mp form
  exact ⟨spelling, member, beq_iff_eq.mp same⟩

/-- A whole number has a digit. -/
theorem exists_digit_of_isInt {text : List Char} (form : isInt text = true) :
    ∃ c ∈ text, c.isDigit = true := by
  have subset := dropSign_subset text
  unfold isInt at form
  split at form
  all_goals rename_i whole
  case h_5 => cases form
  case h_4 =>
    simp only [Bool.and_eq_true] at form
    exact ⟨_, subset (by rw [whole]; exact List.mem_cons_self), form.1⟩
  all_goals exact ⟨'0', subset (by rw [whole]; exact List.mem_cons_self), by decide⟩

/-- A number with a point has a digit or the point. -/
theorem exists_digit_of_isFloat {text : List Char} (form : isFloat text = true) :
    ∃ c ∈ text, c.isDigit = true ∨ c = '.' := by
  have subset := dropSign_subset text
  simp only [isFloat, Bool.or_eq_true] at form
  rcases form with ((digits | point) | infinity) | none
  · split at digits
    · rename_i c rest whole
      simp only [Bool.and_eq_true] at digits
      exact ⟨c, subset (by rw [whole]; exact List.mem_cons_self), Or.inl digits.1⟩
    · cases digits
  · split at point
    · exact ⟨'.', List.mem_cons_self, Or.inr rfl⟩
    · cases point
  · obtain ⟨spelling, member, same⟩ := exists_of_isOneOf infinity
    have point : ∀ spelling ∈ [".inf", ".Inf", ".INF"], '.' ∈ spelling.toList := by decide
    exact ⟨'.', subset (same ▸ point spelling member), Or.inr rfl⟩
  · obtain ⟨spelling, member, rfl⟩ := exists_of_isOneOf none
    have point : ∀ spelling ∈ [".nan", ".NaN", ".NAN"], '.' ∈ spelling.toList := by decide
    exact ⟨'.', point spelling member, Or.inr rfl⟩

/-- A digit or a point is not a sign, nor a low line, nor a letter in upper case. -/
theorem shape_of_digit {c : Char} (shape : c.isDigit = true ∨ c = '.') :
    (c ≠ '_' ∧ c ≠ '+' ∧ c ≠ '-') ∧ c.toLower = c := by
  rcases shape with digit | rfl
  · refine ⟨⟨?_, ?_, ?_⟩, ?_⟩
    · rintro rfl
      exact absurd digit (by decide)
    · rintro rfl
      exact absurd digit (by decide)
    · rintro rfl
      exact absurd digit (by decide)
    · refine dif_neg ?_
      rintro ⟨upper, -⟩
      simp only [Char.isDigit, Bool.and_eq_true, decide_eq_true_eq] at digit
      exact absurd (UInt32.le_trans upper digit.2) (by decide)
  · decide

/-- The words that are truth values by form stand for one. -/
theorem truthWords_of_isOneOf {text : List Char}
    (form : isOneOf ["yes", "Yes", "YES", "no", "No", "NO", "true", "True", "TRUE", "false",
      "False", "FALSE", "on", "On", "ON", "off", "Off", "OFF"] text = true) :
    Scalar.truthWords.lookup (String.ofList (text.map Char.toLower)) ≠ none := by
  obtain ⟨spelling, member, rfl⟩ := exists_of_isOneOf form
  have words : ∀ spelling ∈ ["yes", "Yes", "YES", "no", "No", "NO", "true", "True", "TRUE", "false",
      "False", "FALSE", "on", "On", "ON", "off", "Off", "OFF"],
      ∃ entry ∈ Scalar.truthWords, entry.1.toList = spelling.toList.map Char.toLower := by decide
  obtain ⟨entry, known, same⟩ := words spelling member
  rw [← same, String.ofList_toList]
  intro none
  have differs := List.lookup_eq_none_iff.mp none entry known
  simp at differs

end Tag

/-- A tag by form suits its text, unless a floating-point number is written in too many parts. -/
theorem ofText_suited {text : List Char} (unsuited : IsUnsuited (Tag.ofText text) text) :
    Tag.ofText text = .float ∧ HasManyParts (Scalar.floatDigits text) := by
  unfold Tag.ofText at unsuited ⊢
  split at unsuited
  · rename_i form
    exact absurd unsuited (Tag.truthWords_of_isOneOf form)
  rename_i noTruth
  rw [if_neg noTruth]
  split at unsuited
  · rename_i form
    obtain ⟨c, member, shape⟩ := Tag.exists_digit_of_isFloat form
    obtain ⟨kept, lower⟩ := Tag.shape_of_digit shape
    have inside : c ∈ text.map Char.toLower := List.mem_map.mpr ⟨c, member, lower⟩
    rw [if_pos form]
    exact ⟨rfl, unsuited.resolve_left fun noDigits =>
      Scalar.signed_ne_nil inside kept noDigits.1⟩
  split at unsuited
  · rename_i form
    obtain ⟨c, member, shape⟩ := Tag.exists_digit_of_isInt form
    exact absurd unsuited (Scalar.signed_ne_nil member (Tag.shape_of_digit (Or.inl shape)).1)
  split at unsuited
  · exact unsuited.elim
  split at unsuited
  · exact unsuited.elim
  split at unsuited
  · rename_i form
    rw [IsUnsuited] at unsuited
    simp [Tag.isTimestamp, unsuited] at form
  split at unsuited
  · exact unsuited.elim
  split at unsuited
  · exact unsuited.elim
  · exact unsuited.elim

end FoldMark.Yaml
