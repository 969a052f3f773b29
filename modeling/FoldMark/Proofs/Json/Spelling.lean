import FoldMark.Json.Writer
import FoldMark.Proofs.Json.Grammar
import FoldMark.Proofs.Text.CodePoint
import Mathlib

/-!
# Strings and integers in JSON

What the writer makes of a string and of an integer keeps to the grammar (`isString_stringText`,
`isNumber_intText`), and the reader takes it off the front of a text again
(`readString?_flatMap_writeChar`, `readScalar?_intText`). An integer needs something behind it that
does not go on with the number, and no more digits than are read.
-/

namespace FoldMark.Json

open Text

variable {c : Char} {chars rest after text : List Char} {read : CodeText}

/-! ## Strings -/

/-- The code unit of a control character is written with four digits that are read as it. -/
theorem exists_hexDigits {n : Nat} (control : n < 0x20) :
    ∃ first second third fourth, hexDigits 4 n = [first, second, third, fourth] ∧
      (∀ digit ∈ [first, second, third, fourth], isHexDigit digit = true) ∧
      hex4? first second third fourth = some n := by
  have written : ∀ n < 0x20, hexDigits 4 n =
      ['0', '0', Nat.digitChar (n / 16), Nat.digitChar (n % 16)] := by decide
  have hexadecimal : ∀ digit < 16, isHexDigit (Nat.digitChar digit) = true := by decide
  have stands : ∀ n < 0x20, hex4? '0' '0' (Nat.digitChar (n / 16)) (Nat.digitChar (n % 16)) =
      some n := by decide
  refine ⟨_, _, _, _, written n control, ?_, stands n control⟩
  simp only [List.forall_mem_cons]
  exact ⟨rfl, rfl, hexadecimal _ (by omega), hexadecimal _ (by omega), List.forall_mem_nil _⟩

/-- How a character can be written within a string. -/
inductive IsWrittenAs (c : Char) : List Char → Prop where
  /-- As it is. -/
  | plain (unescaped : IsUnescaped c) : IsWrittenAs c [c]
  /-- As a letter after a backslash that stands for it. -/
  | letter {letter : Char} (stands : escape? letter = some c) : IsWrittenAs c ['\\', letter]
  /-- As its code unit in four digits. -/
  | unit {first second third fourth : Char}
    (hexadecimal : ∀ digit ∈ [first, second, third, fourth], isHexDigit digit = true)
    (stands : hex4? first second third fourth = some c.toNat) (control : c.toNat < 0x20) :
    IsWrittenAs c ['\\', 'u', first, second, third, fourth]

/-- Every character is written in one of these ways. -/
theorem isWrittenAs_writeChar (c : Char) : IsWrittenAs c (writeChar c) := by
  fun_cases writeChar c with
  | case1 same => exact .letter (congrArg some same.symm)
  | case2 _ same => exact .letter (congrArg some same.symm)
  | case3 _ _ same => exact .letter (congrArg some same.symm)
  | case4 _ _ _ same => exact .letter (congrArg some same.symm)
  | case5 _ _ _ _ same => exact .letter (congrArg some same.symm)
  | case6 _ _ _ _ _ same => exact .letter (congrArg some same.symm)
  | case7 _ _ _ _ _ _ same => exact .letter (congrArg some same.symm)
  | case8 _ _ _ _ _ _ _ control =>
    obtain ⟨first, second, third, fourth, written, hexadecimal, stands⟩ := exists_hexDigits control
    rw [written]
    exact .unit hexadecimal stands control
  | case9 noQuote noBackslash _ _ _ _ _ printing =>
    exact .plain ⟨Nat.le_of_not_lt printing, noQuote, noBackslash⟩

/-- A letter that stands for a character may follow a backslash. -/
theorem isEscapeLetter_of_stands {letter : Char} (stands : escape? letter = some c) :
    IsEscapeLetter letter := by
  unfold escape? at stands
  unfold IsEscapeLetter
  split at stands
  all_goals first | decide | cases stands

/-- What is written of a text may stand between quotes. -/
theorem isStringText_flatMap_writeChar (text : List Char) :
    IsStringText (text.flatMap writeChar) := by
  induction text with
  | nil => exact .nil
  | cons c text later =>
    rw [List.flatMap_cons]
    have written := isWrittenAs_writeChar c
    generalize writeChar c = spelling at written ⊢
    cases written with
    | plain unescaped => exact .plain unescaped later
    | letter stands => exact .letter (isEscapeLetter_of_stands stands) later
    | unit hexadecimal stands control => exact .unit rfl hexadecimal later

/-- What is written of a text of characters. -/
def stringText (chars : List Char) : List Char := '"' :: (chars.flatMap writeChar ++ ['"'])

/-- Characters are written as characters. -/
theorem writeString_ofChars (chars : List Char) :
    writeString (.ofChars chars) = .ofChars (stringText chars) := by
  have each : (CodeText.ofChars chars).flatMap writePoint =
      CodeText.ofChars (chars.flatMap writeChar) := by
    rw [CodeText.ofChars, List.flatMap_map, CodeText.ofChars, List.map_flatMap]
    rfl
  rw [writeString, each, stringText]
  simp

/-- A string is written by the grammar. -/
theorem isString_stringText (chars : List Char) : IsString (stringText chars) :=
  .quoted (isStringText_flatMap_writeChar chars)

/-- A character that is written as it is stands for itself. -/
theorem readString?_plain (unescaped : IsUnescaped c)
    (reads : readString? rest = some (read, after)) :
    readString? (c :: rest) = some (.char c :: read, after) := by
  obtain ⟨printing, noQuote, noBackslash⟩ := unescaped
  rw [readString?, if_neg (Nat.not_lt_of_le printing), reads]
  · rfl
  all_goals simp_all

/-- A letter after a backslash stands for its character. -/
theorem readString?_letter {letter : Char} (stands : escape? letter = some c)
    (reads : readString? rest = some (read, after)) :
    readString? ('\\' :: letter :: rest) = some (.char c :: read, after) := by
  have noUnit : letter ≠ 'u' := by
    rintro rfl
    cases stands
  rw [readString?, stands, reads]
  · rfl
  all_goals simp_all

/-- Four digits stand for a code point that starts no pair, whatever follows. -/
theorem readString?_unit {first second third fourth : Char} {n : Nat}
    (stands : hex4? first second third fourth = some n) (single : isHighSurrogate n = false)
    (reads : readString? rest = some (read, after)) :
    readString? ('\\' :: 'u' :: first :: second :: third :: fourth :: rest) =
      some (.ofNat n :: read, after) := by
  by_cases another : ∃ fifth sixth seventh eighth later,
      rest = '\\' :: 'u' :: fifth :: sixth :: seventh :: eighth :: later
  · obtain ⟨fifth, sixth, seventh, eighth, later, rfl⟩ := another
    rw [readString?, stands]
    simp [single, reads]
  · rw [readString?, stands, reads]
    · rfl
    · intro fifth sixth seventh eighth later same
      exact another ⟨fifth, sixth, seventh, eighth, later, same⟩

/-- A string is read up to the quote behind what was written of its text. -/
theorem readString?_flatMap_writeChar (chars after : List Char) :
    readString? (chars.flatMap writeChar ++ '"' :: after) = some (.ofChars chars, after) := by
  induction chars with
  | nil => rfl
  | cons c chars reads =>
    rw [List.flatMap_cons, List.append_assoc]
    have written := isWrittenAs_writeChar c
    generalize writeChar c = spelling at written ⊢
    cases written with
    | plain unescaped => exact readString?_plain unescaped reads
    | letter stands => exact readString?_letter stands reads
    | unit hexadecimal stands control =>
      have single : isHighSurrogate c.toNat = false := by
        rw [isHighSurrogate, decide_eq_false (by omega), Bool.false_and]
      have unit := readString?_unit stands single reads
      rw [CodePoint.ofNat_toNat] at unit
      exact unit

/-! ## Integers -/

/-- A text does not go on with a number. -/
def EndsNumber (text : List Char) : Prop :=
  ∀ c rest, text = c :: rest → c.isDigit = false ∧ c ≠ '.' ∧ c ≠ 'e' ∧ c ≠ 'E'

/-- A character that is none of a number ends it. -/
theorem endsNumber_cons (noDigit : c.isDigit = false) (noPoint : c ≠ '.')
    (noLetter : c ≠ 'e' ∧ c ≠ 'E') (rest : List Char) : EndsNumber (c :: rest) := by
  rintro d later same
  obtain ⟨rfl, -⟩ := List.cons.inj same
  exact ⟨noDigit, noPoint, noLetter⟩

/-- The digits of a number start with a zero only if it is zero. -/
theorem toDigits_head (n : Nat) : (Nat.toDigits 10 n).head? = some '0' → n = 0 := by
  induction n using Nat.strongRecOn with
  | ind n hypothesis =>
    rw [Nat.toDigits_eq_if (by decide)]
    split
    · rename_i small
      intro head
      have all : ∀ n < 10, n.digitChar = '0' → n = 0 := by decide
      exact all n small (by simpa using head)
    · rename_i large
      have smaller : n / 10 < n := Nat.div_lt_self (by omega) (by decide)
      obtain ⟨first, others, digits⟩ :=
        List.exists_cons_of_ne_nil (Nat.toDigits_ne_nil (n := n / 10) (b := 10))
      intro head
      have none := hypothesis (n / 10) smaller (by rwa [digits] at head ⊢)
      omega

/-- The digits of a number are those of a whole number. -/
theorem isWhole_toDigits (n : Nat) : IsWhole (Nat.toDigits 10 n) := by
  refine ⟨⟨Nat.toDigits_ne_nil, fun c => Nat.isDigit_of_mem_toDigits (by decide) (by decide)⟩, ?_⟩
  intro head
  rw [toDigits_head n head]
  rfl

/-- An integer is written as its sign and the digits of its magnitude. -/
theorem intText_eq (n : Int) :
    Number.intText n = (if n < 0 then ['-'] else []) ++ Nat.toDigits 10 n.natAbs := by
  rw [Number.intText, Int.toString_eq_repr, Int.repr_eq_if]
  by_cases negative : n < 0
  · have magnitude : (-n).toNat = n.natAbs := by omega
    rw [if_neg (by omega), if_pos negative, String.toList_append, Nat.toList_repr, magnitude]
    rfl
  · have magnitude : n.toNat = n.natAbs := by omega
    rw [if_pos (by omega), if_neg negative, Nat.toList_repr, magnitude, List.nil_append]

/-- An integer that is not too long is written. -/
theorem writeShown_int {n : Int} (short : n.natAbs < 10 ^ Number.maxDigits) :
    writeShown (.int n) = .ok (.ofChars (Number.intText n)) := by
  have length : ¬(Nat.toDigits 10 n.natAbs).length > Number.maxDigits :=
    Nat.not_lt_of_le ((Nat.length_toDigits_le_iff (by decide) (by decide)).mpr short)
  have isShort : isLongInt n = false := decide_eq_false length
  rw [writeShown, Value.longInt?, isShort]
  rfl

/-- An integer is written by the grammar. -/
theorem isNumber_intText (n : Int) : IsNumber (Number.intText n) := by
  have parts := @IsNumber.parts (if n < 0 then ['-'] else []) _ [] [] (by split <;> simp)
    (isWhole_toDigits n.natAbs) (Or.inl rfl) (Or.inl rfl)
  rwa [List.append_nil, List.append_nil, ← intText_eq] at parts

/-- Digits are taken off the front of a text up to what does not go on with the number. -/
theorem spanDigits_append (digits : ∀ c ∈ text, c.isDigit = true) (ends : EndsNumber rest) :
    spanDigits (text ++ rest) = (text, rest) := by
  have stop : rest.takeWhile Char.isDigit = [] ∧ rest.dropWhile Char.isDigit = rest := by
    cases rest with
    | nil => exact ⟨rfl, rfl⟩
    | cons c rest =>
      have noDigit := (ends c rest rfl).1
      simp [noDigit]
  rw [spanDigits, List.takeWhile_append_of_pos digits, List.dropWhile_append_of_pos digits, stop.1,
    stop.2, List.append_nil]

/-- The digits of a number are read as the number. -/
theorem ofDigits_toDigits (n : Nat) :
    Number.ofDigits 10 Number.digit (Nat.toDigits 10 n) = n := by
  have value := Nat.ofDigitChars_ten_toDigits (n := n)
  rwa [Nat.ofDigitChars_eq_foldl] at value

/-- A number that does not go on has no fraction and no exponent. -/
theorem readFraction_of_endsNumber (ends : EndsNumber rest) : readFraction rest = ([], rest) := by
  unfold readFraction
  split
  · exact absurd rfl (ends _ _ rfl).2.1
  · rfl

/-- A number that does not go on has no exponent. -/
theorem readExponent_of_endsNumber (ends : EndsNumber rest) : readExponent rest = (none, rest) := by
  unfold readExponent
  split
  · rename_i e rest
    obtain ⟨-, -, noLower, noUpper⟩ := ends e rest rfl
    simp [noLower, noUpper]
  · rfl

/-- The digits of a number that is not too long are read. -/
theorem readMagnitude?_toDigits {n : Nat} (isNegative : Bool) (short : n < 10 ^ Number.maxDigits)
    (ends : EndsNumber rest) :
    readMagnitude? isNegative (Nat.toDigits 10 n ++ rest) =
      some (.int (if isNegative then -n else n), rest) := by
  have digits : ∀ c ∈ Nat.toDigits 10 n, c.isDigit = true :=
    fun c => Nat.isDigit_of_mem_toDigits (by decide) (by decide)
  have length : ¬(Nat.toDigits 10 n).length > Number.maxDigits :=
    Nat.not_lt_of_le ((Nat.length_toDigits_le_iff (by decide) (by decide)).mpr short)
  by_cases zero : n = 0
  · subst zero
    rw [Nat.toDigits_zero, List.singleton_append, readMagnitude?]
    simp [readFraction_of_endsNumber ends, readExponent_of_endsNumber ends, Number.ofDigits,
      Number.digit, Number.maxDigits]
  · rw [readMagnitude?, spanDigits_append digits ends]
    · simp [readFraction_of_endsNumber ends, readExponent_of_endsNumber ends, ofDigits_toDigits,
        Nat.toDigits_ne_nil, length]
    · intro later same
      obtain ⟨first, others, own⟩ :=
        List.exists_cons_of_ne_nil (Nat.toDigits_ne_nil (n := n) (b := 10))
      rw [own, List.cons_append] at same
      exact zero (toDigits_head n (by rw [own, (List.cons.inj same).1]; rfl))

/-- An integer that is not too long is read. -/
theorem readScalar?_intText {n : Int} (short : n.natAbs < 10 ^ Number.maxDigits)
    (ends : EndsNumber rest) : readScalar? (Number.intText n ++ rest) = some (.int n, rest) := by
  have digitsFirst : ∀ {c later}, c.isDigit = false →
      Nat.toDigits 10 n.natAbs ++ rest = c :: later → False := by
    intro c later noDigit same
    obtain ⟨first, others, own⟩ :=
      List.exists_cons_of_ne_nil (Nat.toDigits_ne_nil (n := n.natAbs) (b := 10))
    have digit : first.isDigit = true :=
      Nat.isDigit_of_mem_toDigits (by decide) (by decide) (own ▸ List.mem_cons_self)
    rw [own, List.cons_append] at same
    rw [(List.cons.inj same).1, noDigit] at digit
    cases digit
  have reads := fun isNegative => readMagnitude?_toDigits isNegative short ends
  rw [intText_eq]
  by_cases negative : n < 0
  · have value : -(n.natAbs : Int) = n := by omega
    rw [if_pos negative, List.append_assoc, List.singleton_append, readScalar?, reads true,
      if_pos rfl, value]
    exact fun later => digitsFirst rfl
  · have value : (n.natAbs : Int) = n := by omega
    rw [if_neg negative, List.nil_append, readScalar?, reads false]
    · simp [value]
    all_goals
      intro later
      exact digitsFirst rfl

end FoldMark.Json
