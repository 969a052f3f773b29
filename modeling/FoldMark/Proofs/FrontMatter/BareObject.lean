import FoldMark.Proofs.FrontMatter.Object
import FoldMark.Proofs.Json.Grammar

/-!
# Objects by the grammar of JSON

The reader of an object knows nothing of JSON but its strings and its braces. That is enough: every
value that the grammar allows leaves the reader as it was (`isNeutral_of_isValue`), so an object
closes at its last character and not before (`closeAfter?_object`). `extract_object_exact` proves
that a document which starts with an object is cut right behind it, provided that nothing else
stands on its last line, and is left whole otherwise.
-/

namespace FoldMark.FrontMatter

open Text Json

/-! ## What the reader passes over -/

/-- From one state the reader passes over a text without closing the braces, and is in another state
behind it. -/
def Passes (before after : ScanMode × Nat) (text : List Char) : Prop :=
  ∀ rest, closeAfter? before.1 before.2 (text ++ rest) =
    (closeAfter? after.1 after.2 rest).map (· + text.length)

/-- Wherever a brace is open, the reader passes over a text and is as it was. -/
def IsNeutral (text : List Char) : Prop :=
  ∀ depth, 0 < depth → Passes (.plain, depth) (.plain, depth) text

variable {before between after : ScanMode × Nat} {text front back inner : List Char}
  {c : Char} {depth : Nat}

/-- Nothing is passed over in no step. -/
theorem passes_nil (state : ScanMode × Nat) : Passes state state [] := by
  intro rest
  simp

/-- What is passed over in parts is passed over. -/
theorem Passes.append (first : Passes before between front) (second : Passes between after back) :
    Passes before after (front ++ back) := by
  intro rest
  rw [List.append_assoc, first, second, Option.map_map, List.length_append]
  refine congrArg (fun count => Option.map count _) (funext fun size => ?_)
  simp only [Function.comp_apply]
  omega

/-- A character is passed over unless it closes the last brace. -/
theorem passes_step (mode : ScanMode) (depth : Nat) (c : Char)
    (isOpen : ¬ (mode = .plain ∧ c = '\x7d' ∧ depth ≤ 1)) :
    Passes (mode, depth) (scanStep (mode, depth) c) [c] := by
  intro rest
  cases mode with
  | escaped => rfl
  | quoted => rfl
  | plain =>
    have goesOn : ¬ (c = '\x7d' ∧ depth ≤ 1) := fun closes => isOpen ⟨rfl, closes⟩
    simp [closeAfter?, scanStep, goesOn]

/-- The reader is in a string behind a quote. -/
theorem passes_openingQuote (depth : Nat) : Passes (.plain, depth) (.quoted, depth) ['"'] := by
  simpa [scanStep] using passes_step .plain depth '"' (by simp)

/-- The next quote ends the string. -/
theorem passes_closingQuote (depth : Nat) : Passes (.quoted, depth) (.plain, depth) ['"'] := by
  simpa [scanStep] using passes_step .quoted depth '"' (by simp)

/-- A character of a string keeps the reader in it. -/
theorem passes_quoted (depth : Nat) (noQuote : c ≠ '"') (noBackslash : c ≠ '\\') :
    Passes (.quoted, depth) (.quoted, depth) [c] := by
  simpa [scanStep, noQuote, noBackslash] using
    passes_step .quoted depth c (by simp)

/-- What follows a backslash keeps the reader in the string, whatever it is. -/
theorem passes_escaped (c : Char) (depth : Nat) :
    Passes (.quoted, depth) (.quoted, depth) ['\\', c] := by
  have backslash : Passes (.quoted, depth) (.escaped, depth) ['\\'] := by
    simpa [scanStep] using passes_step .quoted depth '\\' (by simp)
  have letter : Passes (.escaped, depth) (.quoted, depth) [c] := by
    simpa [scanStep] using passes_step .escaped depth c (by simp)
  exact backslash.append letter

/-- Hexadecimal digits keep the reader in the string. -/
theorem passes_hexDigits (hexadecimal : ∀ c ∈ text, isHexDigit c = true) (depth : Nat) :
    Passes (.quoted, depth) (.quoted, depth) text := by
  induction text with
  | nil => exact passes_nil _
  | cons c rest hypothesis =>
    obtain ⟨first, others⟩ := List.forall_mem_cons.mp hexadecimal
    have noQuote : c ≠ '"' := by
      rintro rfl
      exact absurd first (by decide)
    have noBackslash : c ≠ '\\' := by
      rintro rfl
      exact absurd first (by decide)
    exact (passes_quoted depth noQuote noBackslash).append (hypothesis others)

/-- The text of a string is passed over within it. -/
theorem passes_stringText (isText : IsStringText text) (depth : Nat) :
    Passes (.quoted, depth) (.quoted, depth) text := by
  induction isText with
  | nil => exact passes_nil _
  | plain unescaped _ hypothesis =>
    exact (passes_quoted depth unescaped.2.1 unescaped.2.2).append hypothesis
  | letter _ _ hypothesis => exact (passes_escaped _ depth).append hypothesis
  | unit _ hexadecimal _ hypothesis =>
    exact (passes_escaped 'u' depth).append ((passes_hexDigits hexadecimal depth).append hypothesis)

/-! ## Values leave the reader as it was -/

namespace IsNeutral

/-- Texts that are passed over can follow each other. -/
theorem append (first : IsNeutral front) (second : IsNeutral back) : IsNeutral (front ++ back) :=
  fun depth positive => (first depth positive).append (second depth positive)

/-- Only quotes and braces matter outside of strings. -/
theorem of_forall (harmless : ∀ c ∈ text, c ≠ '"' ∧ c ≠ '\x7b' ∧ c ≠ '\x7d') :
    IsNeutral text := by
  intro depth positive
  induction text with
  | nil => exact passes_nil _
  | cons c rest hypothesis =>
    obtain ⟨⟨noQuote, noOpening, noClosing⟩, others⟩ := List.forall_mem_cons.mp harmless
    have first : Passes (.plain, depth) (.plain, depth) [c] := by
      simpa [scanStep, noQuote, noOpening, noClosing] using
        passes_step .plain depth c (by simp [noClosing])
    exact first.append (hypothesis others)

/-- Braces around a text count up and down again. -/
theorem braces (inside : IsNeutral inner) : IsNeutral ('\x7b' :: (inner ++ ['\x7d'])) := by
  intro depth positive
  have opening : Passes (.plain, depth) (.plain, depth + 1) ['\x7b'] := by
    simpa [scanStep] using passes_step .plain depth '\x7b' (by simp)
  have closing : Passes (.plain, depth + 1) (.plain, depth) ['\x7d'] := by
    simpa [scanStep] using
      passes_step .plain (depth + 1) '\x7d' (by simp; omega)
  exact opening.append ((inside (depth + 1) (by omega)).append closing)

/-- Brackets do not count. -/
theorem brackets (inside : IsNeutral inner) : IsNeutral ('[' :: (inner ++ [']'])) := by
  have opening : IsNeutral ['['] := of_forall (by simp)
  have closing : IsNeutral [']'] := of_forall (by simp)
  exact opening.append (inside.append closing)

/-- Parts with a comma between them do not count it. -/
theorem comma (first : IsNeutral front) (second : IsNeutral back) :
    IsNeutral (front ++ ',' :: back) := by
  have sign : IsNeutral [','] := of_forall (by simp)
  exact first.append (sign.append second)

end IsNeutral

/-- White space is passed over. -/
theorem isNeutral_of_isSpacing (spacing : IsSpacing text) : IsNeutral text := by
  refine .of_forall fun c member => ?_
  have space := spacing c member
  refine ⟨?_, ?_, ?_⟩
  all_goals
    rintro rfl
    exact absurd space (by decide)

/-- A string is passed over with all that it holds. -/
theorem isNeutral_of_isString (isString : IsString text) : IsNeutral text := by
  obtain ⟨inside⟩ := isString
  intro depth _
  exact (passes_openingQuote depth).append
    ((passes_stringText inside depth).append (passes_closingQuote depth))

/-- Digits are passed over. -/
theorem isNeutral_of_forall_isDigit (digits : ∀ c ∈ text, c.isDigit = true) : IsNeutral text := by
  refine .of_forall fun c member => ?_
  have digit := digits c member
  refine ⟨?_, ?_, ?_⟩
  all_goals
    rintro rfl
    exact absurd digit (by decide)

/-- A number is passed over. -/
theorem isNeutral_of_isNumber (isNumber : IsNumber text) : IsNeutral text := by
  obtain ⟨isSign, isWhole, isFraction, isExponent⟩ := isNumber
  refine ((IsNeutral.append ?_ ?_).append ?_).append ?_
  · rcases isSign with rfl | rfl <;> exact .of_forall (by simp)
  · exact isNeutral_of_forall_isDigit isWhole.1.2
  · rcases isFraction with rfl | ⟨⟨_, digits⟩⟩
    · exact .of_forall (by simp)
    · have point : IsNeutral ['.'] := .of_forall (by simp)
      exact point.append (isNeutral_of_forall_isDigit digits)
  · rcases isExponent with rfl | @⟨e, sign, _, isLetter, isSign, ⟨_, digits⟩⟩
    · exact .of_forall (by simp)
    · have letter : IsNeutral [e] := by
        rcases isLetter with rfl | rfl <;> exact .of_forall (by simp)
      have signed : IsNeutral sign := by
        rcases isSign with rfl | rfl | rfl <;> exact .of_forall (by simp)
      exact letter.append (signed.append (isNeutral_of_forall_isDigit digits))

/-! The rules for values are mutual, and so are the proofs that each of them keeps the braces. -/

mutual

/-- A value is passed over. -/
theorem isNeutral_of_isValue {text : List Char} : IsValue text → IsNeutral text
  | .word known => by
    simp only [List.mem_cons, List.not_mem_nil, or_false] at known
    rcases known with rfl | rfl | rfl <;> exact .of_forall (by simp)
  | .number isNumber => isNeutral_of_isNumber isNumber
  | .string isString => isNeutral_of_isString isString
  | .array isArray => isNeutral_of_isArray isArray
  | .object isObject => isNeutral_of_isObject isObject

/-- An array is passed over. -/
theorem isNeutral_of_isArray {text : List Char} : IsArray text → IsNeutral text
  | .empty spacing => (isNeutral_of_isSpacing spacing).brackets
  | .elements inside => (isNeutral_of_isElements inside).brackets

/-- Elements are passed over. -/
theorem isNeutral_of_isElements {text : List Char} : IsElements text → IsNeutral text
  | .one isElement => isNeutral_of_isElement isElement
  | .more isElement later =>
    (isNeutral_of_isElement isElement).comma (isNeutral_of_isElements later)

/-- A value is passed over with the white space around it. -/
theorem isNeutral_of_isElement {text : List Char} : IsElement text → IsNeutral text
  | .spaced spacingBefore isValue spacingAfter =>
    ((isNeutral_of_isSpacing spacingBefore).append (isNeutral_of_isValue isValue)).append
      (isNeutral_of_isSpacing spacingAfter)

/-- An object is passed over. -/
theorem isNeutral_of_isObject {text : List Char} : IsObject text → IsNeutral text
  | .empty spacing => (isNeutral_of_isSpacing spacing).braces
  | .members inside => (isNeutral_of_isMembers inside).braces

/-- Members are passed over. -/
theorem isNeutral_of_isMembers {text : List Char} : IsMembers text → IsNeutral text
  | .one isMember => isNeutral_of_isMember isMember
  | .more isMember later => (isNeutral_of_isMember isMember).comma (isNeutral_of_isMembers later)

/-- A member is passed over. -/
theorem isNeutral_of_isMember {text : List Char} : IsMember text → IsNeutral text
  | .named spacingBefore isName spacingAfter isElement =>
    have colon : IsNeutral [':'] := .of_forall (by simp)
    (((isNeutral_of_isSpacing spacingBefore).append (isNeutral_of_isString isName)).append
      (isNeutral_of_isSpacing spacingAfter)).append
        (colon.append (isNeutral_of_isElement isElement))

end

/-! ## Objects at the start of a document -/

/-- An object starts with a brace, closes with a brace, and is passed over in between. -/
theorem exists_inner_of_isObject (isObject : IsObject text) :
    ∃ inner, text = '\x7b' :: (inner ++ ['\x7d']) ∧ IsNeutral inner := by
  cases isObject with
  | empty spacing => exact ⟨_, rfl, isNeutral_of_isSpacing spacing⟩
  | members inside => exact ⟨_, rfl, isNeutral_of_isMembers inside⟩

/-- An object closes at its last character, whatever follows it. -/
theorem closeAfter?_object (isObject : IsObject text) (rest : List Char) :
    closeAfter? .plain 0 (text ++ rest) = some text.length := by
  obtain ⟨inner, rfl, inside⟩ := exists_inner_of_isObject isObject
  have opening : Passes (.plain, 0) (.plain, 1) ['\x7b'] := by
    simpa [scanStep] using passes_step .plain 0 '\x7b' (by simp)
  have passed := (opening.append (inside 1 (by decide))) ('\x7d' :: rest)
  have closing : closeAfter? .plain 1 ('\x7d' :: rest) = some 1 := by simp [closeAfter?]
  calc closeAfter? .plain 0 ('\x7b' :: (inner ++ ['\x7d']) ++ rest)
      = closeAfter? .plain 0 (['\x7b'] ++ inner ++ '\x7d' :: rest) := by simp
    _ = (closeAfter? .plain 1 ('\x7d' :: rest)).map (· + (['\x7b'] ++ inner).length) := passed
    _ = some ('\x7b' :: (inner ++ ['\x7d'])).length := by
      rw [closing]
      simp only [Option.map_some, List.length_append, List.length_cons, List.length_nil]
      congr 1
      omega

/-- An object is taken if nothing else stands on its last line. -/
theorem object?_object (isObject : IsObject text) (rest : List Char) :
    object? (text ++ rest) = .ok (
      if isBlankText ((lines rest).headD []) then
        some ⟨text, text.length + ((lines rest).headD []).length⟩
      else none) := by
  have closes := closeAfter?_object isObject rest
  obtain ⟨inner, rfl, _⟩ := exists_inner_of_isObject isObject
  rw [List.cons_append, object?, ← List.cons_append, closes]
  simp only [List.drop_left, List.take_left]

/-- In a text that starts with an object, no fence is found before it. -/
theorem find?_object (isObject : IsObject text) (rest : List Char) :
    find? .json (text ++ rest) = object? (text ++ rest) := by
  obtain ⟨inner, rfl, _⟩ := exists_inner_of_isObject isObject
  rw [List.cons_append, find?, fenced?_lines_brace]
  rfl

/-- An object is found if only blank characters follow it on its line. -/
theorem find?_object_alone {padding : List Char} (isObject : IsObject text)
    (blank : isBlankText padding = true) (oneLine : '\n' ∉ padding) (rest : List Char) :
    find? .json (text ++ (padding ++ '\n' :: rest)) =
      .ok (some ⟨text, text.length + (padding ++ ['\n']).length⟩) := by
  have lineBlank : isBlankText (padding ++ ['\n']) = true := by
    simpa [isBlankText, isBlank] using blank
  rw [find?_object isObject, object?_object isObject, lines_line oneLine, List.headD_cons,
    if_pos lineBlank]

/-- An object is passed over if anything else follows it on its line. -/
theorem find?_object_followed {rest : List Char} (isObject : IsObject text)
    (solid : isBlankText (rest.takeWhile (· != '\n')) = false) :
    find? .json (text ++ rest) = .ok none := by
  rw [find?_object isObject, object?_object isObject, isBlankText_headD_lines, solid]
  rfl

/-! ## Documents that start with an object -/

variable {mark before object : List Char}

/-- The content of a document starts at an object behind blank lines. -/
theorem contentStart_object (isMark : mark = [] ∨ mark = ['\uFEFF'])
    (blank : isBlankText before = true) (ended : EndsLine before) (isObject : IsObject object)
    (rest : List Char) :
    contentStart (mark ++ before ++ (object ++ rest)) = (mark ++ before).length := by
  obtain ⟨inner, rfl, _⟩ := exists_inner_of_isObject isObject
  exact contentStart_append isMark blank ended (by decide) (by decide)

/-- The front matter of a document is the object that it starts with, and it ends where the text
does not start with a blank line. -/
theorem locate?_object {padding gap body : List Char} (isMark : mark = [] ∨ mark = ['\uFEFF'])
    (blank : isBlankText before = true) (ended : EndsLine before) (isObject : IsObject object)
    (paddingBlank : isBlankText padding = true) (oneLine : '\n' ∉ padding)
    (isGap : IsGap gap body) :
    locate? .json (mark ++ before ++ object ++ padding ++ '\n' :: gap ++ body) =
      .ok (some ⟨.json, object, (mark ++ before).length,
        (mark ++ before ++ object ++ padding ++ '\n' :: gap).length⟩) := by
  have parts : mark ++ before ++ object ++ padding ++ '\n' :: gap ++ body =
      mark ++ before ++ (object ++ (padding ++ '\n' :: (gap ++ body))) := by simp
  have behind : (mark ++ before ++ (object ++ (padding ++ '\n' :: (gap ++ body)))).drop
      ((mark ++ before).length + (object.length + (padding ++ ['\n']).length)) = gap ++ body := by
    rw [← List.drop_drop, List.drop_left, ← List.drop_drop, List.drop_left,
      List.append_cons padding '\n' (gap ++ body), List.drop_left]
  have stop : (mark ++ before).length + (object.length + (padding ++ ['\n']).length) + gap.length =
      (mark ++ before ++ object ++ padding ++ '\n' :: gap).length := by
    simp only [List.length_append, List.length_cons, List.length_nil]
    omega
  rw [parts, locate?_eq, contentStart_object isMark blank ended isObject, List.drop_left,
    find?_object_alone isObject paddingBlank oneLine]
  simp only [bind, Except.bind, behind, blankSize_gap isGap, stop]

/-- An object at the start of a document is cut exactly. After a byte order mark and blank lines, a
text that is an object by the grammar of JSON is front matter if only blank characters follow it on
its line: it is the payload, from its own offset, and the text starts behind the blank lines that
follow. If anything else stands on that line, there is no front matter and the document is left
whole. -/
theorem extract_object_exact (isMark : mark = [] ∨ mark = ['\uFEFF'])
    (blank : isBlankText before = true) (ended : EndsLine before) (isObject : IsObject object) :
    (∀ padding gap body, isBlankText padding = true → '\n' ∉ padding → IsGap gap body →
      extract (some .json) (mark ++ before ++ object ++ padding ++ '\n' :: gap ++ body) =
        .ok (some ⟨.json, object, (mark ++ before).length,
          (mark ++ before ++ object ++ padding ++ '\n' :: gap).length⟩, body)) ∧
      ∀ rest, isBlankText (rest.takeWhile (· != '\n')) = false →
        extract (some .json) (mark ++ before ++ object ++ rest) =
          .ok (none, mark ++ before ++ object ++ rest) := by
  constructor
  · intro padding gap body paddingBlank oneLine isGap
    rw [extract, locate?_object isMark blank ended isObject paddingBlank oneLine isGap]
    simp only [bind, Except.bind, FrontMatter.body, List.drop_left]
    rfl
  · intro rest solid
    rw [List.append_assoc, extract, locate?_eq,
      contentStart_object isMark blank ended isObject, List.drop_left,
      find?_object_followed isObject solid]
    rfl

/-- A brace in a name does not close the object, and neither does that of an object within. -/
theorem extract_object_with_inner_braces :
    IsObject "\x7b\"\x7d\": [\x7b\x7d]\x7d".toList ∧
      extract (some .json) "\uFEFF\n\x7b\"\x7d\": [\x7b\x7d]\x7d \n\nText".toList =
        .ok (some ⟨.json, "\x7b\"\x7d\": [\x7b\x7d]\x7d".toList, 2, 16⟩, "Text".toList) ∧
      extract (some .json) "\x7b\"\x7d\": [\x7b\x7d]\x7d Text".toList =
        .ok (none, "\x7b\"\x7d\": [\x7b\x7d]\x7d Text".toList) := by
  have noSpace : IsSpacing [] := by simp [IsSpacing]
  have name : IsString ['"', '\x7d', '"'] :=
    @IsString.quoted ['\x7d'] (.plain ⟨by decide, by decide, by decide⟩ .nil)
  have array : IsArray ['[', '\x7b', '\x7d', ']'] :=
    @IsArray.elements ['\x7b', '\x7d']
      (.one (@IsElement.spaced [] _ [] noSpace (.object (@IsObject.empty [] noSpace)) noSpace))
  have member : IsMember ['"', '\x7d', '"', ':', ' ', '[', '\x7b', '\x7d', ']'] :=
    @IsMember.named [] _ [] _ noSpace name noSpace
      (@IsElement.spaced [' '] _ [] (by simp [IsSpacing, isSpace]) (.array array) noSpace)
  have isObject : IsObject "\x7b\"\x7d\": [\x7b\x7d]\x7d".toList := .members (.one member)
  have ended : EndsLine ['\n'] := Or.inr ⟨[], rfl⟩
  have isGap : IsGap ['\n'] "Text".toList := ⟨rfl, Or.inr ended, startsSolid_cons rfl⟩
  refine ⟨isObject, ?_, ?_⟩
  · exact (extract_object_exact (Or.inr rfl) rfl ended isObject).1 [' '] ['\n'] "Text".toList rfl
      (by decide) isGap
  · exact (extract_object_exact (Or.inl rfl) rfl (Or.inl rfl) isObject).2 " Text".toList rfl

end FoldMark.FrontMatter
