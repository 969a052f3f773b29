import FoldMark.Json.Reader

/-!
# The grammar of JSON

Which texts are values. The rules are those of the standard, one constructor for each way to write a
construct; they tell nothing of how a text is read. White space may stand around every value and
around every name of a member, and nowhere else.
-/

namespace FoldMark.Json

open Text

/-! ## White space, strings and numbers -/

/-- White space, possibly none. -/
def IsSpacing (text : List Char) : Prop := ∀ c ∈ text, isSpace c = true

/-- A character that a string may hold as it is. -/
def IsUnescaped (c : Char) : Prop := 0x20 ≤ c.toNat ∧ c ≠ '"' ∧ c ≠ '\\'

/-- A letter that may follow a backslash on its own. -/
def IsEscapeLetter (c : Char) : Prop := c ∈ ['"', '\\', '/', 'b', 'f', 'n', 'r', 't']

/-- What may stand between the quotes of a string. -/
inductive IsStringText : List Char → Prop where
  /-- Nothing. -/
  | nil : IsStringText []
  /-- A character as it is. -/
  | plain {c : Char} {rest : List Char} (unescaped : IsUnescaped c) (later : IsStringText rest) :
    IsStringText (c :: rest)
  /-- A letter after a backslash. -/
  | letter {c : Char} {rest : List Char} (escapes : IsEscapeLetter c) (later : IsStringText rest) :
    IsStringText ('\\' :: c :: rest)
  /-- Four hexadecimal digits after a backslash and a letter. -/
  | unit {digits rest : List Char} (four : digits.length = 4)
    (hexadecimal : ∀ c ∈ digits, isHexDigit c = true) (later : IsStringText rest) :
    IsStringText ('\\' :: 'u' :: (digits ++ rest))

/-- A string with its quotes. -/
inductive IsString : List Char → Prop where
  /-- Its text stands between quotes. -/
  | quoted {text : List Char} (inside : IsStringText text) : IsString ('"' :: (text ++ ['"']))

/-- Digits, at least one. -/
def IsDigits (text : List Char) : Prop := text ≠ [] ∧ ∀ c ∈ text, c.isDigit = true

/-- The digits of a whole number, which start with a zero only if it is all of them. -/
def IsWhole (text : List Char) : Prop := IsDigits text ∧ (text.head? = some '0' → text = ['0'])

/-- A point and digits. -/
inductive IsFraction : List Char → Prop where
  /-- The digits follow the point. -/
  | point {digits : List Char} (isDigits : IsDigits digits) : IsFraction ('.' :: digits)

/-- A letter, possibly a sign, and digits. -/
inductive IsExponent : List Char → Prop where
  /-- The digits follow the letter and the sign. -/
  | letter {e : Char} {sign digits : List Char} (isLetter : e = 'e' ∨ e = 'E')
    (isSign : sign = [] ∨ sign = ['+'] ∨ sign = ['-']) (isDigits : IsDigits digits) :
    IsExponent (e :: (sign ++ digits))

/-- A number. -/
inductive IsNumber : List Char → Prop where
  /-- Its parts follow each other; all but the whole number may be missing. -/
  | parts {sign whole fraction exponent : List Char} (isSign : sign = [] ∨ sign = ['-'])
    (isWhole : IsWhole whole) (isFraction : fraction = [] ∨ IsFraction fraction)
    (isExponent : exponent = [] ∨ IsExponent exponent) :
    IsNumber (sign ++ whole ++ fraction ++ exponent)

/-! ## Values -/

mutual

/-- A value. -/
inductive IsValue : List Char → Prop where
  /-- One of three words. -/
  | word {word : String} (known : word ∈ ["null", "true", "false"]) : IsValue word.toList
  /-- A number. -/
  | number {text : List Char} (isNumber : IsNumber text) : IsValue text
  /-- A string. -/
  | string {text : List Char} (isString : IsString text) : IsValue text
  /-- An array. -/
  | array {text : List Char} (isArray : IsArray text) : IsValue text
  /-- An object. -/
  | object {text : List Char} (isObject : IsObject text) : IsValue text

/-- An array with its brackets. -/
inductive IsArray : List Char → Prop where
  /-- It has no elements. -/
  | empty {gap : List Char} (spacing : IsSpacing gap) : IsArray ('[' :: (gap ++ [']']))
  /-- Its elements stand between brackets. -/
  | elements {text : List Char} (inside : IsElements text) : IsArray ('[' :: (text ++ [']']))

/-- Elements between commas. -/
inductive IsElements : List Char → Prop where
  /-- A single element. -/
  | one {element : List Char} (isElement : IsElement element) : IsElements element
  /-- An element before others. -/
  | more {element rest : List Char} (isElement : IsElement element) (later : IsElements rest) :
    IsElements (element ++ ',' :: rest)

/-- A value with the white space around it. -/
inductive IsElement : List Char → Prop where
  /-- The white space may be missing. -/
  | spaced {before value after : List Char} (spacingBefore : IsSpacing before)
    (isValue : IsValue value) (spacingAfter : IsSpacing after) :
    IsElement (before ++ value ++ after)

/-- An object with its braces. -/
inductive IsObject : List Char → Prop where
  /-- It has no members. -/
  | empty {gap : List Char} (spacing : IsSpacing gap) : IsObject ('\x7b' :: (gap ++ ['\x7d']))
  /-- Its members stand between braces. -/
  | members {text : List Char} (inside : IsMembers text) :
    IsObject ('\x7b' :: (text ++ ['\x7d']))

/-- Members between commas. -/
inductive IsMembers : List Char → Prop where
  /-- A single member. -/
  | one {member : List Char} (isMember : IsMember member) : IsMembers member
  /-- A member before others. -/
  | more {member rest : List Char} (isMember : IsMember member) (later : IsMembers rest) :
    IsMembers (member ++ ',' :: rest)

/-- A name, a colon and an element. -/
inductive IsMember : List Char → Prop where
  /-- White space may stand around the name, too. -/
  | named {before name after element : List Char} (spacingBefore : IsSpacing before)
    (isName : IsString name) (spacingAfter : IsSpacing after) (isElement : IsElement element) :
    IsMember (before ++ name ++ after ++ ':' :: element)

end

end FoldMark.Json
