import FoldMark.Markdown.Token
import FoldMark.Selector.Fields

/-!
# Extensions

Which additions to the language are on, which front matter is looked for and which headings fold. A
document is rendered by these and by nothing else.
-/

namespace FoldMark

open Fields

/-- The additions to the language and the treatment of front matter and of headings. -/
structure Extensions where
  /-- The additions to the language. -/
  features : Markdown.Features := {}
  /-- The front matter that is looked for. -/
  frontMatter : Option FrontMatter.Kind := none
  /-- The headings that fold. -/
  selector : Option Selector := none
  /-- Front matter that is opened must be closed. -/
  isStrict : Bool := false
  /-- Only front matter that is looked for can be held to that. -/
  strict_kind : isStrict = true → frontMatter.isSome := by simp

namespace Extensions

/-- Why a value does not suit a field. -/
inductive Cause where
  /-- The value is not of the form that the field asks for. -/
  | field (error : Fields.Error)
  /-- The value is no selector of any form. -/
  | notSelector
  /-- The text is no selector. -/
  | selectorText (error : Selector.ParseError)
  /-- The mapping is no selector. -/
  | selectorFields (problems : List (Problem Fields.Error))
  /-- Closing is asked for, but no front matter is looked for. -/
  | strictWithoutKind

/-- The wording of a cause. -/
def Cause.message : Cause → String
  | field error => error.message
  | notSelector => "Input should be a valid dictionary or instance of HeadingSelector"
  | selectorText error => "Value error, " ++ error.message
  | selectorFields problems => "Value error, " ++ Selector.fieldsMessage problems
  | strictWithoutKind => "Value error, strict_front_matter requires a front_matter kind"

/-- What is wrong with the fields. -/
abbrev Problems := List (Problem Cause)

/-- The wording of what is wrong. -/
def message (problems : Problems) : String :=
  "Invalid ExtensionConfig: " ++ Problem.messages Cause.message problems

/-- The selector that a text is; a blank one selects nothing. -/
def selectorOfText (spec : List Char) : Except Cause (Option Selector) :=
  if Text.isBlankText spec then .ok none
  else
    match Selector.parse spec with
    | .ok selector => .ok (some selector)
    | .error error => .error (.selectorText error)

/-- The fields of a mapping whose keys are texts. -/
def entriesOf (entries : List (Value × Value)) : Entries :=
  entries.filterMap fun entry =>
    match entry.1 with
    | .str name => some (name.toString, entry.2)
    | _ => none

/-- A selector, as a text or as a mapping, that may be absent. -/
def readSelector : Value → Except Cause (Option Selector)
  | .null => .ok none
  | .str spec => selectorOfText spec.toList
  | .map _ entries =>
    match Selector.ofEntries (entriesOf entries) with
    | .ok selector => .ok (some selector)
    | .error problems => .error (.selectorFields problems)
  | _ => .error .notSelector

/-- The names of the fields, in order. -/
def fieldNames : List String :=
  ["tables", "footnotes", "strikethrough", "tasklists", "smart_punctuation", "header_attributes",
    "emoji_shortcodes", "front_matter", "collapsible_headers", "strict_front_matter"]

/-- Reads the switches of the additions to the language. -/
def readFeatures (entries : Entries) : Checked Fields.Error Markdown.Features :=
  let flag (name : String) : Checked Fields.Error Bool := readField entries name switch false
  Markdown.Features.mk <$> flag "tables" <*> flag "footnotes" <*> flag "strikethrough" <*>
    flag "tasklists" <*> flag "smart_punctuation" <*> flag "header_attributes" <*>
    flag "emoji_shortcodes" <*> pure Markdown.Emoji.common

/-- Puts extensions together, if they suit each other. -/
def combine (features : Markdown.Features) (frontMatter : Option FrontMatter.Kind)
    (selector : Option Selector) (isStrict : Bool) : Except Problems Extensions :=
  if h : isStrict = true → frontMatter.isSome then
    .ok ⟨features, frontMatter, selector, isStrict, h⟩
  else .error [⟨[], .strictWithoutKind⟩]

/-- Reads extensions from their fields. -/
def ofEntries (entries : Entries) : Except Problems Extensions := do
  let ofField {α : Type} (checked : Checked Fields.Error α) : Checked Cause α :=
    checked.mapCause .field
  let fields : Checked Cause (Except Problems Extensions) :=
    combine <$> ofField (readFeatures entries) <*>
      ofField (readField entries "front_matter" kind none) <*>
      readField entries "collapsible_headers" readSelector none <*>
      ofField (readField entries "strict_front_matter" switch false)
  (← (fields.also ((unknown fieldNames entries).map (Problem.map .field))).toExcept)

end Extensions

end FoldMark
