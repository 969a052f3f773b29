import FoldMark.Markdown.Document
import FoldMark.Proofs.Markdown.Joining

/-!
# The last changes to a document

After its attributes, tasks and footnotes are taken out, a document is changed token by token
(`parse_eq_map_finish`): its punctuation is made smart, what was written as an escape becomes text,
and names of emoji are replaced. An empty text at the end of a content is not seen in the HTML
(`shownAs_append_empty`).
-/

namespace FoldMark.Markdown

open Text

variable {features : Features} {source : List Char} {content : List Inline}

/-- The last changes to a token. -/
def finish (features : Features) (token : Token) : Token :=
  let token :=
    if features.smartPunctuation then Token.mapInline Typography.apply token else token
  let token := Token.mapInline (fun _ => Inline.settle) token
  if features.emojiNames then Emoji.replaceToken (Emoji.replace features.emoji) token else token

/-- The HTML of running text after the last changes. -/
def shownAs (features : Features) (source : List Char) (content : List Inline) : List Char :=
  Token.render none none (finish features (.inline source content))

/-- The tokens of a document as they are read, and the footnotes that are referred to. -/
def readTokens (features : Features) (references : References) (document : List Char) :
    List Token × Notes :=
  let draft := readDraft features references (normalizeSource document)
  readInlines (Inline.read features draft.references draft.notes) draft.tokens.toList #[]

/-- The last changes to a document are the last changes to its tokens. -/
theorem map_finish (features : Features) (tokens : List Token) :
    tokens.map (finish features) =
      let tokens :=
        if features.smartPunctuation then tokens.map (Token.mapInline Typography.apply) else tokens
      let tokens := tokens.map (Token.mapInline fun _ => Inline.settle)
      if features.emojiNames then Emoji.apply features.emoji tokens else tokens := by
  cases smart : features.smartPunctuation <;> cases emoji : features.emojiNames <;>
    simp [finish, smart, emoji, Emoji.apply, Function.comp_def]

/-- A document is changed token by token in the end. -/
theorem parse_eq_map_finish (features : Features) (references : References)
    (document : List Char) :
    parse features references document =
      let read := readTokens features references document
      let tokens := if features.headingAttributes then HeadingAttributes.apply read.1 else read.1
      let tokens := if features.taskLists then TaskList.apply tokens else tokens
      (Footnote.apply read.2 tokens).map (finish features) := by
  simp only [map_finish]
  rfl

/-! ## An empty text at the end -/

namespace Typography

/-- Replacing within texts leaves an empty one at the end. -/
theorem mapTexts_append_empty {replace : List Char → List Char} (empty : replace [] = [])
    (inAuto : Bool) (content : List Inline) :
    mapTexts replace inAuto (content ++ [.text []]) =
      mapTexts replace inAuto content ++ [.text []] := by
  fun_induction mapTexts replace inAuto content with
  | case1 inAuto => cases inAuto <;> simp [mapTexts, empty]
  | case2 _ destination title rest hypothesis =>
    simp only [List.cons_append, mapTexts, hypothesis]
  | case3 _ destination title rest hypothesis =>
    simp only [List.cons_append, mapTexts, hypothesis]
  | case4 inAuto chars rest hypothesis => simp only [List.cons_append, mapTexts, hypothesis]
  | case5 inAuto item rest opens closes text hypothesis =>
    rw [List.cons_append, mapTexts.eq_5 _ _ _ _ opens closes text, hypothesis, List.cons_append]

/-- Replacing marks leaves an empty text at the end. -/
theorem replaceMarks_append_empty (source : List Char) (content : List Inline) :
    replaceMarks source (content ++ [.text []]) =
      replaceMarks source content ++ [.text []] := by
  have signs : replaceSigns [] = [] := rfl
  have sequences : replaceSequences [] = [] := rfl
  simp only [replaceMarks]
  cases hasSigns source <;> cases hasSequences source <;>
    simp [mapTexts_append_empty, signs, sequences]

/-- An empty text at the end shows no character. -/
theorem firstChar_append_empty (content : List Inline) :
    firstChar (content ++ [.text []]) = firstChar content := by
  induction content with
  | nil => rfl
  | cons item rest hypothesis => simp only [List.cons_append, firstChar, hypothesis]

/-- An empty text at the end holds no quotation mark. -/
theorem changes_append_empty (state : Quotes) (level item : Nat) (before content : List Inline) :
    (Quotes.stepItems state level item before (content ++ [.text []])).changes =
      (Quotes.stepItems state level item before content).changes := by
  induction content generalizing state level item before with
  | nil => rfl
  | cons next rest hypothesis =>
    simp only [List.cons_append, Quotes.stepItems, firstChar_append_empty, hypothesis]

/-- Curling quotation marks leaves an empty text at the end. -/
theorem curl_append_empty (content : List Inline) :
    curl (content ++ [.text []]) = curl content ++ [.text []] := by
  simp only [curl, changes_append_empty, List.zipIdx_append, List.map_append]
  rfl

/-- Smart punctuation leaves an empty text at the end. -/
theorem apply_append_empty (source : List Char) (content : List Inline) :
    apply source (content ++ [.text []]) = apply source content ++ [.text []] := by
  simp only [apply, replaceQuotes, replaceMarks_append_empty]
  split
  · exact curl_append_empty _
  · rfl

end Typography

/-- Settling leaves an empty text at the end, or none. -/
theorem settle_append_empty (content : List Inline) :
    Inline.settle (content ++ [.text []]) = Inline.settle content ∨
      Inline.settle (content ++ [.text []]) = Inline.settle content ++ [.text []] := by
  rw [Inline.settle, List.map_append]
  exact Inline.joinTexts_append_empty (content.map Inline.settleItem)

/-- The HTML of settled content, with names of emoji replaced or not. -/
def settledHtml (features : Features) (content : List Inline) : List Char :=
  (if features.emojiNames then content.map (Emoji.replaceItem (Emoji.replace features.emoji))
    else content).flatMap Inline.render

/-- Running text is shown as its settled content. -/
theorem shownAs_eq (features : Features) (source : List Char) (content : List Inline) :
    shownAs features source content = settledHtml features (Inline.settle
      (if features.smartPunctuation then Typography.apply source content else content)) := by
  rw [shownAs, finish, settledHtml]
  cases features.smartPunctuation <;> cases features.emojiNames <;> rfl

/-- An empty text at the end of settled content is not seen. -/
theorem settledHtml_append_empty (features : Features) (content : List Inline) :
    settledHtml features (content ++ [.text []]) = settledHtml features content := by
  have empty : Inline.render (.text []) = [] := rfl
  have replaced : Emoji.replaceItem (Emoji.replace features.emoji) (.text []) = .text [] := rfl
  rw [settledHtml, settledHtml]
  split
  · rw [List.map_append, List.flatMap_append, List.map_singleton, replaced,
      List.flatMap_singleton, empty, List.append_nil]
  · rw [List.flatMap_append, List.flatMap_singleton, empty, List.append_nil]

/-- An empty text at the end of a content is not seen. -/
theorem shownAs_append_empty (features : Features) (source : List Char) (content : List Inline) :
    shownAs features source (content ++ [.text []]) = shownAs features source content := by
  have settled (content : List Inline) :
      settledHtml features (Inline.settle (content ++ [.text []])) =
        settledHtml features (Inline.settle content) := by
    rcases settle_append_empty content with same | more
    · rw [same]
    · rw [more, settledHtml_append_empty]
  rw [shownAs_eq, shownAs_eq]
  split
  · rw [Typography.apply_append_empty, settled]
  · exact settled content

end FoldMark.Markdown
