import FoldMark.Proofs.Chain
import FoldMark.Proofs.Markdown.LeadingBlank
import FoldMark.Proofs.Page.Failure

/-!
# Text after front matter

Front matter between fences that is taken off leaves the HTML of its document that of the text after
it. Blank lines before the text go with the front matter. They go unseen if they hold spaces, tabs
and line ends alone, which the language passes as well; but it reads any other blank character as
text: `html_after_frontMatter`, `html_of_noBreakSpace`.
-/

namespace FoldMark

open FrontMatter Text

namespace FrontMatter.Fenced

variable {kind : Kind}

/-- Front matter ends with the line of its closing fence. -/
def IsAlone (fenced : Fenced kind) : Prop := fenced.rest = some ([], [])

/-- The document of some front matter and what follows it. -/
def followedBy (fenced : Fenced kind) {gap body : List Char} (isGap : IsGap gap body) :
    Fenced kind :=
  { fenced with
    rest := some (gap, body)
    rest_gap := by
      rintro _ _ ⟨⟩
      exact isGap }

/-- What follows stands after the front matter. -/
theorem text_followedBy {fenced : Fenced kind} (alone : fenced.IsAlone) {gap body : List Char}
    (isGap : IsGap gap body) :
    (fenced.followedBy isGap).text = fenced.text ++ (gap ++ body) := by
  have rest : fenced.rest = some ([], []) := alone
  simp [followedBy, text, block, lastLine, Fenced.gap, Fenced.body, rest, Opening.front,
    Opening.line]

/-- Lines of definitions stand between no fences. -/
theorem kind_ne_refdef (fenced : Fenced kind) : kind ≠ .refdef := by
  rintro rfl
  exact absurd fenced.fence_mem List.not_mem_nil

end FrontMatter.Fenced

namespace Page

variable {extensions : Extensions} {kind : Kind}

/-- The HTML is that of a text whose blank lines in front, as the language sees them, are gone. -/
theorem writeHtml_append (extensions : Extensions) {gap body : List Char} (isGap : IsGap gap body)
    (void : isVoid gap = true) :
    writeHtml extensions [] (gap ++ body) = writeHtml extensions [] body := by
  simp only [writeHtml, Markdown.parse_append extensions.features [] void isGap.ended]

/-- Front matter whose payload is decoded or not valid has metadata. -/
theorem exists_metadata {front : FrontMatter}
    (settled : ∀ error, decode front.kind front.payload = .error error → error.isInvalid = true) :
    ∃ metadata, FrontMatter.metadata (some front) = .ok metadata := by
  cases decoded : decode front.kind front.payload with
  | ok value => exact ⟨value, by simp [FrontMatter.metadata, decoded]⟩
  | error error => exact ⟨noMetadata, metadata_of_isInvalid decoded (settled error decoded)⟩

/-- After front matter between fences whose payload is decoded or not valid, any document starts
with a gap, and the HTML is that of what follows the gap. If the gap holds spaces, tabs and line
ends alone, it is that of the whole document, rendered without front matter. -/
theorem html_after_frontMatter (extensions : Extensions) (fenced : Fenced kind)
    (asked : extensions.frontMatter = some kind) (alone : fenced.IsAlone)
    (settled : ∀ error, decode kind fenced.payload = .error error → error.isInvalid = true)
    (document : List Char) :
    ∃ gap body page plain, document = gap ++ body ∧ IsGap gap body ∧
      render extensions (fenced.text ++ document) = .ok page ∧
      render extensions.withoutFrontMatter document = .ok plain ∧
      page.html = writeHtml extensions.withoutFrontMatter [] body ∧
      (isVoid gap = true → page.html = plain.html) := by
  obtain ⟨gap, body, rfl, isGap, -⟩ := exists_gap document
  let whole := fenced.followedBy isGap
  have extracted : extract extensions.frontMatter (fenced.text ++ (gap ++ body)) =
      .ok (some whole.frontMatter, body) := by
    rw [asked, ← Fenced.text_followedBy alone isGap]
    exact whole.extract_text
  have references : referencesOf (some whole.frontMatter) = [] := by
    have fences := fenced.kind_ne_refdef
    cases kind with
    | refdef => exact absurd rfl fences
    | json | yaml | toml => rfl
  obtain ⟨metadata, decoded⟩ : ∃ metadata,
      FrontMatter.metadata (some whole.frontMatter) = .ok metadata := exists_metadata settled
  refine ⟨gap, body, ⟨writeHtml extensions [] body, some whole.frontMatter, metadata⟩,
    ⟨writeHtml extensions [] (gap ++ body), none, noMetadata⟩, rfl, isGap, ?_, rfl, rfl, fun void =>
      (writeHtml_append extensions isGap void).symm⟩
  rw [render_of_extract extracted, decoded, references]

/-- Front matter in YAML with a title. -/
def titled : Fenced .yaml where
  mark := []
  before := []
  fence := ("---", ["---", "..."])
  padding := []
  isMark := Or.inl rfl
  before_blank := rfl
  before_ends := Or.inl rfl
  fence_mem := List.mem_singleton_self _
  padding_blank := rfl
  padding_line := List.not_mem_nil
  payload := "title: x\n".toList
  closer := "---"
  closerPadding := []
  rest := some ([], [])
  payload_ends := Or.inr ⟨"title: x".toList, rfl⟩
  payload_open := by decide
  closer_mem := List.mem_cons_self
  closerPadding_blank := rfl
  closerPadding_line := List.not_mem_nil
  rest_gap := by
    rintro _ _ ⟨⟩
    exact ⟨rfl, Or.inl rfl, nofun⟩

/-- A title does not show before a text that starts after an empty line and with indented code. -/
theorem html_of_titled :
    ∃ page plain,
      render { frontMatter := some .yaml } "---\ntitle: x\n---\n \t\r\n    code\n".toList =
        .ok page ∧
      render {} " \t\r\n    code\n".toList = .ok plain ∧ page.html = plain.html := by
  have decoded : (decode .yaml titled.payload).toOption.isSome = true := by decide +kernel
  have settled : ∀ error, decode .yaml titled.payload = .error error → error.isInvalid = true := by
    intro error failed
    rw [failed] at decoded
    cases decoded
  obtain ⟨gap, body, page, plain, parts, isGap, rendered, alone, -, same⟩ :=
    html_after_frontMatter { frontMatter := some .yaml } titled rfl rfl settled
      " \t\r\n    code\n".toList
  have blank : (" \t\r\n    code\n".toList.all fun c =>
      !isBlank c || (isSpaceOrTab c || c == '\r' || c == '\n')) = true := rfl
  refine ⟨page, plain, rendered, alone, same (List.all_eq_true.mpr fun c member => ?_)⟩
  have listed := List.all_eq_true.mp blank c (parts ▸ List.mem_append_left body member)
  rwa [List.all_eq_true.mp isGap.blank c member, Bool.not_true, Bool.false_or] at listed

/-- A line of a no-break space is a paragraph without front matter, and goes with front matter
before it. -/
theorem html_of_noBreakSpace :
    ∃ page plain, render { frontMatter := some .yaml } "---\n---\n\u00A0\n".toList = .ok page ∧
      render {} "\u00A0\n".toList = .ok plain ∧
      page.html = [] ∧ plain.html = "<p></p>\n".toList := by
  have extracted : extract (some .yaml) "---\n---\n\u00A0\n".toList =
      .ok (some ⟨.yaml, [], 0, 10⟩, []) := rfl
  have decoded : (FrontMatter.metadata (some ⟨.yaml, [], 0, 10⟩)).toOption.any (fun _ => true) =
      true := by
    decide +kernel
  obtain ⟨metadata, decoded, -⟩ := exists_of_toOption_any decoded
  have nothing : writeHtml { frontMatter := some .yaml } [] [] = [] := by decide +kernel
  have paragraph : writeHtml {} [] "\u00A0\n".toList = "<p></p>\n".toList := by decide +kernel
  let page : Page :=
    ⟨writeHtml { frontMatter := some .yaml } [] [], some ⟨.yaml, [], 0, 10⟩, metadata⟩
  let plain : Page := ⟨writeHtml {} [] "\u00A0\n".toList, none, noMetadata⟩
  have rendered : render { frontMatter := some .yaml } "---\n---\n\u00A0\n".toList = .ok page := by
    rw [render_of_extract extracted, decoded]
    rfl
  have alone : render {} "\u00A0\n".toList = .ok plain := rfl
  exact ⟨page, plain, rendered, alone, nothing, paragraph⟩

end Page

end FoldMark
