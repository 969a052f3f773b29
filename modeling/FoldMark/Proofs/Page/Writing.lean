import FoldMark.Page
import FoldMark.Proofs.FrontMatter.Metadata
import FoldMark.Proofs.Json.Writing
import FoldMark.Proofs.Toml.Writing
import FoldMark.Proofs.Yaml.Writing

/-!
# Pages that can be written

Which pages a writer has no refusal for is told of their metadata (`Page.isUnwritable`): a value
within itself, which YAML can write down, in JSON or TOML, a time of day, which TOML can write down,
in YAML, and an integer of too many digits, which YAML and TOML can write down in another base.
These are not written (`Page.breaks_of_isUnwritable`), and all others are written or refused
(`Page.refuses_write`).
-/

namespace FoldMark.Page

open FrontMatter Value

variable {extensions : Extensions} {document : List Char} {page : Page} {format : PayloadFormat}

/-! ## What is written or refused -/

/-- Whether a page holds what the writer of a format has no refusal for. -/
def isUnwritable (page : Page) : PayloadFormat → Bool
  | .html => false
  | .json => Toml.isEndless page.metadata || !page.metadata.all isShort
  | .toml => Toml.isEndless page.metadata || !(Toml.withoutNulls page.metadata).all isShort
  | .yaml => !page.metadata.all isRepresentable

/-- Whether a page holds a text that is no Unicode text, which is written as it is. -/
def isUnencodable (page : Page) : PayloadFormat → Bool
  | .html | .yaml => false
  | .json | .toml => !page.metadata.all isUnicode

/-- What a page holds is written with it. -/
theorem isEndless_payload : Toml.isEndless page.payload = Toml.isEndless page.metadata := by
  simp [payload, Toml.isEndless, Toml.anyEntryEndless]

/-- A test that texts of characters and mappings pass. -/
theorem all_payload {test : Value → Bool} (texts : ∀ chars, test (.str (.ofChars chars)) = true)
    (mappings : ∀ entries, test (.map none entries) = true) :
    page.payload.all test = page.metadata.all test := by
  have names : ∀ s : String, test (.str (.ofString s)) = true := fun s => texts s.toList
  simp only [payload, all, allEntries, names, texts, mappings, Bool.true_and, Bool.and_true]

/-- The same of what has a value. -/
theorem all_withoutNulls_payload {test : Value → Bool}
    (texts : ∀ chars, test (.str (.ofChars chars)) = true)
    (mappings : ∀ entries, test (.map none entries) = true) (nulls : test .null = true) :
    (Toml.withoutNulls page.payload).all test = (Toml.withoutNulls page.metadata).all test := by
  have names : ∀ s : String, test (.str (.ofString s)) = true := fun s => texts s.toList
  cases same : page.metadata with
  | null =>
    simp only [payload, same, Toml.withoutNulls, Toml.entriesWithoutNulls, all, allEntries, names,
      texts, mappings, nulls, Bool.and_true]
  | _ =>
    simp only [payload, same, Toml.withoutNulls, Toml.entriesWithoutNulls, all, allEntries, names,
      texts, mappings, Bool.true_and, Bool.and_true]

/-- A page can be written as JSON if it holds nothing unwritable. -/
theorem canWrite_payload_iff : page.payload.CanWrite ↔ page.isUnwritable .json = false := by
  rw [CanWrite, isEndless_payload, all_payload (fun _ => rfl) fun _ => rfl, isUnwritable,
    Bool.or_eq_false_iff, Bool.not_eq_false']

/-- A page can be written as TOML if it holds nothing unwritable that has a value. -/
theorem canWrite_withoutNulls_payload_iff :
    (Toml.withoutNulls page.payload).CanWrite ↔ page.isUnwritable .toml = false := by
  rw [CanWrite, Toml.isEndless_withoutNulls, isEndless_payload,
    all_withoutNulls_payload (fun _ => rfl) (fun _ => rfl) rfl, isUnwritable,
    Bool.or_eq_false_iff, Bool.not_eq_false']

/-- A page without what the writer has no refusal for is refused or written, as characters if it
holds Unicode texts. -/
theorem refuses_write (writable : page.isUnwritable format = false) :
    Refuses (fun text => page.isUnencodable format = false → text.IsUnicode)
      (page.write format) := by
  have texts : ∀ chars, isUnicode (.str (.ofChars chars)) = true := fun chars => by
    simp [isUnicode]
  cases format with
  | html => exact fun _ => CodeText.isUnicode_ofChars _
  | json =>
    refine ((Json.settles_writeValue 0 page.payload).refuses
      (canWrite_payload_iff.mpr writable)).mono fun text unicode encodable => unicode ?_
    rw [all_payload texts fun _ => rfl]
    simpa [isUnencodable] using encodable
  | toml =>
    refine (Toml.refuses_write page.payload
      (canWrite_withoutNulls_payload_iff.mpr writable)).mono fun text unicode encodable =>
        unicode ?_
    rw [all_withoutNulls_payload texts (fun _ => rfl) rfl]
    exact Toml.all_withoutNulls (fun _ _ => rfl) (fun _ _ => rfl) _
      (by simpa [isUnencodable] using encodable)
  | yaml =>
    have fits : page.payload.all isRepresentable = true := by
      rw [all_payload (fun _ => rfl) fun _ => rfl]
      simpa [isUnwritable] using writable
    obtain ⟨text, written⟩ := Yaml.exists_write page.payload fits
    rw [write, written]
    exact fun _ => CodeText.isUnicode_ofChars text

/-- An error of the writer for such a page is a refusal. -/
theorem isRefusal_of_write {error : WriteError} (writable : page.isUnwritable format = false)
    (failed : page.write format = .error error) : error.isRefusal = true := by
  have refuses := refuses_write writable
  rw [failed] at refuses
  exact refuses

/-- A page with Unicode texts that is written as JSON is written as characters. -/
theorem exists_chars_of_write {written : CodeText} (unicode : page.metadata.all isUnicode = true)
    (made : page.write .json = .ok written) :
    ∃ payload : List Char, written = .ofChars payload := by
  have can := (Json.settles_writeValue 0 page.payload).possible made
  have refuses := refuses_write (canWrite_payload_iff.mp can)
  rw [made] at refuses
  exact CodeText.exists_ofChars_iff.mpr (refuses (by rw [isUnencodable, unicode]; rfl))

/-! ## What is not written -/

/-- The metadata of a page are of what the notation of its front matter can hold. -/
theorem holds_of_render (rendered : render extensions document = .ok page) :
    page.metadata.all (canHold (page.frontMatter.map FrontMatter.kind)) = true := by
  obtain ⟨parts, -, rendered⟩ := exists_of_bind_eq_ok rendered
  obtain ⟨metadata, decoded, same⟩ := exists_of_bind_eq_ok rendered
  obtain rfl := Except.ok.inj same
  exact holds_of_metadata (mapError_eq_ok_iff.mp decoded)

/-- What passes no test throughout is held by a notation whose values need not pass it. -/
theorem kind_of_all_ne {value : Value} {kind : Option Kind} {test : Value → Bool}
    (holds : value.all (canHold kind) = true) (fails : value.all test ≠ true)
    (plain : ∀ value, isPlain value = true → test value = true) :
    kind = some .yaml ∧ ¬(∀ value, isUntimed value = true → test value = true) ∨
      kind = some .toml ∧ ¬(∀ value, isUnshared value = true → test value = true) := by
  have other : ∀ held : Value → Bool, value.all held = true →
      ¬(∀ value, held value = true → test value = true) :=
    fun held passes implies => fails (all_mono implies value passes)
  rcases kind with _ | kind
  · exact absurd plain (other _ holds)
  · cases kind with
    | yaml => exact .inl ⟨rfl, other _ holds⟩
    | toml => exact .inr ⟨rfl, other _ holds⟩
    | json | refdef => exact absurd plain (other _ holds)

/-- What a notation other than YAML holds has no value within itself. -/
theorem kind_of_isEndless {value : Value} {kind : Option Kind}
    (holds : value.all (canHold kind) = true) (endless : Toml.isEndless value = true) :
    kind = some .yaml := by
  have shared : value.all isUnshared ≠ true := fun unshared => by
    rw [Toml.isEndless_of_unshared value unshared] at endless
    cases endless
  have plain : ∀ value, isPlain value = true → isUnshared value = true := fun value passes =>
    (Bool.and_eq_true_iff.mp (Bool.and_eq_true_iff.mp passes).1).2
  rcases kind_of_all_ne holds shared plain with ⟨yaml, -⟩ | ⟨-, others⟩
  · exact yaml
  · exact absurd (fun _ => id) others

/-- What a notation other than TOML holds has no time of day. -/
theorem kind_of_timed {value : Value} {kind : Option Kind}
    (holds : value.all (canHold kind) = true) (timed : value.all isUntimed = false) :
    kind = some .toml := by
  have plain : ∀ value, isPlain value = true → isUntimed value = true := fun value passes =>
    (Bool.and_eq_true_iff.mp (Bool.and_eq_true_iff.mp passes).1).1
  rcases kind_of_all_ne holds (Bool.eq_false_iff.mp timed) plain with ⟨-, others⟩ | ⟨toml, -⟩
  · exact absurd (fun _ => id) others
  · exact toml

/-- What a notation other than YAML and TOML holds has no integer of too many digits. -/
theorem kind_of_long {value : Value} {kind : Option Kind}
    (holds : value.all (canHold kind) = true) (long : value.all isShort = false) :
    kind = some .yaml ∨ kind = some .toml := by
  have plain : ∀ value, isPlain value = true → isShort value = true :=
    fun value passes => (Bool.and_eq_true_iff.mp passes).2
  exact (kind_of_all_ne holds (Bool.eq_false_iff.mp long) plain).imp And.left And.left

/-- How a page comes to hold what the writer of a format has no refusal for, and what the writer
does then. -/
inductive Breaks (page : Page) : PayloadFormat → Prop where
  /-- A value within itself is not written as JSON; a key before it can be refused. -/
  | endlessJson (kind : page.frontMatter.map FrontMatter.kind = some .yaml)
      (unwritten : ∀ text, page.write .json ≠ .ok text) : Breaks page .json
  /-- Writing a value within itself as TOML does not end. -/
  | endlessToml (kind : page.frontMatter.map FrontMatter.kind = some .yaml)
      (failed : page.write .toml = .error .endless) : Breaks page .toml
  /-- An integer of too many digits is not written; something before it can be refused. -/
  | long (format : PayloadFormat) (held : page.metadata.all isShort = false)
      (kind : page.frontMatter.map FrontMatter.kind = some .yaml ∨
        page.frontMatter.map FrontMatter.kind = some .toml)
      (unwritten : ∀ text, page.write format ≠ .ok text) : Breaks page format
  /-- A time of day is none of YAML; an integer of too many digits can stand before it. -/
  | time (held : page.metadata.all isUntimed = false)
      (kind : page.frontMatter.map FrontMatter.kind = some .toml)
      (failed : Yaml.Form.Stops (page.write .yaml)) : Breaks page .yaml
  /-- An integer of too many digits stands beside a container that is met again. -/
  | repeated (held : page.metadata.all isShort = false)
      (kind : page.frontMatter.map FrontMatter.kind = some .yaml)
      (again : (Yaml.Met.none.visit page.payload).again ≠ []) : Breaks page .yaml

/-- A page in which nothing is met again and something has no representation is not written as
YAML. -/
theorem stops_write (once : (Yaml.Met.none.visit page.payload).again = [])
    (bad : page.metadata.all isRepresentable = false) : Yaml.Form.Stops (page.write .yaml) := by
  have payloadBad : page.payload.all isRepresentable = false := by
    rw [all_payload (fun _ => rfl) fun _ => rfl]
    exact bad
  obtain ⟨value, unfit, failed⟩ := Yaml.stops_write page.payload once payloadBad
  exact ⟨value, unfit, by rw [write, failed]; rfl⟩

/-- In a page whose front matter is in TOML nothing is met again. -/
theorem once_of_unshared (unshared : page.metadata.all isUnshared = true) :
    (Yaml.Met.none.visit page.payload).again = [] := by
  rw [Yaml.Met.visit_of_unshared .none page.payload]
  · rfl
  · rw [all_payload (fun _ => rfl) fun _ => rfl]
    exact unshared

/-- What has no representation in YAML is a time of day or an integer of too many digits. -/
theorem timed_or_long {value : Value} (bad : value.all isRepresentable = false) :
    value.all isUntimed = false ∨ value.all isShort = false := by
  by_contra neither
  rw [not_or, Bool.not_eq_false, Bool.not_eq_false] at neither
  exact Bool.eq_false_iff.mp bad (all_and value neither.1 neither.2)

/-- A page with what the writer has no refusal for is not written. -/
theorem breaks_of_isUnwritable (rendered : render extensions document = .ok page)
    (unwritable : page.isUnwritable format = true) : page.Breaks format := by
  have holds := holds_of_render rendered
  cases format with
  | html => cases unwritable
  | json =>
    have unwritten : ∀ text, page.write .json ≠ .ok text := fun text written => by
      have can := (Json.settles_writeValue 0 page.payload).possible written
      rw [canWrite_payload_iff.mp can] at unwritable
      cases unwritable
    rcases Bool.or_eq_true_iff.mp unwritable with endless | long
    · exact .endlessJson (kind_of_isEndless holds endless) unwritten
    · have held : page.metadata.all isShort = false := by simpa using long
      exact .long .json held (kind_of_long holds held) unwritten
  | toml =>
    cases endless : Toml.isEndless page.metadata with
    | true =>
      refine .endlessToml (kind_of_isEndless holds endless) ?_
      rw [write, Toml.write, if_pos (isEndless_payload.trans endless)]
    | false =>
      have unwritten : ∀ text, page.write .toml ≠ .ok text := fun text written => by
        rw [canWrite_withoutNulls_payload_iff.mp (Toml.canWrite_of_write written)] at unwritable
        cases unwritable
      have held : page.metadata.all isShort = false := by
        rw [isUnwritable, endless, Bool.false_or, Bool.not_eq_true'] at unwritable
        refine Bool.eq_false_iff.mpr fun short => ?_
        rw [Toml.all_withoutNulls (fun _ _ => rfl) (fun _ _ => rfl) _ short] at unwritable
        cases unwritable
      exact .long .toml held (kind_of_long holds held) unwritten
  | yaml =>
    have bad : page.metadata.all isRepresentable = false := by
      simpa [isUnwritable] using unwritable
    rcases timed_or_long bad with timed | long
    · have kind := kind_of_timed holds timed
      rw [kind] at holds
      exact .time timed kind (stops_write (once_of_unshared holds) bad)
    · by_cases once : (Yaml.Met.none.visit page.payload).again = []
      · refine .long .yaml long (kind_of_long holds long) fun text written => ?_
        obtain ⟨value, -, failed⟩ := stops_write once bad
        rw [written] at failed
        cases failed
      · rcases kind_of_long holds long with yaml | toml
        · exact .repeated long yaml once
        · rw [toml] at holds
          exact absurd (once_of_unshared holds) once

end FoldMark.Page
