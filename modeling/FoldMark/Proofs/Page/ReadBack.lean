import FoldMark.Proofs.FrontMatter.BareObject
import FoldMark.Proofs.Json.ReadBack
import FoldMark.Proofs.Page.Writing

/-!
# Pages read back from JSON

A page whose metadata are of the kinds that JSON has is written as an object, of characters if their
texts are Unicode texts. In front of any text this object is front matter, and decoding it gives the
metadata and the HTML of the page again: `json_read_back`.
-/

namespace FoldMark

namespace Page

open FrontMatter Json Text Value

/-- What a page is written from is of the kinds that JSON has, if its metadata are. -/
theorem isJson_payload (page : Page) (json : IsJson page.metadata) : IsJson page.payload := by
  refine .map ?_ ?_ ?_
  · simp
  · simp [Value.sameKey, Value.keyNumber?]
  · simp [json, IsJson.str]

/-- A page with metadata of the kinds that JSON has is written as JSON, which is one of characters
if all texts of the metadata are. Where the JSON stands on lines of its own in front of a text that
starts with no blank line, all of it is front matter, and the text is what is left. It is decoded to
the metadata and the HTML of the page, with all keys in their order, where only the identities of
containers are forgotten. -/
theorem json_read_back (page : Page) (json : IsJson page.metadata) :
    ∃ written, page.write .json = .ok written ∧
      (page.metadata.all isUnicode = true → ∃ payload : List Char, written = payload) ∧
      ∀ payload : List Char, written = payload →
        decode .json payload = .ok (.map none [(.str "front_matter", page.metadata.anonymous),
          (.str "html", .str page.html)]) ∧
        ∀ body, StartsSolid body → extract (some .json) (payload ++ '\n' :: body) =
          .ok (some ⟨.json, payload, 0, payload.length + 1⟩, body) := by
  obtain ⟨written, made, spelled⟩ := exists_write_object (isJson_payload page json)
  refine ⟨written, made, fun unicode => exists_chars_of_write unicode made,
    fun payload same => ?_⟩
  obtain ⟨isObject, reads⟩ := spelled payload same
  have solid : isBlankText payload = false := by
    obtain ⟨inner, rfl, -⟩ := exists_inner_of_isObject isObject
    rfl
  refine ⟨?_, fun body solid => ?_⟩
  · rw [decode, solid, reads]
    rfl
  · have isGap : IsGap [] body := ⟨rfl, Or.inr (Or.inl rfl), solid⟩
    have noMark : ([] : List Char) = [] ∨ ([] : List Char) = ['\uFEFF'] := Or.inl rfl
    have blank : isBlankText [] = true := rfl
    have located := locate?_object noMark blank (Or.inl rfl) isObject blank List.not_mem_nil isGap
    simp only [List.nil_append, List.append_nil] at located
    have front : payload ++ '\n' :: body = payload ++ ['\n'] ++ body := by simp
    have stop : (payload ++ ['\n']).length = payload.length + 1 := by simp
    rw [front, extract, located, ← stop]
    simp only [bind, Except.bind, FrontMatter.body, List.drop_left]
    rfl

/-- Braces and quotes in names and texts, control characters, a line separator, an empty mapping
and a list with an identity are read back, in front of a text that starts with a space. -/
theorem json_read_back_of_nested :
    let page : Page := ⟨"\\<p>\u2028\x7b</p>\n".toList, none, .map none
      [(.str "\x7d", .list (some 1) [.int (-120), .str "\"\x1f", .null]), (.str "", .map none [])]⟩
    let payload := ("\x7b\n  \"front_matter\": \x7b\n    \"\x7d\": [\n      -120,\n" ++
      "      \"\\\"\\u001f\",\n      null\n    ],\n    \"\": \x7b\x7d\n  \x7d,\n" ++
      "  \"html\": \"\\\\<p>\u2028\x7b</p>\\n\"\n\x7d").toList
    IsJson page.metadata ∧ page.write .json = .ok (.ofChars payload) ∧
      decode .json payload = .ok (.map none [(.str "front_matter", .map none
        [(.str "\x7d", .list none [.int (-120), .str "\"\x1f", .null]), (.str "", .map none [])]),
        (.str "html", .str page.html)]) ∧
      extract (some .json) (payload ++ '\n' :: " Text".toList) =
        .ok (some ⟨.json, payload, 0, payload.length + 1⟩, " Text".toList) := by
  intro page payload
  have short : (-120 : Int).natAbs < 10 ^ Number.maxDigits :=
    Nat.lt_of_lt_of_le (by decide : 120 < 10 ^ 3) (Nat.pow_le_pow_right (by decide) (by decide))
  have json : IsJson page.metadata := by
    refine .map (by simp) (by simp [Value.sameKey, Value.keyNumber?]) ?_
    rw [List.forall_mem_cons, List.forall_mem_singleton]
    refine ⟨.list ?_, .map nofun .nil nofun⟩
    rw [List.forall_mem_cons, List.forall_mem_cons, List.forall_mem_singleton]
    exact ⟨.int short, .str _, .null⟩
  obtain ⟨written, made, -, reads⟩ := json_read_back page json
  have same : (page.write .json).toOption = some (.ofChars payload) := by decide +kernel
  rw [made] at same
  obtain ⟨decoded, extracted⟩ := reads payload (Option.some.inj same)
  rw [Option.some.inj same] at made
  have solid : StartsSolid " Text".toList := by
    rintro line others cut
    obtain ⟨rfl, -⟩ := List.cons.inj cut
    rfl
  exact ⟨json, made, decoded, extracted _ solid⟩

end Page

end FoldMark
