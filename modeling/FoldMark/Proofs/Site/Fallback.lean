import FoldMark.Proofs.Site.Reduction
import FoldMark.Proofs.Text.Percent
import FoldMark.Site.Exchange

/-!
# Paths that come decoded

Where the path of a request is not known as it was sent, the path that was decoded on the way takes
its place, and it is decoded once more like any other. So every segment is read as what its own
escapes stand for (`segments_decode`), and the request leads through the same names exactly where no
escape is left in the decoded path, as long as nothing in it leads up: a further escape makes the
names shorter. `fallback_agrees_iff` puts this together.
-/

namespace FoldMark.Site

open Text
open Text.Percent (HasEscape)

variable {raw : List UInt8} {text path front back : List Char} {names : List Name}

/-! ## Segments -/

/-- Induction along the cuts of a path. -/
theorem cut_induction {motive : List Char → Prop}
    (whole : ∀ piece, (∀ c ∈ piece, isSeparator c = false) → motive piece)
    (cut : ∀ front c back, isSeparator c = true → motive front → motive back →
      motive (front ++ c :: back)) (text : List Char) : motive text := by
  induction length : text.length using Nat.strongRecOn generalizing text with
  | ind n hypothesis =>
    by_cases separated : ∃ c ∈ text, isSeparator c = true
    · obtain ⟨c, inside, separates⟩ := separated
      obtain ⟨front, back, rfl⟩ := List.append_of_mem inside
      rw [List.length_append, List.length_cons] at length
      have before := hypothesis front.length (by omega) front rfl
      have behind := hypothesis back.length (by omega) back rfl
      exact cut front c back separates before behind
    · exact whole text fun c inside => by simpa using fun found => separated ⟨c, inside, found⟩

/-- The segments around a separator are those of the path before it and those of the path after. -/
theorem segments_append_cons {c : Char} (separates : isSeparator c = true)
    (front back : List Char) : segments (front ++ c :: back) = segments front ++ segments back := by
  rw [segments, splitAt_append separates, List.filter_append, segments, segments]

/-- A piece without separators is a segment, if it counts. -/
theorem segments_of_forall {piece : List Char} (none : ∀ c ∈ piece, isSeparator c = false) :
    segments piece = if piece = [] ∨ piece = Name.here then [] else [piece] := by
  rw [segments, splitAt_of_forall none]
  by_cases empty : piece = []
  · simp [empty]
  · by_cases here : piece = Name.here
    · simp [here]
    · simp [empty, here]

/-- A separator is no part of an escape. -/
theorem separator_apart {c : Char} (separates : isSeparator c = true) :
    Percent.isAscii c = true ∧ c ≠ '%' ∧ isHexDigit c = false := by
  rw [isSeparator, Bool.or_eq_true, beq_iff_eq, beq_iff_eq] at separates
  rcases separates with rfl | rfl <;> decide

/-- The segments of a decoded path are those of its decoded segments. -/
theorem segments_decode (text : List Char) :
    segments (Percent.decode text) =
      (segments text).flatMap fun segment => segments (Percent.decode segment) := by
  induction text using cut_induction with
  | whole piece none =>
    rw [segments_of_forall none]
    by_cases trivial : piece = [] ∨ piece = Name.here
    · rw [if_pos trivial]
      rcases trivial with rfl | rfl <;> rfl
    · rw [if_neg trivial, List.flatMap_singleton]
  | cut front c back separates before behind =>
    obtain ⟨ascii, noPercent, noDigit⟩ := separator_apart separates
    rw [Percent.decode_append_cons ascii noPercent noDigit, segments_append_cons separates,
      segments_append_cons separates, List.flatMap_append, before, behind]

/-- An escape stands before a separator or behind it. -/
theorem hasEscape_append_cons_iff {c : Char} (separates : isSeparator c = true) :
    HasEscape (front ++ c :: back) ↔ HasEscape front ∨ HasEscape back := by
  obtain ⟨-, noPercent, noDigit⟩ := separator_apart separates
  have without : '%' ∉ [c] := by simpa using Ne.symm noPercent
  have behind : HasEscape (c :: back) ↔ HasEscape back :=
    Percent.hasEscape_append_of_notMem without
  rw [Percent.hasEscape_append_iff (by simpa using noDigit), behind]

/-! ## Lengths -/

/-- Segments have no more characters than the path. -/
theorem length_flatten_segments_le (text : List Char) :
    (segments text).flatten.length ≤ text.length := by
  induction text using cut_induction with
  | whole piece none =>
    rw [segments_of_forall none]
    split <;> simp
  | cut front c back separates before behind =>
    rw [segments_append_cons separates, List.flatten_append, List.length_append,
      List.length_append, List.length_cons]
    omega

/-- Segments are decoded to no more characters than they have, and to fewer if they hold an
escape. -/
theorem length_flatten_segments_decode (text : List Char) :
    (segments (Percent.decode text)).flatten.length ≤ (segments text).flatten.length ∧
      (HasEscape text →
        (segments (Percent.decode text)).flatten.length < (segments text).flatten.length) := by
  induction text using cut_induction with
  | whole piece none =>
    by_cases trivial : piece = [] ∨ piece = Name.here
    · have noEscape : ¬ HasEscape piece := by
        rcases trivial with rfl | rfl <;> decide
      rw [Percent.decode_of_not_hasEscape noEscape]
      exact ⟨Nat.le_refl _, fun holds => absurd holds noEscape⟩
    · have bound := length_flatten_segments_le (Percent.decode piece)
      rw [segments_of_forall none, if_neg trivial, List.flatten_singleton]
      exact ⟨bound.trans (Percent.length_decode_le piece),
        fun holds => bound.trans_lt (Percent.length_decode_lt holds)⟩
  | cut front c back separates before behind =>
    obtain ⟨ascii, noPercent, noDigit⟩ := separator_apart separates
    rw [Percent.decode_append_cons ascii noPercent noDigit, segments_append_cons separates,
      segments_append_cons separates, List.flatten_append, List.flatten_append, List.length_append,
      List.length_append, hasEscape_append_cons_iff separates]
    refine ⟨Nat.add_le_add before.1 behind.1, ?_⟩
    rintro (first | later)
    · exact Nat.add_lt_add_of_lt_of_le (before.2 first) behind.1
    · exact Nat.add_lt_add_of_le_of_lt before.1 (behind.2 later)

/-- What segments reduce to stands among them. -/
theorem sublist_of_reducesTo {segments : List Name} (reduces : ReducesTo segments names) :
    names.Sublist segments := by
  obtain ⟨steps, -⟩ := reduces
  induction steps with
  | refl => exact List.Sublist.refl _
  | tail _ step hypothesis =>
    cases step with
    | @pair front back name notUp =>
      have fewer : (front ++ back).Sublist (front ++ name :: Name.up :: back) := by
        apply List.Sublist.append_left
        exact ((List.sublist_cons_self _ back).cons name)
      exact fewer.trans hypothesis

/-! ## Requests -/

/-- The names that a request leads through, if it is not refused. -/
def led (raw : Option (List UInt8)) (path : List Char) : Option (List Name) :=
  (normalize (requestPath raw path)).toOption

/-- A path that was sent leads through the names that it is reduced to once it is decoded. -/
theorem led_some (sent : Utf8.decode raw = .ok text) (noQuery : '?' ∉ text)
    (decoded : Percent.decode text = '/' :: path) : led (some raw) path = reduce path := by
  have kept : text.takeWhile (· != '?') = text := by
    refine List.takeWhile_eq_self_iff.mpr fun c inside => bne_iff_ne.mpr ?_
    rintro rfl
    exact noQuery inside
  have asked : requestPath (some raw) path = text := by
    cases raw with
    | nil =>
      cases sent
      cases decoded
    | cons byte bytes =>
      have read := Utf8.decodeLossy_of_decode sent
      simp only [requestPath, read, kept]
  rw [led, asked, toOption_normalize, decoded, reduce_slash]

/-- A path that came decoded leads through the names that it is reduced to once it is decoded
again. -/
theorem led_none (path : List Char) : led none path = reduce (Percent.decode path) := by
  have slash := Percent.decode_append_cons (c := '/') (by decide) (by decide) (by decide) [] path
  rw [led, toOption_normalize]
  exact (congrArg reduce slash).trans (reduce_slash _)

/-- Without an escape, and also with a null character, a path is decoded to the same. -/
theorem reduce_decode (kept : ¬ HasEscape path ∨ '\x00' ∈ path) :
    reduce (Percent.decode path) = reduce path := by
  rcases kept with noEscape | null
  · rw [Percent.decode_of_not_hasEscape noEscape]
  · rw [reduce_eq_none_iff.mpr (Or.inl null),
      reduce_eq_none_iff.mpr (Or.inl (Percent.null_mem_decode null))]

/-- Where nothing leads up, a path is decoded to another if it holds an escape. -/
theorem reduce_decode_ne (noUp : Name.up ∉ segments path) (noNull : '\x00' ∉ path)
    (escape : HasEscape path) : reduce (Percent.decode path) ≠ reduce path := by
  intro same
  have names : reduce path = some (segments path) :=
    reduce_eq_some_iff.mpr ⟨noNull, Relation.ReflTransGen.refl, noUp⟩
  obtain ⟨-, reduces⟩ := reduce_eq_some_iff.mp (same.trans names)
  have among := (sublist_of_reducesTo reduces).flatten.length_le
  have fewer := (length_flatten_segments_decode path).2 escape
  omega

/-- The path of a request as it was sent leads through the names that it is reduced to once it is
decoded. A path that came decoded leads through those of its segments with their own escapes
decoded. Both are the same if the decoded path holds no escape, or a null character, which is
refused; and where nothing in it leads up, they are the same only then. -/
theorem fallback_agrees_iff (sent : Utf8.decode raw = .ok text) (noQuery : '?' ∉ text)
    (decoded : Percent.decode text = '/' :: path) :
    led (some raw) path = reduce path ∧
      (led none path = if '\x00' ∈ Percent.decode path then none
        else cancel [] ((segments path).flatMap fun segment =>
          segments (Percent.decode segment))) ∧
      (¬ HasEscape path ∨ '\x00' ∈ path → led none path = led (some raw) path) ∧
      (Name.up ∉ segments path →
        (led none path = led (some raw) path ↔ ¬ HasEscape path ∨ '\x00' ∈ path)) := by
  rw [led_some sent noQuery decoded, led_none]
  refine ⟨rfl, ?_, reduce_decode, fun noUp => ⟨fun same => ?_, reduce_decode⟩⟩
  · rw [reduce, segments_decode]
    exact if_congr List.contains_iff_mem rfl rfl
  · by_contra other
    obtain ⟨escape, noNull⟩ := not_or.mp other
    exact reduce_decode_ne noUp noNull (not_not.mp escape) same

/-- A percent sign that starts no escape stays what it is, however the path comes. -/
theorem fallback_agrees_at_percent :
    Utf8.decode (Utf8.encode "/caf%C3%A9/%2e./50%25%/x".toList) =
        .ok "/caf%C3%A9/%2e./50%25%/x".toList ∧
      Percent.decode "/caf%C3%A9/%2e./50%25%/x".toList = "/café/../50%%/x".toList ∧
      ¬ HasEscape "café/../50%%/x".toList ∧
      led none "café/../50%%/x".toList =
        led (some (Utf8.encode "/caf%C3%A9/%2e./50%25%/x".toList)) "café/../50%%/x".toList := by
  have sent : Utf8.decode (Utf8.encode "/caf%C3%A9/%2e./50%25%/x".toList) =
      .ok "/caf%C3%A9/%2e./50%25%/x".toList := by cbv
  have decoded : Percent.decode "/caf%C3%A9/%2e./50%25%/x".toList =
      '/' :: "café/../50%%/x".toList := by cbv
  have noEscape : ¬ HasEscape "café/../50%%/x".toList := by decide
  obtain ⟨-, -, same, -⟩ := fallback_agrees_iff sent (by decide) decoded
  exact ⟨sent, decoded, noEscape, same (Or.inl noEscape)⟩

/-- A doubled escape is decoded once if it is known as it was sent, and twice if not. -/
theorem fallback_decodes_again :
    Utf8.decode (Utf8.encode "/%2541".toList) = .ok "/%2541".toList ∧
      Percent.decode "/%2541".toList = '/' :: "%41".toList ∧
      led (some (Utf8.encode "/%2541".toList)) "%41".toList = some ["%41".toList] ∧
      led none "%41".toList = some ["A".toList] := by
  refine ⟨?_, ?_, ?_, ?_⟩ <;> cbv

end FoldMark.Site
