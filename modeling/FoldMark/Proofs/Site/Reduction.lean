import FoldMark.Proofs.Site.Containment

/-!
# Reduction of paths

Which names the path of a URL leads through. What the program computes with a stack of names is told
here without one: a pair of a name and a segment behind it that leads up can be taken out, wherever
it stands, and a path is reduced when nothing that leads up is left. Taking out a pair does not
change what the program computes (`cancel_of_cancelStep`), so the order does not matter and the
result is the only one (`cancel_eq_some_iff`). There is none exactly if some front of the path has
more segments that lead up than others (`cancel_eq_none_iff`), even if the path comes back later.
`normalize_reduces` states this for URLs, of which the escapes are decoded once.
-/

namespace FoldMark.Site

open Text

/-- A name is taken out with the segment behind it that leads up. -/
inductive CancelStep : List Name → List Name → Prop where
  /-- The pair stands somewhere among the segments. -/
  | pair (front back : List Name) {name : Name} (notUp : name ≠ Name.up) :
    CancelStep (front ++ name :: Name.up :: back) (front ++ back)

/-- Segments become others by taking out pairs, and of these none leads up. -/
def ReducesTo (segments names : List Name) : Prop :=
  Relation.ReflTransGen CancelStep segments names ∧ Name.up ∉ names

/-- Some front of the segments has more of them that lead up than others. -/
def LeadsAbove (segments : List Name) : Prop :=
  ∃ front, front <+: segments ∧ front.countP (· != Name.up) < front.count Name.up

/-- The names that a decoded path leads through, if it is not refused. -/
def reduce (decoded : List Char) : Option (List Name) :=
  if decoded.contains '\x00' then none else cancel [] (segments decoded)

variable {names : List Name}

/-! ## The stack of names -/

section Stack

variable {segments result : List Name}

/-- A segment that leads up cancels the last name. -/
theorem cancel_up (last : Name) (names rest : List Name) :
    cancel (last :: names) (Name.up :: rest) = cancel names rest := by
  simp [cancel]

/-- Any other segment is a further name. -/
theorem cancel_cons_of_ne_up {segment : Name} (notUp : segment ≠ Name.up)
    (names rest : List Name) :
    cancel names (segment :: rest) = cancel (segment :: names) rest := by
  simp [cancel, notUp]

/-- Names that do not lead up are not cancelled. -/
theorem cancel_of_forall_ne_up (noUp : ∀ segment ∈ segments, segment ≠ Name.up)
    (names : List Name) : cancel names segments = some (names.reverse ++ segments) := by
  induction segments generalizing names with
  | nil => simp [cancel]
  | cons segment rest hypothesis =>
    rw [List.forall_mem_cons] at noUp
    rw [cancel_cons_of_ne_up noUp.1, hypothesis noUp.2, List.reverse_cons, List.append_assoc,
      List.singleton_append]

/-- Segments that follow others are cancelled with the names that these leave. -/
theorem cancel_append (names front back : List Name) :
    cancel names (front ++ back) =
      (cancel names front).bind fun reached => cancel reached.reverse back := by
  induction front generalizing names with
  | nil => simp [cancel]
  | cons segment rest hypothesis =>
    rw [List.cons_append]
    by_cases isUp : segment = Name.up
    · subst isUp
      cases names with
      | nil => simp [cancel]
      | cons last names => rw [cancel_up, cancel_up, hypothesis]
    · rw [cancel_cons_of_ne_up isUp, cancel_cons_of_ne_up isUp, hypothesis]

/-- Taking out a pair changes nothing of what is left in the end. -/
theorem cancel_of_cancelStep {others : List Name} (step : CancelStep segments others) :
    cancel names segments = cancel names others := by
  cases step with
  | pair front back notUp =>
    rw [cancel_append, cancel_append]
    simp only [cancel_cons_of_ne_up notUp, cancel_up]

/-- What is left is reached by taking out pairs. A name is on the stack until the segment that
cancels it comes next, so the two of them stand side by side then. -/
theorem reduces_of_cancel (noUp : ∀ name ∈ names, name ≠ Name.up)
    (cancelled : cancel names segments = some result) :
    Relation.ReflTransGen CancelStep (names.reverse ++ segments) result := by
  induction segments generalizing names with
  | nil =>
    obtain rfl : names.reverse = result := by simpa [cancel] using cancelled
    rw [List.append_nil]
  | cons segment rest hypothesis =>
    by_cases isUp : segment = Name.up
    · subst isUp
      cases names with
      | nil => simp [cancel] at cancelled
      | cons last names =>
        rw [List.forall_mem_cons] at noUp
        rw [cancel_up] at cancelled
        rw [List.reverse_cons, List.append_assoc, List.singleton_append]
        exact (hypothesis noUp.2 cancelled).head (CancelStep.pair names.reverse rest noUp.1)
    · rw [cancel_cons_of_ne_up isUp] at cancelled
      have reached := hypothesis (List.forall_mem_cons.mpr (And.intro isUp noUp)) cancelled
      simpa using reached

/-- Cancelling leaves the names to which the segments reduce, and there are no others. -/
theorem cancel_eq_some_iff : cancel [] segments = some result ↔ ReducesTo segments result := by
  constructor
  · intro cancelled
    refine ⟨reduces_of_cancel (by simp) cancelled, fun leadsUp => ?_⟩
    rcases mem_of_mem_cancel cancelled _ leadsUp with impossible | ⟨_, notUp⟩
    · simp at impossible
    · exact notUp rfl
  · rintro ⟨steps, noUp⟩
    have kept := cancel_of_forall_ne_up (fun name member same => noUp (same ▸ member)) []
    induction steps using Relation.ReflTransGen.head_induction_on with
    | refl => exact kept
    | head step _ hypothesis => rw [cancel_of_cancelStep step, hypothesis]

/-- A front of segments is empty or starts with the first of them. -/
theorem exists_front_cons_iff {segment : Name} {rest : List Name} {holds : List Name → Prop} :
    (∃ front, front <+: segment :: rest ∧ holds front) ↔
      holds [] ∨ ∃ front, front <+: rest ∧ holds (segment :: front) := by
  simp only [List.prefix_cons_iff, or_and_right, exists_or, exists_eq_left]
  refine or_congr_right ⟨?_, ?_⟩
  · rintro ⟨_, ⟨front, rfl, isPrefix⟩, held⟩
    exact ⟨front, isPrefix, held⟩
  · rintro ⟨front, isPrefix, held⟩
    exact ⟨segment :: front, ⟨front, rfl, isPrefix⟩, held⟩

/-- Cancelling fails exactly if in some front of the segments more of them lead up than there are
names before them. -/
theorem cancel_eq_none_iff :
    cancel names segments = none ↔
      ∃ front, front <+: segments ∧
        names.length + front.countP (· != Name.up) < front.count Name.up := by
  induction segments generalizing names with
  | nil => simp [cancel]
  | cons segment rest hypothesis =>
    rw [exists_front_cons_iff, or_iff_right (by simp)]
    by_cases isUp : segment = Name.up
    · subst isUp
      have counts (front : List Name) :
          (Name.up :: front).countP (· != Name.up) = front.countP (· != Name.up) ∧
            (Name.up :: front).count Name.up = front.count Name.up + 1 :=
        ⟨List.countP_cons_of_neg (by simp), List.count_cons_self⟩
      cases names with
      | nil => exact iff_of_true (by simp [cancel]) ⟨[], List.nil_prefix, by simp⟩
      | cons last names =>
        rw [cancel_up, hypothesis]
        refine exists_congr fun front => and_congr_right fun _ => ?_
        rw [(counts front).1, (counts front).2, List.length_cons]
        omega
    · have counts (front : List Name) :
          (segment :: front).countP (· != Name.up) = front.countP (· != Name.up) + 1 ∧
            (segment :: front).count Name.up = front.count Name.up :=
        ⟨List.countP_cons_of_pos (by simpa using isUp), List.count_cons_of_ne isUp⟩
      rw [cancel_cons_of_ne_up isUp, hypothesis]
      refine exists_congr fun front => and_congr_right fun _ => ?_
      rw [(counts front).1, (counts front).2, List.length_cons]
      omega

/-- Nothing is left exactly of segments that lead above where they start. -/
theorem cancel_eq_none_iff_leadsAbove : cancel [] segments = none ↔ LeadsAbove segments := by
  simp only [cancel_eq_none_iff, LeadsAbove, List.length_nil, Nat.zero_add]

end Stack

/-! ## Decoded paths -/

variable {decoded : List Char}

/-- A separator at the front adds no segment. -/
theorem segments_cons_of_isSeparator {c : Char} (separates : isSeparator c = true)
    (text : List Char) : segments (c :: text) = segments text := by
  rw [segments, ← List.nil_append (c :: text), splitAt_append_cons (by simp) separates,
    List.filter_cons_of_neg (by simp), segments]

/-- Plain names that are joined by slashes are cut apart again. -/
theorem segments_intercalate (plain : ∀ name ∈ names, name.IsPlain) :
    segments (['/'].intercalate names) = names := by
  have apart : ∀ name ∈ names, ∀ c ∈ name, isSeparator c = false := by
    intro name member c inside
    have noSlash : c ≠ '/' := fun slash => (plain name member).slash_free (slash ▸ inside)
    have noBackslash : c ≠ '\\' := fun slash => (plain name member).backslash_free (slash ▸ inside)
    simp [isSeparator, noSlash, noBackslash]
  have counts : names.filter (fun name => !name.isEmpty && name != Name.here) = names := by
    refine List.filter_eq_self.mpr fun name member => ?_
    simp [(plain name member).ne_nil, (plain name member).ne_here]
  by_cases none : names = []
  · subst none
    rfl
  · rw [segments, splitAt_intercalate apart (by decide) none, counts]

/-- Plain names that are joined by slashes hold no null character. -/
theorem null_notMem_intercalate (plain : ∀ name ∈ names, name.IsPlain) :
    '\x00' ∉ ['/'].intercalate names := by
  intro null
  rcases mem_of_mem_intercalate null with slash | ⟨name, listed, inside⟩
  · exact absurd slash (by decide)
  · exact (plain name listed).null_free inside

/-- A decoded path is refused exactly if it holds a null character or leads above the root. -/
theorem reduce_eq_none_iff :
    reduce decoded = none ↔ '\x00' ∈ decoded ∨ LeadsAbove (segments decoded) := by
  rw [← cancel_eq_none_iff_leadsAbove, reduce]
  by_cases null : '\x00' ∈ decoded <;> simp [null]

/-- A decoded path without a null character leads through the names to which it reduces. -/
theorem reduce_eq_some_iff :
    reduce decoded = some names ↔ '\x00' ∉ decoded ∧ ReducesTo (segments decoded) names := by
  rw [← cancel_eq_some_iff, reduce]
  by_cases null : '\x00' ∈ decoded <;> simp [null]

/-- A slash at the front changes nothing. -/
theorem reduce_slash (text : List Char) : reduce ('/' :: text) = reduce text := by
  rw [reduce, reduce, segments_cons_of_isSeparator (by decide), List.contains_cons]
  rfl

/-- Plain names that are joined by slashes lead through themselves. -/
theorem reduce_intercalate (plain : ∀ name ∈ names, name.IsPlain) :
    reduce (['/'].intercalate names) = some names := by
  have kept := cancel_of_forall_ne_up (fun name member => (plain name member).ne_up) []
  rw [reduce, if_neg (by simpa using null_notMem_intercalate plain), segments_intercalate plain,
    kept]
  rfl

/-! ## Paths of URLs -/

/-- The names of a URL are those of its decoded path. -/
theorem toOption_normalize (url : List Char) :
    (normalize url).toOption = reduce (Percent.decode url) := by
  rw [normalize, reduce]
  by_cases null : '\x00' ∈ Percent.decode url
  · simp [null, Except.toOption]
  · cases cancel [] (segments (Percent.decode url)) <;> simp [null, Except.toOption]

/-- A URL leads through names if its decoded path does. -/
theorem normalize_eq_ok_iff {url : List Char} :
    normalize url = .ok names ↔ reduce (Percent.decode url) = some names := by
  rw [← toOption_normalize]
  cases normalize url <;> simp [Except.toOption]

/-- A URL is refused if its decoded path is. -/
theorem exists_refusal_iff {url : List Char} :
    (∃ refusal, normalize url = .error refusal) ↔ reduce (Percent.decode url) = none := by
  rw [← toOption_normalize]
  cases normalize url <;> simp [Except.toOption]

/-- The path of a URL is reduced, and what leads above the root is refused. With its escapes decoded
once, it is refused exactly if it holds a null character or some front of its segments has more that
lead up than others. Otherwise it leads through the only names that are left when each segment that
leads up is taken out with the nearest name before it. These names are plain, and they lead through
themselves when they are joined by slashes and reduced again. -/
theorem normalize_reduces (url : List Char) :
    ((∃ refusal, normalize url = .error refusal) ↔
        '\x00' ∈ Percent.decode url ∨ LeadsAbove (segments (Percent.decode url))) ∧
      ∀ names, normalize url = .ok names →
        (∀ other, ReducesTo (segments (Percent.decode url)) other ↔ other = names) ∧
          (∀ name ∈ names, name.IsPlain) ∧ reduce (['/'].intercalate names) = some names := by
  refine ⟨exists_refusal_iff.trans reduce_eq_none_iff, fun names normal => ?_⟩
  have plain := isPlain_of_mem_normalize normal
  obtain ⟨_, reduces⟩ := reduce_eq_some_iff.mp (normalize_eq_ok_iff.mp normal)
  refine ⟨fun other => ⟨fun also => ?_, fun same => same ▸ reduces⟩, plain,
    reduce_intercalate plain⟩
  have left := cancel_eq_some_iff.mpr also
  rw [cancel_eq_some_iff.mpr reduces] at left
  exact (Option.some.inj left).symm

/-- Encoded dots and slashes count as plain ones, and a doubled escape is decoded once. -/
theorem normalize_reduces_encoded :
    normalize "/a%2Fb/%2e%2e\\.//%252e%252e".toList = .ok [['a'], "%2e%2e".toList] ∧
      (∀ other, ReducesTo (segments "/a/b/..\\.//%2e%2e".toList) other ↔
        other = [['a'], "%2e%2e".toList]) ∧
      reduce "a/%2e%2e".toList = some [['a'], "%2e%2e".toList] := by
  have normal : normalize "/a%2Fb/%2e%2e\\.//%252e%252e".toList =
      .ok [['a'], "%2e%2e".toList] := rfl
  obtain ⟨only, _, again⟩ := (normalize_reduces _).2 _ normal
  exact ⟨normal, only, again⟩

end FoldMark.Site
