/-!
# Chains of steps that may fail

A chain gives a value if each of its steps does. These are the laws by which a chain is taken apart.
-/

namespace FoldMark

variable {ε α β : Type}

/-- What a chain in the error monad gives is what its last part gives. -/
theorem exists_of_bind_eq_ok {first : Except ε α} {next : α → Except ε β} {value : β}
    (found : first >>= next = .ok value) :
    ∃ middle, first = .ok middle ∧ next middle = .ok value := by
  cases first with
  | error error => cases found
  | ok middle => exact ⟨middle, rfl, found⟩

/-- A chain gives what its last part gives for what the first one gives. -/
theorem bind_eq_ok {first : Except ε α} {next : α → Except ε β} {middle : α} {value : β}
    (made : first = .ok middle) (later : next middle = .ok value) :
    first >>= next = .ok value := by
  subst made
  exact later

/-- A chain fails as its first part does, or as its last part does for what the first one gives. -/
theorem bind_eq_error_iff {first : Except ε α} {next : α → Except ε β} {error : ε} :
    first >>= next = .error error ↔
      first = .error error ∨ ∃ middle, first = .ok middle ∧ next middle = .error error := by
  cases first with
  | error other => simp [bind, Except.bind]
  | ok middle => simp [bind, Except.bind]

/-- What is changed is a value if it was one before. -/
theorem exists_of_map_eq_ok {result : Except ε α} {change : α → β} {value : β}
    (found : result.map change = .ok value) : ∃ before, result = .ok before ∧
      change before = value := by
  cases result with
  | error error => cases found
  | ok before => exact ⟨before, rfl, Except.ok.inj found⟩

/-- What passes a test, if it is no error, is a value. -/
theorem exists_of_toOption_any {result : Except ε α} {test : α → Bool}
    (passes : result.toOption.any test = true) : ∃ value, result = .ok value ∧
      test value = true := by
  cases result with
  | error error => cases passes
  | ok value => exact ⟨value, rfl, passes⟩

/-- Errors that are told otherwise leave what is no error. -/
theorem mapError_eq_ok_iff {δ : Type} {result : Except ε α} {tell : ε → δ} {value : α} :
    result.mapError tell = .ok value ↔ result = .ok value := by
  cases result with
  | error error => exact ⟨nofun, nofun⟩
  | ok found =>
    exact ⟨fun same => congrArg Except.ok (Except.ok.inj same),
      fun same => congrArg Except.ok (Except.ok.inj same)⟩

/-- Where errors are told otherwise, what is told is told of an error. -/
theorem mapError_eq_error_iff {δ : Type} {result : Except ε α} {tell : ε → δ} {told : δ} :
    result.mapError tell = .error told ↔ ∃ error, result = .error error ∧ tell error = told := by
  cases result with
  | error error =>
    constructor
    · exact fun same => ⟨error, rfl, Except.error.inj same⟩
    · rintro ⟨other, same, rfl⟩
      exact congrArg (fun error => Except.error (tell error)) (Except.error.inj same)
  | ok value =>
    refine iff_of_false nofun ?_
    rintro ⟨_, ⟨⟩, _⟩

/-- A chain over items gives the results of all of them in order, if there are such. -/
theorem mapM_eq_ok_iff {step : α → Except ε β} {items : List α} {results : List β} :
    items.mapM step = .ok results ↔ items.map step = results.map .ok := by
  induction items generalizing results with
  | nil =>
    rw [List.mapM_nil, List.map_nil, eq_comm (a := []), List.map_eq_nil_iff]
    exact ⟨fun same => (Except.ok.inj same).symm, fun same => congrArg Except.ok same.symm⟩
  | cons item rest hypothesis =>
    rw [List.mapM_cons, List.map_cons]
    constructor
    · intro mapped
      obtain ⟨result, first, later⟩ := exists_of_bind_eq_ok mapped
      obtain ⟨others, mappedRest, last⟩ := exists_of_bind_eq_ok later
      obtain rfl : result :: others = results := Except.ok.inj last
      rw [List.map_cons, first, hypothesis.mp mappedRest]
    · intro mapped
      obtain ⟨result, others, rfl, first, later⟩ := List.map_eq_cons_iff.mp mapped.symm
      exact bind_eq_ok first.symm (bind_eq_ok (hypothesis.mpr later.symm) rfl)

/-- A chain over items fails as the first of them does that fails. -/
theorem mapM_eq_error_iff {step : α → Except ε β} {items : List α} {error : ε} :
    items.mapM step = .error error ↔
      ∃ front item back, items = front ++ item :: back ∧
        (∀ passed ∈ front, ∃ result, step passed = .ok result) ∧ step item = .error error := by
  induction items with
  | nil => simp [List.mapM_nil, pure, Except.pure]
  | cons item rest hypothesis =>
    rw [List.mapM_cons, bind_eq_error_iff]
    constructor
    · rintro (here | ⟨result, first, later⟩)
      · exact ⟨[], item, rest, rfl, by simp, here⟩
      · rcases bind_eq_error_iff.mp later with there | ⟨others, _, impossible⟩
        · obtain ⟨front, failing, back, rfl, passed, fails⟩ := hypothesis.mp there
          exact ⟨item :: front, failing, back, rfl,
            List.forall_mem_cons.mpr ⟨⟨result, first⟩, passed⟩, fails⟩
        · cases impossible
    · rintro ⟨front, failing, back, whole, passed, fails⟩
      cases front with
      | nil =>
        rw [(List.cons.inj whole).1]
        exact Or.inl fails
      | cons first front =>
        obtain ⟨rfl, rest_eq⟩ := List.cons.inj whole
        obtain ⟨⟨result, first⟩, passed⟩ := List.forall_mem_cons.mp passed
        have later := hypothesis.mpr ⟨front, failing, back, rest_eq, passed, fails⟩
        exact Or.inr ⟨result, first, bind_eq_error_iff.mpr (Or.inl later)⟩

/-- A chain over items gives the results of all of them in order, if none is missing. -/
theorem mapM_eq_some_iff {step : α → Option β} {items : List α} {results : List β} :
    items.mapM step = some results ↔ items.map step = results.map some := by
  induction items generalizing results with
  | nil =>
    rw [List.mapM_nil, List.map_nil, eq_comm (a := []), List.map_eq_nil_iff]
    exact ⟨fun same => (Option.some.inj same).symm, fun same => congrArg some same.symm⟩
  | cons item rest hypothesis =>
    rw [List.mapM_cons, List.map_cons]
    constructor
    · intro mapped
      obtain ⟨result, first, later⟩ := Option.bind_eq_some_iff.mp mapped
      obtain ⟨others, mappedRest, last⟩ := Option.bind_eq_some_iff.mp later
      obtain rfl : result :: others = results := Option.some.inj last
      rw [List.map_cons, first, hypothesis.mp mappedRest]
    · intro mapped
      obtain ⟨result, others, rfl, first, later⟩ := List.map_eq_cons_iff.mp mapped.symm
      exact Option.bind_eq_some_iff.mpr ⟨result, first.symm,
        Option.bind_eq_some_iff.mpr ⟨others, hypothesis.mpr later.symm, rfl⟩⟩

/-- A filter collects items in front of those it has, the last one first. -/
theorem filterAuxM_spec {test : α → Except ε Bool} {items before all : List α}
    (collected : items.filterAuxM test before = .ok all) :
    ∃ kept : List α, all = kept.reverse ++ before ∧ kept.Sublist items ∧
      ∀ item ∈ kept, test item = .ok true := by
  induction items generalizing before with
  | nil =>
    obtain rfl : before = all := Except.ok.inj collected
    exact ⟨[], by simp⟩
  | cons item rest hypothesis =>
    obtain ⟨passes, tested, later⟩ := exists_of_bind_eq_ok collected
    obtain ⟨kept, rfl, sublist, passed⟩ := hypothesis later
    cases passes with
    | false => exact ⟨kept, rfl, sublist.cons item, passed⟩
    | true => exact ⟨item :: kept, by simp, sublist.cons_cons item, by simpa [tested] using passed⟩

/-- A filter keeps some of the items in order, and what it keeps has passed the test. -/
theorem filterM_spec {test : α → Except ε Bool} {items kept : List α}
    (filtered : items.filterM test = .ok kept) :
    kept.Sublist items ∧ ∀ item ∈ kept, test item = .ok true := by
  obtain ⟨all, collected, same⟩ := exists_of_bind_eq_ok filtered
  obtain ⟨found, rfl, sublist, passed⟩ := filterAuxM_spec collected
  obtain rfl : found = kept := by simpa using Except.ok.inj same
  exact ⟨sublist, passed⟩

/-- A filter keeps the same with more items behind, if none of these passes. -/
theorem filterAuxM_append {test next : α → Except ε Bool} {items more before all : List α}
    (collected : items.filterAuxM test before = .ok all)
    (same : ∀ item ∈ items, ∀ passes, test item = .ok passes → next item = .ok passes)
    (others : ∀ item ∈ more, next item = .ok false) :
    (items ++ more).filterAuxM next before = .ok all := by
  induction items generalizing before with
  | nil =>
    obtain rfl : before = all := Except.ok.inj collected
    induction more with
    | nil => rfl
    | cons item more hypothesis =>
      rw [List.forall_mem_cons] at others
      exact bind_eq_ok others.1 (hypothesis others.2)
  | cons item items hypothesis =>
    rw [List.forall_mem_cons] at same
    obtain ⟨passes, tested, later⟩ := exists_of_bind_eq_ok collected
    exact bind_eq_ok (same.1 passes tested) (hypothesis later same.2)

/-- So a filter that comes to its end keeps the same with more items behind. -/
theorem filterM_append {test next : α → Except ε Bool} {items more kept : List α}
    (filtered : items.filterM test = .ok kept)
    (same : ∀ item ∈ items, ∀ passes, test item = .ok passes → next item = .ok passes)
    (others : ∀ item ∈ more, next item = .ok false) :
    (items ++ more).filterM next = .ok kept := by
  obtain ⟨all, collected, reversed⟩ := exists_of_bind_eq_ok filtered
  exact bind_eq_ok (filterAuxM_append collected same others) reversed

/-! ## Errors -/

/-- The error of an outcome, if it is one. -/
def errorOf? : Except ε α → Option ε
  | .ok _ => none
  | .error error => some error

/-- An outcome that has an error is it. -/
theorem eq_error_of_errorOf? {outcome : Except ε α} {error : ε}
    (failed : errorOf? outcome = some error) : outcome = .error error := by
  cases outcome with
  | ok value => cases failed
  | error other => rw [Option.some.inj failed]

/-- An outcome is an error of some kind, or a value that satisfies a condition. -/
def Ends (error : ε → Prop) (condition : α → Prop) : Except ε α → Prop
  | .ok value => condition value
  | .error found => error found

section Ends

variable {error : ε → Prop} {condition : α → Prop}

/-- A weaker condition on the value of an outcome. -/
theorem Ends.mono {weaker : α → Prop} {outcome : Except ε α} (ends : Ends error condition outcome)
    (implies : ∀ value, condition value → weaker value) : Ends error weaker outcome := by
  cases outcome with
  | error found => exact ends
  | ok value => exact implies value ends

/-- A weaker condition on the error of an outcome. -/
theorem Ends.mono_error {weaker : ε → Prop} {outcome : Except ε α}
    (ends : Ends error condition outcome) (implies : ∀ found, error found → weaker found) :
    Ends weaker condition outcome := by
  cases outcome with
  | error found => exact implies found ends
  | ok value => exact ends

/-- Where errors do not count, the values do. -/
theorem ends_of_ok {outcome : Except ε α}
    (holds : ∀ value, outcome = .ok value → condition value) :
    Ends (fun _ => True) condition outcome := by
  cases outcome with
  | error found => trivial
  | ok value => exact holds value rfl

/-- A choice ends as what is chosen. -/
theorem Ends.ite {test : Prop} [Decidable test] {first second : Except ε α}
    (holds : test → Ends error condition first) (fails : ¬test → Ends error condition second) :
    Ends error condition (if test then first else second) := by
  split
  · exact holds ‹_›
  · exact fails ‹_›

/-- A chain ends as its last part does for what the first one gives. -/
theorem ends_bind_iff {result : β → Prop} {first : Except ε α} {next : α → Except ε β} :
    Ends error result (first >>= next) ↔
      Ends error (fun value => Ends error result (next value)) first := by
  cases first <;> rfl

/-- A chain ends as its parts do. -/
theorem Ends.bind {result : β → Prop} {first : Except ε α} {next : α → Except ε β}
    (start : Ends error condition first)
    (later : ∀ value, condition value → Ends error result (next value)) :
    Ends error result (first >>= next) := ends_bind_iff.mpr (start.mono later)

/-- A chain over items ends as each step does. -/
theorem Ends.mapM {step : α → Except ε β} {result : β → Prop} {items : List α}
    (each : ∀ item ∈ items, Ends error result (step item)) :
    Ends error (fun results => ∀ value ∈ results, result value) (items.mapM step) := by
  induction items with
  | nil => exact List.forall_mem_nil _
  | cons item rest hypothesis =>
    rw [List.forall_mem_cons] at each
    rw [List.mapM_cons]
    exact each.1.bind fun value holds => (hypothesis each.2).bind fun others all =>
      List.forall_mem_cons.mpr ⟨holds, all⟩

/-- A test of items ends in an error only as the test of one of them does. -/
theorem Ends.allM {test : α → Except ε Bool} {items : List α}
    (each : ∀ item ∈ items, Ends error (fun _ => True) (test item)) :
    Ends error (fun _ => True) (items.allM test) := by
  induction items with
  | nil => trivial
  | cons item rest hypothesis =>
    rw [List.forall_mem_cons] at each
    rw [List.allM]
    refine each.1.bind fun passes _ => ?_
    cases passes with
    | false => trivial
    | true => exact hypothesis each.2

/-- What is changed ends as before. -/
theorem Ends.map {result : β → Prop} {outcome : Except ε α} {change : α → β}
    (ends : Ends error condition outcome)
    (later : ∀ value, condition value → result (change value)) :
    Ends error result (outcome.map change) := by
  cases outcome with
  | error found => exact ends
  | ok value => exact later value ends

end Ends

end FoldMark
