import FoldMark.Markdown.Definition
import FoldMark.Text.Blank

/-!
# Scanning the parts of a definition

A label, a destination between brackets and a title are scanned alike (`partSize?`), up to the mark
that closes them, and a backslash takes the next character with it. So a part that holds nothing
that closes it is scanned to its end, unless it ends in a backslash that takes its mark. A
destination without brackets may end earlier, but only before a character that is no space.
-/

namespace FoldMark.Markdown

open FoldMark.Text

variable {part rest : List Char} {c : Char} {size depth : Nat}

/-! ## Backslashes -/

/-- Whether a text ends in a backslash that takes the next character with it. -/
def endsEscaping : List Char → Bool
  | [] => false
  | ['\\'] => true
  | '\\' :: _ :: rest => endsEscaping rest
  | _ :: rest => endsEscaping rest

/-- A text is empty, a backslash alone, a backslash with the character that it takes, or starts with
another character. -/
theorem escapes_induction {motive : List Char → Prop} (nil : motive []) (single : motive ['\\'])
    (pair : ∀ c rest, motive rest → motive ('\\' :: c :: rest))
    (plain : ∀ c rest, c ≠ '\\' → motive rest → motive (c :: rest)) (text : List Char) :
    motive text := by
  fun_induction endsEscaping text with
  | case1 => exact nil
  | case2 => exact single
  | case3 c rest hypothesis => exact pair c rest hypothesis
  | case4 c rest alone taking hypothesis =>
    refine plain c rest ?_ hypothesis
    rintro rfl
    cases rest with
    | nil => exact alone rfl rfl
    | cons d rest => exact taking d rest rfl rfl

/-- A character that is no backslash takes none with it. -/
@[simp] theorem endsEscaping_cons (plain : c ≠ '\\') :
    endsEscaping (c :: rest) = endsEscaping rest := by
  rw [endsEscaping] <;> simp [plain]

/-- A text without backslashes ends in none. -/
theorem endsEscaping_of_not_mem (none : '\\' ∉ part) : endsEscaping part = false := by
  induction part with
  | nil => rfl
  | cons c part hypothesis =>
    rw [List.mem_cons, not_or] at none
    rw [endsEscaping_cons (Ne.symm none.1), hypothesis none.2]

/-- Without backslashes and ampersands a text stands for itself. -/
theorem unescape_of_plain (noBackslash : '\\' ∉ part) (noAmpersand : '&' ∉ part) :
    Entity.unescape part = part := by
  have within : ∀ (fuel : Nat) (text : List Char), '\\' ∉ text → '&' ∉ text →
      Entity.unescapeWithin fuel text = text := by
    intro fuel
    induction fuel with
    | zero => exact fun text _ _ => by rw [Entity.unescapeWithin]
    | succ fuel hypothesis =>
      intro text noBackslash noAmpersand
      cases text with
      | nil => rfl
      | cons c rest =>
        rw [List.mem_cons, not_or] at noBackslash noAmpersand
        have body : Entity.body? (c :: rest) = none := by
          rw [Entity.body?.eq_def]
          split
          · rename_i same
            exact absurd (List.cons.inj same).1.symm noAmpersand.1
          · rfl
        have front : Entity.atFrontOfPart? (c :: rest) = none := by
          rw [Entity.atFrontOfPart?, body]
          rfl
        have later := hypothesis rest noBackslash.2 noAmpersand.2
        rw [Entity.unescapeWithin.eq_def]
        dsimp only
        split
        · exact absurd rfl noBackslash.1
        · rw [front, later]
  exact within _ _ noBackslash noAmpersand

/-! ## Parts that a mark closes -/

/-- The size of a part up to the mark that closes it, if no character before that is refused. -/
def partSize? (closer : Char) (refuses : Char → Bool) : List Char → Option Nat
  | [] => none
  | '\\' :: _ :: rest => (partSize? closer refuses rest).map (· + 2)
  | c :: rest =>
    if c == closer then some 0
    else if refuses c then none
    else (partSize? closer refuses rest).map (· + 1)

variable {closer : Char} {refuses : Char → Bool}

/-- A character of a part. -/
theorem partSize?_cons (plain : c ≠ '\\') :
    partSize? closer refuses (c :: rest) =
      if c == closer then some 0
      else if refuses c then none
      else (partSize? closer refuses rest).map (· + 1) := by
  rw [partSize?]
  simp [plain]

/-- A backslash takes the next character with it. -/
theorem partSize?_pair :
    partSize? closer refuses ('\\' :: c :: rest) = (partSize? closer refuses rest).map (· + 2) := by
  rw [partSize?]

/-- A label is a part. -/
theorem labelSize?_eq (text : List Char) :
    Definition.labelSize? text = partSize? ']' (· == '[') text := by
  fun_induction Definition.labelSize? text with
  | case1 => rfl
  | case2 c rest hypothesis => rw [partSize?_pair, hypothesis]
  | _ => simp_all [partSize?]

/-- A destination between brackets is a part. -/
theorem angledSize?_eq (text : List Char) :
    angledSize? text = partSize? '>' (fun c => c == '<' || c == '\n') text := by
  fun_induction angledSize? text with
  | case1 => rfl
  | case2 c rest hypothesis => rw [partSize?_pair, hypothesis]
  | _ => simp_all [partSize?]

/-- A title is a part. -/
theorem titleSize?_eq (closer : Char) (text : List Char) :
    titleSize? closer text = partSize? closer (fun c => c == '(' && closer == ')') text := by
  fun_induction titleSize? closer text with
  | case1 => rfl
  | case2 c rest hypothesis => rw [partSize?_pair, hypothesis]
  | _ => simp_all [partSize?]

/-- A part is scanned up to its closing mark. -/
theorem partSize?_append (notBackslash : closer ≠ '\\')
    (free : ∀ c ∈ part, c ≠ closer ∧ refuses c = false) (closed : endsEscaping part = false)
    (rest : List Char) : partSize? closer refuses (part ++ closer :: rest) = some part.length := by
  induction part using escapes_induction with
  | nil => simp [partSize?_cons notBackslash]
  | single => cases closed
  | pair c part hypothesis =>
    have later := hypothesis (fun c inside => free c (by simp [inside])) closed
    rw [List.cons_append, List.cons_append, partSize?_pair, later]
    rfl
  | plain c part plain hypothesis =>
    rw [endsEscaping_cons plain] at closed
    have later := hypothesis (fun c inside => free c (by simp [inside])) closed
    obtain ⟨notCloser, notRefused⟩ := free c List.mem_cons_self
    simp [partSize?_cons plain, notCloser, notRefused, later]

/-- A part ends at a closing mark. -/
theorem partSize?_eq_some (scanned : partSize? closer refuses rest = some size) :
    ∃ front back, rest = front ++ closer :: back ∧ front.length = size := by
  fun_induction partSize? closer refuses rest generalizing size with
  | case1 => cases scanned
  | case2 c rest hypothesis =>
    obtain ⟨later, found, rfl⟩ := Option.map_eq_some_iff.mp scanned
    obtain ⟨front, back, rfl, rfl⟩ := hypothesis found
    exact ⟨'\\' :: c :: front, back, rfl, rfl⟩
  | case3 c rest _ closing =>
    obtain rfl := Option.some.inj scanned
    exact ⟨[], rest, by rw [beq_iff_eq.mp closing]; rfl, rfl⟩
  | case4 => cases scanned
  | case5 c rest _ _ _ hypothesis =>
    obtain ⟨later, found, rfl⟩ := Option.map_eq_some_iff.mp scanned
    obtain ⟨front, back, rfl, rfl⟩ := hypothesis found
    exact ⟨c :: front, back, rfl, rfl⟩

/-- A part that ends in a backslash goes on behind its closing mark. -/
theorem exists_of_endsEscaping (free : ∀ c ∈ part, c ≠ closer ∧ refuses c = false)
    (escaping : endsEscaping part = true)
    (scanned : partSize? closer refuses (part ++ closer :: rest) = some size) :
    ∃ front back, rest = front ++ closer :: back ∧ size = part.length + 1 + front.length := by
  induction part using escapes_induction generalizing size with
  | nil => cases escaping
  | single =>
    rw [List.singleton_append, partSize?_pair] at scanned
    obtain ⟨later, found, rfl⟩ := Option.map_eq_some_iff.mp scanned
    obtain ⟨front, back, rfl, rfl⟩ := partSize?_eq_some found
    exact ⟨front, back, rfl, Nat.add_comm ..⟩
  | pair c part hypothesis =>
    rw [List.cons_append, List.cons_append, partSize?_pair] at scanned
    obtain ⟨later, found, rfl⟩ := Option.map_eq_some_iff.mp scanned
    obtain ⟨front, back, rfl, rfl⟩ :=
      hypothesis (fun c inside => free c (by simp [inside])) escaping found
    exact ⟨front, back, rfl, by simp only [List.length_cons]; omega⟩
  | plain c part plain hypothesis =>
    rw [endsEscaping_cons plain] at escaping
    obtain ⟨notCloser, notRefused⟩ := free c List.mem_cons_self
    rw [List.cons_append, partSize?_cons plain, if_neg (by simpa using notCloser),
      if_neg (by simp [notRefused])] at scanned
    obtain ⟨later, found, rfl⟩ := Option.map_eq_some_iff.mp scanned
    obtain ⟨front, back, rfl, rfl⟩ :=
      hypothesis (fun c inside => free c (by simp [inside])) escaping found
    exact ⟨front, back, rfl, by simp only [List.length_cons]; omega⟩

/-! ## Destinations without brackets -/

/-- A character of a destination without brackets. -/
theorem bareSize?_cons (plain : c ≠ '\\') (depth : Nat) (rest : List Char) :
    bareSize? depth (c :: rest) =
      if endsDestination c then (if depth = 0 then some 0 else none)
      else if c == '(' then
        if depth + 1 > maxParentheses then none else (bareSize? (depth + 1) rest).map (· + 1)
      else if c == ')' then
        if depth = 0 then some 0 else (bareSize? (depth - 1) rest).map (· + 1)
      else (bareSize? depth rest).map (· + 1) := by
  rw [bareSize?]
  simp [plain]

/-- A space ends a destination without brackets. -/
theorem bareSize?_of_space (starts : ∀ c ∈ rest.head?, isSpaceOrTab c = true)
    (scanned : bareSize? depth rest = some size) : size = 0 := by
  cases rest with
  | nil =>
    rw [bareSize?] at scanned
    exact (Option.some.inj (Option.ite_none_right_eq_some.mp scanned).2).symm
  | cons c rest =>
    have space := starts c rfl
    have ends : endsDestination c = true ∧ c ≠ '\\' := by
      rw [isSpaceOrTab, Bool.or_eq_true, beq_iff_eq, beq_iff_eq] at space
      rcases space with rfl | rfl <;> exact ⟨by decide, by decide⟩
    rw [bareSize?_cons ends.2, if_pos ends.1] at scanned
    exact (Option.some.inj (Option.ite_none_right_eq_some.mp scanned).2).symm

/-- A backslash does not take a space into a destination without brackets. -/
theorem bareSize?_of_backslash (starts : ∀ c ∈ rest.head?, isSpaceOrTab c = true)
    (noTab : rest.head? ≠ some '\t') (scanned : bareSize? depth ('\\' :: rest) = some size) :
    size ≤ 1 := by
  cases rest with
  | nil =>
    rw [bareSize?] at scanned
    · have within : (bareSize? depth []).map (· + 1) = some size := scanned
      obtain ⟨later, found, rfl⟩ := Option.map_eq_some_iff.mp within
      obtain rfl := bareSize?_of_space (by simp) found
      exact Nat.le_refl 1
    · exact nofun
  | cons c rest =>
    have space : c = ' ' := by
      have either := starts c rfl
      rw [isSpaceOrTab, Bool.or_eq_true, beq_iff_eq, beq_iff_eq] at either
      exact either.resolve_right fun tab => noTab (congrArg some tab)
    rw [space, bareSize?, if_pos (by decide)] at scanned
    obtain rfl := Option.some.inj (Option.ite_none_right_eq_some.mp scanned).2
    exact Nat.zero_le 1

/-- A destination without brackets ends before the first space, unless a backslash takes it. -/
theorem bareSize?_le (solid : ∀ c ∈ part, c ≠ ' ')
    (starts : ∀ c ∈ rest.head?, isSpaceOrTab c = true)
    (noTab : endsEscaping part = true → rest.head? ≠ some '\t')
    (scanned : bareSize? depth (part ++ rest) = some size) : size ≤ part.length := by
  induction part using escapes_induction generalizing depth size with
  | nil => exact Nat.le_of_eq (bareSize?_of_space starts scanned)
  | single => exact bareSize?_of_backslash starts (noTab rfl) scanned
  | pair c part hypothesis =>
    have notSpace := solid c (by simp)
    rw [List.cons_append, List.cons_append, bareSize?] at scanned
    rw [if_neg (by simpa using notSpace)] at scanned
    obtain ⟨later, found, rfl⟩ := Option.map_eq_some_iff.mp scanned
    have bound := hypothesis (fun c inside => solid c (by simp [inside])) noTab found
    simpa using bound
  | plain c part plain hypothesis =>
    rw [endsEscaping_cons plain] at noTab
    have step : ∀ {depth : Nat}, (bareSize? depth (part ++ rest)).map (· + 1) = some size →
        size ≤ (c :: part).length := by
      intro depth scanned
      obtain ⟨later, found, rfl⟩ := Option.map_eq_some_iff.mp scanned
      exact Nat.succ_le_succ
        (hypothesis (fun c inside => solid c (List.mem_cons_of_mem _ inside)) noTab found)
    have stop : some 0 = some size → size ≤ (c :: part).length := by
      rintro ⟨⟩
      exact Nat.zero_le _
    rw [List.cons_append, bareSize?_cons plain] at scanned
    split at scanned
    · exact stop (Option.ite_none_right_eq_some.mp scanned).2
    · split at scanned
      · exact step (Option.ite_none_left_eq_some.mp scanned).2
      · split at scanned
        · split at scanned
          · exact stop scanned
          · exact step scanned
        · exact step scanned

/-! ## Titles -/

/-- The marks around a title. -/
theorem marks_of_titleCloser? {opener closer : Char} (closes : titleCloser? opener = some closer) :
    (opener = '"' ∧ closer = '"') ∨ (opener = '\'' ∧ closer = '\'') ∨
      (opener = '(' ∧ closer = ')') := by
  unfold titleCloser? at closes
  split at closes
  · exact Or.inl ⟨rfl, (Option.some.inj closes).symm⟩
  · exact Or.inr (Or.inl ⟨rfl, (Option.some.inj closes).symm⟩)
  · exact Or.inr (Or.inr ⟨rfl, (Option.some.inj closes).symm⟩)
  · cases closes

/-- The mark before a title is no space and no end of a line. -/
theorem opener_of_titleCloser? {opener closer : Char}
    (closes : titleCloser? opener = some closer) :
    isSpaceOrTab opener = false ∧ opener ≠ '\n' := by
  rcases marks_of_titleCloser? closes with ⟨rfl, -⟩ | ⟨rfl, -⟩ | ⟨rfl, -⟩ <;> decide

/-- The mark after a title is no backslash, no space and no angle bracket. -/
theorem closer_of_titleCloser? {opener closer : Char}
    (closes : titleCloser? opener = some closer) :
    closer ≠ '\\' ∧ isSpaceOrTab closer = false ∧ closer ≠ '>' := by
  rcases marks_of_titleCloser? closes with ⟨-, rfl⟩ | ⟨-, rfl⟩ | ⟨-, rfl⟩ <;> decide

/-- The mark before a title is told by the mark after it. -/
theorem opener_eq {opener closer : Char} (closes : titleCloser? opener = some closer) :
    opener = if closer = ')' then '(' else closer := by
  rcases marks_of_titleCloser? closes with ⟨rfl, rfl⟩ | ⟨rfl, rfl⟩ | ⟨rfl, rfl⟩ <;> rfl

/-- What stands in a title does not end it. -/
theorem free_of_titleCloser? {opener closer : Char} (closes : titleCloser? opener = some closer)
    (free : ∀ c ∈ part, c ≠ opener ∧ c ≠ closer) :
    ∀ c ∈ part, c ≠ closer ∧ (c == '(' && closer == ')') = false := by
  intro c inside
  obtain ⟨notOpener, notCloser⟩ := free c inside
  refine ⟨notCloser, Bool.and_eq_false_iff.mpr ?_⟩
  by_cases parenthesis : closer = ')'
  · have opens := opener_eq closes
    rw [if_pos parenthesis] at opens
    exact Or.inl (beq_eq_false_iff_ne.mpr (opens ▸ notOpener))
  · exact Or.inr (by simpa using parenthesis)

end FoldMark.Markdown
