import FoldMark.Proofs.Json.Spelling

/-!
# Values written as JSON and read back

A value of the kinds that JSON has (`IsJson`) can be written. What is written is a Unicode text
unless the value holds half a surrogate pair. If it is, it keeps to the grammar, and the reader
takes it off the front of any text as the same value (`isReadBack_of_isJson`). Only the identities
of containers are forgotten, since JSON has no references. A mapping is written as an object that is
read as the mapping with its keys in order: `exists_write_object`.
-/

namespace FoldMark

namespace Value

mutual

/-- A value whose containers have no identities. -/
def anonymous : Value → Value
  | .date _ d => .date none d
  | .dateTime _ t => .dateTime none t
  | .list _ items => .list none (anonymousItems items)
  | .tuple items => .tuple (anonymousItems items)
  | .set _ items => .set none (anonymousItems items)
  | .map _ entries => .map none (anonymousEntries entries)
  | value => value

/-- Values without identities. -/
def anonymousItems : List Value → List Value
  | [] => []
  | item :: rest => item.anonymous :: anonymousItems rest

/-- Entries without identities. -/
def anonymousEntries : List (Value × Value) → List (Value × Value)
  | [] => []
  | (key, value) :: rest => (key.anonymous, value.anonymous) :: anonymousEntries rest

end

end Value

namespace Json

open Text

/-- A value of the kinds that JSON has, where integers are not too long to be read. -/
inductive IsJson : Value → Prop where
  /-- No value. -/
  | null : IsJson .null
  /-- A truth value. -/
  | bool (b : Bool) : IsJson (.bool b)
  /-- An integer. -/
  | int {n : Int} (short : n.natAbs < 10 ^ Number.maxDigits) : IsJson (.int n)
  /-- A text. -/
  | str (s : CodeText) : IsJson (.str s)
  /-- A list of such values. -/
  | list {id : Option Nat} {items : List Value} (each : ∀ item ∈ items, IsJson item) :
    IsJson (.list id items)
  /-- A mapping from texts that all differ to such values. -/
  | map {id : Option Nat} {entries : List (Value × Value)}
    (named : ∀ entry ∈ entries, ∃ name, entry.1 = .str name)
    (differ : entries.Pairwise fun first second => first.1.sameKey second.1 = false)
    (each : ∀ entry ∈ entries, IsJson entry.2) : IsJson (.map id entries)

variable {c : Char} {text rest gap before between last : List Char} {texts : List (List Char)}
  {value : Value} {values : List Value} {entries : List (Value × Value)} {level fuel : Nat}

/-! ## White space -/

/-- A line end and its indentation are white space. -/
theorem isSpacing_newLine (level : Nat) : IsSpacing (newLine level) := by
  intro c inside
  rcases List.mem_cons.mp inside with rfl | inside
  · rfl
  · rw [(List.mem_replicate.mp inside).2]
    rfl

/-- Nothing is white space. -/
theorem isSpacing_nil : IsSpacing [] := fun _ => nofun

/-- White space is skipped up to what is none. -/
theorem skipSpace_append (spacing : IsSpacing gap) (solid : isSpace c = false)
    (rest : List Char) : skipSpace (gap ++ c :: rest) = c :: rest := by
  rw [skipSpace, List.dropWhile_append_of_pos spacing,
    List.dropWhile_cons_of_neg (by rw [solid]; exact Bool.false_ne_true)]

/-- Neither white space nor what ends a number goes on with it. -/
theorem endsNumber_append (spacing : IsSpacing gap) (ends : EndsNumber rest) :
    EndsNumber (gap ++ rest) := by
  cases gap with
  | nil => exact ends
  | cons c gap =>
    have space := spacing c List.mem_cons_self
    simp only [isSpace, Bool.or_eq_true, beq_iff_eq] at space
    rcases space with ((rfl | rfl) | rfl) | rfl <;>
      exact endsNumber_cons rfl (by decide) ⟨by decide, by decide⟩ _

/-! ## What a value is written as -/

/-- A text that is a value by the grammar and is read as a value wherever it stands. -/
structure Spells (text : List Char) (value : Value) : Prop where
  /-- It is a value by the grammar. -/
  isValue : IsValue text
  /-- It starts with no white space and no closing bracket. -/
  solid : ∃ c rest, text = c :: rest ∧ isSpace c = false ∧ c ≠ ']'
  /-- It is read as the value. -/
  reads : ∀ fuel rest, text.length ≤ fuel → EndsNumber rest →
    readValue? (fuel + 1) (text ++ rest) = some (value, rest)

/-- A text that is a name, a colon, a space and what a value is written as. -/
inductive SpellsMember : List Char → Value × Value → Prop where
  /-- The name is a key. -/
  | named {name spelling : List Char} {value : Value} (spells : Spells spelling value) :
    SpellsMember (stringText name ++ ':' :: ' ' :: spelling) (.str (.ofChars name), value)

/-- No value has its word. -/
theorem spells_null : Spells "null".toList .null :=
  ⟨.word (by decide), ⟨'n', _, rfl, rfl, by decide⟩, fun _ _ _ _ => rfl⟩

/-- A truth value has its word. -/
theorem spells_bool (b : Bool) : Spells (if b then "true" else "false").toList (.bool b) := by
  cases b with
  | true => exact ⟨.word (by decide), ⟨'t', _, rfl, rfl, by decide⟩, fun _ _ _ _ => rfl⟩
  | false => exact ⟨.word (by decide), ⟨'f', _, rfl, rfl, by decide⟩, fun _ _ _ _ => rfl⟩

/-- An integer has its sign and digits. -/
theorem spells_int {n : Int} (short : n.natAbs < 10 ^ Number.maxDigits) :
    Spells (Number.intText n) (.int n) := by
  have head : ∃ c rest, Number.intText n = c :: rest ∧ (c = '-' ∨ c.isDigit = true) := by
    obtain ⟨c, others, own⟩ :=
      List.exists_cons_of_ne_nil (Nat.toDigits_ne_nil (n := n.natAbs) (b := 10))
    rw [intText_eq]
    split
    · exact ⟨_, _, rfl, Or.inl rfl⟩
    · exact ⟨c, others, own, Or.inr (Nat.isDigit_of_mem_toDigits (by decide) (by decide)
        (own ▸ List.mem_cons_self))⟩
  obtain ⟨c, others, own, first⟩ := head
  have other : isSpace c = false ∧ c ≠ ']' ∧ c ≠ '"' ∧ c ≠ '[' ∧ c ≠ '\x7b' := by
    rcases first with rfl | digit
    · decide
    · refine ⟨?_, ?_, ?_, ?_, ?_⟩
      · by_contra space
        simp only [isSpace, Bool.not_eq_false, Bool.or_eq_true, beq_iff_eq] at space
        rcases space with ((rfl | rfl) | rfl) | rfl <;> cases digit
      all_goals
        rintro rfl
        cases digit
  refine ⟨.number (isNumber_intText n), ⟨c, others, own, other.1, other.2.1⟩, ?_⟩
  intro fuel rest _ ends
  rw [readValue?, readScalar?_intText short ends]
  all_goals
    intro later same
    rw [own, List.cons_append] at same
    simp_all

/-- A text is a string. -/
theorem spells_str (chars : List Char) : Spells (stringText chars) (.str (.ofChars chars)) := by
  refine ⟨.string (isString_stringText _), ⟨'"', _, rfl, rfl, by decide⟩, ?_⟩
  intro fuel rest _ _
  have whole : stringText chars ++ rest = '"' :: (chars.flatMap writeChar ++ '"' :: rest) := by
    simp [stringText]
  rw [whole, readValue?, readString?_flatMap_writeChar]
  rfl

/-! ## Items and members -/

/-- What is put together of parts between commas by the grammar may have its parts on lines of
their own. -/
theorem intercalate_closed {one many : List Char → Prop} (single : ∀ {part}, one part → many part)
    (more : ∀ {part rest}, one part → many rest → many (part ++ ',' :: rest))
    (between : IsSpacing gap) (behind : IsSpacing last) (nonempty : texts ≠ [])
    (each : ∀ text ∈ texts, ∀ before after, IsSpacing before → IsSpacing after →
      one (before ++ text ++ after)) (front : IsSpacing before) :
    many (before ++ (',' :: gap).intercalate texts ++ last) := by
  induction texts generalizing before with
  | nil => exact absurd rfl nonempty
  | cons text texts hypothesis =>
    rw [List.forall_mem_cons] at each
    cases texts with
    | nil =>
      rw [List.intercalate_singleton]
      exact single (each.1 before last front behind)
    | cons next texts =>
      have here := each.1 before [] front isSpacing_nil
      have later := hypothesis (List.cons_ne_nil _ _) each.2 between
      have whole := more here later
      rw [List.intercalate_cons_cons]
      simpa using whole

/-- Parts with something between them start with the first character of the first. -/
theorem exists_intercalate_eq_cons (separator : List Char) (c : Char) (later : List Char)
    (texts : List (List Char)) :
    ∃ rest, separator.intercalate ((c :: later) :: texts) = c :: rest := by
  cases texts with
  | nil => exact ⟨later, List.intercalate_singleton⟩
  | cons next texts => exact ⟨_, List.intercalate_cons_cons⟩

/-- White space is skipped up to parts of which the first starts with none. -/
theorem skipSpace_intercalate (spacing : IsSpacing before)
    (solid : ∃ c rest, text = c :: rest ∧ isSpace c = false) (texts : List (List Char))
    (separator rest : List Char) :
    skipSpace (before ++ (separator.intercalate (text :: texts) ++ rest)) =
      separator.intercalate (text :: texts) ++ rest := by
  obtain ⟨c, later, rfl, noSpace⟩ := solid
  obtain ⟨tail, whole⟩ := exists_intercalate_eq_cons separator c later texts
  rw [whole]
  exact skipSpace_append spacing noSpace _

/-- A comma and a closing bracket or brace end a number, and so does white space before them. -/
theorem endsNumber_closing (stop : Char) (closes : stop ∈ [',', ']', '\x7d'])
    (behind : IsSpacing last) (rest : List Char) : EndsNumber (last ++ stop :: rest) := by
  refine endsNumber_append behind ?_
  simp only [List.mem_cons, List.not_mem_nil, or_false] at closes
  rcases closes with rfl | rfl | rfl <;> exact endsNumber_cons rfl (by decide) (by decide) rest

/-- Items are read with the closing bracket behind them. -/
theorem readItems?_intercalate (between : IsSpacing gap) (behind : IsSpacing last)
    (nonempty : texts ≠ []) (spelled : List.Forall₂ Spells texts values)
    (enough : ((',' :: gap).intercalate texts).length + 2 ≤ fuel) (rest : List Char) :
    readItems? fuel ((',' :: gap).intercalate texts ++ (last ++ ']' :: rest)) =
      some (values, rest) := by
  induction spelled generalizing fuel with
  | nil => exact absurd rfl nonempty
  | @cons text value texts values spells others hypothesis =>
    obtain ⟨fuel, rfl⟩ : ∃ less, fuel = less + 2 := ⟨fuel - 2, by omega⟩
    cases others with
    | nil =>
      rw [List.intercalate_singleton] at enough ⊢
      have ends := endsNumber_closing ']' (by decide) behind rest
      rw [readItems?, spells.reads _ _ (by omega) ends]
      simp [skipSpace_append behind (c := ']') rfl]
    | @cons next nextValue texts values nextSpells others =>
      rw [List.intercalate_cons_cons] at enough ⊢
      simp only [List.length_append, List.length_cons] at enough
      have later : readItems? (fuel + 1)
          ((',' :: gap).intercalate (next :: texts) ++ (last ++ ']' :: rest)) =
            some (nextValue :: values, rest) := hypothesis (List.cons_ne_nil _ _) (by omega)
      obtain ⟨c, tail, same, noSpace, -⟩ := nextSpells.solid
      have skipped := skipSpace_intercalate between ⟨c, tail, same, noSpace⟩ texts
        (',' :: gap) (last ++ ']' :: rest)
      have comma : ∀ later, skipSpace (',' :: later) = ',' :: later := fun later => rfl
      have ends := endsNumber_closing ',' (by decide) isSpacing_nil
        (gap ++ ((',' :: gap).intercalate (next :: texts) ++ (last ++ ']' :: rest)))
      rw [List.nil_append] at ends
      rw [List.append_assoc, List.append_assoc, List.cons_append, readItems?,
        spells.reads _ _ (by omega) ends]
      simp only [Option.bind_eq_bind, Option.bind_some, comma, skipped, later]

/-- A key that differs from all before gets its place behind them. -/
theorem insert_of_new {key : Value} (new : ∀ entry ∈ entries, entry.1.sameKey key = false) :
    Value.insert entries key value = entries ++ [(key, value)] := by
  rw [Value.insert, if_neg]
  simpa using new

/-- A member is read, and what its value ends before tells whether members follow. -/
theorem readMembers?_member {earlier : List (Value × Value)} {name spelling after : List Char}
    (spells : Spells spelling value) (enough : spelling.length ≤ fuel) (ends : EndsNumber rest)
    (new : ∀ entry ∈ earlier, entry.1.sameKey (.str (.ofChars name)) = false) :
    let text := stringText name ++ ':' :: ' ' :: spelling ++ rest
    let entries := earlier ++ [(.str (.ofChars name), value)]
    (skipSpace rest = '\x7d' :: after →
        readMembers? (fuel + 2) earlier text = some (entries, after)) ∧
      (skipSpace rest = ',' :: after →
        readMembers? (fuel + 2) earlier text =
          readMembers? (fuel + 1) entries (skipSpace after)) := by
  intro text entries
  obtain ⟨c, tail, same, noSpace, -⟩ := spells.solid
  have whole : text =
      '"' :: (name.flatMap writeChar ++ '"' :: (':' :: ' ' :: (spelling ++ rest))) := by
    simp [text, stringText]
  have colon : ∀ later, skipSpace (':' :: later) = ':' :: later := fun later => rfl
  have skipped : skipSpace (' ' :: (spelling ++ rest)) = spelling ++ rest := by
    rw [same]
    have space : ∀ c ∈ [' '], isSpace c = true := fun c inside => by
      rw [List.mem_singleton.mp inside]
      rfl
    exact skipSpace_append space noSpace _
  constructor <;> intro closes
  all_goals
    rw [whole, readMembers?, readString?_flatMap_writeChar]
    simp only [Option.bind_eq_bind, Option.bind_some, colon, skipped,
      spells.reads _ _ enough ends, insert_of_new new, closes, entries]

/-- A member starts with the quote of its name. -/
theorem SpellsMember.solid {entry : Value × Value} (spelled : SpellsMember text entry) :
    ∃ rest, text = '"' :: rest := by
  cases spelled with
  | named spells => exact ⟨_, rfl⟩

/-- Members are read with the closing brace behind them. -/
theorem readMembers?_intercalate (earlier : List (Value × Value)) (between : IsSpacing gap)
    (behind : IsSpacing last) (nonempty : texts ≠ [])
    (spelled : List.Forall₂ SpellsMember texts entries)
    (differ : (earlier ++ entries).Pairwise fun first second =>
      first.1.sameKey second.1 = false)
    (enough : ((',' :: gap).intercalate texts).length + 2 ≤ fuel) (rest : List Char) :
    readMembers? fuel earlier ((',' :: gap).intercalate texts ++ (last ++ '\x7d' :: rest)) =
      some (earlier ++ entries, rest) := by
  induction spelled generalizing fuel earlier with
  | nil => exact absurd rfl nonempty
  | @cons text entry texts entries spelledMember others hypothesis =>
    obtain ⟨fuel, rfl⟩ : ∃ less, fuel = less + 2 := ⟨fuel - 2, by omega⟩
    cases spelledMember with
    | @named name spelling value spells =>
      have new := fun earlier member =>
        (List.pairwise_append.mp differ).2.2 earlier member _ List.mem_cons_self
      cases others with
      | nil =>
        rw [List.intercalate_singleton] at enough ⊢
        simp only [List.length_append, List.length_cons] at enough
        have ends := endsNumber_closing '\x7d' (by decide) behind rest
        exact (readMembers?_member spells (by omega) ends new).1 (skipSpace_append behind rfl rest)
      | @cons next nextEntry texts entries nextSpells others =>
        rw [List.intercalate_cons_cons] at enough ⊢
        simp only [List.length_append, List.length_cons] at enough
        have later : readMembers? (fuel + 1) (earlier ++ [(.str (.ofChars name), value)])
            ((',' :: gap).intercalate (next :: texts) ++ (last ++ '\x7d' :: rest)) =
              some (earlier ++ [(.str (.ofChars name), value)] ++ nextEntry :: entries, rest) :=
          hypothesis _ (List.cons_ne_nil _ _)
            (by rwa [List.append_assoc, List.singleton_append]) (by omega)
        obtain ⟨tail, same⟩ := nextSpells.solid
        have skipped := skipSpace_intercalate between ⟨'"', tail, same, rfl⟩ texts
          (',' :: gap) (last ++ '\x7d' :: rest)
        have ends := endsNumber_closing ',' (by decide) isSpacing_nil
          (gap ++ ((',' :: gap).intercalate (next :: texts) ++ (last ++ '\x7d' :: rest)))
        have room : spelling.length ≤ fuel := by omega
        have step := (readMembers?_member spells room ends new).2 rfl
        rw [skipped, later, List.append_assoc earlier, List.singleton_append] at step
        simpa using step

/-! ## Lists and mappings -/

/-- A list is read as its items, if it has some. -/
theorem readValue?_list {later : List Char} (nonempty : ∀ after, skipSpace text ≠ ']' :: after)
    (reads : readItems? fuel (skipSpace text) = some (values, later)) :
    readValue? (fuel + 1) ('[' :: text) = some (.list none values, later) := by
  rw [readValue?]
  split
  · rename_i after closes
    exact absurd closes (nonempty after)
  · rw [reads]
    rfl

/-- A mapping is read as its members, if it has some. -/
theorem readValue?_map {later : List Char} (nonempty : ∀ after, skipSpace text ≠ '\x7d' :: after)
    (reads : readMembers? fuel [] (skipSpace text) = some (entries, later)) :
    readValue? (fuel + 1) ('\x7b' :: text) = some (.map none entries, later) := by
  rw [readValue?]
  split
  · rename_i after closes
    exact absurd closes (nonempty after)
  · rw [reads]
    rfl

/-- What holds of whatever a text spells holds of each text. -/
theorem forall_of_spelled {α : Type} {spells : List Char → α → Prop} {spelled : List α}
    {holds : List Char → Prop} (all : List.Forall₂ spells texts spelled)
    (implies : ∀ text item, spells text item → holds text) : ∀ text ∈ texts, holds text :=
  ((List.forall₂_and_left _ _).mp (all.imp fun text item own => ⟨implies text item own, own⟩)).1

/-- Brackets around parts on lines of their own. -/
def bracketText (start stop : Char) (level : Nat) (texts : List (List Char)) : List Char :=
  if texts = [] then [start, stop]
  else
    start :: (newLine (level + 1) ++ (',' :: newLine (level + 1)).intercalate texts ++
      newLine level ++ [stop])

/-- Items on lines of their own between brackets are a list of what they are. -/
theorem spells_list (level : Nat) (spelled : List.Forall₂ Spells texts values) :
    Spells (bracketText '[' ']' level texts) (.list none values) := by
  by_cases nonempty : texts = []
  · subst nonempty
    cases spelled
    exact ⟨.array (.empty isSpacing_nil), ⟨'[', _, rfl, rfl, by decide⟩,
      fun fuel rest _ _ => rfl⟩
  · have front := isSpacing_newLine (level + 1)
    have behind := isSpacing_newLine level
    obtain ⟨text, others, rfl⟩ := List.exists_cons_of_ne_nil nonempty
    have solid := forall_of_spelled spelled (fun _ _ spells => spells.solid) text List.mem_cons_self
    rw [bracketText, if_neg nonempty]
    refine ⟨.array (.elements ?_), ⟨'[', _, rfl, rfl, by decide⟩, fun fuel rest enough _ => ?_⟩
    · have isValue := forall_of_spelled spelled fun _ _ spells => spells.isValue
      exact intercalate_closed .one .more front behind nonempty
        (fun part member before after spacing spacingAfter =>
          .spaced spacing (isValue part member) spacingAfter) front
    · obtain ⟨c, later, same, noSpace, noBracket⟩ := solid
      have skipped := skipSpace_intercalate front ⟨c, later, same, noSpace⟩ others
        (',' :: newLine (level + 1)) (newLine level ++ ']' :: rest)
      simp only [List.length_append, List.length_cons] at enough
      have room : ((',' :: newLine (level + 1)).intercalate (text :: others)).length + 2 ≤
          fuel := by omega
      have reads := readItems?_intercalate front behind nonempty spelled room rest
      obtain ⟨tail, first⟩ :=
        exists_intercalate_eq_cons (',' :: newLine (level + 1)) c later others
      rw [← skipped] at reads
      have whole := readValue?_list (fun after closes => ?_) reads
      · simpa using whole
      · rw [skipped, same, first] at closes
        exact noBracket (List.cons.inj closes).1

/-- A member keeps to the grammar with white space around it. -/
theorem SpellsMember.isMember {entry : Value × Value} {after : List Char}
    (spelled : SpellsMember text entry) (spacing : IsSpacing before)
    (spacingAfter : IsSpacing after) : IsMember (before ++ text ++ after) := by
  cases spelled with
  | @named name spelling value spells =>
    have space : IsSpacing [' '] := fun c inside => by
      rw [List.mem_singleton.mp inside]
      rfl
    have member :
        IsMember (before ++ stringText name ++ [] ++ ':' :: ([' '] ++ spelling ++ after)) :=
      .named spacing (isString_stringText name) isSpacing_nil
        (.spaced space spells.isValue spacingAfter)
    simpa using member

/-- Members on lines of their own between braces are an object. -/
theorem isObject_bracket (level : Nat) (spelled : List.Forall₂ SpellsMember texts entries) :
    IsObject (bracketText '\x7b' '\x7d' level texts) := by
  by_cases nonempty : texts = []
  · subst nonempty
    exact .empty isSpacing_nil
  · have front := isSpacing_newLine (level + 1)
    rw [bracketText, if_neg nonempty]
    exact .members (intercalate_closed .one .more front (isSpacing_newLine level) nonempty
      (forall_of_spelled spelled fun text entry spells before after => spells.isMember) front)

/-- Members on lines of their own between braces are a mapping of what they are. -/
theorem spells_map (level : Nat) (spelled : List.Forall₂ SpellsMember texts entries)
    (differ : entries.Pairwise fun first second => first.1.sameKey second.1 = false) :
    Spells (bracketText '\x7b' '\x7d' level texts) (.map none entries) := by
  have isObject := isObject_bracket level spelled
  by_cases nonempty : texts = []
  · subst nonempty
    cases spelled
    exact ⟨.object isObject, ⟨'\x7b', _, rfl, rfl, by decide⟩, fun fuel rest _ _ => rfl⟩
  · have front := isSpacing_newLine (level + 1)
    have behind := isSpacing_newLine level
    obtain ⟨text, others, rfl⟩ := List.exists_cons_of_ne_nil nonempty
    obtain ⟨later, rfl⟩ :=
      forall_of_spelled spelled (fun _ _ spells => spells.solid) text List.mem_cons_self
    rw [bracketText, if_neg nonempty] at isObject ⊢
    refine ⟨.object isObject, ⟨'\x7b', _, rfl, rfl, by decide⟩, fun fuel rest enough _ => ?_⟩
    have skipped := skipSpace_intercalate front ⟨'"', later, rfl, rfl⟩ others
      (',' :: newLine (level + 1)) (newLine level ++ '\x7d' :: rest)
    simp only [List.length_append, List.length_cons] at enough
    have room : ((',' :: newLine (level + 1)).intercalate (('"' :: later) :: others)).length +
        2 ≤ fuel := by omega
    have reads := readMembers?_intercalate [] front behind nonempty spelled differ room rest
    obtain ⟨tail, first⟩ := exists_intercalate_eq_cons (',' :: newLine (level + 1)) '"' later others
    rw [← skipped, List.nil_append] at reads
    have whole := readValue?_map (fun after closes => ?_) reads
    · simpa using whole
    · rw [skipped, first] at closes
      cases closes

/-! ## What is written as characters -/

/-- A text is a part of what it is put together into with others. -/
theorem mem_intercalate {α : Type} {point : α} {part : List α} (inside : point ∈ part)
    (separator : List α) {parts : List (List α)} (member : part ∈ parts) :
    point ∈ separator.intercalate parts := by
  induction parts with
  | nil => cases member
  | cons first parts hypothesis =>
    cases parts with
    | nil => rwa [List.intercalate_singleton, ← List.mem_singleton.mp member]
    | cons next parts =>
      rw [List.intercalate_cons_cons, List.append_assoc]
      rcases List.mem_cons.mp member with rfl | later
      · exact List.mem_append_left _ inside
      · exact List.mem_append_right _ (List.mem_append_right _ (hypothesis later))

/-- A string of characters is one of a text of characters. -/
theorem exists_of_writeString {s : CodeText} (written : writeString s = .ofChars text) :
    ∃ chars, s = .ofChars chars ∧ text = stringText chars := by
  have each : s.IsUnicode := by
    intro point member
    cases point with
    | char c => exact ⟨c, rfl⟩
    | half index =>
      have inside : .half index ∈ writeString s :=
        List.mem_append_left _ (List.mem_cons_of_mem _
          (List.mem_flatMap.mpr ⟨.half index, member, List.mem_singleton_self _⟩))
      exact CodeText.exists_ofChars_iff.mp ⟨text, written⟩ _ inside
  obtain ⟨chars, rfl⟩ := CodeText.exists_ofChars_iff.mpr each
  rw [writeString_ofChars, CodeText.ofChars_inj] at written
  exact ⟨chars, rfl, written.symm⟩

/-- A member of characters has a name and a value of characters. -/
theorem exists_of_member {s written : CodeText}
    (made : writeString s ++ .char ':' :: .char ' ' :: written = .ofChars text) :
    ∃ name spelling, s = .ofChars name ∧ written = .ofChars spelling ∧
      text = stringText name ++ ':' :: ' ' :: spelling := by
  obtain ⟨front, back, rfl, named, later⟩ := List.append_eq_map_iff.mp made
  obtain ⟨name, rfl, rfl⟩ := exists_of_writeString named.symm
  obtain ⟨colon, rest, rfl, same, later⟩ := List.map_eq_cons_iff.mp later
  obtain ⟨space, spelling, rfl, same', later⟩ := List.map_eq_cons_iff.mp later
  obtain rfl := CodePoint.char.inj same
  obtain rfl := CodePoint.char.inj same'
  exact ⟨name, spelling, rfl, (List.cons.inj (List.cons.inj later.symm).2).2, rfl⟩

/-- Brackets of characters are around parts of characters. -/
theorem exists_of_bracket {start stop : Char} {parts : List CodeText}
    (made : bracket start stop level parts = .ofChars text) :
    ∃ texts, parts = texts.map .ofChars ∧ text = bracketText start stop level texts := by
  have each : ∀ part ∈ parts, part.IsUnicode := by
    intro part member point inside
    refine CodeText.exists_ofChars_iff.mp ⟨text, made⟩ point ?_
    rw [bracket, if_neg (by simpa using List.ne_nil_of_mem member)]
    have inner :=
      mem_intercalate inside (.char ',' :: CodeText.ofChars (newLine (level + 1))) member
    simp [inner]
  obtain ⟨texts, rfl⟩ := CodeText.exists_map_ofChars each
  refine ⟨texts, rfl, CodeText.ofChars_injective (made.symm.trans ?_)⟩
  by_cases empty : texts = []
  · subst empty
    rfl
  · rw [bracket, if_neg (by simpa using empty), bracketText, if_neg empty]
    simp

/-! ## Writing and reading back -/

/-- A value is written, and if it is written as characters, these are read as the value. -/
def IsReadBack (level : Nat) (value : Value) : Prop :=
  ∃ written, writeValue level value = .ok written ∧
    ∀ text, written = .ofChars text → Spells text value.anonymous

/-- Items that are read back are so one by one. -/
theorem exists_writeItems {items : List Value} (each : ∀ item ∈ items, IsReadBack level item) :
    ∃ written, writeItems level items = .ok written ∧
      ∀ texts, written = texts.map .ofChars →
        List.Forall₂ Spells texts (Value.anonymousItems items) := by
  induction items with
  | nil =>
    refine ⟨[], rfl, fun texts made => ?_⟩
    obtain rfl := List.map_eq_nil_iff.mp made.symm
    exact .nil
  | cons item items hypothesis =>
    rw [List.forall_mem_cons] at each
    obtain ⟨first, written, spells⟩ := each.1
    obtain ⟨later, others, spelled⟩ := hypothesis each.2
    refine ⟨first :: later, by rw [writeItems, written, others]; rfl, fun texts made => ?_⟩
    obtain ⟨text, texts, rfl, same, sameLater⟩ := List.map_eq_cons_iff.mp made.symm
    exact .cons (spells text same.symm) (spelled texts sameLater.symm)

/-- Members whose values are read back are so one by one. -/
theorem exists_writeMembers (named : ∀ entry ∈ entries, ∃ name, entry.1 = .str name)
    (each : ∀ entry ∈ entries, IsReadBack level entry.2) :
    ∃ written, writeMembers level entries = .ok written ∧
      ∀ texts, written = texts.map .ofChars →
        List.Forall₂ SpellsMember texts (Value.anonymousEntries entries) := by
  induction entries with
  | nil =>
    refine ⟨[], rfl, fun texts made => ?_⟩
    obtain rfl := List.map_eq_nil_iff.mp made.symm
    exact .nil
  | cons entry entries hypothesis =>
    rw [List.forall_mem_cons] at named each
    obtain ⟨key, value⟩ := entry
    obtain ⟨name, rfl⟩ : ∃ name, key = .str name := named.1
    obtain ⟨first, written, spells⟩ := each.1
    obtain ⟨later, others, spelled⟩ := hypothesis named.2 each.2
    refine ⟨_ :: later, by rw [writeMembers, memberName, written, others]; rfl,
      fun texts made => ?_⟩
    obtain ⟨text, texts, rfl, same, sameLater⟩ := List.map_eq_cons_iff.mp made.symm
    obtain ⟨chars, spelling, rfl, rfl, rfl⟩ := exists_of_member same.symm
    exact .cons (.named (spells spelling rfl)) (spelled texts sameLater.symm)

/-- Each key and each value loses its identities. -/
theorem anonymousEntries_eq_map (entries : List (Value × Value)) :
    Value.anonymousEntries entries =
      entries.map fun entry => (entry.1.anonymous, entry.2.anonymous) := by
  induction entries with
  | nil => rfl
  | cons entry entries hypothesis =>
    rw [Value.anonymousEntries, hypothesis]
    rfl

/-- Keys that are texts stay the same without identities. -/
theorem pairwise_anonymousEntries (named : ∀ entry ∈ entries, ∃ name, entry.1 = .str name)
    (differ : entries.Pairwise fun first second => first.1.sameKey second.1 = false) :
    (Value.anonymousEntries entries).Pairwise fun first second =>
      first.1.sameKey second.1 = false := by
  rw [anonymousEntries_eq_map, List.pairwise_map]
  refine differ.imp_of_mem fun {first second} firstListed secondListed other => ?_
  obtain ⟨firstName, firstKey⟩ := named first firstListed
  obtain ⟨secondName, secondKey⟩ := named second secondListed
  rw [firstKey, secondKey] at other ⊢
  exact other

/-- A mapping whose values are read back is written, as an object if it is written as characters. -/
theorem exists_write_map {id : Option Nat}
    (named : ∀ entry ∈ entries, ∃ name, entry.1 = .str name)
    (differ : entries.Pairwise fun first second => first.1.sameKey second.1 = false)
    (each : ∀ entry ∈ entries, IsReadBack (level + 1) entry.2) :
    ∃ written, writeValue level (.map id entries) = .ok written ∧
      ∀ text, written = .ofChars text → IsObject text ∧
        Spells text (Value.map id entries).anonymous := by
  obtain ⟨parts, written, spelled⟩ := exists_writeMembers named each
  refine ⟨_, by rw [writeValue, written]; rfl, fun text made => ?_⟩
  obtain ⟨texts, rfl, rfl⟩ := exists_of_bracket made
  have members := spelled texts rfl
  exact ⟨isObject_bracket level members,
    spells_map level members (pairwise_anonymousEntries named differ)⟩

/-- A value of the kinds that JSON has is read back. -/
theorem isReadBack_of_isJson (json : IsJson value) (level : Nat) : IsReadBack level value := by
  induction json generalizing level with
  | null =>
    refine ⟨_, rfl, fun text made => ?_⟩
    obtain rfl := CodeText.ofChars_injective made
    exact spells_null
  | bool b =>
    refine ⟨.ofChars (if b then "true" else "false").toList, by cases b <;> rfl, ?_⟩
    intro text made
    obtain rfl := CodeText.ofChars_injective made
    exact spells_bool b
  | int short =>
    refine ⟨_, writeShown_int short, fun text made => ?_⟩
    obtain rfl := CodeText.ofChars_injective made
    exact spells_int short
  | str s =>
    refine ⟨_, rfl, fun text made => ?_⟩
    obtain ⟨chars, rfl, rfl⟩ := exists_of_writeString made
    exact spells_str chars
  | list each hypothesis =>
    obtain ⟨parts, written, spelled⟩ :=
      exists_writeItems fun item member => hypothesis item member (level + 1)
    refine ⟨_, by rw [writeValue, written]; rfl, fun text made => ?_⟩
    obtain ⟨texts, rfl, rfl⟩ := exists_of_bracket made
    exact spells_list level (spelled texts rfl)
  | map named differ each hypothesis =>
    obtain ⟨written, made, spells⟩ :=
      exists_write_map named differ fun entry member => hypothesis entry member (level + 1)
    exact ⟨written, made, fun text same => (spells text same).2⟩

/-- What spells a value and nothing else is read as the value. -/
theorem Spells.read? (spells : Spells text value) : Json.read? text = some value := by
  obtain ⟨c, rest, rfl, noSpace, -⟩ := spells.solid
  have skipped := skipSpace_append isSpacing_nil noSpace rest
  have reads := spells.reads (c :: rest).length [] (Nat.le_refl _) fun _ _ => nofun
  rw [List.append_nil] at reads
  rw [List.nil_append] at skipped
  rw [Json.read?, skipped, reads]
  rfl

/-- A mapping of the kinds that JSON has is written. If it is written as characters, these are an
object, which is read as the mapping. -/
theorem exists_write_object {id : Option Nat} (json : IsJson (.map id entries)) :
    ∃ written, write (.map id entries) = .ok written ∧
      ∀ text, written = .ofChars text → IsObject text ∧
        read? text = some (Value.map id entries).anonymous := by
  cases json with
  | map named differ each =>
    obtain ⟨written, made, spells⟩ :=
      exists_write_map named differ fun entry member => isReadBack_of_isJson (each entry member) 1
    exact ⟨written, made, fun text same => ⟨(spells text same).1, (spells text same).2.read?⟩⟩

end Json

end FoldMark
