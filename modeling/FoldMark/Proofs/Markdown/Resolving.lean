import FoldMark.Proofs.Markdown.Pairing
import FoldMark.Proofs.Markdown.Writing

/-!
# Delimiters that are resolved

Turning delimiters into spans keeps how the end of a content is written (`endsWritten_resolve`):
emphasis is something else, so that only what stands behind it counts, and the starts and ends of
struck-out text are written as the tildes that they replace.
-/

namespace FoldMark.Markdown

variable {noted paired : Array Delimiter} {items : Array Inline} {source : List Char}
  {item : Inline} {opener closer : Delimiter} {place index count size : Nat}

/-! ## Delimiters in a content -/

/-- Two tildes that are read as delimiters, before and after they are resolved. -/
inductive IsStrike : Inline → Prop where
  /-- As text. -/
  | text : IsStrike (.text tildes)
  /-- As the start of struck-out text. -/
  | opening : IsStrike (.opening .strikethrough)
  /-- As the end of struck-out text. -/
  | closing : IsStrike (.closing .strikethrough)

/-- Two tildes are written in tildes. -/
theorem IsStrike.isTildes (strike : IsStrike item) : IsTildes item := by
  cases strike with
  | text => exact isTildes_text all_tildes
  | opening => exact isTildes_opening
  | closing => exact isTildes_closing

/-- Two tildes are written as two tildes. -/
theorem IsStrike.writtenAs_iff {written : List Char} (strike : IsStrike item) :
    WrittenAs item written ↔ written = tildes := by
  constructor
  · intro writes
    cases strike <;> cases writes <;> rfl
  · rintro rfl
    cases strike with
    | text => exact .text tildes
    | opening => exact .opening
    | closing => exact .closing

namespace Delimiter

/-- Delimiters as they are noted while a content is read. -/
structure Noted (delimiters : Array Delimiter) (items : List Inline) : Prop where
  /-- None has a partner. -/
  single : ∀ delimiter ∈ delimiters, delimiter.partner = none
  /-- Each stands in the content. -/
  inside : ∀ delimiter ∈ delimiters, delimiter.item < items.length
  /-- Two tildes make one. -/
  strikes : ∀ delimiter ∈ delimiters, delimiter.mark = '~' →
    items[delimiter.item]? = some (.text tildes)
  /-- They are noted in the order in which they stand. -/
  sorted : delimiters.toList.Pairwise (·.item < ·.item)

/-- Each delimiter is one of those that were noted. -/
theorem mem_getD (bound : index < noted.size) : noted.getD index default ∈ noted := by
  rw [Array.getD_eq_getD_getElem?, Array.getElem?_eq_getElem bound, Option.getD_some]
  exact Array.getElem_mem bound

/-- Earlier delimiters stand before later ones. -/
theorem Noted.item_lt (marked : Noted noted items.toList) (before : place < index)
    (bound : index < noted.size) :
    (noted.getD place default).item < (noted.getD index default).item := by
  have first : place < noted.size := Nat.lt_trans before bound
  rw [Array.getD_eq_getD_getElem?, Array.getD_eq_getD_getElem?, Array.getElem?_eq_getElem bound,
    Array.getElem?_eq_getElem first]
  exact List.pairwise_iff_getElem.mp marked.sorted place index _ _ before

/-- The partner of a delimiter, if it has one. -/
theorem Paired.closer?_eq_some (whole : Paired noted noted.size paired)
    (found : closer? paired (paired.getD place default) = some closer) :
    ∃ index, place < index ∧ index < noted.size ∧ closer = paired.getD index default ∧
      (noted.getD index default).mark = (noted.getD place default).mark := by
  obtain ⟨index, isPartner, isCloser⟩ := Option.bind_eq_some_iff.mp found
  obtain ⟨later, inside, same⟩ := whole.partner place index isPartner
  refine ⟨index, later, inside, ?_, same⟩
  rw [Array.getD_eq_getD_getElem?, isCloser, Option.getD_some]

/-! ## Struck-out text -/

/-- What struck-out text needs of a content while it is found: the end of the content is written,
and delimiters of two tildes and the places of single ones hold tildes. -/
structure Striking (noted : Array Delimiter) (source : List Char) (items : Array Inline)
    (places : List Nat) : Prop where
  /-- The end of the content is written. -/
  ends : EndsWritten items.toList source
  /-- The content stays as long as it is. -/
  inside : ∀ delimiter ∈ noted, delimiter.item < items.size
  /-- Delimiters of tildes are two tildes. -/
  strikes : ∀ delimiter ∈ noted, delimiter.mark = '~' →
    ∃ item, items[delimiter.item]? = some item ∧ IsStrike item
  /-- Places hold tildes. -/
  places : ∀ place ∈ places, ∃ item, items[place]? = some item ∧ IsTildes item

/-- Two tildes are replaced by two tildes. -/
theorem Striking.set {places : List Nat} (striking : Striking noted source items places)
    {delimiter : Delimiter} (member : delimiter ∈ noted) (isTilde : delimiter.mark = '~')
    (strike : IsStrike item) :
    Striking noted source (items.setIfInBounds delimiter.item item) places := by
  obtain ⟨former, found, wasStrike⟩ := striking.strikes delimiter member isTilde
  have inside := striking.inside delimiter member
  have there (place : Nat) : (items.setIfInBounds delimiter.item item)[place]? = items[place]? ∨
      (items.setIfInBounds delimiter.item item)[place]? = some item := by
    rw [Array.getElem?_setIfInBounds]
    simp only [inside, if_true]
    split
    · exact Or.inr rfl
    · exact Or.inl rfl
  constructor
  · rw [Array.toList_setIfInBounds]
    refine striking.ends.set_alike ?_ wasStrike.isTildes.1 fun written writes => ?_
    · rw [Array.getElem?_toList]
      exact found
    · exact strike.writtenAs_iff.mpr (wasStrike.writtenAs_iff.mp writes)
  · rw [Array.size_setIfInBounds]
    exact striking.inside
  · intro other isNoted isTilde
    rcases there other.item with kept | replaced
    · rw [kept]
      exact striking.strikes other isNoted isTilde
    · exact ⟨item, replaced, strike⟩
  · intro place listed
    rcases there place with kept | replaced
    · rw [kept]
      exact striking.places place listed
    · exact ⟨item, replaced, strike.isTildes⟩

/-- A single tilde is a tilde. -/
theorem isTildes_of_isLoneTilde (lone : isLoneTilde item = true) : IsTildes item := by
  rw [isLoneTilde.eq_def] at lone
  split at lone
  · exact isTildes_text (List.forall_mem_singleton.mpr rfl)
  · cases lone

/-- A pair of tildes is turned into a span. -/
theorem Striking.pair {places : List Nat} (striking : Striking noted source items places)
    (whole : Paired noted noted.size paired) (member : opener ∈ paired)
    (isTilde : opener.mark = '~') (closes : closer? paired opener = some closer) :
    Striking noted source ((items.setIfInBounds opener.item
      (.opening .strikethrough)).setIfInBounds closer.item (.closing .strikethrough)) places := by
  obtain ⟨place, bound, rfl⟩ := Array.mem_iff_getElem.mp member
  have isPlace : paired[place] = paired.getD place default := by
    rw [Array.getD_eq_getD_getElem?, Array.getElem?_eq_getElem bound, Option.getD_some]
  rw [isPlace] at isTilde closes ⊢
  rw [whole.mark] at isTilde
  obtain ⟨index, -, inside, rfl, same⟩ := whole.closer?_eq_some closes
  rw [whole.item, whole.item]
  exact (striking.set (mem_getD (whole.size ▸ bound)) isTilde .opening).set (mem_getD inside)
    (same.trans isTilde) .closing

/-- One more place holds a tilde. -/
theorem Striking.more {places : List Nat} (striking : Striking noted source items places)
    (lone : items[place]?.any isLoneTilde = true) :
    Striking noted source items (place :: places) where
  ends := striking.ends
  inside := striking.inside
  strikes := striking.strikes
  places := by
    obtain ⟨item, isItem, isLone⟩ := (Option.any_eq_true _ _).mp lone
    exact List.forall_mem_cons.mpr ⟨⟨item, isItem, isTildes_of_isLoneTilde isLone⟩, striking.places⟩

/-- Before a row of equal pieces, a piece changes places with the last of them. -/
theorem toList_swapIfInBounds (before after : List Inline) (item other : Inline) (count : Nat) :
    ((before ++ (item :: List.replicate count other ++ after)).toArray.swapIfInBounds
        before.length (before.length + count)).toList =
      before ++ (List.replicate count other ++ [item] ++ after) := by
  have first : before.length <
      (before ++ (item :: List.replicate count other ++ after)).toArray.size := by simp
  have last : before.length + count <
      (before ++ (item :: List.replicate count other ++ after)).toArray.size := by
    rw [List.size_toArray, List.length_append, List.length_append, List.length_cons,
      List.length_replicate]
    omega
  rw [Array.swapIfInBounds_def, dif_pos first, dif_pos last, Array.swap_def, Array.toList_set,
    Array.toList_set]
  cases count with
  | zero => simp
  | succ count =>
    have turned : other :: List.replicate count other = List.replicate count other ++ [other] := by
      rw [← List.replicate_succ, List.replicate_succ']
    simp [List.replicate_succ']
    rw [← List.cons_append, turned, List.append_assoc]
    rfl

/-- A piece is moved behind the ends of struck-out text that follow it. -/
theorem exists_moveBehindEnds (found : items[place]? = some item) :
    ∃ before ends after, items.toList = before ++ (item :: ends ++ after) ∧
      (∀ other ∈ ends, other = .closing .strikethrough) ∧
      (moveBehindEnds items place).toList = before ++ (ends ++ [item] ++ after) := by
  rw [← Array.getElem?_toList] at found
  obtain ⟨before, rest, whole, rfl⟩ := EndsWritten.exists_at found
  have behind : items.toList.drop (before.length + 1) = rest := by
    rw [whole, List.append_cons, List.drop_left' (by simp)]
  have all : ∀ other ∈ rest.takeWhile endsStrikethrough, other = .closing .strikethrough := by
    intro other member
    have ends := List.mem_takeWhile_imp member
    rw [endsStrikethrough.eq_def] at ends
    split at ends
    · rfl
    · cases ends
  have equal := List.eq_replicate_iff.mpr ⟨rfl, all⟩
  have apart : items = (before ++ (item :: rest.takeWhile endsStrikethrough ++
      rest.dropWhile endsStrikethrough)).toArray := by
    rw [List.cons_append, List.takeWhile_append_dropWhile, ← whole]
  refine ⟨before, rest.takeWhile endsStrikethrough, rest.dropWhile endsStrikethrough, ?_, all, ?_⟩
  · rw [whole, List.cons_append, List.takeWhile_append_dropWhile]
  · rw [moveBehindEnds, behind, apart]
    generalize rest.takeWhile endsStrikethrough = ends at equal
    rw [equal, List.length_replicate]
    exact toList_swapIfInBounds ..

/-- A single tilde that moves behind the ends of struck-out text leaves tildes where it was. -/
theorem endsWritten_moveBehindEnds {places : List Nat} (ends : EndsWritten items.toList source)
    (tildes : ∀ place ∈ places, ∃ item, items[place]? = some item ∧ IsTildes item)
    (member : place ∈ places) :
    EndsWritten (moveBehindEnds items place).toList source ∧ ∀ other ∈ places,
      ∃ item, (moveBehindEnds items place)[other]? = some item ∧ IsTildes item := by
  obtain ⟨item, found, isTildes⟩ := tildes place member
  obtain ⟨before, closings, after, whole, all, moved⟩ := exists_moveBehindEnds found
  have closed : ∀ other ∈ closings, IsTildes other := fun other inside =>
    all other inside ▸ isTildes_closing
  constructor
  · rw [whole] at ends
    rw [moved]
    exact ends.rotate isTildes closed
  · intro other listed
    obtain ⟨former, isFormer, wasTildes⟩ := tildes other listed
    rw [← Array.getElem?_toList, whole, List.getElem?_append] at isFormer
    rw [← Array.getElem?_toList, moved, List.getElem?_append]
    split
    · rename_i inFront
      rw [if_pos inFront] at isFormer
      exact ⟨former, isFormer, wasTildes⟩
    · rename_i behind
      rw [if_neg behind, List.getElem?_append] at isFormer
      rw [List.getElem?_append]
      have same : (closings ++ [item]).length = (item :: closings).length := by simp
      rw [same]
      split
      · rename_i inside
        rw [← same] at inside
        refine ⟨_, List.getElem?_eq_getElem inside, ?_⟩
        rcases List.mem_append.mp (List.getElem_mem inside) with closing | last
        · exact closed _ closing
        · rw [List.mem_singleton.mp last]
          exact isTildes
      · rename_i beyond
        rw [if_neg beyond] at isFormer
        exact ⟨former, isFormer, wasTildes⟩

/-- Turning pairs of tildes into spans keeps how the end of a content is written, and its length. -/
theorem endsWritten_strikeOut (marked : Noted noted items.toList)
    (whole : Paired noted noted.size paired) (ends : EndsWritten items.toList source) :
    EndsWritten (strikeOut paired items).toList source ∧
      ∀ delimiter ∈ noted, delimiter.item < (strikeOut paired items).size := by
  have start : Striking noted source items [] := by
    refine ⟨ends, fun delimiter member => ?_, fun delimiter member isTilde => ?_, nofun⟩
    · rw [← Array.length_toList]
      exact marked.inside delimiter member
    · refine ⟨_, ?_, .text⟩
      rw [← Array.getElem?_toList]
      exact marked.strikes delimiter member isTilde
  rw [strikeOut, ← Array.foldl_toList]
  split
  rename_i items' places folded
  have struck : Striking noted source (items', places).1 (items', places).2 := by
    rw [← folded]
    refine List.foldlRecOn (motive := fun state : Array Inline × List Nat =>
      Striking noted source state.1 state.2) _ _ start
      fun state striking opener member => ?_
    rw [Array.mem_toList_iff] at member
    dsimp only
    split
    · exact striking
    · rename_i closer found
      split at found
      · rename_i isTilde
        rw [beq_iff_eq] at isTilde
        have closed := striking.pair whole member isTilde found
        split
        · rename_i lone
          exact closed.more lone
        · exact closed
      · cases found
  have moved := List.foldlRecOn (motive := fun items : Array Inline =>
    items.size = items'.size ∧ EndsWritten items.toList source ∧
      ∀ place ∈ places, ∃ item, items[place]? = some item ∧ IsTildes item) places moveBehindEnds
    ⟨rfl, struck.ends, struck.places⟩ fun items kept place member =>
      ⟨Array.size_swapIfInBounds.trans kept.1,
        endsWritten_moveBehindEnds kept.2.1 kept.2.2 member⟩
  refine ⟨moved.2.1, fun delimiter member => ?_⟩
  rw [moved.1]
  exact struck.inside delimiter member

/-! ## Emphasis -/

/-- Emphasis is something else than what it encloses. -/
theorem endsWritten_enclose {span : Span} (other : span ≠ .strikethrough)
    (ends : EndsWritten items.toList source) (opener closer : Delimiter) :
    EndsWritten (enclose items span opener closer).toList source := by
  have unwritable : isWritable (.opening span) = false ∧ isWritable (.closing span) = false := by
    cases span with
    | strikethrough => exact absurd rfl other
    | _ => exact ⟨rfl, rfl⟩
  rw [enclose, Array.toList_setIfInBounds, Array.toList_setIfInBounds]
  exact (ends.set_other unwritable.1 _).set_other unwritable.2 _

/-- In strong emphasis, the outer marks stand beside the inner ones, which stay without text. -/
theorem endsWritten_strong {before : Delimiter} (ends : EndsWritten items.toList source)
    (beside : before.item + 1 = opener.item) (ordered : opener.item < closer.item)
    (inside : closer.item < items.size) :
    EndsWritten (((enclose items .strong opener closer).setIfInBounds before.item
      (.text [])).setIfInBounds (closer.item + 1) (.text [])).toList source := by
  have opened : (enclose items .strong opener closer)[before.item + 1]? =
      some (.opening .strong) := by
    rw [enclose, beside, Array.getElem?_setIfInBounds_ne (Nat.ne_of_gt ordered),
      Array.getElem?_setIfInBounds_self_of_lt (Nat.lt_trans ordered inside)]
  have closed : ((enclose items .strong opener closer).setIfInBounds before.item
      (.text []))[closer.item]? = some (.closing .strong) := by
    have apart : before.item ≠ closer.item := by omega
    rw [Array.getElem?_setIfInBounds_ne apart, enclose,
      Array.getElem?_setIfInBounds_self_of_lt (by rwa [Array.size_setIfInBounds])]
  have enclosed : EndsWritten (enclose items .strong opener closer).toList source :=
    endsWritten_enclose (by decide) ends opener closer
  rw [← Array.getElem?_toList] at opened closed
  rw [Array.toList_setIfInBounds, Array.toList_setIfInBounds]
  have cleared := enclosed.set_before opened rfl (.text [])
  rw [Array.toList_setIfInBounds] at closed
  exact cleared.set_behind closed rfl

/-- A content stays as long as it is where a pair is turned into a span. -/
theorem size_enclose (items : Array Inline) (span : Span) (opener closer : Delimiter) :
    (enclose items span opener closer).size = items.size := by
  rw [enclose, Array.size_setIfInBounds, Array.size_setIfInBounds]

/-- Turning delimiters into emphasis keeps how the end of a content is written. -/
theorem endsWritten_emphasize (whole : Paired noted noted.size paired)
    (inside : ∀ delimiter ∈ noted, delimiter.item < items.size)
    (sorted : ∀ place index, place < index → index < noted.size →
      (noted.getD place default).item < (noted.getD index default).item)
    (ends : EndsWritten items.toList source) (bound : count ≤ noted.size) :
    EndsWritten (emphasize paired count items).toList source := by
  fun_induction emphasize paired count items with
  | case1 => exact ends
  | case2 => exact ends
  | case3 items opener closer => exact endsWritten_enclose (by decide) ends opener closer
  | case4 index items opener alone hypothesis =>
    exact hypothesis inside ends (Nat.le_of_succ_le bound)
  | case5 index items opener closer closes before strong items' items'' hypothesis =>
    have opens : closer? paired opener = some closer := by
      rw [emphasisCloser?] at closes
      split at closes
      · exact closes
      · cases closes
    obtain ⟨last, later, within, rfl, -⟩ := whole.closer?_eq_some opens
    have ordered := sorted (index + 1) last later within
    have bounded := inside _ (mem_getD within)
    rw [← whole.item, ← whole.item] at ordered
    rw [← whole.item] at bounded
    have beside : before.item + 1 = opener.item := by
      rw [isStrong] at strong
      split at strong
      · cases strong
      · simp only [Bool.and_eq_true, beq_iff_eq] at strong
        exact strong.1.2
    refine hypothesis (fun delimiter member => ?_) ?_ (by omega)
    · rw [Array.size_setIfInBounds, Array.size_setIfInBounds, size_enclose]
      exact inside delimiter member
    · exact endsWritten_strong ends beside ordered bounded
  | case6 index items opener closer closes before other hypothesis =>
    refine hypothesis (fun delimiter member => ?_) ?_ (Nat.le_of_succ_le bound)
    · rw [size_enclose]
      exact inside delimiter member
    · exact endsWritten_enclose (by decide) ends opener closer

/-- Turning delimiters into spans keeps how the end of a content is written. -/
theorem endsWritten_resolve (marked : Noted noted items.toList)
    (ends : EndsWritten items.toList source) :
    EndsWritten (resolve noted items).toList source := by
  have whole := paired_pair marked.single
  obtain ⟨struck, inside⟩ := endsWritten_strikeOut marked whole ends
  rw [resolve]
  exact endsWritten_emphasize whole inside (fun _ _ => marked.item_lt) struck
    (Nat.le_of_eq whole.size)

end Delimiter

end FoldMark.Markdown
