import FoldMark.Markdown.Inline.Delimiter

/-!
# Pairs of delimiters

Pairing changes neither the marks of delimiters nor their places in the content, and a delimiter is
paired with a later one of the same mark (`Delimiter.paired_pair`).
-/

namespace FoldMark.Markdown

variable {noted delimiters : Array Delimiter} {place index count : Nat} {delimiter : Delimiter}

/-- The delimiters that were noted, each with a later one of the same mark as its partner or none;
the first `count` may have been looked at. -/
structure Delimiter.Paired (noted : Array Delimiter) (count : Nat) (delimiters : Array Delimiter) :
    Prop where
  /-- There are as many. -/
  size : delimiters.size = noted.size
  /-- Their marks are those that were noted. -/
  mark : ∀ place, (delimiters.getD place default).mark = (noted.getD place default).mark
  /-- They stand where they were noted. -/
  item : ∀ place, (delimiters.getD place default).item = (noted.getD place default).item
  /-- A partner is a later delimiter of the same mark. -/
  partner : ∀ place index, (delimiters.getD place default).partner = some index →
    place < index ∧ index < count ∧
      (noted.getD index default).mark = (noted.getD place default).mark

namespace Delimiter.Paired

/-- A delimiter is replaced by one that was noted there and has a partner that is allowed. -/
theorem set (paired : Paired noted count delimiters)
    (mark : delimiter.mark = (noted.getD place default).mark)
    (item : delimiter.item = (noted.getD place default).item)
    (partner : ∀ index, delimiter.partner = some index → place < index ∧ index < count ∧
      (noted.getD index default).mark = (noted.getD place default).mark) :
    Paired noted count (delimiters.setIfInBounds place delimiter) := by
  have there (other : Nat) : (delimiters.setIfInBounds place delimiter).getD other default =
      delimiters.getD other default ∨
      other = place ∧
        (delimiters.setIfInBounds place delimiter).getD other default = delimiter := by
    simp only [Array.getD_eq_getD_getElem?, Array.getElem?_setIfInBounds]
    by_cases same : place = other
    · subst same
      by_cases inside : place < delimiters.size
      · exact Or.inr ⟨rfl, by simp [inside]⟩
      · exact Or.inl (by simp [inside])
    · exact Or.inl (by simp [same])
  constructor
  · rw [Array.size_setIfInBounds]
    exact paired.size
  · intro other
    rcases there other with kept | ⟨rfl, replaced⟩
    · rw [kept]
      exact paired.mark other
    · rw [replaced]
      exact mark
  · intro other
    rcases there other with kept | ⟨rfl, replaced⟩
    · rw [kept]
      exact paired.item other
    · rw [replaced]
      exact item
  · intro other index isPartner
    rcases there other with kept | ⟨rfl, replaced⟩
    · rw [kept] at isPartner
      exact paired.partner other index isPartner
    · rw [replaced] at isPartner
      exact partner index isPartner

/-- More delimiters may be looked at. -/
theorem succ (paired : Paired noted count delimiters) : Paired noted (count + 1) delimiters where
  size := paired.size
  mark := paired.mark
  item := paired.item
  partner := fun place index isPartner =>
    have ⟨later, inside, same⟩ := paired.partner place index isPartner
    ⟨later, Nat.lt_succ_of_lt inside, same⟩

end Delimiter.Paired

namespace Pairing

variable {state : Pairing}

/-- An opener stands among the delimiters that are looked at and has the mark of its closer. -/
theorem opener?_eq_some {closer : Delimiter} {floor steps : Nat}
    (found : state.opener? closer floor steps count = some place) :
    place < count ∧ (state.delimiters.getD place default).mark = closer.mark := by
  induction steps generalizing count with
  | zero => cases found
  | succ steps hypothesis =>
    rw [opener?] at found
    split at found
    · cases found
    dsimp only at found
    split at found
    · rename_i opens
      obtain rfl := Option.some.inj found
      simp only [Bool.and_eq_true, beq_iff_eq] at opens
      exact ⟨by omega, opens.1.1.1⟩
    · obtain ⟨inside, same⟩ := hypothesis found
      exact ⟨by omega, same⟩

/-- A delimiter is taken into account. -/
theorem step_paired (paired : Delimiter.Paired noted index state.delimiters)
    (started : state.runStart ≤ index) :
    Delimiter.Paired noted (index + 1) (state.step index).delimiters ∧
      (state.step index).runStart ≤ index := by
  have start : (if ((state.delimiters.getD state.runStart default).mark ==
      (state.delimiters.getD index default).mark &&
      state.runNext == some (state.delimiters.getD index default).item) = true then state.runStart
      else index) ≤ index := by
    split
    · exact started
    · exact Nat.le_refl index
  rw [step]
  dsimp only
  split
  · exact ⟨paired.succ, start⟩
  split
  · exact ⟨paired.succ, start⟩
  · rename_i place found
    obtain ⟨inside, same⟩ := opener?_eq_some found
    have before : place < index :=
      Nat.lt_of_lt_of_le inside (Nat.le_trans (Nat.sub_le ..) start)
    have same : (state.delimiters.getD place default).mark =
        (state.delimiters.getD index default).mark := same
    refine ⟨?_, start⟩
    refine Delimiter.Paired.set ?_ (paired.mark place) (paired.item place) ?_
    · refine paired.succ.set (paired.mark index) (paired.item index) fun later isPartner => ?_
      exact paired.succ.partner index later isPartner
    · intro later isPartner
      obtain rfl := Option.some.inj isPartner
      refine ⟨before, Nat.lt_succ_self _, ?_⟩
      rw [← paired.mark, ← paired.mark, same]

/-- Delimiters are taken into account one after the other. -/
theorem foldl_step_paired (paired : Delimiter.Paired noted 0 state.delimiters)
    (started : state.runStart = 0) (count : Nat) :
    Delimiter.Paired noted count ((List.range count).foldl step state).delimiters ∧
      ((List.range count).foldl step state).runStart ≤ count := by
  induction count with
  | zero => exact ⟨paired, Nat.le_of_eq started⟩
  | succ count hypothesis =>
    rw [List.range_succ, List.foldl_append]
    obtain ⟨next, before⟩ := step_paired hypothesis.1 hypothesis.2
    exact ⟨next, Nat.le_succ_of_le before⟩

end Pairing

/-- Delimiters without partners are paired. -/
theorem Delimiter.paired_pair (single : ∀ delimiter ∈ noted, delimiter.partner = none) :
    Paired noted noted.size (pair noted) := by
  have alone : Paired noted 0 noted := by
    refine ⟨rfl, fun _ => rfl, fun _ => rfl, fun place index isPartner => ?_⟩
    rw [Array.getD_eq_getD_getElem?] at isPartner
    cases found : noted[place]? with
    | none =>
      rw [found] at isPartner
      cases isPartner
    | some delimiter =>
      rw [found, Option.getD_some, single delimiter (Array.mem_of_getElem? found)] at isPartner
      cases isPartner
  exact (Pairing.foldl_step_paired alone rfl noted.size).1

end FoldMark.Markdown
