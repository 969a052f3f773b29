import FoldMark.Proofs.Outline.Wrapping

/-!
# Flattened documents

A document that has been folded and flattened is the document's own tokens with wrappers among them.
The blocks of a document stand in it one behind the other, and folding a run of them gives a word of
the grammar of marks for the positions of the run (`isMarked_of_standsFrom`): the blocks that a
section takes are a run, and it ends where the next block that closes its level stands.
-/

namespace FoldMark.Outline

open Markdown

/-! ## Blocks in front of other tokens -/

section Fronts

variable {selector : Selector} {tokens : List Token} {block : Block}

/-- The level of a heading is that of its first token. -/
theorem headingLevel?_of_isPrefix (ne_nil : block ≠ []) (isPrefix : block <+: tokens) :
    headingLevel? tokens = headingLevel? block := by
  obtain ⟨rest, rfl⟩ := isPrefix
  obtain ⟨first, others, rfl⟩ := List.exists_cons_of_ne_nil ne_nil
  rfl

/-- What ends a section is told by its first token. -/
theorem closes_of_isPrefix (ne_nil : block ≠ []) (isPrefix : block <+: tokens) (level : Nat) :
    Closes tokens level ↔ Closes block level := by
  rw [Closes, Closes, headingLevel?_of_isPrefix ne_nil isPrefix]
  obtain ⟨rest, rfl⟩ := isPrefix
  obtain ⟨first, others, rfl⟩ := List.exists_cons_of_ne_nil ne_nil
  refine or_congr_left ?_
  cases first with
  | opening element => cases element <;> rfl
  | _ => rfl

/-- The start of a section is told by the first token of its heading. -/
theorem summaryStart_of_isPrefix (ne_nil : block ≠ []) (isPrefix : block <+: tokens) :
    summaryStart tokens = summaryStart block := by
  obtain ⟨rest, rfl⟩ := isPrefix
  obtain ⟨first, others, rfl⟩ := List.exists_cons_of_ne_nil ne_nil
  cases first <;> rfl

/-- A heading is selected, whatever stands behind it. -/
theorem selectedAt_of_isPrefix (plain : IsPlainBlock block) (ne_nil : block ≠ [])
    (isPrefix : block <+: tokens) (level : Nat) :
    SelectedAt selector tokens level ↔ SelectedAt selector block level := by
  rw [SelectedAt, SelectedAt, headingLevel?_of_isPrefix ne_nil isPrefix]
  refine and_congr_right fun leveled => ?_
  obtain ⟨opener, source, content, other, hidden, rfl⟩ := plain level leveled
  obtain ⟨rest, rfl⟩ := isPrefix
  rfl

/-- The tokens of a block are those at its positions. -/
theorem map_some_of_isPrefix {start : Nat} (isPrefix : block <+: tokens.drop start) :
    block.map some = ((List.range' start block.length).map Mark.kept).map (Mark.token? tokens) := by
  obtain ⟨rest, whole⟩ := isPrefix
  refine List.ext_getElem? fun index => ?_
  by_cases inside : index < block.length
  · have found : tokens[start + index]? = some block[index] := by
      rw [← List.getElem?_drop, ← whole, List.getElem?_append_left inside,
        List.getElem?_eq_getElem inside]
    simp [inside, Mark.token?, found]
  · simp [inside]

/-- The tokens of a section are those of a wrapper around the text of the heading and around the
tokens of the body. -/
theorem map_some_tokens_fold {start : Nat} {opener closer : Token} {source : List Char}
    {content : List Inline}
    (isPrefix : [opener, .inline source content, closer] <+: tokens.drop start)
    (body : List Node) :
    (Node.fold [opener, .inline source content, closer] body).tokens.map some =
      Mark.token? tokens (.wrapper .summaryStart start) ::
        Mark.token? tokens (.kept (start + 1)) ::
          Mark.token? tokens (.wrapper .summaryStop start) ::
            ((flatten body).map some ++ [Mark.token? tokens (.wrapper .detailsStop start)]) := by
  have text : tokens[start + 1]? = some (.inline source content) := by
    obtain ⟨more, whole⟩ := isPrefix
    rw [← List.getElem?_drop, ← whole]
    rfl
  simp [Node.tokens, headingInline, Mark.token?, text,
    summaryStart_of_isPrefix (List.cons_ne_nil _ _) isPrefix]

end Fronts

/-! ## Folding a run of blocks -/

/-- Where an unselected block stands, no token is the start or the end of a selected heading. -/
theorem not_isEdge_of_unselected {selector : Option Selector} {tokens : List Token}
    (headings : HasPlainHeadings tokens) {start stop : Nat} (top : IsTop tokens start)
    (within : ∀ position, start < position → position < stop → ¬ IsTop tokens position)
    (unselected : ¬ WrappedAt selector tokens start) (position : Nat) (after : start ≤ position)
    (inside : position < stop) : ¬ IsEdge selector tokens position := by
  have no_heading : ∀ other, start ≤ other → other < stop → ¬ WrappedAt selector tokens other := by
    intro other after inside wrapped
    by_cases first : other = start
    · exact unselected (first ▸ wrapped)
    · exact within other (by omega) inside wrapped.1
  rintro (wrapped | ⟨heading, rfl, wrapped⟩)
  · exact no_heading position after inside wrapped
  · by_cases before : start ≤ heading
    · exact no_heading heading before (by omega) wrapped
    · have top : depth Token.nesting tokens start = 0 := top
      obtain ⟨first, second, _⟩ := wrapped.depth_eq headings
      obtain rfl | rfl : start = heading + 1 ∨ start = heading + 2 := by omega
      · omega
      · omega

/-- Among blocks that close no section of a level, none of these sections ends. -/
theorem not_closesAt_of_taken {tokens : List Token} {start level : Nat} {taken : List Block}
    (stands : StandsFrom Token.nesting tokens start taken)
    (taken_open : ∀ found ∈ taken, ¬ Closes found level) (position : Nat) (after : start ≤ position)
    (inside : position < start + taken.flatten.length) : ¬ ClosesAt tokens position level := by
  rintro ⟨top, closes⟩
  obtain ⟨found, member, ne_nil, isPrefix⟩ := stands.exists_block after inside top
  exact taken_open found member ((closes_of_isPrefix ne_nil isPrefix level).mp closes)

/-- Blocks of which the first closes a level are none, or stand where its sections end. -/
theorem closesAt_of_dropped {tokens : List Token} {start level : Nat} {dropped : List Block}
    (stands : StandsFrom Token.nesting tokens start dropped)
    (dropped_closes : ∀ found, dropped[0]? = some found → Closes found level) :
    start = start + dropped.flatten.length ∨ ClosesAt tokens start level := by
  cases stands with
  | nil => exact Or.inl rfl
  | cons isPrefix ne_nil top _ _ =>
    exact Or.inr ⟨top, (closes_of_isPrefix ne_nil isPrefix level).mpr (dropped_closes _ rfl)⟩

/-- Blocks from a position on, folded and flattened, are the tokens of marks that follow the
grammar. -/
def IsMarked (own : Selector) (tokens : List Token) (start : Nat) (blocks : List Block) : Prop :=
  ∃ marks, Wraps (some own) tokens start (start + blocks.flatten.length) marks ∧
    (flatten (foldSelected own (blocks.map .block))).map some = marks.map (Mark.token? tokens)

section Marked

variable {own : Selector} {tokens : List Token} {start level : Nat} {block : Block}
  {rest taken dropped : List Block}

/-- No blocks are no marks. -/
theorem isMarked_nil : IsMarked own tokens start [] := ⟨[], .nil start, by simp [flatten]⟩

/-- Where a selected block stands, a heading is wrapped. -/
theorem wrappedAt_iff_of_isPrefix (plain : IsPlainBlock block) (ne_nil : block ≠ [])
    (isPrefix : block <+: tokens.drop start) (top : IsTop tokens start) :
    WrappedAt (some own) tokens start ↔ ∃ level, SelectedAt own block level := by
  constructor
  · rintro ⟨_, other, same, level, selected⟩
    obtain rfl : own = other := Option.some.inj same
    exact ⟨level, (selectedAt_of_isPrefix plain ne_nil isPrefix level).mp selected⟩
  · rintro ⟨level, selected⟩
    exact ⟨top, own, rfl, level, (selectedAt_of_isPrefix plain ne_nil isPrefix level).mpr selected⟩

/-- An unselected block is kept in front of the marks of the others. -/
theorem IsMarked.cons_unselected (headings : HasPlainHeadings tokens)
    (stands : StandsFrom Token.nesting tokens start (block :: rest)) (plain : IsPlainBlock block)
    (unselected : (Node.block block).selectedLevel? own = none)
    (behind : IsMarked own tokens (start + block.length) rest) :
    IsMarked own tokens start (block :: rest) := by
  obtain ⟨marks, wraps, tokens_eq⟩ := behind
  cases stands with
  | cons isPrefix ne_nil top within _ =>
    have unwrapped : ¬ WrappedAt (some own) tokens start := by
      rw [wrappedAt_iff_of_isPrefix plain ne_nil isPrefix top]
      rintro ⟨level, selected⟩
      rw [(selectedLevel?_block level).mpr selected] at unselected
      cases unselected
    refine ⟨(List.range' start block.length).map .kept ++ marks, Wraps.keep_range ?_ ?_, ?_⟩
    · exact not_isEdge_of_unselected headings top within unwrapped
    · rwa [List.flatten_cons, List.length_append, ← Nat.add_assoc]
    · rw [List.map_cons, foldSelected_of_unselected _ unselected, flatten, Node.tokens,
        List.map_append, tokens_eq, map_some_of_isPrefix isPrefix, List.map_append]

/-- No section of the level of a heading ends from behind its start up to the end of the blocks that
it takes. -/
theorem not_closesAt_of_stands
    (stands : StandsFrom Token.nesting tokens start (block :: (taken ++ dropped)))
    (taken_open : ∀ found ∈ taken, ¬ Closes found level) (position : Nat) (later : start < position)
    (inside : position < start + block.length + taken.flatten.length) :
    ¬ ClosesAt tokens position level := by
  cases stands with
  | cons _ _ _ within behind =>
    intro closes
    by_cases within_heading : position < start + block.length
    · exact within position later within_heading closes.1
    · exact not_closesAt_of_taken behind.append_left taken_open position (by omega) inside closes

/-- A selected heading and the blocks that it takes are a wrapper in front of the marks of the
others. -/
theorem IsMarked.cons_selected
    (stands : StandsFrom Token.nesting tokens start (block :: (taken ++ dropped)))
    (plain : IsPlainBlock block) (selected : SelectedAt own block level)
    (taken_open : ∀ found ∈ taken, ¬ Closes found level)
    (dropped_closes : ∀ found, dropped[0]? = some found → Closes found level)
    (folded : foldSelected own ((block :: (taken ++ dropped)).map .block) =
      .fold block (foldSelected own (taken.map .block)) :: foldSelected own (dropped.map .block))
    (body : IsMarked own tokens (start + block.length) taken)
    (after : IsMarked own tokens (start + block.length + taken.flatten.length) dropped) :
    IsMarked own tokens start (block :: (taken ++ dropped)) := by
  have isOpen := not_closesAt_of_stands stands taken_open
  obtain ⟨inner, body, inner_eq⟩ := body
  obtain ⟨outer, after, outer_eq⟩ := after
  cases stands with
  | cons isPrefix ne_nil top _ behind =>
    have wrapped : WrappedAt (some own) tokens start :=
      (wrappedAt_iff_of_isPrefix plain ne_nil isPrefix top).mpr ⟨level, selected⟩
    have leveled : headingLevel? (tokens.drop start) = some level :=
      (headingLevel?_of_isPrefix ne_nil isPrefix).trans selected.1
    have ends := closesAt_of_dropped behind.append_right dropped_closes
    have stop_eq : start + (block :: (taken ++ dropped)).flatten.length =
        start + block.length + taken.flatten.length + dropped.flatten.length := by
      simp only [List.flatten_cons, List.flatten_append, List.length_append, Nat.add_assoc]
    rw [IsMarked, stop_eq, folded, flatten, List.map_append, outer_eq]
    obtain ⟨opener, source, content, other, hidden, rfl⟩ := plain level selected.1
    refine ⟨_, Wraps.wrap wrapped leveled isOpen ends body after, ?_⟩
    rw [map_some_tokens_fold isPrefix, inner_eq]
    simp

end Marked

/-- Flattening folded blocks that stand among the tokens of a document gives the tokens of marks
that follow the grammar. Along the recursion of folding, the blocks that a section takes stand in
the document as a run of their own, and so do those that are left. -/
theorem isMarked_of_standsFrom {tokens : List Token} (headings : HasPlainHeadings tokens)
    (own : Selector) (blocks : List Block) (start : Nat)
    (stands : StandsFrom Token.nesting tokens start blocks)
    (plain : ∀ block ∈ blocks, IsPlainBlock block) : IsMarked own tokens start blocks := by
  generalize nodes_eq : blocks.map Node.block = nodes
  induction nodes using foldSelected.induct own generalizing blocks start with
  | case1 =>
    obtain rfl := List.map_eq_nil_iff.mp nodes_eq
    exact isMarked_nil
  | case2 node rest unselected hypothesis =>
    obtain ⟨block, rest, rfl, rfl, rfl⟩ := List.map_eq_cons_iff.mp nodes_eq
    rw [List.forall_mem_cons] at plain
    exact .cons_unselected headings stands plain.1 unselected
      (hypothesis rest _ stands.tail plain.2 rfl)
  | case3 node rest level selected takenHypothesis droppedHypothesis =>
    obtain ⟨block, rest, rfl, rfl, rfl⟩ := List.map_eq_cons_iff.mp nodes_eq
    obtain ⟨taken, dropped, rfl, taken_eq, dropped_eq, taken_open, dropped_closes⟩ :=
      exists_cut level rest
    rw [List.forall_mem_cons, List.forall_mem_append] at plain
    refine .cons_selected stands plain.1 ((selectedLevel?_block level).mp selected) taken_open
      dropped_closes ?_ ?_ ?_
    · rw [List.map_cons, foldSelected_of_selected _ selected, taken_eq, dropped_eq, Node.front]
    · exact takenHypothesis taken _ stands.tail.append_left plain.2.1 taken_eq.symm
    · exact droppedHypothesis dropped _ stands.tail.append_right plain.2.2 dropped_eq.symm

/-! ## Flattening a document -/

/-- A sequence of tokens is what a document becomes when the sections of the selected headings are
folded and flattened, where `marks` says which of its tokens is which. -/
structure IsFlattening (selector : Option Selector) (tokens : List Token) (marks : List Mark)
    (flat : List Token) : Prop where
  /-- Each token is that of a mark. -/
  tokens_eq : flat.map some = marks.map (Mark.token? tokens)
  /-- All tokens of the document are kept but the starts and the ends of the selected headings. -/
  mem_kept_iff : ∀ position, .kept position ∈ marks ↔
    position < tokens.length ∧ ¬ IsEdge selector tokens position
  /-- They are in their order. -/
  ascending : (marks.filterMap Mark.position?).Pairwise (· < ·)
  /-- The wrappers are those of the selected headings, and each has all its parts. -/
  mem_wrapper_iff : ∀ part heading, .wrapper part heading ∈ marks ↔
    WrappedAt selector tokens heading
  /-- No part stands twice. -/
  nodup : marks.Nodup
  /-- What is opened last is closed first, and everything is closed. -/
  nested : marks.foldlM Bracket.read [] = some []
  /-- A summary is around the text of its heading, and a section goes up to what ends it. -/
  wraps : Wraps selector tokens 0 tokens.length marks

section Documents

variable {selector : Option Selector} {tokens flat : List Token} {marks : List Mark}

/-- What follows the grammar of marks is a flattened document. -/
theorem Wraps.isFlattening (headings : HasPlainHeadings tokens)
    (wraps : Wraps selector tokens 0 tokens.length marks)
    (tokens_eq : flat.map some = marks.map (Mark.token? tokens)) :
    IsFlattening selector tokens marks flat := by
  refine ⟨tokens_eq, fun position => ?_, wraps.ascending headings, fun part heading => ?_,
    wraps.nodup headings, wraps.read_eq [], wraps⟩
  · rw [wraps.mem_kept_iff headings]
    simp
  · rw [wraps.mem_wrapper_iff headings]
    exact ⟨fun found => found.2.2, fun wrapped => ⟨Nat.zero_le _, wrapped.lt_length, wrapped⟩⟩

/-- A flattened document opens and closes as its marks do. -/
theorem depth_eq_of_tokens_eq (tokens_eq : flat.map some = marks.map (Mark.token? tokens))
    (position : Nat) :
    depth Token.nesting flat position = depth (Mark.nesting tokens) marks position := by
  have nestings_eq : flat.map Token.nesting = marks.map (Mark.nesting tokens) :=
    calc flat.map Token.nesting
      _ = (flat.map some).map fun found => (found.map Token.nesting).getD 0 := by simp
      _ = marks.map (Mark.nesting tokens) := by rw [tokens_eq, List.map_map]; rfl
  rw [depth, depth, List.map_take, List.map_take, nestings_eq]

/-- A flattened document is balanced if the document is. -/
theorem IsFlattening.isBalanced (headings : HasPlainHeadings tokens)
    (flattening : IsFlattening selector tokens marks flat) (balanced : IsBalanced tokens) :
    IsBalanced flat := by
  have length_eq : flat.length = marks.length := by
    simpa using congrArg List.length flattening.tokens_eq
  refine ⟨fun position => ?_, ?_⟩
  · obtain ⟨other, same⟩ := flattening.wraps.exists_depth_eq headings position
    rw [depth_zero, Int.zero_add] at same
    rw [depth_eq_of_tokens_eq flattening.tokens_eq, same]
    exact balanced.1 other
  · have whole := flattening.wraps.depth_length headings
    rw [depth_zero, Int.zero_add] at whole
    rw [IsTop, depth_eq_of_tokens_eq flattening.tokens_eq, length_eq, whole]
    exact balanced.2

/-- All tokens of a document, each kept. -/
theorem map_some_eq_range (tokens : List Token) :
    tokens.map some =
      ((List.range' 0 tokens.length).map Mark.kept).map (Mark.token? tokens) :=
  map_some_of_isPrefix (List.prefix_refl tokens)

/-- A flattened document in which no heading is selected is the document. -/
theorem IsFlattening.eq_self (flattening : IsFlattening selector tokens marks flat)
    (unselected : ∀ position, ¬ WrappedAt selector tokens position) : flat = tokens := by
  have same := flattening.tokens_eq
  rw [flattening.wraps.eq_range unselected, Nat.sub_zero, ← map_some_eq_range] at same
  exact List.map_injective_iff.mpr (Option.some_injective _) same

/-- Folding and flattening a document gives the tokens of marks that follow the grammar. -/
theorem exists_marks_transform (headings : HasPlainHeadings tokens) (selector : Option Selector) :
    ∃ marks, Wraps selector tokens 0 tokens.length marks ∧
      (transform tokens selector).map some = marks.map (Mark.token? tokens) := by
  cases selector with
  | none =>
    refine ⟨(List.range' 0 tokens.length).map .kept ++ [], Wraps.keep_range ?_ ?_, ?_⟩
    · rintro position _ _ (⟨_, _, impossible, _⟩ | ⟨_, _, _, _, impossible, _⟩)
      · cases impossible
      · cases impossible
    · rw [Nat.zero_add]
      exact .nil _
    · rw [transform, List.append_nil, map_some_eq_range]
  | some own =>
    have whole : 0 + (split Token.nesting tokens).flatten.length = tokens.length := by
      rw [flatten_split, Nat.zero_add]
    rw [← whole]
    exact isMarked_of_standsFrom headings own _ 0 (standsFrom_split _ _) headings

end Documents

/-- Flattening keeps the tokens of a document and nests the wrappers. If every heading at the top
level is its start, one token of running text and its end, then for every selector the folded and
flattened document consists of the document's tokens in their order without the starts and the ends
of the selected headings, and of the three parts of a wrapper for each of these: its section and its
summary start directly in front of the running text, the summary ends directly behind it, and the
section ends in front of what ends the sections of its level. Wrappers are nested in each other. The
result is balanced if the document is, and it is the document if no heading is selected. -/
theorem transform_wraps (tokens : List Token) (headings : HasPlainHeadings tokens)
    (selector : Option Selector) :
    (∃ marks, IsFlattening selector tokens marks (transform tokens selector)) ∧
      (IsBalanced tokens → IsBalanced (transform tokens selector)) ∧
      ((∀ position, ¬ WrappedAt selector tokens position) →
        transform tokens selector = tokens) := by
  obtain ⟨marks, wraps, tokens_eq⟩ := exists_marks_transform headings selector
  have flattening := wraps.isFlattening headings tokens_eq
  exact ⟨⟨marks, flattening⟩, flattening.isBalanced headings, flattening.eq_self⟩

/-- A second heading that lies in the section of a first one has a section of its own, and a heading
in a quotation has none. -/
theorem transform_wraps_nested :
    let heading (level : Nat) : List Token :=
      [.start (.heading level), .inline ['a'] [], .stop (.heading level)]
    let tokens : List Token := heading 1 ++ [.rule] ++ heading 2 ++
      ([.start .quotation] ++ heading 2 ++ [.stop .quotation]) ++ heading 1
    let selector : Selector := ⟨[1, 2], none, rfl, by decide⟩
    HasPlainHeadings tokens ∧ IsBalanced tokens ∧ IsBalanced (transform tokens (some selector)) ∧
      ∃ marks, IsFlattening (some selector) tokens marks (transform tokens (some selector)) := by
  intro heading tokens selector
  have headings : HasPlainHeadings tokens := by
    have blocks_eq : split Token.nesting tokens =
        [heading 1, [.rule], heading 2, [.start .quotation] ++ heading 2 ++ [.stop .quotation],
          heading 1] := rfl
    have plain : ∀ level, IsPlainBlock (heading level) := fun _ _ _ => ⟨_, _, _, _, _, rfl⟩
    rw [HasPlainHeadings, blocks_eq]
    simp only [List.forall_mem_cons, List.not_mem_nil, false_implies, implies_true, and_true]
    exact ⟨plain 1, nofun, plain 2, nofun, plain 1⟩
  have balanced : IsBalanced tokens := by
    have upTo : ∀ position ≤ tokens.length, 0 ≤ depth Token.nesting tokens position := by decide
    refine ⟨fun position => ?_, rfl⟩
    by_cases inside : position ≤ tokens.length
    · exact upTo position inside
    · rw [depth, List.take_of_length_le (Nat.le_of_not_le inside)]
      decide
  obtain ⟨flattening, stays, _⟩ := transform_wraps tokens headings (some selector)
  exact ⟨headings, balanced, stays balanced, flattening⟩

end FoldMark.Outline
