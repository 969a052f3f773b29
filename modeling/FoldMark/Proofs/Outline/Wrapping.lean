import FoldMark.Proofs.Outline.Ownership
import FoldMark.Proofs.Outline.Splitting
import Mathlib

/-!
# Wrapped headings

How the tokens of a document and the wrappers of its sections stand among each other. A flattened
document is a sequence of marks: a token of the document by its position, or a part of the wrapper
of a heading by the position of that heading. `Wraps` is the grammar of these sequences, told of the
document's tokens alone: a selected heading is replaced by its running text within a wrapper, and
the wrapper ends in front of the first token at the top level that ends the section. From the
grammar follow, by one induction each, which tokens are left, that every wrapper has all its parts
once, that wrappers are nested, and that the nesting of the tokens stays what it was.
-/

namespace FoldMark.Outline

open Markdown

/-! ## Positions in a document -/

/-- Nothing is open at a position of a document. -/
def IsTop (tokens : List Token) (position : Nat) : Prop := depth Token.nesting tokens position = 0

/-- A heading that is selected starts at a position, at the top level. -/
def WrappedAt (selector : Option Selector) (tokens : List Token) (position : Nat) : Prop :=
  IsTop tokens position ∧
    ∃ own ∈ selector, ∃ level, SelectedAt own (tokens.drop position) level

/-- Something that ends the sections of a level starts at a position, at the top level. -/
def ClosesAt (tokens : List Token) (position level : Nat) : Prop :=
  IsTop tokens position ∧ Closes (tokens.drop position) level

/-- A token is the start or the end of a heading that is selected. -/
def IsEdge (selector : Option Selector) (tokens : List Token) (position : Nat) : Prop :=
  WrappedAt selector tokens position ∨
    ∃ heading, position = heading + 2 ∧ WrappedAt selector tokens heading

/-- A block that is a heading is its start, one token of running text, and its end. -/
def IsPlainBlock (block : Block) : Prop :=
  ∀ level, headingLevel? block = some level → ∃ opener source content other hidden,
    block = [opener, .inline source content, .closing (.heading other) hidden]

/-- Every heading at the top level is its start, one token of running text, and its end. -/
def HasPlainHeadings (tokens : List Token) : Prop :=
  ∀ block ∈ split Token.nesting tokens, IsPlainBlock block

/-- What is closed has been opened before, and what is opened is closed. -/
def IsBalanced (tokens : List Token) : Prop :=
  (∀ position, 0 ≤ depth Token.nesting tokens position) ∧ IsTop tokens tokens.length

/-! ## Marks -/

/-- A part of the wrapper around a section. -/
inductive Wrapper where
  /-- The start of the section and of its summary. -/
  | summaryStart
  /-- The end of the summary. -/
  | summaryStop
  /-- The end of the section. -/
  | detailsStop
  deriving DecidableEq

/-- A token of a flattened document, by where it comes from. -/
inductive Mark where
  /-- The token at a position of the document. -/
  | kept (position : Nat)
  /-- A part of the wrapper of the heading at a position. -/
  | wrapper (part : Wrapper) (heading : Nat)
  deriving DecidableEq

namespace Mark

/-- The position of a token that is kept. -/
def position? : Mark → Option Nat
  | kept position => some position
  | wrapper .. => none

/-- The positions of the tokens that are kept are those of their marks. -/
theorem mem_positions (marks : List Mark) (position : Nat) :
    position ∈ marks.filterMap position? ↔ kept position ∈ marks := by
  rw [List.mem_filterMap]
  constructor
  · rintro ⟨mark, member, same⟩
    cases mark with
    | kept other => rwa [Option.some.inj same] at member
    | wrapper => cases same
  · exact fun member => ⟨_, member, rfl⟩

/-- The token of a mark. -/
def token? (tokens : List Token) : Mark → Option Token
  | kept position => tokens[position]?
  | wrapper .summaryStart heading => some (Outline.summaryStart (tokens.drop heading))
  | wrapper .summaryStop _ => some Outline.summaryStop
  | wrapper .detailsStop _ => some Outline.detailsStop

/-- The nesting of the token of a mark. -/
def nesting (tokens : List Token) (mark : Mark) : Int :=
  ((mark.token? tokens).map Token.nesting).getD 0

/-- A token adds its nesting to the depth. -/
theorem depth_succ (tokens : List Token) (position : Nat) :
    depth Token.nesting tokens (position + 1) =
      depth Token.nesting tokens position + (kept position).nesting tokens := by
  rw [depth_add]
  congr 1
  rw [nesting, token?, ← List.head?_drop]
  cases tokens.drop position <;> simp [depth]

/-- The parts of a wrapper do not nest. -/
@[simp] theorem nesting_wrapper (tokens : List Token) (part : Wrapper) (heading : Nat) :
    (wrapper part heading).nesting tokens = 0 := by
  cases part <;> rfl

end Mark

/-- What a wrapper opens. -/
inductive Bracket where
  /-- The summary of the section of a heading. -/
  | summary (heading : Nat)
  /-- The section of a heading. -/
  | details (heading : Nat)
  deriving DecidableEq

/-- Reads a mark with what is open on a stack: a wrapper can only close what was opened last. -/
def Bracket.read : List Bracket → Mark → Option (List Bracket)
  | opened, .kept _ => some opened
  | opened, .wrapper .summaryStart heading => some (summary heading :: details heading :: opened)
  | summary other :: opened, .wrapper .summaryStop heading =>
    if other = heading then some opened else none
  | details other :: opened, .wrapper .detailsStop heading =>
    if other = heading then some opened else none
  | _, _ => none

/-! ## The grammar of marks -/

/-- The marks for the tokens from one position to another. -/
inductive Wraps (selector : Option Selector) (tokens : List Token) :
    Nat → Nat → List Mark → Prop where
  /-- Nothing is left. -/
  | nil (position : Nat) : Wraps selector tokens position position []
  /-- A token that belongs to no selected heading is kept. -/
  | keep {start stop : Nat} {marks : List Mark} (plain : ¬ IsEdge selector tokens start)
      (rest : Wraps selector tokens (start + 1) stop marks) :
      Wraps selector tokens start stop (.kept start :: marks)
  /-- A selected heading is its running text, and its section goes on until something ends it. -/
  | wrap {start middle stop level : Nat} {inner outer : List Mark}
      (wrapped : WrappedAt selector tokens start)
      (leveled : headingLevel? (tokens.drop start) = some level)
      (isOpen : ∀ position, start < position → position < middle →
        ¬ ClosesAt tokens position level)
      (ends : middle = stop ∨ ClosesAt tokens middle level)
      (body : Wraps selector tokens (start + 3) middle inner)
      (rest : Wraps selector tokens middle stop outer) :
      Wraps selector tokens start stop
        (.wrapper .summaryStart start :: .kept (start + 1) :: .wrapper .summaryStop start ::
          (inner ++ .wrapper .detailsStop start :: outer))

section Headings

variable {selector : Option Selector} {tokens : List Token} {heading : Nat}

/-- A selected heading is one of the tokens. -/
theorem WrappedAt.lt_length (wrapped : WrappedAt selector tokens heading) :
    heading < tokens.length := by
  obtain ⟨_, _, _, level, leveled, _⟩ := wrapped
  refine Nat.lt_of_not_le fun behind => ?_
  rw [List.drop_eq_nil_of_le behind] at leveled
  cases leveled

/-- A selected heading is its start, one token of running text, and its end. -/
theorem WrappedAt.exists_drop (headings : HasPlainHeadings tokens)
    (wrapped : WrappedAt selector tokens heading) :
    ∃ opener source content other hidden rest, opener.nesting = 1 ∧
      tokens.drop heading =
        opener :: .inline source content :: .closing (.heading other) hidden :: rest := by
  have inside := wrapped.lt_length
  obtain ⟨top, own, _, level, leveled, _⟩ := wrapped
  obtain ⟨block, member, ne_nil, rest, whole⟩ :=
    (standsFrom_split Token.nesting tokens).exists_block (Nat.zero_le heading)
      (by simpa [flatten_split] using inside) top
  obtain ⟨first, others, rfl⟩ := List.exists_cons_of_ne_nil ne_nil
  have same : headingLevel? (first :: others) = some level := by
    rwa [← whole] at leveled
  obtain ⟨opener, source, content, other, hidden, same_block⟩ := headings _ member level same
  obtain ⟨rfl, rfl⟩ := List.cons.inj same_block
  refine ⟨first, source, content, other, hidden, rest, ?_, whole.symm⟩
  cases first with
  | opening => rfl
  | _ => cases same

/-- Between the tokens of a selected heading something is open, and behind them nothing is. -/
theorem WrappedAt.depth_eq (headings : HasPlainHeadings tokens)
    (wrapped : WrappedAt selector tokens heading) :
    depth Token.nesting tokens (heading + 1) = 1 ∧ depth Token.nesting tokens (heading + 2) = 1 ∧
      depth Token.nesting tokens (heading + 3) = 0 := by
  obtain ⟨opener, source, content, other, hidden, rest, opens, whole⟩ :=
    wrapped.exists_drop headings
  have top : depth Token.nesting tokens heading = 0 := wrapped.1
  have text : (Token.inline source content).nesting = 0 := rfl
  have closer : (Token.closing (.heading other) hidden).nesting = -1 := rfl
  simp [depth_add, whole, top, opens, text, closer]

/-- A selected heading is left as its running text: only its start and its end are edges. -/
theorem WrappedAt.isEdge_iff (headings : HasPlainHeadings tokens)
    (wrapped : WrappedAt selector tokens heading) {position : Nat} (after : heading ≤ position)
    (inside : position < heading + 3) :
    IsEdge selector tokens position ↔ position ≠ heading + 1 := by
  obtain ⟨first, second, _⟩ := wrapped.depth_eq headings
  have top : depth Token.nesting tokens heading = 0 := wrapped.1
  constructor
  · rintro (found | ⟨other, same, found⟩) rfl
    · have top_here : depth Token.nesting tokens (heading + 1) = 0 := found.1
      omega
    · obtain rfl : heading = other + 1 := by omega
      have open_here := (found.depth_eq headings).1
      omega
  · intro apart
    by_cases same : position = heading
    · exact Or.inl (same ▸ wrapped)
    · exact Or.inr ⟨heading, by omega, wrapped⟩

/-- Within a selected heading no other starts. -/
theorem WrappedAt.wrappedAt_iff (headings : HasPlainHeadings tokens)
    (wrapped : WrappedAt selector tokens heading) {position : Nat} (after : heading ≤ position)
    (inside : position < heading + 3) :
    WrappedAt selector tokens position ↔ position = heading := by
  obtain ⟨first, second, _⟩ := wrapped.depth_eq headings
  refine ⟨fun found => ?_, fun same => same ▸ wrapped⟩
  have top : depth Token.nesting tokens position = 0 := found.1
  obtain same | same | same : position = heading ∨ position = heading + 1 ∨
    position = heading + 2 := by omega
  · exact same
  · rw [same] at top
    omega
  · rw [same] at top
    omega

/-- The running text of a selected heading does not nest. -/
theorem WrappedAt.nesting_text (headings : HasPlainHeadings tokens)
    (wrapped : WrappedAt selector tokens heading) :
    (Mark.kept (heading + 1)).nesting tokens = 0 := by
  obtain ⟨first, second, _⟩ := wrapped.depth_eq headings
  have text : depth Token.nesting tokens (heading + 2) = _ := Mark.depth_succ tokens (heading + 1)
  omega

/-- The marks of a selected heading, up to those of its section, do not nest. -/
theorem WrappedAt.depth_marks (headings : HasPlainHeadings tokens)
    (wrapped : WrappedAt selector tokens heading) (marks : List Mark) (position : Nat) :
    depth (Mark.nesting tokens) (.wrapper .summaryStart heading :: .kept (heading + 1) ::
      .wrapper .summaryStop heading :: marks) (position + 3) =
        depth (Mark.nesting tokens) marks position := by
  simp [wrapped.nesting_text headings]

end Headings

/-! ## What the grammar says -/

namespace Wraps

variable {selector : Option Selector} {tokens : List Token} {start stop : Nat} {marks : List Mark}

/-- Marks go forwards. -/
theorem le (wraps : Wraps selector tokens start stop marks) : start ≤ stop := by
  induction wraps with
  | nil => exact Nat.le_refl _
  | keep _ _ hypothesis => omega
  | wrap _ _ _ _ _ _ body rest => omega

/-- Tokens that are no edges are kept, in front of what follows. -/
theorem keep_range {count : Nat}
    (plain : ∀ position, start ≤ position → position < start + count →
      ¬ IsEdge selector tokens position)
    (rest : Wraps selector tokens (start + count) stop marks) :
    Wraps selector tokens start stop ((List.range' start count).map .kept ++ marks) := by
  induction count generalizing start with
  | zero => simpa using rest
  | succ count hypothesis =>
    rw [List.range'_succ, List.map_cons, List.cons_append]
    refine .keep (plain start (Nat.le_refl _) (by omega)) (hypothesis ?_ ?_)
    · exact fun position after inside => plain position (by omega) (by omega)
    · rwa [Nat.add_assoc, Nat.add_comm 1]

/-- Where no heading is selected, each token is kept. -/
theorem eq_range (unselected : ∀ position, ¬ WrappedAt selector tokens position)
    (wraps : Wraps selector tokens start stop marks) :
    marks = (List.range' start (stop - start)).map .kept := by
  induction wraps with
  | nil => simp
  | @keep start stop marks _ rest hypothesis =>
    have more := rest.le
    obtain ⟨count, rfl⟩ : ∃ count, stop = start + 1 + count := ⟨stop - (start + 1), by omega⟩
    rw [hypothesis, Nat.add_sub_cancel_left, Nat.add_assoc, Nat.add_sub_cancel_left,
      Nat.add_comm 1, List.range'_succ, List.map_cons]
  | wrap wrapped => exact absurd wrapped (unselected _)

/-- A token is kept if and only if it is neither the start nor the end of a selected heading. -/
theorem mem_kept_iff (headings : HasPlainHeadings tokens)
    (wraps : Wraps selector tokens start stop marks) (position : Nat) :
    .kept position ∈ marks ↔
      start ≤ position ∧ position < stop ∧ ¬ IsEdge selector tokens position := by
  induction wraps with
  | nil =>
    simp only [List.not_mem_nil, false_iff]
    omega
  | @keep start stop marks plain rest hypothesis =>
    have more := rest.le
    rw [List.mem_cons, hypothesis, Mark.kept.injEq]
    by_cases first : position = start
    · subst first
      simp only [true_or, true_iff]
      exact ⟨Nat.le_refl _, by omega, plain⟩
    · simp only [first, false_or, ← and_assoc]
      exact and_congr_left fun _ => by omega
  | @wrap start middle stop level inner outer wrapped _ _ _ body rest within behind =>
    have first := body.le
    have second := rest.le
    simp only [List.mem_cons, List.mem_append, within, behind, Mark.kept.injEq, reduceCtorEq,
      false_or]
    by_cases inside : start ≤ position ∧ position < start + 3
    · rw [wrapped.isEdge_iff headings inside.1 inside.2]
      omega
    · have apart : position ≠ start + 1 := fun same => inside ⟨by omega, by omega⟩
      simp only [apart, false_or, ← and_assoc, ← or_and_right]
      refine and_congr_left fun _ => ?_
      omega

/-- A wrapper has each of its parts if and only if its heading is selected. -/
theorem mem_wrapper_iff (headings : HasPlainHeadings tokens)
    (wraps : Wraps selector tokens start stop marks) (part : Wrapper) (heading : Nat) :
    .wrapper part heading ∈ marks ↔
      start ≤ heading ∧ heading < stop ∧ WrappedAt selector tokens heading := by
  induction wraps with
  | nil =>
    simp only [List.not_mem_nil, false_iff]
    omega
  | @keep start stop marks plain rest hypothesis =>
    have more := rest.le
    simp only [List.mem_cons, hypothesis, reduceCtorEq, false_or, ← and_assoc]
    refine and_congr_left fun wrapped => ?_
    have apart : heading ≠ start := fun same => plain (Or.inl (same ▸ wrapped))
    omega
  | @wrap start middle stop level inner outer wrapped _ _ _ body rest within behind =>
    have first := body.le
    have second := rest.le
    simp only [List.mem_cons, List.mem_append, within, behind, Mark.wrapper.injEq, reduceCtorEq,
      false_or]
    by_cases inside : start ≤ heading ∧ heading < start + 3
    · rw [wrapped.wrappedAt_iff headings inside.1 inside.2]
      cases part <;> simp <;> omega
    · have apart : heading ≠ start := fun same => inside ⟨by omega, by omega⟩
      simp only [apart, and_false, false_or, ← and_assoc, ← or_and_right]
      refine and_congr_left fun _ => ?_
      omega

/-- No mark stands twice. -/
theorem nodup (headings : HasPlainHeadings tokens)
    (wraps : Wraps selector tokens start stop marks) : marks.Nodup := by
  induction wraps with
  | nil => exact List.nodup_nil
  | keep _ rest hypothesis =>
    refine List.nodup_cons.mpr ⟨?_, hypothesis⟩
    rw [rest.mem_kept_iff headings]
    omega
  | @wrap start middle stop level inner outer wrapped _ _ _ body rest within behind =>
    have first := body.le
    have apart : ∀ mark ∈ inner, ∀ other ∈ outer, mark ≠ other := by
      rintro mark member _ other rfl
      cases mark with
      | kept position =>
        rw [body.mem_kept_iff headings] at member
        rw [rest.mem_kept_iff headings] at other
        omega
      | wrapper part heading =>
        rw [body.mem_wrapper_iff headings] at member
        rw [rest.mem_wrapper_iff headings] at other
        omega
    simp only [List.nodup_cons, List.nodup_append, List.mem_cons, List.mem_append,
      body.mem_kept_iff headings, rest.mem_kept_iff headings, body.mem_wrapper_iff headings,
      rest.mem_wrapper_iff headings, Mark.wrapper.injEq, reduceCtorEq, false_or, and_true]
    refine ⟨by omega, by omega, by omega, within, ⟨by omega, behind⟩, ?_⟩
    rintro mark member other (rfl | found)
    · rintro rfl
      rw [body.mem_wrapper_iff headings] at member
      omega
    · exact apart mark member other found

/-- The tokens that are kept stay in their order. -/
theorem ascending (headings : HasPlainHeadings tokens)
    (wraps : Wraps selector tokens start stop marks) :
    (marks.filterMap Mark.position?).Pairwise (· < ·) := by
  induction wraps with
  | nil => exact List.Pairwise.nil
  | @keep start stop marks _ rest hypothesis =>
    refine List.pairwise_cons.mpr ⟨fun position member => ?_, hypothesis⟩
    rw [Mark.mem_positions, rest.mem_kept_iff headings] at member
    omega
  | @wrap start middle stop level inner outer wrapped _ _ _ body rest within behind =>
    have first := body.le
    have positions_eq : List.filterMap Mark.position? (.wrapper .summaryStart start ::
        .kept (start + 1) :: .wrapper .summaryStop start ::
          (inner ++ .wrapper .detailsStop start :: outer)) =
        (start + 1) :: (inner.filterMap Mark.position? ++ outer.filterMap Mark.position?) := by
      simp [List.filterMap_cons, Mark.position?]
    rw [positions_eq]
    refine List.pairwise_cons.mpr ⟨fun position member => ?_,
      List.pairwise_append.mpr ⟨within, behind, fun position member other found => ?_⟩⟩
    · rw [List.mem_append, Mark.mem_positions, Mark.mem_positions, body.mem_kept_iff headings,
        rest.mem_kept_iff headings] at member
      omega
    · rw [Mark.mem_positions, body.mem_kept_iff headings] at member
      rw [Mark.mem_positions, rest.mem_kept_iff headings] at found
      omega

/-- Wrappers are nested. -/
theorem read_eq (wraps : Wraps selector tokens start stop marks) (opened : List Bracket) :
    marks.foldlM Bracket.read opened = some opened := by
  induction wraps generalizing opened with
  | nil => rfl
  | keep _ _ hypothesis => simpa [Bracket.read] using hypothesis opened
  | wrap _ _ _ _ _ _ within behind => simp [Bracket.read, within, behind]

/-- Marks nest as much as the tokens that they stand for. -/
theorem depth_length (headings : HasPlainHeadings tokens)
    (wraps : Wraps selector tokens start stop marks) :
    depth Token.nesting tokens start + depth (Mark.nesting tokens) marks marks.length =
      depth Token.nesting tokens stop := by
  induction wraps with
  | nil => simp
  | keep _ _ hypothesis =>
    rw [List.length_cons, depth_cons_succ, ← Int.add_assoc, ← Mark.depth_succ, hypothesis]
  | @wrap start middle stop level inner outer wrapped _ _ _ _ _ within behind =>
    have top : depth Token.nesting tokens start = 0 := wrapped.1
    rw [(wrapped.depth_eq headings).2.2] at within
    simp only [List.length_cons, wrapped.depth_marks headings, List.length_append,
      depth_append_right, depth_cons_succ, Mark.nesting_wrapper]
    omega

/-- However many marks are read, as much is open as somewhere among the tokens. -/
theorem exists_depth_eq (headings : HasPlainHeadings tokens)
    (wraps : Wraps selector tokens start stop marks) (count : Nat) :
    ∃ position, depth Token.nesting tokens start + depth (Mark.nesting tokens) marks count =
      depth Token.nesting tokens position := by
  induction wraps generalizing count with
  | nil start => exact ⟨start, by simp [depth]⟩
  | @keep start stop marks _ _ hypothesis =>
    cases count with
    | zero => exact ⟨start, by simp⟩
    | succ count =>
      rw [depth_cons_succ, ← Int.add_assoc, ← Mark.depth_succ]
      exact hypothesis count
  | @wrap start middle stop level inner outer wrapped _ _ _ body rest within behind =>
    have top : depth Token.nesting tokens start = 0 := wrapped.1
    have behind_heading := (wrapped.depth_eq headings).2.2
    by_cases early : count < 3
    · refine ⟨start, ?_⟩
      obtain rfl | rfl | rfl : count = 0 ∨ count = 1 ∨ count = 2 := by omega
      · simp
      · simp [depth]
      · simp [depth, wrapped.nesting_text headings]
    · obtain ⟨count, rfl⟩ : ∃ more, count = more + 3 := ⟨count - 3, by omega⟩
      rw [wrapped.depth_marks headings, top, ← behind_heading]
      by_cases inside : count ≤ inner.length
      · rw [depth_append_left _ _ inside]
        exact within count
      · obtain ⟨more, rfl⟩ : ∃ more, count = inner.length + (more + 1) :=
          ⟨count - inner.length - 1, by omega⟩
        rw [depth_append_right, ← Int.add_assoc, body.depth_length headings, depth_cons_succ,
          Mark.nesting_wrapper, Int.zero_add]
        exact behind more

end Wraps

end FoldMark.Outline
