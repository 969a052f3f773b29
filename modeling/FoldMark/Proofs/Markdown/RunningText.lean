import FoldMark.Proofs.Markdown.Advance
import FoldMark.Proofs.Markdown.Resolving

/-!
# The end of running text

A running text is read construct by construct to its end, and at each step what has been read is
written at the end of the source so far (`Run.Follows`). So is the content in the end
(`endsWritten_read`).
-/

namespace FoldMark.Markdown

open Text Construct

variable {text : RunningText} {run : Run} {source written : List Char} {item : Inline}
  {position next stop : Nat}

/-! ## Steps of a run -/

namespace Delimiter

/-- Noted delimiters stay noted while a content grows. -/
theorem Noted.append {delimiters : Array Delimiter} {items : List Inline}
    (marked : Noted delimiters items) (more : List Inline) :
    Noted delimiters (items ++ more) where
  single := marked.single
  inside := fun delimiter member => by
    rw [List.length_append]
    exact Nat.lt_add_right _ (marked.inside delimiter member)
  strikes := fun delimiter member isTilde => by
    rw [List.getElem?_append_left (marked.inside delimiter member)]
    exact marked.strikes delimiter member isTilde
  sorted := marked.sorted

/-- A delimiter is noted at the end of a content. -/
theorem Noted.push {delimiters : Array Delimiter} {items : List Inline} {delimiter : Delimiter}
    (marked : Noted delimiters items) (single : delimiter.partner = none)
    (strikes : delimiter.mark = '~' → item = .text tildes)
    (place : delimiter.item = items.length) :
    Noted (delimiters.push delimiter) (items ++ [item]) := by
  have longer := marked.append [item]
  constructor
  · intro other member
    rcases Array.mem_push.mp member with earlier | rfl
    · exact longer.single other earlier
    · exact single
  · intro other member
    rcases Array.mem_push.mp member with earlier | rfl
    · exact longer.inside other earlier
    · rw [place, List.length_append]
      exact Nat.lt_succ_self _
  · intro other member isTilde
    rcases Array.mem_push.mp member with earlier | rfl
    · exact longer.strikes other earlier isTilde
    · rw [place, List.getElem?_append_right (Nat.le_refl _), Nat.sub_self, strikes isTilde]
      rfl
  · rw [Array.toList_push, List.pairwise_append]
    refine ⟨marked.sorted, List.pairwise_singleton _ _, fun other member last isLast => ?_⟩
    rw [List.mem_singleton.mp isLast, place]
    exact marked.inside other (Array.mem_toList_iff.mp member)

end Delimiter

/-- Marks are as many as in pairs and perhaps one before them. -/
theorem replicate_eq_append (mark : Char) (count : Nat) :
    List.replicate count mark = List.replicate (count % 2) mark ++
      (List.replicate (count / 2) [mark, mark]).flatten := by
  refine (List.eq_replicate_iff.mpr ⟨?_, fun c member => ?_⟩).symm
  · rw [List.length_append, List.length_replicate, List.length_flatten, List.map_replicate,
      List.sum_replicate_nat]
    show count % 2 + count / 2 * 2 = count
    omega
  · rcases List.mem_append.mp member with one | pairs
    · exact List.eq_of_mem_replicate one
    · obtain ⟨pair, isPair, inside⟩ := List.mem_flatten.mp pairs
      rw [List.eq_of_mem_replicate isPair] at inside
      simpa using inside

namespace Run

/-- The content with the text at its end. -/
theorem toList_items_flush (run : Run) : run.flush.items.toList =
    run.items.toList ++ if run.pending.isEmpty then [] else [.text run.pending.reverse] := by
  rw [flush]
  split
  · rw [List.append_nil]
  · exact Array.toList_push

/-- The content with one more piece. -/
theorem toList_items_push (run : Run) (item : Inline) :
    (run.push item).items.toList = run.flush.items.toList ++ [item] := Array.toList_push

/-- Ending the text ends no delimiter. -/
theorem delimiters_flush (run : Run) : run.flush.delimiters = run.delimiters := by
  rw [flush]
  split <;> rfl

/-- The text is ended once. -/
theorem flush_push (run : Run) (item : Inline) : (run.push item).flush = run.push item := by
  have ended : (run.push item).pending = [] := by
    show run.flush.pending = []
    rw [flush]
    split
    · exact List.isEmpty_iff.mp ‹_›
    · rfl
  rw [flush, ended]
  rfl

/-- What has been read is written at the end of a source, and delimiters are noted in it. -/
structure Follows (run : Run) (source : List Char) : Prop where
  /-- The end is written. -/
  ends : EndsWritten run.flush.items.toList source
  /-- Delimiters are noted. -/
  marked : Delimiter.Noted run.delimiters run.items.toList

/-- Before anything is read, nothing needs to be written. -/
theorem follows_empty (source : List Char) : Follows {} source where
  ends := .nil source
  marked := ⟨nofun, nofun, nofun, .nil⟩

namespace Follows

/-- Text is added. -/
theorem write (follows : run.Follows source) (more : List Char) :
    (run.write more).Follows (source ++ more) := by
  refine ⟨?_, follows.marked⟩
  have ends := follows.ends
  rw [toList_items_flush] at ends ⊢
  show EndsWritten (run.items.toList ++ if (more.reverse ++ run.pending).isEmpty then [] else
    [.text (more.reverse ++ run.pending).reverse]) (source ++ more)
  rw [List.reverse_append, List.reverse_reverse]
  cases pending : run.pending with
  | nil =>
    rw [pending] at ends
    cases more with
    | nil => simpa using ends
    | cons c more =>
      have some : ((c :: more).reverse ++ []).isEmpty = false := by simp
      rw [some]
      have kept : EndsWritten run.items.toList source := by simpa using ends
      exact kept.concat (.text _)
  | cons c rest =>
    have some : (more.reverse ++ c :: rest).isEmpty = false := by simp
    rw [pending] at ends
    rw [some]
    exact EndsWritten.extend ends more

/-- Delimiters stay noted when the text is ended. -/
theorem marked_flush (marked : Delimiter.Noted run.delimiters run.items.toList) :
    Delimiter.Noted run.flush.delimiters run.flush.items.toList := by
  rw [delimiters_flush, toList_items_flush]
  exact marked.append _

/-- Delimiters stay noted when a piece is added. -/
theorem marked_push (marked : Delimiter.Noted run.delimiters run.items.toList) (item : Inline) :
    Delimiter.Noted (run.push item).delimiters (run.push item).items.toList := by
  rw [toList_items_push]
  exact (marked_flush marked).append [item]

/-- Delimiters stay noted when pieces are added. -/
theorem marked_append (marked : Delimiter.Noted run.delimiters run.items.toList)
    (more : Array Inline) : Delimiter.Noted run.delimiters (run.items ++ more).toList := by
  rw [Array.toList_append]
  exact marked.append more.toList

/-- A piece that is written is added. -/
theorem push (follows : run.Follows source) (writes : WrittenAs item written) :
    (run.push item).Follows (source ++ written) := by
  refine ⟨?_, marked_push follows.marked item⟩
  rw [flush_push, toList_items_push]
  exact follows.ends.concat writes

/-- Behind another piece, nothing needs to be written. -/
theorem push_other (marked : Delimiter.Noted run.delimiters run.items.toList)
    (other : isWritable item = false) (source : List Char) : (run.push item).Follows source := by
  refine ⟨?_, marked_push marked item⟩
  rw [flush_push, toList_items_push]
  exact EndsWritten.concat_other other _ source

/-- A line end is added. -/
theorem endLine (follows : run.Follows source) (source' : List Char) :
    run.endLine.Follows source' := by
  rw [Run.endLine]
  have broken (pending : List Char) (item : Inline) (other : isWritable item = false) :
      (Run.push { run with pending } item).Follows source' := by
    have marked : Delimiter.Noted { run with pending }.delimiters
        { run with pending }.items.toList := follows.marked
    exact push_other marked other source'
  split
  · exact broken _ .hardBreak rfl
  · exact broken _ .softBreak rfl
  · exact broken _ .softBreak rfl

/-- Delimiters are added. -/
theorem pushDelimiters {mark : List Char} {delimiter : Delimiter} (follows : run.Follows source)
    (single : delimiter.partner = none) (strikes : delimiter.mark = '~' → mark = tildes)
    (count : Nat) : (run.pushDelimiters mark delimiter count).Follows
      (source ++ (List.replicate count mark).flatten) := by
  induction count generalizing run source with
  | zero =>
    rw [Run.pushDelimiters, List.replicate_zero, List.flatten_nil, List.append_nil]
    exact follows
  | succ count hypothesis =>
    rw [Run.pushDelimiters, List.replicate_succ, List.flatten_cons, ← List.append_assoc]
    have pushed := follows.push (.text mark)
    have ends := pushed.ends
    rw [toList_items_flush] at ends
    refine hypothesis ⟨by rw [toList_items_flush]; exact ends, ?_⟩
    rw [toList_items_push]
    refine (marked_flush follows.marked).push single (fun isTilde => by rw [strikes isTilde]) ?_
    show (run.push (.text mark)).items.size - 1 = _
    rw [← Array.length_toList, toList_items_push, List.length_append]
    exact Nat.add_sub_cancel ..

/-- Marks of emphasis are added one by one. -/
theorem pushMarks {mark : Char} {delimiter : Delimiter} (follows : run.Follows source)
    (single : delimiter.partner = none) (noTilde : delimiter.mark ≠ '~') (count : Nat) :
    (run.pushDelimiters [mark] delimiter count).Follows (source ++ List.replicate count mark) := by
  rw [← List.flatten_replicate_singleton]
  exact follows.pushDelimiters single (fun isTilde => absurd isTilde noTilde) count

/-- Tildes are added in pairs, behind a single one if they are odd. -/
theorem pushTildes {delimiter : Delimiter} (follows : run.Follows source)
    (single : delimiter.partner = none) (count : Nat) :
    ((if count % 2 = 1 then run.push (.text ['~']) else run).pushDelimiters ['~', '~'] delimiter
      (count / 2)).Follows (source ++ List.replicate count '~') := by
  rw [replicate_eq_append, ← List.append_assoc]
  refine Run.Follows.pushDelimiters ?_ single (fun _ => rfl) _
  split
  · rename_i odd
    rw [odd]
    exact follows.push (.text _)
  · rename_i even
    have none : count % 2 = 0 := by omega
    rw [none, List.replicate_zero, List.append_nil]
    exact follows

end Follows

end Run

/-! ## Reading on -/

/-- Reading a part remembers only steps that go on. -/
def GoesOn (readPart : Inline.PartReader) : Prop :=
  ∀ position stop reading, Forward reading.steps → Forward (readPart position stop reading).2.steps

/-- A run of marks at a position. -/
theorem slice_eq_replicate (text : RunningText) (position stop : Nat) (mark : Char) :
    text.slice position
        (position + ((text.slice position stop).takeWhile (· == mark)).length) =
      List.replicate ((text.slice position stop).takeWhile (· == mark)).length mark := by
  have front := List.takeWhile_prefix (p := (· == mark)) (l := text.slice position stop)
  rw [RunningText.slice_eq_take front.length_le, ← List.prefix_iff_eq_take.mp front]
  refine List.eq_replicate_iff.mpr ⟨rfl, fun c member => ?_⟩
  simpa using List.mem_takeWhile_imp member

/-- The length of a run of delimiters. -/
theorem length_delimiterRun (text : RunningText) (stop position : Nat) (mark : Char)
    (splitsWords : Bool) : (text.delimiterRun stop position mark splitsWords).1 =
      ((text.slice position stop).takeWhile (· == mark)).length := by
  rw [RunningText.delimiterRun]
  split <;> rfl

/-- Delimiters are read. -/
theorem readDelimiters?_follows {run' : Run} (inside : position < stop)
    (follows : run.Follows (text.slice 0 position))
    (found : text.readDelimiters? stop position run = some (run', next)) :
    position < next ∧ run'.Follows (text.slice 0 next) := by
  rw [RunningText.readDelimiters?] at found
  obtain ⟨mark, isMark, found⟩ := Option.bind_eq_some_iff.mp found
  have positive : 0 < ((text.slice position stop).takeWhile (· == mark)).length := by
    rw [RunningText.slice_eq_cons isMark inside, List.takeWhile_cons_of_pos (by simp)]
    exact Nat.succ_pos _
  have marks := slice_eq_replicate text position stop mark
  have lengths := length_delimiterRun text stop position mark
  generalize ((text.slice position stop).takeWhile (· == mark)).length = count
    at positive marks lengths
  have further := Nat.lt_add_of_pos_right (n := position) positive
  have whole : text.slice 0 (position + count) =
      text.slice 0 position ++ List.replicate count mark := by
    rw [← text.slice_append (Nat.le_of_lt further), marks]
  split at found
  · rename_i isEmphasis
    have noTilde : mark ≠ '~' := by
      rintro rfl
      cases isEmphasis
    have length := lengths (mark == '*')
    generalize text.delimiterRun stop position mark (mark == '*') = parts at found length
    obtain ⟨length', canOpen, canClose⟩ := parts
    obtain rfl : length' = count := length
    obtain ⟨rfl, rfl⟩ := Prod.mk.inj (Option.some.inj found)
    refine ⟨further, ?_⟩
    rw [whole]
    exact follows.pushMarks rfl noTilde _
  split at found
  · rename_i isStrike
    obtain rfl : mark = '~' := by
      rw [Bool.and_eq_true, beq_iff_eq] at isStrike
      exact isStrike.1
    have length := lengths true
    generalize text.delimiterRun stop position '~' true = parts at found length
    obtain ⟨length', canOpen, canClose⟩ := parts
    obtain rfl : length' = count := length
    dsimp only at found
    split at found
    · cases found
    obtain ⟨rfl, rfl⟩ := Prod.mk.inj (Option.some.inj found)
    refine ⟨further, ?_⟩
    rw [whole]
    exact follows.pushTildes rfl _
  · cases found

namespace Inline

variable {nested : Nested} {inner : PartReader} {reading : Reading}

/-- A construct is added. -/
theorem addConstruct_follows (nested : Nested) {construct : Construct} (goesOn : GoesOn inner)
    (follows : run.Follows (text.slice 0 position)) (forward : Forward reading.steps)
    (stands : Stands text position (construct, next)) :
    (addConstruct text nested inner position next construct run reading).1.Follows
        (text.slice 0 next) ∧
      Forward (addConstruct text nested inner position next construct run reading).2.steps := by
  have whole := text.slice_append (Nat.le_of_lt stands.further)
  have other (item : Inline) (unwritable : isWritable item = false) :
      (run.push item).Follows (text.slice 0 next) :=
    Run.Follows.push_other follows.marked unwritable _
  cases construct with
  | plain =>
    refine ⟨?_, forward⟩
    rw [← whole]
    exact follows.write _
  | lineEnd => exact ⟨follows.endLine _, forward⟩
  | brokenLine => exact ⟨other .hardBreak rfl, forward⟩
  | literal content =>
    refine ⟨?_, forward⟩
    rw [← whole]
    exact follows.push (.literal (stands.written content rfl))
  | code content => exact ⟨other (.code content) rfl, forward⟩
  | html => exact ⟨other (.html _) rfl, forward⟩
  | autoLink destination shown =>
    refine ⟨Run.Follows.push_other ?_ rfl _, forward⟩
    exact Run.Follows.marked_push (Run.Follows.marked_push follows.marked _) _
  | link labelStop reference =>
    refine ⟨Run.Follows.push_other ?_ rfl _, goesOn _ _ _ forward⟩
    exact Run.Follows.marked_append (Run.Follows.marked_push follows.marked _) _
  | image labelStop reference => exact ⟨other (.image _ _ _ _) rfl, forward⟩
  | note labelStop => exact ⟨other (.footnoteMark _ _) rfl, forward⟩
  | noteMark label => exact ⟨other (.footnoteMark _ _) rfl, forward⟩

/-- Running text is read to its end. -/
theorem readConstructs_follows (nested : Nested) (goesOn : GoesOn inner) (depth count : Nat)
    (enough : stop ≤ position + count) (follows : run.Follows (text.slice 0 position))
    (forward : Forward reading.steps) :
    let read := readConstructs text nested inner depth stop count position run reading
    (∃ last, stop ≤ last ∧ read.1.Follows (text.slice 0 last)) ∧ Forward read.2.steps := by
  dsimp only
  induction count generalizing position run reading with
  | zero => exact ⟨⟨position, enough, follows⟩, forward⟩
  | succ count hypothesis =>
    rw [readConstructs]
    split
    · exact ⟨⟨position, ‹_›, follows⟩, forward⟩
    rename_i before
    have inside : position < stop := Nat.lt_of_not_le before
    split
    · rename_i run' next found
      obtain ⟨further, follows⟩ := readDelimiters?_follows inside follows found
      exact hypothesis (by omega) follows forward
    · have search : (∀ found ∈ (StateT.run (at? text stop (skipWithin text stop depth) position)
          reading.steps).1, Stands text position found) ∧ Forward (StateT.run (at? text stop
          (skipWithin text stop depth) position) reading.steps).2 :=
        finds_at? (advances_skipWithin text stop depth) inside reading.steps forward
      generalize StateT.run (at? text stop (skipWithin text stop depth) position) reading.steps =
        result at search ⊢
      obtain ⟨found, steps⟩ := result
      obtain ⟨stands, forward⟩ := search
      cases found with
      | some found =>
        obtain ⟨construct, next⟩ := found
        have here := stands _ rfl
        have further : position < next := here.further
        have kept : Forward (Reading.mk steps reading.notes).steps := forward
        have added := addConstruct_follows nested goesOn follows kept here
        exact hypothesis (by omega) added.1 added.2
      | none =>
        refine hypothesis (by omega) ?_ forward
        rw [← text.slice_append (Nat.le_succ position)]
        exact follows.write _

/-- A part of running text is read to its end, at any depth. -/
theorem endsWritten_finish (follows : run.Follows source) : EndsWritten run.finish source := by
  rw [Run.finish]
  refine EndsWritten.joinTexts (Delimiter.endsWritten_resolve ?_ follows.ends)
  have marked := Run.Follows.marked_flush follows.marked
  exact marked

/-- Reading a part at any depth remembers only steps that go on. -/
theorem goesOn_readPart (text : RunningText) (nested : Nested) (depth : Nat) :
    GoesOn (readPart text nested depth) := by
  induction depth with
  | zero => exact fun _ _ _ forward => forward
  | succ depth hypothesis =>
    intro position stop reading forward
    have enough : stop ≤ position + (stop - position) := by omega
    exact (readConstructs_follows nested hypothesis (depth + 1) _ enough (Run.follows_empty _)
      forward).2

/-- What is writable at the end of a running text is written at the end of its source. -/
theorem endsWritten_readPart (text : RunningText) (nested : Nested) (depth : Nat)
    (forward : Forward reading.steps) :
    EndsWritten (readPart text nested depth 0 text.chars.size reading).1 text.chars.toList := by
  have all (last : Nat) (enough : text.chars.size ≤ last) :
      text.slice 0 last = text.chars.toList := by
    rw [RunningText.slice, Array.toList_extract, List.extract_eq_take_drop, List.drop_zero,
      List.take_of_length_le (by rw [Array.length_toList]; exact enough)]
  cases depth with
  | zero =>
    have follows := (Run.follows_empty []).write (text.slice 0 text.chars.size)
    have ends := endsWritten_finish follows
    rw [List.nil_append] at ends
    rwa [← all _ (Nat.le_refl _)]
  | succ depth =>
    obtain ⟨⟨last, enough, follows⟩, -⟩ := readConstructs_follows nested
      (goesOn_readPart text nested depth) (depth + 1) (text.chars.size - 0) (Nat.le_add_left ..)
      (Run.follows_empty (text.slice 0 0)) forward
    rw [all last enough] at follows
    exact endsWritten_finish follows

/-- What is writable at the end of a running text is written at the end of its source. -/
theorem endsWritten_read (features : Features) (references : References)
    (labels : List (List Char)) (source : List Char) (notes : Notes) :
    EndsWritten (read features references labels source notes).1 source := by
  rw [read, readWithin, readText]
  have forward := forward_replicate source.toArray.size
  have kept : Forward (Reading.mk _ notes).steps := forward
  exact endsWritten_readPart ⟨source.toArray, features, references, labels⟩ _ _ kept

end Inline

end FoldMark.Markdown
