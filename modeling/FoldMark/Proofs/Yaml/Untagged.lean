import FoldMark.Proofs.Yaml.Progress
import FoldMark.Yaml.Layout
import Mathlib.Logic.Basic

/-!
# Signs of tags and escapes

The sign of a tag is the exclamation mark. What is taken from a text without it are tokens other
than tags, and only a text with a backslash has an escape of a number that is too great
(`Tokens.within_ofText`). Each step of taking tokens keeps `Layout.Within`.
-/

namespace FoldMark.Yaml

open Cursor

namespace Layout

/-- A layout that there is, or the error that there is none. -/
theorem ends_orMalformed {error : TextError → Prop} {condition : Layout → Prop}
    {found : Option Layout} (malformed : error .malformed) (holds : Gives condition found) :
    Ends error condition (orMalformed found) := by
  cases found with
  | none => exact malformed
  | some layout => exact holds layout rfl

/-- Tokens are taken from a text, and none of them is a tag if the text has no sign of one. -/
structure Within (text : List Char) (layout : Layout) : Prop where
  /-- What is left is an end of the text. -/
  rest : layout.cursor.rest <:+ text
  /-- No token so far is a tag without a sign. -/
  untagged : '!' ∉ text → ∀ token ∈ layout.tokens, token.kind.isTag = false

namespace Within

variable {text : List Char} {layout : Layout} {kind : Token.Kind} {cursor : Cursor}

/-- Later cursors leave an end of the text. -/
theorem rest_of_precedes (before : Within text layout) (passed : Precedes layout.cursor cursor) :
    cursor.rest <:+ text := List.IsSuffix.trans passed before.rest

/-- Passing characters. -/
theorem setCursor (before : Within text layout) (passed : Precedes layout.cursor cursor) :
    Within text { layout with cursor } := ⟨before.rest_of_precedes passed, before.untagged⟩

/-- Adding a token up to a cursor. -/
theorem addUpTo (before : Within text layout) (other : '!' ∉ text → kind.isTag = false)
    (rest : cursor.rest <:+ text) : Within text (layout.addUpTo kind cursor) := by
  refine ⟨rest, fun signless token member => ?_⟩
  rcases Array.mem_push.mp member with member | rfl
  · exact before.untagged signless token member
  · exact other signless

/-- Adding a token of some characters. -/
theorem addSign (before : Within text layout) (other : kind.isTag = false) (size : Nat) :
    Within text (layout.addSign kind size) :=
  before.addUpTo (fun _ => other) (before.rest_of_precedes (precedes_advance size _))

/-- Adding a token without characters. -/
theorem addHere (before : Within text layout) (other : kind.isTag = false) :
    Within text (layout.addHere kind) := before.addUpTo (fun _ => other) before.rest

/-- Tokens that were taken out of those so far. -/
theorem of_mem_extract (before : Within text layout) (signless : '!' ∉ text) {token : Token}
    {start stop : Nat} (member : token ∈ layout.tokens.extract start stop) :
    token.kind.isTag = false := by
  obtain ⟨index, bound, rfl⟩ := Array.mem_extract_iff_getElem.mp member
  exact before.untagged signless _ (Array.getElem_mem _)

/-- Putting in a token at the place of a key. -/
theorem putIn (before : Within text layout) (other : kind.isTag = false) (key : PendingKey) :
    Within text (layout.putIn key kind) := by
  refine ⟨before.rest, fun signless token member => ?_⟩
  simp only [Layout.putIn, Array.mem_append] at member
  rcases member with (member | member) | member
  · exact before.of_mem_extract signless member
  · obtain rfl : token = ⟨kind, key.mark, key.mark⟩ := by simpa using member
    exact other
  · exact before.of_mem_extract signless member

/-- Passing spaces, comments and line ends. -/
theorem skipLines (before : Within text layout) (fuel : Nat) :
    Within text (Layout.skipLines fuel layout) := by
  induction fuel generalizing layout with
  | zero => exact before
  | succ fuel hypothesis =>
    have comment := (precedes_skipSpaces layout.cursor).trans (precedes_comment _)
    simp only [Layout.skipLines]
    generalize (if layout.cursor.skipSpaces.peek == '#' then layout.cursor.skipSpaces.skipLine
      else layout.cursor.skipSpaces) = passed at comment ⊢
    split
    · have line := before.setCursor (comment.trans (precedes_lineBreak passed))
      exact hypothesis ⟨line.rest, line.untagged⟩
    · exact before.setCursor comment

/-- Passing what stands before the next token. -/
theorem skip (before : Within text layout) : Within text layout.skip := by
  have mark : Precedes layout.cursor
      (if layout.cursor.mark.index = 0 && layout.cursor.peek == '\uFEFF' then layout.cursor.step
        else layout.cursor) := by
    split
    · exact precedes_step _
    · exact Precedes.refl _
  exact (before.setCursor mark).skipLines _

/-- Ending indentations. -/
theorem unwind (before : Within text layout) (column : Int) :
    Within text (layout.unwind column) := by
  have blocks : ∀ (outer : List Int) (layout : Layout), Within text layout →
      Within text (unwindFrom column outer layout) := by
    intro outer
    induction outer with
    | nil => exact fun _ before => before
    | cons indent outer hypothesis =>
      intro layout before
      rw [unwindFrom]
      split
      · have ended : Within text (layout.addHere .blockEnd) := before.addHere rfl
        exact hypothesis _ ⟨ended.rest, ended.untagged⟩
      · exact before
  rw [Layout.unwind]
  split
  · exact before
  · exact blocks _ layout before

/-- Starting an indented list or mapping. -/
theorem openBlock (before : Within text layout) (other : kind.isTag = false) :
    Within text (layout.openBlock kind) := by
  rw [Layout.openBlock]
  split
  · have added := before.addHere other
    exact ⟨added.rest, added.untagged⟩
  · exact before

/-- Giving up keys that are too far away. -/
theorem dropStale (before : Within text layout) : Gives (Within text) layout.dropStale? := by
  intro next found
  obtain ⟨pending, -, found⟩ := Option.bind_eq_some_iff.mp found
  obtain ⟨enclosing, -, found⟩ := Option.bind_eq_some_iff.mp found
  cases found
  exact ⟨before.rest, before.untagged⟩

/-- Giving up what may be a key. -/
theorem dropPending (before : Within text layout) : Gives (Within text) layout.dropPending? := by
  intro next found
  obtain ⟨pending, -, found⟩ := Option.bind_eq_some_iff.mp found
  cases found
  exact ⟨before.rest, before.untagged⟩

/-- Keeping what may be a key. -/
theorem keep (before : Within text layout) : Gives (Within text) layout.keep? := by
  rw [keep?]
  split
  · exact before.dropPending.bind fun _ dropped => gives_some ⟨dropped.rest, dropped.untagged⟩
  · exact gives_some before

/-- Allowing a key, or not. -/
theorem allow (before : Within text layout) (allowsKey : Bool) :
    Within text (layout.allow allowsKey) :=
  ⟨before.rest, before.untagged⟩

/-- Ending everything. -/
theorem endDocument (before : Within text layout) : Gives (Within text) layout.endDocument? :=
  (before.unwind (-1)).dropPending.map fun _ dropped => dropped.allow false

/-- Taking an opening bracket. -/
theorem openFlow (before : Within text layout) (other : kind.isTag = false) :
    Gives (Within text) (layout.openFlow? kind) := by
  refine before.keep.bind fun kept holds => gives_some ?_
  have opened : Within text
      { kept with enclosing := kept.pending :: kept.enclosing, pending := none } :=
    ⟨holds.rest, holds.untagged⟩
  exact (opened.addSign other 1).allow true

/-- Taking a closing bracket. -/
theorem closeFlow (before : Within text layout) (other : kind.isTag = false) :
    Gives (Within text) (layout.closeFlow? kind) := by
  refine before.dropPending.bind fun dropped holds => ?_
  split
  · exact gives_none
  · rename_i pending enclosing _
    have closed : Within text { dropped with pending, enclosing } := ⟨holds.rest, holds.untagged⟩
    exact gives_some ((closed.addSign other 1).allow false)

/-- Taking the comma between items. -/
theorem takeComma (before : Within text layout) : Gives (Within text) layout.takeComma? :=
  before.dropPending.map fun _ dropped => (dropped.addSign rfl 1).allow true

/-- Taking the sign before an item. -/
theorem takeEntry (before : Within text layout) :
    Gives (Within text) (Layout.takeEntry? layout) := by
  rw [ Layout.takeEntry?]
  split
  · exact gives_none
  · have opened : Within text (layout.openBlock .listStart) := before.openBlock rfl
    exact opened.dropPending.bind fun _ dropped => gives_some ((dropped.addSign rfl 1).allow true)

/-- Taking the sign before a key. -/
theorem takeKey (before : Within text layout) : Gives (Within text) layout.takeKey? := by
  rw [takeKey?]
  split
  · exact gives_none
  · have opened : Within text (layout.openBlock .mapStart) := before.openBlock rfl
    exact opened.dropPending.bind fun _ dropped => gives_some ((dropped.addSign rfl 1).allow _)

/-- Taking the sign before a value. -/
theorem takeValue (before : Within text layout) : Gives (Within text) layout.takeValue? := by
  rw [takeValue?]
  split
  · rename_i key _
    have bare : Within text { layout with pending := none } := ⟨before.rest, before.untagged⟩
    have keyed : Within text ({ layout with pending := none }.putIn key .key) := bare.putIn rfl key
    refine gives_some (Within.allow (Within.addSign ?_ rfl 1) false)
    split
    · have mapped := keyed.putIn (rfl : Token.Kind.mapStart.isTag = false) key
      exact ⟨mapped.rest, mapped.untagged⟩
    · exact keyed
  · split
    · exact gives_none
    · have opened : Within text (layout.openBlock .mapStart) := before.openBlock rfl
      exact gives_some ((opened.addSign rfl 1).allow _)

/-- Taking a token that may be a key. -/
theorem takeKeyLike (before : Within text layout) {found : Option (Token.Kind × Cursor)}
    (other : Gives (fun found => ('!' ∉ text → found.1.isTag = false) ∧
      Precedes layout.cursor found.2) found) :
    Gives (Within text) (layout.takeKeyLike? found) := by
  intro next whole
  obtain ⟨kept, start, whole⟩ := Option.bind_eq_some_iff.mp whole
  obtain ⟨⟨kind, cursor⟩, present, same⟩ := Option.bind_eq_some_iff.mp whole
  cases same
  obtain ⟨untagged, passed⟩ := other _ present
  exact ((before.keep kept start).addUpTo untagged (before.rest_of_precedes passed)).allow false

/-- Taking a text without quotes. -/
theorem takePlain (before : Within text layout) : Gives (Within text) layout.takePlain? := by
  refine before.keep.bind fun kept holds => gives_some ?_
  have passed := PlainText.precedes_read kept.inFlow (kept.indent + 1) kept.cursor
  exact (holds.addUpTo (fun _ => rfl) (holds.rest_of_precedes passed)).allow _

/-- Taking an indented text. -/
theorem takeBlockText (before : Within text layout) (isFolded : Bool) :
    Gives (Within text) (layout.takeBlockText? isFolded) := by
  refine before.dropPending.bind fun dropped holds => ?_
  have passed := (precedes_step dropped.cursor).advances
    (BlockText.advances_read isFolded dropped.indent dropped.cursor.step)
  refine passed.bind ?_
  rintro ⟨content, cursor⟩ reached
  exact gives_some
    ((holds.addUpTo (fun _ => rfl) (holds.rest_of_precedes reached)).allow true)

/-- Taking a directive. -/
theorem takeDirective (before : Within text layout) :
    Gives (Within text) (layout.endDocument?.bind fun ended =>
      (Token.readDirective? layout.cursor).bind fun found =>
        some (ended.addUpTo found.1 found.2)) := by
  refine before.endDocument.bind fun ended holds => ?_
  refine (Token.advances_readDirective layout.cursor).bind ?_
  rintro ⟨kind, cursor⟩ ⟨other, passed⟩
  exact gives_some (holds.addUpTo (fun _ => other) (before.rest_of_precedes passed))

/-- Taking the sign between documents. -/
theorem takeDocumentSign (before : Within text layout) (isStart : Bool) :
    Gives (Within text) (layout.endDocument?.map
      (·.addSign (if isStart then .documentStart else .documentEnd) 3)) := by
  refine before.endDocument.map fun ended holds => holds.addSign ?_ 3
  split <;> rfl

/-- Taking the name of a node, or a reference to one. -/
theorem takeName (before : Within text layout) (isAlias : Bool) :
    Gives (Within text) (layout.takeKeyLike? ((Token.readName? layout.cursor).map fun found =>
      (if isAlias then .alias found.1 else .anchor found.1, found.2))) := by
  refine before.takeKeyLike ?_
  refine (Token.advances_readName layout.cursor).map fun found passed => ⟨fun _ => ?_, passed⟩
  dsimp only
  split <;> rfl

/-- Taking a tag, which starts with the sign of one. -/
theorem takeTag (before : Within text layout) (sign : layout.cursor.peek = '!') :
    Gives (Within text) (layout.takeKeyLike? (Token.readTag? layout.cursor)) := by
  have present : '!' ∈ text := before.rest.subset (mem_rest_of_peek sign (by decide))
  exact before.takeKeyLike fun found read =>
    ⟨fun signless => absurd present signless, Token.advances_readTag _ found read⟩

/-- Taking a text in quotes. -/
theorem takeQuoted (before : Within text layout) :
    Ends (TextError.Escaped text) (Within text) layout.takeQuoted := by
  refine (ends_orMalformed TextError.escaped_malformed before.keep).bind fun kept holds => ?_
  have reads := (QuotedText.passes_read kept.cursor).mono_error fun _ escaped overflow =>
    holds.rest.subset (escaped overflow)
  exact reads.bind fun found passed =>
    (holds.addUpTo (fun _ => rfl) (holds.rest_of_precedes passed)).allow false

/-- Taking the token that starts here. -/
theorem take (before : Within text layout) :
    Ends (TextError.Escaped text) (Within text) layout.take := by
  have given : ∀ {found : Option Layout}, Gives (Within text) found →
      Ends (TextError.Escaped text) (Within text) (orMalformed found) :=
    fun holds => ends_orMalformed TextError.escaped_malformed holds
  unfold Layout.take
  extract_lets cursor c atStart beforeGap
  refine .ite (fun _ => given before.takeDirective) fun _ => ?_
  refine .ite (fun _ => given (before.takeDocumentSign _)) fun _ => ?_
  refine .ite (fun _ => given (before.openFlow rfl)) fun _ => ?_
  refine .ite (fun _ => given (before.openFlow rfl)) fun _ => ?_
  refine .ite (fun _ => given (before.closeFlow rfl)) fun _ => ?_
  refine .ite (fun _ => given (before.closeFlow rfl)) fun _ => ?_
  refine .ite (fun _ => given before.takeComma) fun _ => ?_
  refine .ite (fun _ => given before.takeEntry) fun _ => ?_
  refine .ite (fun _ => given before.takeKey) fun _ => ?_
  refine .ite (fun _ => given before.takeValue) fun _ => ?_
  refine .ite (fun _ => given (before.takeName _)) fun _ => ?_
  refine .ite (fun sign => given (before.takeTag (beq_iff_eq.mp sign))) fun _ => ?_
  refine .ite (fun _ => given (before.takeBlockText _)) fun _ => ?_
  refine .ite (fun _ => before.takeQuoted) fun _ => ?_
  exact .ite (fun _ => given before.takePlain) fun _ => nofun

/-- Passing what stands before the next token. -/
theorem toNext (before : Within text layout) :
    Ends (TextError.Escaped text) (Within text) layout.toNext := by
  have drops := before.skip.dropStale
  rw [Layout.toNext]
  generalize layout.skip.dropStale? = fresh at drops ⊢
  exact (ends_orMalformed TextError.escaped_malformed drops).bind fun next holds =>
    holds.unwind next.column

/-- Taking the end of the text. -/
theorem takeEnd (before : Within text layout) :
    Ends (TextError.Escaped text) (Within text) layout.takeEnd :=
  (ends_orMalformed TextError.escaped_malformed before.endDocument).bind fun _ ended =>
    ended.addHere rfl

/-- The tokens that are given out. -/
theorem untagged_givenOut (before : Within text layout) (signless : '!' ∉ text) :
    ∀ token ∈ layout.givenOut, token.kind.isTag = false := fun token member =>
  before.untagged signless token (Array.mem_toList_iff.mp (List.mem_of_mem_take member))

end Within

end Layout

namespace Tokens

/-- Tokens were taken from a text: none is a tag without a sign of one, and none is an escape of a
number that is too great without a backslash. -/
structure Within (text : List Char) (tokens : Tokens) : Prop where
  /-- No token is a tag without a sign. -/
  untagged : '!' ∉ text → ∀ token ∈ tokens.list, token.kind.isTag = false
  /-- Only an escape can be too great. -/
  escaped : tokens.failure.Escaped text

variable {text : List Char}

attribute [local irreducible] Layout.toNext in
/-- A token is taken after what stands before it, until the text ends. -/
theorem takeAll_succ (fuel : Nat) (layout : Layout) :
    takeAll (fuel + 1) layout =
      match layout.toNext with
      | .error error => ⟨layout.givenOut, error⟩
      | .ok next =>
        if next.cursor.peek == '\x00' then
          match next.takeEnd with
          | .error error => ⟨layout.givenOut, error⟩
          | .ok whole => ⟨whole.tokens.toList, .malformed⟩
        else
          match next.take with
          | .error error => ⟨layout.givenOut, error⟩
          | .ok next => takeAll fuel next := rfl

/-- Taking all tokens. -/
theorem within_takeAll (fuel : Nat) {layout : Layout} (before : layout.Within text) :
    Within text (takeAll fuel layout) := by
  induction fuel generalizing layout with
  | zero =>
    have nothing : takeAll 0 layout = ⟨layout.givenOut, .malformed⟩ := rfl
    rw [nothing]
    exact ⟨before.untagged_givenOut, nofun⟩
  | succ fuel hypothesis =>
    rw [takeAll_succ]
    have start := before.toNext
    cases passed : layout.toNext with
    | error error =>
      rw [passed] at start
      exact ⟨before.untagged_givenOut, start⟩
    | ok next =>
      rw [passed] at start
      have here : next.Within text := start
      dsimp only
      split
      · have last := here.takeEnd
        split
        · rename_i ended
          rw [ended] at last
          exact ⟨before.untagged_givenOut, last⟩
        · rename_i ended
          rw [ended] at last
          refine ⟨fun signless token member => ?_, nofun⟩
          exact last.untagged signless token (Array.mem_toList_iff.mp member)
      · have step := here.take
        split
        · rename_i taken
          rw [taken] at step
          exact ⟨before.untagged_givenOut, step⟩
        · rename_i taken
          rw [taken] at step
          exact hypothesis step

/-- The tokens of a text. -/
theorem within_ofText (text : List Char) : Within text (ofText text) := by
  rw [ofText]
  split
  · exact within_takeAll _ ⟨List.suffix_rfl, by simp [Layout.ofText]⟩
  · exact ⟨nofun, nofun⟩

end Tokens

end FoldMark.Yaml
