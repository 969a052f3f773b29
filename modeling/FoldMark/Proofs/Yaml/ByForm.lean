import FoldMark.Proofs.Yaml.Untagged
import FoldMark.Yaml.Node

/-!
# Tags by form

Where a document has no tags of its own, every node has the tag of its form: that of its text, or
that of a list or a mapping. Each reader of nodes keeps `NodeDraft.Plain`, so that this holds of all
documents without the sign of a tag (`ends_document`).
-/

namespace FoldMark.Yaml

/-- A tag is that of the form of some content. -/
def Content.Forms : Content → Tag → Prop
  | .text chars, tag => tag = Tag.ofText chars.toList ∨ tag = .str
  | .list _, tag => tag = .seq
  | .map _, tag => tag = .map

/-- A node has the tag of its form. -/
def Node.IsByForm (node : Node) : Prop := node.content.Forms node.tag

namespace NodeDraft

/-- Where a text has no sign of a tag, the nodes so far have the tags of their forms, and so will
the others. -/
structure Plain (text : List Char) (draft : NodeDraft) : Prop where
  /-- No token that is left is a tag. -/
  untagged : '!' ∉ text → ∀ token ∈ draft.tokens, token.kind.isTag = false
  /-- The nodes have the tags of their forms. -/
  byForm : '!' ∉ text → ∀ (id : Nat) (node : Node), draft.nodes[id]? = some node → node.IsByForm
  /-- A number that is too great for a token is written in an escape. -/
  escaped : draft.failure.Escaped text

/-- Every node stays where it is and keeps its tag. -/
def KeepsTags (before after : NodeDraft) : Prop :=
  ∀ (id : Nat) (node : Node), before.nodes[id]? = some node →
    ∃ later : Node, after.nodes[id]? = some later ∧ later.tag = node.tag

/-- A draft that has the same nodes keeps their tags. -/
theorem KeepsTags.of_eq {before after : NodeDraft} (same : after.nodes = before.nodes) :
    KeepsTags before after := by
  intro id node found
  exact ⟨node, by rw [same, found], rfl⟩

/-- Tags that are kept twice are kept. -/
theorem KeepsTags.trans {before middle after : NodeDraft} (first : KeepsTags before middle)
    (second : KeepsTags middle after) : KeepsTags before after := by
  intro id node found
  obtain ⟨later, present, same⟩ := first id node found
  obtain ⟨last, kept, again⟩ := second id later present
  exact ⟨last, kept, again.trans same⟩

end NodeDraft

open NodeDraft

namespace NodeReader

variable {α β : Type} {text : List Char} {post : α → Prop} {result : β → Prop}

/-- A reader keeps tags by form, and what it gives satisfies a condition. -/
def Keeps (text : List Char) (post : α → Prop) (reader : NodeReader α) : Prop :=
  ∀ before, Plain text before → Ends (TextError.Escaped text)
    (fun found => Plain text found.2 ∧ KeepsTags before found.2 ∧ post found.1) (reader before)

/-- A reader keeps tags by form. -/
abbrev KeepsForm (text : List Char) (reader : NodeReader α) : Prop :=
  Keeps text (fun _ => True) reader

/-- A reader that fails keeps everything. -/
theorem keeps_fail : Keeps text post (fail : NodeReader α) :=
  fun _ _ => TextError.escaped_malformed

/-- A reader that changes no nodes and reads no other tokens. -/
theorem unchanged {before after : NodeDraft} {holds : Prop} (plain : Plain text before)
    (tokens : ∀ token ∈ after.tokens, token ∈ before.tokens)
    (failure : after.failure = before.failure) (nodes : after.nodes = before.nodes)
    (given : holds) : Plain text after ∧ KeepsTags before after ∧ holds :=
  ⟨⟨fun signless token member => plain.untagged signless token (tokens token member),
    fun signless id node found => plain.byForm signless id node (by rw [← nodes, found]),
    failure ▸ plain.escaped⟩, .of_eq nodes, given⟩

/-- A reader that only gives a value. -/
theorem keeps_pure {value : α} (holds : post value) : Keeps text post (pure value : NodeReader α) :=
  fun _ plain => unchanged plain (fun _ member => member) rfl rfl holds

/-- A reader that goes on from what another gives. -/
theorem Keeps.bind {first : NodeReader α} {next : α → NodeReader β} (start : Keeps text post first)
    (later : ∀ value, post value → Keeps text result (next value)) :
    Keeps text result (first >>= next) := by
  intro before plain
  refine (start before plain).bind ?_
  rintro ⟨value, middle⟩ ⟨held, kept, holds⟩
  exact (later value holds middle held).mono fun found ⟨after, more, last⟩ =>
    ⟨after, kept.trans more, last⟩

/-- Looking at the next token. -/
theorem keeps_peek :
    Keeps text (fun token => '!' ∉ text → token.kind.isTag = false) peek := by
  intro before plain
  rw [peek]
  split
  · rename_i token rest whole
    exact unchanged plain (fun _ member => member) rfl rfl fun signless =>
      plain.untagged signless token (by rw [whole]; exact List.mem_cons_self)
  · exact plain.escaped

/-- Taking the next token. -/
theorem keeps_next :
    Keeps text (fun token => '!' ∉ text → token.kind.isTag = false) next := by
  intro before plain
  rw [next]
  split
  · rename_i token rest whole
    have inside : ∀ other ∈ token :: rest, other ∈ before.tokens := fun _ member => whole ▸ member
    exact unchanged plain (fun other member => inside other (List.mem_cons_of_mem _ member)) rfl rfl
      fun signless => plain.untagged signless token (inside token List.mem_cons_self)
  · exact plain.escaped

/-- Comparing the next token. -/
theorem keeps_nextIs (kinds : List Token.Kind) : KeepsForm text (nextIs kinds) :=
  keeps_peek.bind fun _ _ => keeps_pure trivial

/-- Looking up a name. -/
theorem keeps_meant (name : List Char) (names : NodeDraft → List (List Char × α)) :
    KeepsForm text (meant name names) := by
  intro before plain
  rw [meant]
  split
  · exact unchanged plain (fun _ member => member) rfl rfl trivial
  · exact TextError.escaped_malformed

/-- Looking up the handle of a tag. -/
theorem keeps_tagName (handle : Option (List Char)) (suffix : List Char) :
    KeepsForm text (tagName handle suffix) := by
  cases handle with
  | none => exact keeps_pure trivial
  | some handle => exact (keeps_meant _ _).bind fun _ _ => keeps_pure trivial

/-- Checking that a name is free. -/
theorem keeps_checkAnchor (anchor : Option (List Char)) : KeepsForm text (checkAnchor anchor) := by
  intro before plain
  rw [checkAnchor]
  split
  · exact TextError.escaped_malformed
  · exact unchanged plain (fun _ member => member) rfl rfl trivial

/-- Naming a node. -/
theorem keeps_setAnchor (anchor : Option (List Char)) (id : Nat) :
    KeepsForm text (setAnchor anchor id) := by
  intro before plain
  cases anchor <;>
    exact unchanged plain (fun _ member => member) rfl rfl trivial

/-- Adding a node with the tag of its form. -/
theorem keeps_add {node : Node} (byForm : '!' ∉ text → node.IsByForm) :
    KeepsForm text (add node) := by
  intro before plain
  refine ⟨⟨plain.untagged, ?_, plain.escaped⟩, ?_, trivial⟩
  · intro signless id found present
    rw [Array.getElem?_push] at present
    split at present
    · exact Option.some.inj present ▸ byForm signless
    · exact plain.byForm signless id found present
  · intro id found present
    refine ⟨found, ?_, rfl⟩
    have bound := (Array.getElem?_eq_some_iff.mp present).1
    rw [Array.getElem?_push, if_neg (Nat.ne_of_lt bound)]
    exact present

/-- Reading the properties of a node, which has no tag without a sign. -/
theorem keeps_readProperties :
    Keeps text (fun properties => '!' ∉ text → properties.tag = none) readProperties := by
  refine keeps_peek.bind fun first untagged => ?_
  split
  · refine keeps_next.bind fun _ _ => keeps_peek.bind fun second untagged => ?_
    split
    · rename_i kind
      rw [kind] at untagged
      exact keeps_next.bind fun _ _ => (keeps_tagName _ _).bind fun _ _ =>
        keeps_pure fun signless => nomatch untagged signless
    · exact keeps_pure fun _ => rfl
  · rename_i kind
    rw [kind] at untagged
    refine keeps_next.bind fun _ _ => keeps_peek.bind fun second _ => ?_
    split
    · exact keeps_next.bind fun _ _ => (keeps_tagName _ _).bind fun _ _ =>
        keeps_pure fun signless => nomatch untagged signless
    · exact (keeps_tagName _ _).bind fun _ _ =>
        keeps_pure fun signless => nomatch untagged signless
  · exact keeps_pure fun _ => rfl

/-- Adding a place without text. -/
theorem keeps_addEmpty (mark : Mark) : KeepsForm text (addEmpty mark) :=
  keeps_add fun _ => Or.inl rfl

/-- Adding a text. -/
theorem keeps_addText {properties : Properties} (untagged : '!' ∉ text → properties.tag = none)
    (content : CodeText) (isPlain : Bool) :
    KeepsForm text (addText properties content isPlain) := by
  have byForm : '!' ∉ text → Node.IsByForm
      ⟨properties.textTag content isPlain, properties.mark, .text content⟩ := by
    intro signless
    simp only [Node.IsByForm, Content.Forms, Properties.textTag, Properties.tagOr,
      Properties.isOpen, untagged signless]
    cases isPlain
    · exact Or.inr rfl
    · exact Or.inl rfl
  exact (keeps_add byForm).bind fun _ _ => (keeps_setAnchor _ _).bind fun _ _ => keeps_pure trivial

/-- Filling a node that has the tag of what it is filled with. -/
theorem plain_fill {draft : NodeDraft} {id : Nat} {container : Node}
    (plain : Plain text draft) (here : draft.nodes[id]? = some container) (content : Content)
    (filled : '!' ∉ text → content.Forms container.tag) :
    let after := { draft with nodes := draft.nodes.modify id fun node => { node with content } }
    Plain text after ∧ KeepsTags draft after := by
  refine ⟨⟨plain.untagged, ?_, plain.escaped⟩, ?_⟩
  · intro signless other found present
    rw [Array.getElem?_modify] at present
    split at present
    · rename_i isHere
      subst isHere
      rw [here] at present
      cases present
      exact filled signless
    · exact plain.byForm signless other found present
  · intro other found present
    rw [Array.getElem?_modify, present]
    split
    · exact ⟨_, rfl, rfl⟩
    · exact ⟨found, rfl, rfl⟩

/-- Adding a container whose content is read after it. -/
theorem keeps_container {content : Type} {reader : NodeReader content} {tag : Tag} {mark : Mark}
    {empty : Content} {hold : content → Content} (anchor : Option (List Char))
    (reads : KeepsForm text reader) (byForm : '!' ∉ text → empty.Forms tag)
    (filled : '!' ∉ text → ∀ held, (hold held).Forms tag) :
    KeepsForm text (do
      let id ← add ⟨tag, mark, empty⟩
      setAnchor anchor id
      fill id (hold (← reader))
      return id) := by
  intro before plain
  have form : '!' ∉ text → Node.IsByForm ⟨tag, mark, empty⟩ := byForm
  obtain ⟨plainAdded, keptAdded, -⟩ := keeps_add form before plain
  have rest : Ends (TextError.Escaped text)
      (fun found => Plain text found.2 ∧ KeepsTags before found.2 ∧ True) ((do
        setAnchor anchor before.nodes.size
        fill before.nodes.size (hold (← reader))
        return before.nodes.size : NodeReader Nat)
          { before with nodes := before.nodes.push ⟨tag, mark, empty⟩ }) := by
    refine (keeps_setAnchor anchor _ _ plainAdded).bind ?_
    rintro ⟨_, named⟩ ⟨plainNamed, keptNamed, -⟩
    refine (reads named plainNamed).bind ?_
    rintro ⟨held, last⟩ ⟨plainLast, keptLast, -⟩
    have kept := keptNamed.trans keptLast
    obtain ⟨container, here, same⟩ := kept before.nodes.size ⟨tag, mark, empty⟩ (by simp)
    obtain ⟨plainFilled, keptFilled⟩ := plain_fill plainLast here (hold held)
      fun signless => same ▸ filled signless held
    exact ⟨plainFilled, (keptAdded.trans kept).trans keptFilled, trivial⟩
  exact rest

/-- A node without a tag of its own has that of its form. -/
theorem tagOr_of_untagged {properties : Properties} (untagged : properties.tag = none)
    (byForm : Tag) : properties.tagOr byForm = byForm := by
  simp [Properties.tagOr, Properties.isOpen, untagged]

/-- Adding a list. -/
theorem keeps_addList {properties : Properties} (untagged : '!' ∉ text → properties.tag = none)
    {items : NodeReader (List Nat)} (reads : KeepsForm text items) :
    KeepsForm text (addList properties items) :=
  keeps_container _ reads (fun signless => tagOr_of_untagged (untagged signless) _)
    fun signless _ => tagOr_of_untagged (untagged signless) _

/-- Adding a mapping. -/
theorem keeps_addMap {properties : Properties} (untagged : '!' ∉ text → properties.tag = none)
    {entries : NodeReader (List (Nat × Nat))} (reads : KeepsForm text entries) :
    KeepsForm text (addMap properties entries) :=
  keeps_container _ reads (fun signless => tagOr_of_untagged (untagged signless) _)
    fun signless _ => tagOr_of_untagged (untagged signless) _

/-- Going on after the comma that stands before all items but the first. -/
theorem keeps_afterComma {onward : PUnit → NodeReader α} (isFirst isEnd : Bool)
    (reads : ∀ nothing, Keeps text post (onward nothing)) :
    Keeps text post (if (!isFirst && !isEnd) = true then do
        let token ← next
        if (token.kind != .flowEntry) = true then fail >>= onward else onward ()
      else onward ()) := by
  split
  · refine keeps_next.bind fun token _ => ?_
    split
    · have fails : Keeps text (fun _ => True) (fail : NodeReader PUnit) := keeps_fail
      exact fails.bind fun nothing _ => reads nothing
    · exact reads ()
  · exact reads ()

/-! ## Nodes -/

/-- The readers of nodes, in some nested steps, keep tags by form. -/
structure ReadersKeep (text : List Char) (fuel : Nat) : Prop where
  /-- The reader of a node. -/
  node : ∀ place, KeepsForm text (readNode fuel place)
  /-- The reader of a node or an empty place. -/
  nodeUnless : ∀ kinds place mark, KeepsForm text (readNodeUnless fuel kinds place mark)
  /-- The reader of the value of an entry. -/
  entryValue : ∀ kinds place, KeepsForm text (readEntryValue fuel kinds place)
  /-- The reader of the items of an indented list. -/
  items : KeepsForm text (readItems fuel)
  /-- The reader of the items of a list without an indentation. -/
  looseItems : KeepsForm text (readLooseItems fuel)
  /-- The reader of the entries of an indented mapping. -/
  entries : KeepsForm text (readEntries fuel)
  /-- The reader of the items of a list between brackets. -/
  flowItems : ∀ isFirst, KeepsForm text (readFlowItems fuel isFirst)
  /-- The reader of the entries of a mapping between braces. -/
  flowEntries : ∀ isFirst, KeepsForm text (readFlowEntries fuel isFirst)

namespace ReadersKeep

variable {fuel : Nat}

/-- A node is read with fewer nested steps. -/
theorem node_succ (inner : ReadersKeep text fuel) (place : Place) :
    KeepsForm text (readNode (fuel + 1) place) := by
  rw [readNode]
  refine keeps_peek.bind fun token _ => ?_
  split
  · exact keeps_next.bind fun _ _ => keeps_meant _ _
  · refine keeps_readProperties.bind fun properties untagged => ?_
    refine keeps_peek.bind fun token _ => (keeps_checkAnchor _).bind fun _ _ => ?_
    split
    · exact keeps_addList untagged inner.looseItems
    · exact keeps_next.bind fun _ _ => keeps_addText untagged _ _
    · exact keeps_next.bind fun _ _ => keeps_addList untagged (inner.flowItems true)
    · exact keeps_next.bind fun _ _ => keeps_addMap untagged (inner.flowEntries true)
    · exact keeps_next.bind fun _ _ => keeps_addList untagged inner.items
    · exact keeps_next.bind fun _ _ => keeps_addList untagged inner.items
    · exact keeps_next.bind fun _ _ => keeps_addMap untagged inner.entries
    · exact keeps_next.bind fun _ _ => keeps_addMap untagged inner.entries
    · split
      · have form : '!' ∉ text → Node.IsByForm
            ⟨properties.tagOr (Tag.ofText []), properties.mark, .text []⟩ := fun signless =>
          Or.inl (tagOr_of_untagged (untagged signless) _)
        exact (keeps_add form).bind fun _ _ =>
          (keeps_setAnchor _ _).bind fun _ _ => keeps_pure trivial
      · exact keeps_fail

/-- A node or an empty place is read with fewer nested steps. -/
theorem nodeUnless_succ (inner : ReadersKeep text fuel) (kinds : List Token.Kind) (place : Place)
    (mark : Mark) : KeepsForm text (readNodeUnless (fuel + 1) kinds place mark) := by
  rw [readNodeUnless]
  refine (keeps_nextIs kinds).bind fun isEmpty _ => ?_
  split
  · exact keeps_addEmpty mark
  · exact inner.node place

/-- The value of an entry is read with fewer nested steps. -/
theorem entryValue_succ (inner : ReadersKeep text fuel) (kinds : List Token.Kind) (place : Place) :
    KeepsForm text (readEntryValue (fuel + 1) kinds place) := by
  rw [readEntryValue]
  refine (keeps_nextIs _).bind fun isWritten _ => ?_
  split
  · exact keeps_next.bind fun _ _ => inner.nodeUnless kinds place _
  · exact keeps_peek.bind fun _ _ => keeps_addEmpty _

/-- The items of an indented list are read with fewer nested steps. -/
theorem items_succ (inner : ReadersKeep text fuel) : KeepsForm text (readItems (fuel + 1)) := by
  rw [readItems]
  refine keeps_next.bind fun token _ => ?_
  split
  · exact (inner.nodeUnless _ _ _).bind fun _ _ => inner.items.bind fun _ _ => keeps_pure trivial
  · exact keeps_pure trivial
  · exact keeps_fail

/-- The items of a list without an indentation are read with fewer nested steps. -/
theorem looseItems_succ (inner : ReadersKeep text fuel) :
    KeepsForm text (readLooseItems (fuel + 1)) := by
  rw [readLooseItems]
  refine (keeps_nextIs _).bind fun isItem _ => ?_
  split
  · exact keeps_next.bind fun _ _ => (inner.nodeUnless _ _ _).bind fun _ _ =>
      inner.looseItems.bind fun _ _ => keeps_pure trivial
  · exact keeps_pure trivial

/-- The entries of an indented mapping are read with fewer nested steps. -/
theorem entries_succ (inner : ReadersKeep text fuel) : KeepsForm text (readEntries (fuel + 1)) := by
  rw [readEntries]
  refine keeps_next.bind fun token _ => ?_
  split
  · exact (inner.nodeUnless _ _ _).bind fun _ _ => (inner.entryValue _ _).bind fun _ _ =>
      inner.entries.bind fun _ _ => keeps_pure trivial
  · exact keeps_pure trivial
  · exact keeps_fail

/-- The items of a list between brackets are read with fewer nested steps. -/
theorem flowItems_succ (inner : ReadersKeep text fuel) (isFirst : Bool) :
    KeepsForm text (readFlowItems (fuel + 1) isFirst) := by
  rw [readFlowItems]
  refine (keeps_nextIs _).bind fun isEnd _ => keeps_afterComma isFirst isEnd fun _ => ?_
  refine keeps_peek.bind fun token _ => ?_
  split
  · exact keeps_next.bind fun _ _ => keeps_pure trivial
  · have single : KeepsForm text (do
        let _ ← next
        let key ← readNodeUnless fuel [.value, .flowEntry, .flowListEnd] .flow token.stop
        let value ← readEntryValue fuel [.flowEntry, .flowListEnd] .flow
        return [(key, value)]) :=
      keeps_next.bind fun _ _ => (inner.nodeUnless _ _ _).bind fun _ _ =>
        (inner.entryValue _ _).bind fun _ _ => keeps_pure trivial
    exact (keeps_addMap (fun _ => rfl) single).bind fun _ _ =>
      (inner.flowItems false).bind fun _ _ => keeps_pure trivial
  · exact (inner.node .flow).bind fun _ _ =>
      (inner.flowItems false).bind fun _ _ => keeps_pure trivial

/-- The entries of a mapping between braces are read with fewer nested steps. -/
theorem flowEntries_succ (inner : ReadersKeep text fuel) (isFirst : Bool) :
    KeepsForm text (readFlowEntries (fuel + 1) isFirst) := by
  rw [readFlowEntries]
  refine (keeps_nextIs _).bind fun isEnd _ => keeps_afterComma isFirst isEnd fun _ => ?_
  refine keeps_peek.bind fun token _ => ?_
  split
  · exact keeps_next.bind fun _ _ => keeps_pure trivial
  · exact keeps_next.bind fun _ _ => (inner.nodeUnless _ _ _).bind fun _ _ =>
      (inner.entryValue _ _).bind fun _ _ =>
        (inner.flowEntries false).bind fun _ _ => keeps_pure trivial
  · exact (inner.node .flow).bind fun _ _ => keeps_peek.bind fun _ _ =>
      (keeps_addEmpty _).bind fun _ _ =>
        (inner.flowEntries false).bind fun _ _ => keeps_pure trivial

end ReadersKeep

/-- The readers of nodes keep tags by form in any number of nested steps. -/
theorem readersKeep (fuel : Nat) : ReadersKeep text fuel := by
  induction fuel with
  | zero =>
    constructor
    all_goals
      intros
      exact keeps_fail
  | succ fuel hypothesis =>
    exact ⟨hypothesis.node_succ, hypothesis.nodeUnless_succ, hypothesis.entryValue_succ,
      hypothesis.items_succ, hypothesis.looseItems_succ, hypothesis.entries_succ,
      hypothesis.flowItems_succ, hypothesis.flowEntries_succ⟩

/-! ## Documents -/

/-- Reading directives. -/
theorem keeps_readDirectives (fuel : Nat) (hasVersion : Bool) :
    KeepsForm text (readDirectives fuel hasVersion) := by
  induction fuel generalizing hasVersion with
  | zero => exact keeps_fail
  | succ fuel hypothesis =>
    rw [readDirectives]
    refine keeps_peek.bind fun token _ => ?_
    split
    · split
      · exact Keeps.bind (keeps_fail : Keeps text (fun _ => True) fail) fun _ _ =>
          keeps_next.bind fun _ _ => hypothesis true
      · exact keeps_next.bind fun _ _ => hypothesis true
    · refine Keeps.bind (?_ : KeepsForm text _) fun _ _ => keeps_next.bind fun _ _ => hypothesis _
      intro before plain
      rw [setHandle]
      split
      · exact TextError.escaped_malformed
      · exact unchanged plain (fun _ member => member) rfl rfl trivial
    · exact keeps_next.bind fun _ _ => hypothesis _
    · exact keeps_pure trivial

/-- Forgetting what handles stand for. -/
theorem keeps_dropHandles : KeepsForm text dropHandles :=
  fun _ plain => unchanged plain (fun _ member => member) rfl rfl trivial

/-- Adding the handles that are always known. -/
theorem keeps_completeHandles : KeepsForm text completeHandles :=
  fun _ plain => unchanged plain (fun _ member => member) rfl rfl trivial

/-- Looking for a directive. -/
theorem keeps_nextIsDirective : KeepsForm text nextIsDirective := by
  refine keeps_peek.bind fun token _ => ?_
  split <;> exact keeps_pure trivial

/-- Passing the ends of documents. -/
theorem keeps_skipDocumentEnds (fuel : Nat) : KeepsForm text (skipDocumentEnds fuel) := by
  induction fuel with
  | zero => exact keeps_pure trivial
  | succ fuel hypothesis =>
    rw [skipDocumentEnds]
    refine (keeps_nextIs _).bind fun isEnd _ => ?_
    split
    · exact keeps_next.bind fun _ _ => hypothesis
    · exact keeps_pure trivial

/-- Reading a document. -/
theorem keeps_readDocument (fuel : Nat) : KeepsForm text (readDocument fuel) := by
  rw [readDocument]
  refine (keeps_nextIs _).bind fun isNone _ => ?_
  split
  · exact keeps_pure trivial
  refine (keeps_nextIs _).bind fun starts _ => ?_
  extract_lets close afterStart
  have closes : ∀ root, KeepsForm text (close root) := by
    intro root
    refine (keeps_skipDocumentEnds fuel).bind fun _ _ => (keeps_nextIs _).bind fun isEnd _ => ?_
    split
    · exact keeps_pure trivial
    · exact keeps_dropHandles.bind fun _ _ => (keeps_readDirectives fuel false).bind fun _ _ =>
        keeps_fail
  have starts : ∀ isExplicit, KeepsForm text (afterStart isExplicit) := by
    intro isExplicit
    unfold afterStart
    extract_lets root content
    have roots : ∀ isEmpty, KeepsForm text (root isEmpty) := by
      intro isEmpty
      unfold root
      split
      · exact keeps_peek.bind fun _ _ => (keeps_addEmpty _).bind fun id _ => closes id
      · exact ((readersKeep fuel).node .block).bind fun id _ => closes id
    have contents : ∀ nothing, KeepsForm text (content nothing) := by
      intro nothing
      refine keeps_completeHandles.bind fun _ _ => (keeps_nextIs _).bind fun ends _ => ?_
      split
      · exact roots true
      · exact keeps_nextIsDirective.bind fun isEmpty _ => roots isEmpty
    split
    · refine (keeps_readDirectives fuel false).bind fun _ _ => keeps_next.bind fun token _ => ?_
      split
      · exact Keeps.bind (keeps_fail : Keeps text (fun _ => True) fail) fun _ _ => contents ()
      · exact contents ()
    · exact contents ()
  split
  · exact starts true
  · exact keeps_nextIsDirective.bind fun isExplicit _ => starts isExplicit

end NodeReader

/-- The nodes of a document without the sign of a tag have the tags of their forms, and a document
without a backslash has no escape of a number that is too great. -/
theorem ends_document (text : List Char) :
    Ends (TextError.Escaped text) (fun document => '!' ∉ text →
      ∀ (id : Nat) (node : Node), document.nodes[id]? = some node → node.IsByForm)
      (Document.ofText text) := by
  have tokens := Tokens.within_ofText text
  have plain : Plain text
      ⟨(Tokens.ofText text).list, (Tokens.ofText text).failure, #[], [], []⟩ :=
    ⟨tokens.untagged, fun _ id node present => by simp at present, tokens.escaped⟩
  exact (NodeReader.keeps_readDocument _ _ plain).bind fun found kept => kept.1.byForm

end FoldMark.Yaml
