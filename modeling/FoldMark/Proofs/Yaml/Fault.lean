import FoldMark.Proofs.Yaml.Building
import FoldMark.Proofs.Yaml.ByForm
import FoldMark.Proofs.Yaml.Suited

/-!
# Faults of the reader

Where the nodes of a document have the tags of their forms, building its value is no fault, but for
floating-point numbers in too many parts: merging keeps `Graph.Calm`, and so does each step of
building. Hence `hasFault_of_stopped`: a payload at which the reader stops has the sign of a tag,
such a number, or an escape of a number that is too great.
-/

namespace FoldMark.Yaml

/-- An outcome is no fault of the reader, and a value satisfies a condition. -/
abbrev Faultless {α : Type} (condition : α → Prop) (outcome : Except ReadError α) : Prop :=
  Ends (fun error => error.isFault = false) condition outcome

section Faultless

variable {α : Type} {condition : α → Prop} {outcome : Except ReadError α}

/-- An outcome without fault is none. -/
theorem not_faults_of_faultless (holds : Faultless condition outcome) : ¬Faults outcome := by
  cases outcome with
  | error error =>
    have noFault : error.isFault = false := holds
    simp [noFault]
  | ok value => exact not_faults_ok value

/-- An outcome that is none is without fault. -/
theorem faultless_of_not_faults (noFault : ¬Faults outcome) :
    Faultless (fun _ => True) outcome := by
  cases outcome with
  | error error =>
    have notFault : error.isFault = false := by simpa using noFault
    exact notFault
  | ok value => trivial

end Faultless

/-! ## Merging -/

/-- A text suits its tag, and a mapping does not have the tag of a single value. -/
def Node.IsCalm (node : Node) : Prop :=
  match node.content with
  | .text chars => ¬IsUnsuited node.tag chars.toList
  | .list _ => True
  | .map _ => node.tag.isSingle = false

/-- A node is a floating-point number that is written in too many parts. -/
def Node.IsInManyParts (node : Node) : Prop :=
  ∃ chars, node.content = .text chars ∧ node.tag = .float ∧
    HasManyParts (Scalar.floatDigits chars.toList)

/-- A node with the tag of its form is calm, unless it is a number in too many parts. -/
theorem Node.IsByForm.isCalm_or {node : Node} (byForm : node.IsByForm) :
    node.IsCalm ∨ node.IsInManyParts := by
  obtain ⟨tag, mark, content⟩ := node
  cases content with
  | text chars =>
    rcases byForm with same | same
    all_goals
      dsimp only at same
      subst same
    · refine Classical.or_iff_not_imp_left.mpr fun uncalm => ?_
      obtain ⟨float, many⟩ := ofText_suited (Classical.not_not.mp uncalm)
      exact ⟨chars, rfl, float, many⟩
    · exact Or.inl id
  | list items => exact Or.inl trivial
  | map entries =>
    have same : tag = .map := byForm
    subst same
    exact Or.inl rfl

namespace Graph

variable {nodes before middle after : Graph} {id : Nat}

/-- All nodes are calm. -/
def Calm (nodes : Graph) : Prop :=
  ∀ (id : Nat) (node : Node), nodes[id]? = some node → node.IsCalm

/-- A node holds entries. -/
def IsMap (nodes : Graph) (id : Nat) : Prop :=
  ∃ (node : Node) (entries : List (Nat × Nat)),
    nodes[id]? = some node ∧ node.content = .map entries

/-- A graph is calm, and what holds entries in another holds entries in it. -/
structure CalmAfter (before after : Graph) : Prop where
  /-- All nodes are calm. -/
  calm : Calm after
  /-- Mappings stay mappings. -/
  maps : ∀ id, IsMap before id → IsMap after id

/-- A calm graph comes after itself. -/
theorem CalmAfter.refl (calm : Calm nodes) : CalmAfter nodes nodes := ⟨calm, fun _ => id⟩

/-- What comes after what comes after a graph comes after it. -/
theorem CalmAfter.trans (first : CalmAfter before middle) (second : CalmAfter middle after) :
    CalmAfter before after := ⟨second.calm, fun id isMap => second.maps id (first.maps id isMap)⟩

/-- Changing a node to a calm one that holds entries if it did keeps the others. -/
theorem calmAfter_modify {change : Node → Node} (calm : Calm nodes)
    (changed : ∀ node : Node, nodes[id]? = some node → (change node).IsCalm ∧
      ∀ entries, node.content = .map entries → ∃ others, (change node).content = .map others) :
    CalmAfter nodes (nodes.modify id change) := by
  constructor
  · intro other node present
    rw [Array.getElem?_modify] at present
    split at present
    · rename_i same
      subst same
      obtain ⟨old, found, rfl⟩ := Option.map_eq_some_iff.mp present
      exact (changed old found).1
    · exact calm other node present
  · rintro other ⟨node, entries, found, content⟩
    rw [IsMap, Array.getElem?_modify, found]
    split
    · rename_i same
      subst same
      obtain ⟨others, holds⟩ := (changed node found).2 entries content
      exact ⟨_, others, rfl, holds⟩
    · exact ⟨node, entries, rfl, content⟩

/-- Giving a mapping its entries. -/
theorem calmAfter_setEntries (calm : Calm nodes) (isMap : IsMap nodes id)
    (entries : List (Nat × Nat)) : CalmAfter nodes (nodes.setEntries id entries) := by
  obtain ⟨node, own, found, content⟩ := isMap
  refine calmAfter_modify calm fun other present => ⟨?_, fun _ _ => ⟨entries, rfl⟩⟩
  obtain rfl : node = other := Option.some.inj (found.symm.trans present)
  have isCalm := calm id node found
  rw [Node.IsCalm, content] at isCalm
  exact isCalm

/-- Taking a key for a text. -/
theorem calmAfter_asPlainKey (calm : Calm nodes) (id : Nat) :
    CalmAfter nodes (nodes.asPlainKey id) := by
  refine calmAfter_modify calm fun node present => ?_
  have isCalm := calm id node present
  split
  · rename_i isDefault
    refine ⟨?_, fun entries content => ⟨entries, content⟩⟩
    rw [Node.IsCalm] at isCalm ⊢
    cases content : node.content with
    | text chars => exact fun unsuited => unsuited
    | list items => trivial
    | map entries =>
      rw [content, beq_iff_eq.mp isDefault] at isCalm
      cases isCalm
  · exact ⟨isCalm, fun entries content => ⟨entries, content⟩⟩

/-- Putting merged entries before those of a mapping. -/
theorem calmAfter_finish (calm : Calm nodes) (isMap : IsMap nodes id)
    (merged : List (Nat × Nat)) : CalmAfter nodes (nodes.finish id merged) := by
  have keys : ∀ (entries : List (Nat × Nat)) (before : Graph), Calm before →
      CalmAfter before (entries.foldl (fun nodes entry => nodes.asPlainKey entry.1) before) := by
    intro entries
    induction entries with
    | nil => exact fun before calm => .refl calm
    | cons entry rest hypothesis =>
      intro before calm
      have first := calmAfter_asPlainKey calm entry.1
      exact first.trans (hypothesis _ first.calm)
  have plain := keys (nodes.entriesOf id) nodes calm
  exact plain.trans (calmAfter_setEntries plain.calm (plain.maps id isMap) _)

/-- Merging each mapping of a list. -/
theorem faultless_flattenItems {flatten : Graph → Nat → Except ReadError Graph} (around : Node)
    (flattens : ∀ nodes id, Calm nodes → IsMap nodes id →
      Faultless (CalmAfter nodes) (flatten nodes id)) (items : List Nat) (calm : Calm nodes) :
    Faultless (fun found => CalmAfter nodes found.1) (flattenItems flatten around nodes items) := by
  induction items generalizing nodes with
  | nil => exact CalmAfter.refl calm
  | cons item rest hypothesis =>
    rw [flattenItems]
    split
    · rename_i found
      refine (flattens nodes item calm ⟨_, _, found, rfl⟩).bind fun first passed => ?_
      refine (hypothesis passed.calm).bind fun found later => ?_
      exact passed.trans later
    · rfl
    · rfl

/-- Merging a mapping keeps the nodes calm. -/
theorem faultless_flattenFrom (fuel : Nat) (merged : List (Nat × Nat)) (calm : Calm nodes)
    (isMap : IsMap nodes id) : Faultless (CalmAfter nodes) (flattenFrom fuel merged nodes id) := by
  induction fuel generalizing merged nodes id with
  | zero => exact calmAfter_finish calm isMap merged
  | succ fuel hypothesis =>
    rw [flattenFrom]
    dsimp only
    split
    · exact calmAfter_finish calm isMap merged
    · rename_i key value _
      have fewer := calmAfter_setEntries calm isMap
        ((nodes.entriesOf id).eraseP fun entry => entry.1 == key)
      split
      · rename_i found
        have merges := hypothesis [] fewer.calm ⟨_, _, found, rfl⟩
        refine merges.bind fun first passed => ?_
        have sofar := fewer.trans passed
        refine (hypothesis _ sofar.calm (sofar.maps id isMap)).mono fun last later => ?_
        exact sofar.trans later
      · rename_i around _ _ items _ _
        have merges := faultless_flattenItems around
          (fun nodes id calm isMap => hypothesis [] calm isMap) items fewer.calm
        refine merges.bind fun first passed => ?_
        have sofar := fewer.trans passed
        refine (hypothesis _ sofar.calm (sofar.maps id isMap)).mono fun last later => ?_
        exact sofar.trans later
      · rfl
      · rfl

/-- Merging a mapping keeps the nodes calm. -/
theorem faultless_flatten (calm : Calm nodes) (isMap : IsMap nodes id) :
    Faultless (CalmAfter nodes) (flatten nodes id) := faultless_flattenFrom _ [] calm isMap

end Graph

/-! ## Building -/

/-- Nodes are calm, and building does not stop at a fault. -/
def calmRule : Rule where
  nodes := Graph.Calm
  built _ := True
  error found := found.isFault = false

/-- A calm node with the tag of a single value becomes a value, or is no fault. -/
theorem faultless_singleOf {nodes : Graph} {id : Nat} {node : Node} (calm : nodes.Calm)
    (found : nodes[id]? = some node) (single : node.tag.isSingle = true) :
    Faultless (fun _ => True) (Builder.singleOf nodes id node) := by
  have isCalm := calm id node found
  rw [Node.IsCalm] at isCalm
  cases content : node.content with
  | text chars =>
    rw [content] at isCalm
    have value : Builder.singleOf nodes id node = Scalar.ofTag id node.tag chars := by
      simp [Builder.singleOf, Builder.textOf, found, content, Content.isText, bind, Except.bind]
    rw [value]
    exact faultless_of_not_faults fun fault => isCalm (Scalar.faults_ofTag_iff.mp fault)
  | list items =>
    have value : Builder.singleOf nodes id node = .error .malformed := by
      simp [Builder.singleOf, Builder.textOf, found, content, bind, Except.bind]
    rw [value]
    rfl
  | map entries =>
    rw [content, single] at isCalm
    cases isCalm

/-- Building keeps nodes calm and is no fault. -/
theorem isSound_calmRule : calmRule.IsSound where
  list _ := trivial
  pairs _ := trivial
  set _ _ := trivial
  map _ _ := trivial
  malformed := rfl
  noMapping _ := rfl
  noPair _ _ := rfl
  single _ _ _ calm found single := faultless_singleOf calm found single
  merge _ _ node entries calm found content :=
    (Graph.faultless_flatten calm ⟨node, entries, found, content⟩).mono fun _ after => after.calm

/-- Building a document of calm nodes is no fault. -/
theorem not_faults_build {nodes : Graph} (calm : nodes.Calm) (root : Nat) :
    ¬Faults ((Builder.build root).run ⟨nodes, Array.replicate nodes.size none, []⟩) :=
  not_faults_of_faultless (isSound_calmRule.build root _ ⟨calm, fun _ _ _ => trivial⟩)

/-- Where the reader stops, an escape is too great a number, or the document has a text that does
not suit its tag, or a mapping with the tag of a single value. -/
theorem exists_of_fault {text : List Char} {error : ReadError} (stopped : read text = .error error)
    (fault : error.isFault = true) :
    Document.ofText text = .error .overflow ∨
      ∃ (document : Document) (id : Nat) (node : Node), Document.ofText text = .ok document ∧
        document.nodes[id]? = some node ∧ ¬node.IsCalm := by
  unfold read at stopped
  split at stopped
  · rename_i found unread
    cases stopped
    cases found with
    | overflow => exact Or.inl unread
    | malformed | noCharacter => cases fault
  · cases stopped
  · rename_i nodes root document
    have uncalm : ¬nodes.Calm := by
      intro calm
      rcases faults_bind_iff.mp ⟨error, stopped, fault⟩ with failed | ⟨found, -, last⟩
      · exact not_faults_build calm root failed
      · exact not_faults_ok _ last
    simp only [Graph.Calm, not_forall] at uncalm
    obtain ⟨id, node, found, notCalm⟩ := uncalm
    exact Or.inr ⟨_, id, node, document, found, notCalm⟩

/-- A text has something that the reader can stop at. -/
inductive HasFault (text : List Char) : Prop where
  /-- An escape names a number that is too great. -/
  | escape (overflow : Document.ofText text = .error .overflow) (backslash : '\\' ∈ text)
  /-- A text does not suit the tag that is written before it, or a mapping has the tag of a single
  value. -/
  | tag (document : Document) (id : Nat) (node : Node)
    (composed : Document.ofText text = .ok document) (found : document.nodes[id]? = some node)
    (unsuited : ¬node.IsCalm) (signed : '!' ∈ text)
  /-- A floating-point number is written in too many parts. -/
  | parts (document : Document) (id : Nat) (node : Node)
    (composed : Document.ofText text = .ok document) (found : document.nodes[id]? = some node)
    (many : node.IsInManyParts)

/-- A text at which the reader stops has something to stop at. -/
theorem hasFault_of_stopped {text : List Char} {error : ReadError}
    (stopped : read text = .error error) (fault : error.isFault = true) : HasFault text := by
  have ends := ends_document text
  rcases exists_of_fault stopped fault with overflow | ⟨document, id, node, composed, found, uncalm⟩
  · rw [overflow] at ends
    exact .escape overflow (ends rfl)
  · by_cases signed : '!' ∈ text
    · exact .tag document id node composed found uncalm signed
    · rw [composed] at ends
      exact .parts document id node composed found
        ((ends signed id node found).isCalm_or.resolve_left uncalm)

end FoldMark.Yaml
