import FoldMark.Proofs.Chain
import FoldMark.Yaml.Reader

/-!
# What building a document keeps

A document is built node by node, and every step of that may stop. A `Rule` says what is claimed of
the nodes, of what they have become and of the errors. If single values, merged mappings and
containers follow a rule (`Rule.IsSound`), then building a document does: `Rule.IsSound.build`.
-/

namespace FoldMark.Yaml

/-- Whether a tag is that of a single value, or of a key that stands for one. -/
def Tag.isSingle : Tag → Bool
  | .null | .bool | .int | .float | .binary | .timestamp | .str | .default => true
  | _ => false

/-- What is claimed while a document is built. -/
structure Rule where
  /-- The claim about the nodes. -/
  nodes : Graph → Prop
  /-- The claim about what a node has become. -/
  built : Built → Prop
  /-- The claim about an error at which building stops. -/
  error : ReadError → Prop

namespace Rule

open Builder

/-- A rule is followed by what is built so far. -/
structure Holds (rule : Rule) (builder : Builder) : Prop where
  /-- The nodes follow it. -/
  nodes : rule.nodes builder.nodes
  /-- So does what they have become. -/
  built : ∀ (id : Nat) (found : Built), builder.built.getD id none = some found → rule.built found

/-- A rule is followed by the values that are built, whatever the document is. -/
structure IsSound (rule : Rule) : Prop where
  /-- The starts of lists follow it, and so do whole lists. -/
  list : ∀ items, rule.built (.list items)
  /-- So do lists of pairs. -/
  pairs : ∀ items, rule.built (.pairs items)
  /-- So does a set if its items do. -/
  set : ∀ items, (∀ item ∈ items, rule.built (.single item)) → rule.built (.set items)
  /-- So does a mapping if its keys do. -/
  map : ∀ entries : List (Value × Nat), (∀ entry ∈ entries, rule.built (.single entry.1)) →
    rule.built (.map entries)
  /-- Building may stop at a document without a meaning. -/
  malformed : rule.error .malformed
  /-- It may stop where a mapping is missing. -/
  noMapping : ∀ found, rule.error (.noMapping found)
  /-- It may stop where a pair is missing. -/
  noPair : ∀ around found, rule.error (.noPair around found)
  /-- A node with the tag of a single value becomes a value that follows the rule. -/
  single : ∀ (nodes : Graph) (id : Nat) (node : Node), rule.nodes nodes → nodes[id]? = some node →
    node.tag.isSingle = true →
      Ends rule.error (fun value => rule.built (.single value)) (singleOf nodes id node)
  /-- Merging a mapping leaves nodes that follow the rule. -/
  merge : ∀ (nodes : Graph) (id : Nat) (node : Node) (entries : List (Nat × Nat)),
    rule.nodes nodes → nodes[id]? = some node → node.content = .map entries →
      Ends rule.error rule.nodes (nodes.flatten id)

variable {rule : Rule} {α β : Type} {condition : α → Prop} {result : β → Prop} {builder : Builder}
  {id : Nat}

/-- A step of building keeps a rule, and gives what satisfies a condition. -/
def Keeps (rule : Rule) (condition : α → Prop) (step : BuildStep α) : Prop :=
  ∀ builder : Builder, rule.Holds builder →
    Ends rule.error (fun found => condition found.1 ∧ rule.Holds found.2) (step builder)

/-! ## Single steps -/

/-- A step that only gives a value. -/
theorem keeps_pure {value : α} (holds : condition value) :
    rule.Keeps condition (pure value : BuildStep α) := fun _ kept => ⟨holds, kept⟩

/-- A step that stops. -/
theorem keeps_throw {error : ReadError} (allowed : rule.error error) :
    rule.Keeps condition (throw error : BuildStep α) := fun _ _ => allowed

/-- A step after another. -/
theorem Keeps.bind {first : BuildStep α} {next : α → BuildStep β}
    (start : rule.Keeps condition first)
    (later : ∀ value, condition value → rule.Keeps result (next value)) :
    rule.Keeps result (first >>= next) := fun builder kept =>
  (start builder kept).bind fun found ⟨holds, kept⟩ => later found.1 holds found.2 kept

/-- A step that depends on what was built. -/
theorem keeps_get {next : Builder → BuildStep α}
    (later : ∀ builder : Builder, rule.Holds builder →
      Ends rule.error (fun found => condition found.1 ∧ rule.Holds found.2)
        (next builder builder)) :
    rule.Keeps condition (get >>= next) := later

/-- A step that depends on an outcome. -/
theorem ends_lift {outcome : Except ReadError α} {next : α → BuildStep β}
    {condition : β × Builder → Prop}
    (ends : Ends rule.error (fun value => Ends rule.error condition (next value builder)) outcome) :
    Ends rule.error condition ((liftM outcome >>= next : BuildStep β) builder) := by
  cases outcome with
  | error error => exact ends
  | ok value => exact ends

/-- Saying which containers wait. -/
theorem keeps_modify_waiting (change : List Nat → List Nat) :
    rule.Keeps (fun _ => True) (modify fun builder : Builder =>
      { builder with waiting := change builder.waiting } : BuildStep PUnit) :=
  fun _ kept => ⟨trivial, kept.nodes, kept.built⟩

/-- Saying what a node has become. -/
theorem keeps_setBuilt (id : Nat) {built : Built} (holds : rule.built built) :
    rule.Keeps (fun _ => True) (setBuilt id built) := by
  intro builder kept
  refine ⟨trivial, kept.nodes, fun other found present => ?_⟩
  change (builder.built.set! id (some built)).getD other none = some found at present
  rw [Array.getD_eq_getD_getElem?, Array.set!_eq_setIfInBounds,
    Array.getElem?_setIfInBounds] at present
  split at present
  · split at present
    · cases present
      exact holds
    · cases present
  · rw [← Array.getD_eq_getD_getElem?] at present
    exact kept.built other found present

/-- Looking at a node. -/
theorem node_eq (id : Nat) (builder : Builder) :
    node id builder =
      match builder.nodes[id]? with
      | some node => .ok (node, builder)
      | none => .error .malformed := by
  change (match builder.nodes[id]? with
    | some node => (pure node : BuildStep Node)
    | none => throw ReadError.malformed) builder = _
  cases builder.nodes[id]? <;> rfl

namespace IsSound

variable (sound : rule.IsSound)

include sound

/-- A step that depends on a node. -/
theorem ends_node {next : Node → BuildStep α} {condition : α × Builder → Prop}
    (later : ∀ node : Node, builder.nodes[id]? = some node →
      Ends rule.error condition (next node builder)) :
    Ends rule.error condition ((node id >>= next) builder) := by
  have looked : Ends rule.error
      (fun found => builder.nodes[id]? = some found.1 ∧ found.2 = builder) (node id builder) := by
    rw [node_eq]
    split
    · rename_i node found
      exact ⟨found, rfl⟩
    · exact sound.malformed
  refine looked.bind ?_
  rintro ⟨node, _⟩ ⟨found, rfl⟩
  exact later node found

/-- A step that depends on a node, whichever it is. -/
theorem keeps_node {next : Node → BuildStep α} (later : ∀ node, rule.Keeps condition (next node)) :
    rule.Keeps condition (node id >>= next) :=
  fun builder kept => sound.ends_node fun node _ => later node builder kept

/-- The start of a node that has the tag of a single value. -/
theorem ends_startSingle {node : Node} (kept : rule.Holds builder)
    (found : builder.nodes[id]? = some node) (single : node.tag.isSingle = true) :
    Ends rule.error (fun found => True ∧ rule.Holds found.2) ((do
      let value ← singleOf builder.nodes id node
      setBuilt id (.single value) : BuildStep Unit) builder) :=
  ends_lift ((sound.single builder.nodes id node kept.nodes found single).mono fun _ holds =>
    keeps_setBuilt id holds builder kept)

/-- The start of a node. -/
theorem start (id : Nat) : rule.Keeps (fun _ => True) (start id) := by
  have wait : ∀ empty : Built, rule.built empty → rule.Keeps (fun _ => True) (do
      setBuilt id empty
      modify fun builder : Builder => { builder with waiting := builder.waiting ++ [id] }) :=
    fun empty holds => (keeps_setBuilt id holds).bind fun _ _ => keeps_modify_waiting (· ++ [id])
  refine keeps_get fun builder kept => ?_
  dsimp only
  split
  · exact ⟨trivial, kept⟩
  · refine sound.ends_node fun node found => ?_
    cases tag : node.tag
    case seq => exact wait _ (sound.list []) builder kept
    case omap | pairs => exact wait _ (sound.pairs []) builder kept
    case set => exact wait _ (sound.set [] nofun) builder kept
    case map => exact wait _ (sound.map [] nofun) builder kept
    case merge | default | other => exact sound.malformed
    all_goals exact sound.ends_startSingle kept found (by rw [tag]; rfl)

/-- The start of a key. -/
theorem startKey (id : Nat) :
    rule.Keeps (fun key => rule.built (.single key)) (startKey id) := by
  refine (sound.start id).bind fun _ _ => keeps_get fun builder kept => ?_
  cases found : builder.built.getD id none with
  | none => exact sound.malformed
  | some built =>
    cases built with
    | single value => exact ⟨kept.built id _ found, kept⟩
    | list | pairs | set | map => exact sound.malformed

/-! ## Whole containers -/

/-- The starts of the nodes of a list. -/
theorem startItems (items : List Nat) : rule.Keeps (fun _ => True) (startItems items) := by
  induction items with
  | nil => exact keeps_pure trivial
  | cons item rest hypothesis => exact (sound.start item).bind fun _ _ => hypothesis

/-- The starts of keys and values. -/
theorem startEntries (entries : List (Nat × Nat)) :
    rule.Keeps (fun found => ∀ entry ∈ found, rule.built (.single entry.1))
      (startEntries entries) := by
  induction entries with
  | nil => exact keeps_pure nofun
  | cons entry rest hypothesis =>
    exact (sound.startKey entry.1).bind fun key holds => (sound.start entry.2).bind fun _ _ =>
      hypothesis.bind fun later others => keeps_pure (List.forall_mem_cons.mpr ⟨holds, others⟩)

/-- The starts of the pairs of a list. -/
theorem startPairs (around : Node) (items : List Nat) :
    rule.Keeps (fun _ => True) (startPairs around items) := by
  induction items with
  | nil => exact keeps_pure trivial
  | cons item rest hypothesis =>
    refine sound.keeps_node fun found => ?_
    split
    · exact (sound.start _).bind fun _ _ => (sound.start _).bind fun _ _ =>
        hypothesis.bind fun _ _ => keeps_pure trivial
    · exact keeps_throw sound.malformed
    · exact keeps_throw (sound.noPair around found)

/-- The content of a mapping. -/
theorem entries (id : Nat) :
    rule.Keeps (fun found => ∀ entry ∈ found, rule.built (.single entry.1)) (entries id) := by
  intro builder kept
  refine sound.ends_node fun found here => ?_
  cases content : found.content with
  | map inner =>
    have rest : ∀ nodes, rule.nodes nodes → Ends rule.error
        (fun found => (∀ entry ∈ found.1, rule.built (.single entry.1)) ∧ rule.Holds found.2) ((do
          modify fun builder : Builder => { builder with nodes }
          Builder.startEntries (nodes.entriesOf id) : BuildStep _) builder) := fun nodes merged =>
      sound.startEntries (nodes.entriesOf id) { builder with nodes } ⟨merged, kept.built⟩
    exact ends_lift ((sound.merge builder.nodes id found inner kept.nodes here content).mono rest)
  | text chars => exact sound.noMapping found
  | list items => exact sound.noMapping found

/-- The content of a container. -/
theorem fill (id : Nat) : rule.Keeps (fun _ => True) (fill id) := by
  refine sound.keeps_node fun found => ?_
  split
  · exact (sound.startItems _).bind fun _ _ => keeps_setBuilt id (sound.list _)
  · exact (sound.startPairs _ _).bind fun _ _ => keeps_setBuilt id (sound.pairs _)
  · exact (sound.startPairs _ _).bind fun _ _ => keeps_setBuilt id (sound.pairs _)
  · refine (sound.entries id).bind fun found keys => keeps_setBuilt id (sound.set _ ?_)
    exact List.forall_mem_map.mpr keys
  · exact (sound.entries id).bind fun found keys => keeps_setBuilt id (sound.map _ keys)
  · exact keeps_throw sound.malformed

/-- The contents of the containers that wait. -/
theorem fillAll (fuel : Nat) : rule.Keeps (fun _ => True) (fillAll fuel) := by
  induction fuel with
  | zero => exact keeps_pure trivial
  | succ fuel hypothesis =>
    refine keeps_get fun builder kept => ?_
    cases builder.waiting with
    | nil => exact ⟨trivial, kept⟩
    | cons id waiting =>
      have rest := (keeps_modify_waiting fun _ => waiting).bind fun _ _ =>
        (sound.fill id).bind fun _ _ => hypothesis
      exact rest builder kept

/-- A document. -/
theorem build (root : Nat) : rule.Keeps (fun _ => True) (build root) :=
  (sound.start root).bind fun _ _ => keeps_get fun builder kept =>
    sound.fillAll builder.nodes.size builder kept

end IsSound

end Rule

end FoldMark.Yaml
