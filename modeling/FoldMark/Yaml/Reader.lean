import FoldMark.Yaml.Merge

/-!
# Reading YAML

The nodes of a document become values level by level, so that of several nodes without a value the
one nearest to the root is reported. A node within itself becomes a value that contains itself.
-/

namespace FoldMark.Yaml

/-- What a node has become; the nodes within a container are named by their positions. -/
inductive Built where
  /-- A single value. -/
  | single (value : Value)
  /-- A list. -/
  | list (items : List Nat)
  /-- A list of pairs. -/
  | pairs (items : List (Nat × Nat))
  /-- A set. -/
  | set (items : List Value)
  /-- A mapping. -/
  | map (entries : List (Value × Nat))

/-- A document while its nodes become values. -/
structure Builder where
  /-- The nodes. -/
  nodes : Graph
  /-- What they have become. -/
  built : Array (Option Built)
  /-- The containers whose content waits, in order. -/
  waiting : List Nat

/-- A step of building. -/
abbrev BuildStep := StateT Builder (Except ReadError)

namespace Builder

/-- The node at a position. -/
def node (id : Nat) : BuildStep Node := do
  match (← get).nodes[id]? with
  | some node => return node
  | none => throw .malformed

/-- Says what a node has become. -/
def setBuilt (id : Nat) (built : Built) : BuildStep Unit :=
  modify fun builder => { builder with built := builder.built.set! id (some built) }

/-- The text that a node stands for, found in at most `fuel` steps: a mapping can have a key whose
value stands for it. -/
def textOf (nodes : Graph) : Nat → Nat → Except ReadError CodeText
  | 0, _ => .error .endless
  | fuel + 1, id =>
    match nodes[id]?.map Node.content with
    | some (.text text) => .ok text
    | some (.map entries) =>
      match entries.find? fun entry => nodes.tagOf entry.1 == .default with
      | some entry => textOf nodes fuel entry.2
      | none => .error .malformed
    | _ => .error .malformed

/-- The value of a node that has the tag of a single value. A mapping can stand for a text, but not
for a date. -/
def singleOf (nodes : Graph) (id : Nat) (node : Node) : Except ReadError Value := do
  let text ← textOf nodes (nodes.size + 1) id
  if node.tag == .timestamp && !node.content.isText then throw .noText
  Scalar.ofTag id node.tag text

/-- Builds a node, but only the start of a container. -/
def start (id : Nat) : BuildStep Unit := do
  let builder ← get
  if (builder.built.getD id none).isSome then return ()
  let wait (empty : Built) : BuildStep Unit := do
    setBuilt id empty
    modify fun builder => { builder with waiting := builder.waiting ++ [id] }
  let node ← node id
  match node.tag with
  | .seq => wait (.list [])
  | .omap | .pairs => wait (.pairs [])
  | .set => wait (.set [])
  | .map => wait (.map [])
  | .merge | .default | .other _ => throw .malformed
  | _ =>
    let value ← singleOf builder.nodes id node
    setBuilt id (.single value)

/-- Builds the start of a node that is a key. -/
def startKey (id : Nat) : BuildStep Value := do
  start id
  match (← get).built.getD id none with
  | some (.single value) => return value
  | _ => throw .malformed

/-- Builds the starts of the nodes of a list. -/
def startItems : List Nat → BuildStep Unit
  | [] => return ()
  | item :: rest => do
    start item
    startItems rest

/-- Builds the starts of keys and values. -/
def startEntries : List (Nat × Nat) → BuildStep (List (Value × Nat))
  | [] => return []
  | (key, value) :: rest => do
    let key ← startKey key
    start value
    let rest ← startEntries rest
    return (key, value) :: rest

/-- Builds the starts of the pairs that the nodes of a list are. -/
def startPairs (around : Node) : List Nat → BuildStep (List (Nat × Nat))
  | [] => return []
  | item :: rest => do
    let found ← node item
    match found.content with
    | .map [(key, value)] =>
      start key
      start value
      let rest ← startPairs around rest
      return (key, value) :: rest
    | .map _ => throw .malformed
    | _ => throw (.noPair around found)

/-- Builds the content of a mapping. -/
def entries (id : Nat) : BuildStep (List (Value × Nat)) := do
  let found ← node id
  match found.content with
  | .map _ =>
    let nodes ← Graph.flatten (← get).nodes id
    modify fun builder => { builder with nodes }
    startEntries (nodes.entriesOf id)
  | _ => throw (.noMapping found)

/-- Builds the content of a container. -/
def fill (id : Nat) : BuildStep Unit := do
  let found ← node id
  match found.tag, found.content with
  | .seq, .list items =>
    startItems items
    setBuilt id (.list items)
  | .omap, .list items | .pairs, .list items =>
    let pairs ← startPairs found items
    setBuilt id (.pairs pairs)
  | .set, _ =>
    let entries ← entries id
    setBuilt id (.set (entries.map (·.1)))
  | .map, _ =>
    let entries ← entries id
    setBuilt id (.map entries)
  | _, _ => throw .malformed

/-- Builds the contents of the containers that wait, of which there are at most `fuel`. -/
def fillAll : Nat → BuildStep Unit
  | 0 => return ()
  | fuel + 1 => do
    match (← get).waiting with
    | [] => return ()
    | id :: waiting =>
      modify fun builder => { builder with waiting }
      fill id
      fillAll fuel

/-- Builds a document. -/
def build (root : Nat) : BuildStep Unit := do
  start root
  fillAll (← get).nodes.size

end Builder

/-- The value of a node, with those within it down to `fuel` levels; `around` are the nodes that it
is within. -/
def Built.toValue (built : Array (Option Built)) : Nat → List Nat → Nat → Value
  | 0, _, _ => .null
  | fuel + 1, around, id =>
    if around.contains id then .again id
    else
      let within := toValue built fuel (id :: around)
      match built.getD id none with
      | none => .null
      | some (.single value) => value
      | some (.list items) => .list (some id) (items.map within)
      | some (.pairs items) =>
        .list (some id) (items.map fun (key, value) => .tuple [within key, within value])
      | some (.set items) =>
        let entries := items.foldl (fun entries item => Value.insert entries item .null) []
        .set (some id) (entries.map (·.1))
      | some (.map items) =>
        .map (some id)
          (items.foldl (fun entries (key, value) => Value.insert entries key (within value)) [])

/-- Reads a document; one without nodes has no value. -/
def read (text : List Char) : Except ReadError Value :=
  match Document.ofText text with
  | .error error => .error (.ofText error)
  | .ok ⟨_, none⟩ => .ok .null
  | .ok ⟨nodes, some root⟩ => do
    let ((), builder) ← (Builder.build root).run ⟨nodes, Array.replicate nodes.size none, []⟩
    return Built.toValue builder.built (nodes.size + 1) [] root

namespace ReadError

/-- What a node is called. -/
def nodeName (node : Node) : String :=
  match node.content with
  | .text _ => "scalar"
  | .list _ => "sequence"
  | .map _ => "mapping"

/-- A node that was found where a mapping was expected, in a text. -/
def foundText (text : List Char) (expected : String) (found : Node) : List Char :=
  expected.toList ++ ", but found ".toList ++ (nodeName found).toList ++
    '\n' :: found.mark.shown text

/-- What was being read around a node, unless that starts at the same place. -/
def aroundText (text : List Char) (activity : String) (around found : Node) : List Char :=
  activity.toList ++ '\n' ::
    if around.mark == found.mark then [] else around.mark.shown text ++ ['\n']

/-- What is wrong with a text, in words, where a mapping is missing. -/
def detail? (text : List Char) : ReadError → Option (List Char)
  | noMapping found => some (foundText text "expected a mapping node" found)
  | noMerge around found isListed =>
    let expected :=
      if isListed then "expected a mapping for merging"
      else "expected a mapping or list of mappings for merging"
    some
      (aroundText text "while constructing a mapping" around found ++ foundText text expected found)
  | noPair around found =>
    let activity :=
      if around.tag == .omap then "while constructing an ordered map"
      else "while constructing pairs"
    some (aroundText text activity around found ++
      foundText text "expected a mapping of length 1" found)
  | _ => none

end ReadError

end FoldMark.Yaml
