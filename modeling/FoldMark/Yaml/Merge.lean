import FoldMark.Yaml.Scalar

/-!
# Merging mappings

A mapping may have entries whose values, a mapping or a list of mappings, are merged into it: their
entries come before its own, and those of an earlier mapping of a list after those of a later one.
-/

namespace FoldMark.Yaml.Graph

/-- The tag of a node. -/
def tagOf (nodes : Graph) (id : Nat) : Tag := (nodes[id]?.map Node.tag).getD .null

/-- The entries of a mapping. -/
def entriesOf (nodes : Graph) (id : Nat) : List (Nat × Nat) :=
  match nodes[id]?.map Node.content with
  | some (.map entries) => entries
  | _ => []

/-- Gives a mapping its entries. -/
def setEntries (nodes : Graph) (id : Nat) (entries : List (Nat × Nat)) : Graph :=
  nodes.modify id fun node => { node with content := .map entries }

/-- Whether a key asks for its value to be merged. -/
def isMergeKey (nodes : Graph) (id : Nat) : Bool := nodes.tagOf id == .merge

/-- The number of entries that are to be merged. -/
def mergeCount (nodes : Graph) : Nat :=
  let keys := nodes.toList.flatMap fun node =>
    match node.content with
    | .map entries => entries.filter fun entry => nodes.isMergeKey entry.1
    | _ => []
  keys.length

/-- Takes a key for a text where it stands for its mapping otherwise. -/
def asPlainKey (nodes : Graph) (id : Nat) : Graph :=
  nodes.modify id fun node => if node.tag == .default then { node with tag := .str } else node

/-- Puts merged entries before those of a mapping, whose keys are keys only. -/
def finish (nodes : Graph) (id : Nat) (merged : List (Nat × Nat)) : Graph :=
  let own := nodes.entriesOf id
  (own.foldl (fun nodes entry => nodes.asPlainKey entry.1) nodes).setEntries id (merged ++ own)

/-- Merges what each mapping of a list is to be merged with; gives the entries of the list. -/
def flattenItems (flatten : Graph → Nat → Except ReadError Graph) (around : Node) :
    Graph → List Nat → Except ReadError (Graph × List (Nat × Nat))
  | nodes, [] => .ok (nodes, [])
  | nodes, item :: rest =>
    match nodes[item]? with
    | some ⟨_, _, .map _⟩ => do
      let nodes ← flatten nodes item
      let entries := nodes.entriesOf item
      let (nodes, later) ← flattenItems flatten around nodes rest
      return (nodes, later ++ entries)
    | some found => .error (.noMerge around found true)
    | none => .error .malformed

/-- Merges a mapping with what it is to be merged with, in at most `fuel` steps, given the entries
that were merged before. -/
def flattenFrom : Nat → List (Nat × Nat) → Graph → Nat → Except ReadError Graph
  | 0, merged, nodes, id => .ok (nodes.finish id merged)
  | fuel + 1, merged, nodes, id => do
    let entries := nodes.entriesOf id
    match entries.find? fun entry => nodes.isMergeKey entry.1 with
    | none => return nodes.finish id merged
    | some (key, value) =>
      let around := nodes[id]?
      let nodes := nodes.setEntries id (entries.eraseP fun entry => entry.1 == key)
      match around, nodes[value]? with
      | some _, some ⟨_, _, .map _⟩ =>
        let nodes ← flattenFrom fuel [] nodes value
        flattenFrom fuel (merged ++ nodes.entriesOf value) nodes id
      | some around, some ⟨_, _, .list items⟩ =>
        let (nodes, entries) ← flattenItems (flattenFrom fuel []) around nodes items
        flattenFrom fuel (merged ++ entries) nodes id
      | some around, some found => .error (.noMerge around found false)
      | _, _ => .error .malformed

/-- Merges a mapping with what it is to be merged with. -/
def flatten (nodes : Graph) (id : Nat) : Except ReadError Graph :=
  flattenFrom (nodes.mergeCount + 1) [] nodes id

end FoldMark.Yaml.Graph
