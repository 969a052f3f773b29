import FoldMark.Yaml.Layout
import FoldMark.Yaml.Schema

/-!
# Nodes

The nodes of a document form a graph: an anchored node can stand in several places, also within
itself. They are kept in an array, and a node names those within it by their positions.
-/

namespace FoldMark.Yaml

/-- What a node holds. -/
inductive Content where
  /-- A text. -/
  | text (chars : CodeText)
  /-- The nodes of a list. -/
  | list (items : List Nat)
  /-- The nodes of keys and values. -/
  | map (entries : List (Nat × Nat))
  deriving DecidableEq, Repr

/-- Whether a node holds a text. -/
def Content.isText : Content → Bool
  | text _ => true
  | _ => false

/-- A node. -/
structure Node where
  /-- What kind of value it stands for. -/
  tag : Tag
  /-- Where it starts. -/
  mark : Mark
  /-- What it holds. -/
  content : Content
  deriving DecidableEq, Repr

/-- The nodes of a document. -/
abbrev Graph := Array Node

/-- A document while its nodes are read. -/
structure NodeDraft where
  /-- The tokens that are left. -/
  tokens : List Token
  /-- Why no token follows them. -/
  failure : TextError
  /-- The nodes so far. -/
  nodes : Graph
  /-- The nodes of the anchors. -/
  anchors : List (List Char × Nat)
  /-- What the handles of tags stand for. -/
  handles : List (List Char × List Char)

/-- A reader of nodes. -/
abbrev NodeReader := StateT NodeDraft (Except TextError)

namespace NodeReader

/-- Fails since the text is no document. -/
def fail {α : Type} : NodeReader α := throw .malformed

/-- The next token. -/
def peek : NodeReader Token := fun draft =>
  match draft.tokens with
  | token :: _ => .ok (token, draft)
  | [] => .error draft.failure

/-- Takes the next token. -/
def next : NodeReader Token := fun draft =>
  match draft.tokens with
  | token :: tokens => .ok (token, { draft with tokens })
  | [] => .error draft.failure

/-- Whether the next token is of one of some kinds. -/
def nextIs (kinds : List Token.Kind) : NodeReader Bool := do return kinds.contains (← peek).kind

/-- Adds a node. -/
def add (node : Node) : NodeReader Nat := fun draft =>
  .ok (draft.nodes.size, { draft with nodes := draft.nodes.push node })

/-- Changes what a node holds. -/
def fill (id : Nat) (content : Content) : NodeReader Unit := fun draft =>
  .ok ((), { draft with nodes := draft.nodes.modify id fun node => { node with content } })

/-- Names a node. -/
def setAnchor (anchor : Option (List Char)) (id : Nat) : NodeReader Unit := fun draft =>
  match anchor with
  | none => .ok ((), draft)
  | some name => .ok ((), { draft with anchors := (name, id) :: draft.anchors })

/-- What stands before a node. -/
structure Properties where
  /-- The name of the node. -/
  anchor : Option (List Char)
  /-- The full name of its tag. -/
  tag : Option (List Char)
  /-- Where they start. -/
  mark : Mark

/-- What a name stands for among some names. -/
def meant {α : Type} (name : List Char) (names : NodeDraft → List (List Char × α)) :
    NodeReader α := fun draft =>
  match (names draft).lookup name with
  | some meaning => .ok (meaning, draft)
  | none => .error .malformed

/-- The full name of a tag. -/
def tagName (handle : Option (List Char)) (suffix : List Char) : NodeReader (List Char) := do
  match handle with
  | none => return suffix
  | some handle => return (← meant handle NodeDraft.handles) ++ suffix

/-- Reads the anchor and the tag before a node, in any order. -/
def readProperties : NodeReader Properties := do
  let first ← peek
  match first.kind with
  | .anchor name =>
    let _ ← next
    match (← peek).kind with
    | .tag handle suffix =>
      let _ ← next
      return ⟨some name, some (← tagName handle suffix), first.start⟩
    | _ => return ⟨some name, none, first.start⟩
  | .tag handle suffix =>
    let _ ← next
    match (← peek).kind with
    | .anchor name =>
      let _ ← next
      return ⟨some name, some (← tagName handle suffix), first.start⟩
    | _ => return ⟨none, some (← tagName handle suffix), first.start⟩
  | _ => return ⟨none, none, first.start⟩

namespace Properties

/-- Whether the tag is to be found by the form of the node. -/
def isOpen (properties : Properties) : Bool := properties.tag.all (· == ['!'])

/-- The tag of a node that has the given one by its form. -/
def tagOr (properties : Properties) (byForm : Tag) : Tag :=
  if properties.isOpen then byForm else (properties.tag.map Tag.ofName).getD byForm

/-- The tag of a text. A text between quotes has its tag by form only if one is asked for. -/
def textTag (properties : Properties) (text : CodeText) (isPlain : Bool) : Tag :=
  properties.tagOr (if isPlain || properties.tag.isSome then Tag.ofText text.toList else .str)

end Properties

/-- Adds a node without text. -/
def addEmpty (mark : Mark) : NodeReader Nat := add ⟨Tag.ofText [], mark, .text []⟩

/-- Fails if a name is taken. -/
def checkAnchor (anchor : Option (List Char)) : NodeReader Unit := fun draft =>
  if anchor.any fun name => (draft.anchors.lookup name).isSome then .error .malformed
  else .ok ((), draft)

/-- Adds a text with its properties. -/
def addText (properties : Properties) (text : CodeText) (isPlain : Bool) : NodeReader Nat := do
  let id ← add ⟨properties.textTag text isPlain, properties.mark, .text text⟩
  setAnchor properties.anchor id
  return id

/-- Adds a list with its properties and the items that a reader gives. -/
def addList (properties : Properties) (items : NodeReader (List Nat)) : NodeReader Nat := do
  let id ← add ⟨properties.tagOr .seq, properties.mark, .list []⟩
  setAnchor properties.anchor id
  fill id (.list (← items))
  return id

/-- Adds a mapping with its properties and the entries that a reader gives. -/
def addMap (properties : Properties) (entries : NodeReader (List (Nat × Nat))) :
    NodeReader Nat := do
  let id ← add ⟨properties.tagOr .map, properties.mark, .map []⟩
  setAnchor properties.anchor id
  fill id (.map (← entries))
  return id

/-- Where a node stands. -/
inductive Place where
  /-- Within brackets. -/
  | flow
  /-- Among indented lines. -/
  | block
  /-- Among indented lines, where the items of a list need no indentation of their own. -/
  | blockEntry
  deriving DecidableEq, Repr

mutual

/-- Reads a node, in at most `fuel` nested steps. -/
def readNode : Nat → Place → NodeReader Nat
  | 0, _ => fail
  | fuel + 1, place => do
    if let .alias name := (← peek).kind then
      let _ ← next
      return ← meant name NodeDraft.anchors
    let properties ← readProperties
    let token ← peek
    checkAnchor properties.anchor
    match token.kind, place with
    | .entry, .blockEntry => addList properties (readLooseItems fuel)
    | .text text isPlain, _ =>
      let _ ← next
      addText properties text isPlain
    | .flowListStart, _ =>
      let _ ← next
      addList properties (readFlowItems fuel true)
    | .flowMapStart, _ =>
      let _ ← next
      addMap properties (readFlowEntries fuel true)
    | .listStart, .block | .listStart, .blockEntry =>
      let _ ← next
      addList properties (readItems fuel)
    | .mapStart, .block | .mapStart, .blockEntry =>
      let _ ← next
      addMap properties (readEntries fuel)
    | _, _ =>
      if properties.anchor.isSome || properties.tag.isSome then
        let id ← add ⟨properties.tagOr (Tag.ofText []), properties.mark, .text []⟩
        setAnchor properties.anchor id
        return id
      else fail

/-- Reads a node unless a token of some kinds ends its place, which is then empty. -/
def readNodeUnless : Nat → List Token.Kind → Place → Mark → NodeReader Nat
  | 0, _, _, _ => fail
  | fuel + 1, kinds, place, mark => do
    if ← nextIs kinds then addEmpty mark else readNode fuel place

/-- Reads the value of an entry, which may not be written. -/
def readEntryValue : Nat → List Token.Kind → Place → NodeReader Nat
  | 0, _, _ => fail
  | fuel + 1, kinds, place => do
    if ← nextIs [.value] then readNodeUnless fuel kinds place (← next).stop
    else addEmpty (← peek).start

/-- Reads the items of an indented list. -/
def readItems : Nat → NodeReader (List Nat)
  | 0 => fail
  | fuel + 1 => do
    let token ← next
    match token.kind with
    | .entry =>
      let item ← readNodeUnless fuel [.entry, .blockEnd] .block token.stop
      return item :: (← readItems fuel)
    | .blockEnd => return []
    | _ => fail

/-- Reads the items of a list without an indentation of its own. -/
def readLooseItems : Nat → NodeReader (List Nat)
  | 0 => fail
  | fuel + 1 => do
    if ← nextIs [.entry] then
      let item ← readNodeUnless fuel [.entry, .key, .value, .blockEnd] .block (← next).stop
      return item :: (← readLooseItems fuel)
    else return []

/-- Reads the entries of an indented mapping. -/
def readEntries : Nat → NodeReader (List (Nat × Nat))
  | 0 => fail
  | fuel + 1 => do
    let token ← next
    match token.kind with
    | .key =>
      let ends := [.key, .value, .blockEnd]
      let key ← readNodeUnless fuel ends .blockEntry token.stop
      let value ← readEntryValue fuel ends .blockEntry
      return (key, value) :: (← readEntries fuel)
    | .blockEnd => return []
    | _ => fail

/-- Reads the items of a list between brackets, the first of them or those after it. -/
def readFlowItems : Nat → Bool → NodeReader (List Nat)
  | 0, _ => fail
  | fuel + 1, isFirst => do
    if !isFirst && !(← nextIs [.flowListEnd]) then
      if (← next).kind != .flowEntry then fail
    let token ← peek
    match token.kind with
    | .flowListEnd =>
      let _ ← next
      return []
    | .key =>
      let ends := [.flowEntry, .flowListEnd]
      let item ← addMap ⟨none, none, token.start⟩ do
        let _ ← next
        let key ← readNodeUnless fuel (.value :: ends) .flow token.stop
        let value ← readEntryValue fuel ends .flow
        return [(key, value)]
      return item :: (← readFlowItems fuel false)
    | _ =>
      let item ← readNode fuel .flow
      return item :: (← readFlowItems fuel false)

/-- Reads the entries of a mapping between braces, the first of them or those after it. -/
def readFlowEntries : Nat → Bool → NodeReader (List (Nat × Nat))
  | 0, _ => fail
  | fuel + 1, isFirst => do
    if !isFirst && !(← nextIs [.flowMapEnd]) then
      if (← next).kind != .flowEntry then fail
    let token ← peek
    match token.kind with
    | .flowMapEnd =>
      let _ ← next
      return []
    | .key =>
      let _ ← next
      let ends := [.flowEntry, .flowMapEnd]
      let key ← readNodeUnless fuel (.value :: ends) .flow token.stop
      let value ← readEntryValue fuel ends .flow
      return (key, value) :: (← readFlowEntries fuel false)
    | _ =>
      let key ← readNode fuel .flow
      let value ← addEmpty (← peek).start
      return (key, value) :: (← readFlowEntries fuel false)

end

/-- What the handles of tags stand for where nothing else is said. -/
def knownHandles : List (List Char × List Char) := [(['!'], ['!']), (['!', '!'], Tag.core)]

/-- Says what a handle of tags stands for. -/
def setHandle (name meaning : List Char) : NodeReader Unit := fun draft =>
  if (draft.handles.lookup name).isSome then .error .malformed
  else .ok ((), { draft with handles := draft.handles ++ [(name, meaning)] })

/-- Forgets what the handles of tags stand for. -/
def dropHandles : NodeReader Unit := fun draft => .ok ((), { draft with handles := [] })

/-- Reads the directives before a document, in at most `fuel` steps, given whether the version was
said. -/
def readDirectives : Nat → Bool → NodeReader Unit
  | 0, _ => fail
  | fuel + 1, hasVersion => do
    match (← peek).kind with
    | .version major =>
      if hasVersion || major != 1 then fail
      let _ ← next
      readDirectives fuel true
    | .handle name meaning =>
      setHandle name meaning
      let _ ← next
      readDirectives fuel hasVersion
    | .directive =>
      let _ ← next
      readDirectives fuel hasVersion
    | _ => return ()

/-- Whether the next token is a directive. -/
def nextIsDirective : NodeReader Bool := do
  match (← peek).kind with
  | .version _ | .handle .. | .directive => return true
  | _ => return false

/-- Adds the handles that every document knows to those that were said. -/
def completeHandles : NodeReader Unit := fun draft =>
  .ok ((), { draft with handles := draft.handles ++ knownHandles })

/-- Passes the ends of documents, of which there are at most `fuel`. -/
def skipDocumentEnds : Nat → NodeReader Unit
  | 0 => return ()
  | fuel + 1 => do
    if ← nextIs [.documentEnd] then
      let _ ← next
      skipDocumentEnds fuel

/-- Reads the document of a text that has at most one. Where another follows, its directives are
read before it is refused. -/
def readDocument (fuel : Nat) : NodeReader (Option Nat) := do
  if ← nextIs [.streamEnd] then return none
  let isExplicit ← do
    if ← nextIs [.documentStart] then pure true else nextIsDirective
  if isExplicit then
    readDirectives fuel false
    if (← next).kind != .documentStart then fail
  completeHandles
  let isEmpty ← do
    if ← nextIs [.documentStart, .documentEnd, .streamEnd] then pure true else nextIsDirective
  let root ← if isExplicit && isEmpty then addEmpty (← peek).start else readNode fuel .block
  skipDocumentEnds fuel
  if ← nextIs [.streamEnd] then return some root
  dropHandles
  readDirectives fuel false
  fail

end NodeReader

/-- A document: its nodes, and the one that contains the others, if there is any. -/
structure Document where
  /-- The nodes. -/
  nodes : Graph
  /-- The position of the node that contains the others. -/
  root : Option Nat

/-- The document of a text. -/
def Document.ofText (text : List Char) : Except TextError Document := do
  let tokens := Tokens.ofText text
  let draft : NodeDraft := ⟨tokens.list, tokens.failure, #[], [], []⟩
  let (root, draft) ← (NodeReader.readDocument (3 * tokens.list.length + 3)).run draft
  return ⟨draft.nodes, root⟩

end FoldMark.Yaml
