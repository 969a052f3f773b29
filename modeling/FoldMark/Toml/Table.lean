import FoldMark.Value

/-!
# Tables of a TOML document

A document fills tables by the paths of its keys. A path leads through a list of tables to its last
table. A table that a header named, or that the keys of an earlier section made, is closed: no
header names it again and no key path leads through it. A value is never added to.
-/

namespace FoldMark.Toml

/-- A part of a path. -/
abbrev Key := List Char

/-- What a key stands for. -/
inductive Item where
  /-- A value that is complete. -/
  | value (value : Value)
  /-- A table. -/
  | table (isClosed : Bool) (entries : List (Key × Item))
  /-- Tables in a list, of which the last is not complete. -/
  | tables (earlier : List Value) (last : List (Key × Item))

/-- What the keys of a table stand for. -/
abbrev Table := List (Key × Item)

mutual

/-- The value that an item has become. -/
def Item.toValue : Item → Value
  | .value complete => complete
  | .table _ entries => .map none (Item.entryValues entries)
  | .tables earlier last => .list none (earlier ++ [.map none (Item.entryValues last)])

/-- The values of keys. -/
def Item.entryValues : List (Key × Item) → List (Value × Value)
  | [] => []
  | (key, item) :: rest => (.str key, item.toValue) :: Item.entryValues rest

end

namespace Table

/-- What a key stands for. -/
def find? (table : Table) (key : Key) : Option Item := table.lookup key

/-- Lets a key of a table stand for something else. -/
def replace (table : Table) (key : Key) (item : Item) : Table :=
  table.map fun entry => if entry.1 == key then (key, item) else entry

/-- Adds a key. -/
def add (table : Table) (key : Key) (item : Item) : Table := table ++ [(key, item)]

/-- Changes the table at a path, making those that are missing. -/
def update (change : Table → Option Table) : List Key → Table → Option Table
  | [], table => change table
  | key :: path, table =>
    match table.find? key with
    | none => (update change path []).map fun inner => table.add key (.table false inner)
    | some (.table isClosed inner) =>
      (update change path inner).map fun inner => table.replace key (.table isClosed inner)
    | some (.tables earlier last) =>
      (update change path last).map fun last => table.replace key (.tables earlier last)
    | some (.value _) => none

/-- Changes the table at a path that leads through open tables, making those that are missing. -/
def updateOpen (change : Table → Option Table) : List Key → Table → Option Table
  | [], table => change table
  | key :: path, table =>
    match table.find? key with
    | none => (updateOpen change path []).map fun inner => table.add key (.table false inner)
    | some (.table false inner) =>
      (updateOpen change path inner).map fun inner => table.replace key (.table false inner)
    | some _ => none

/-- Gives a new key a value. -/
def addValue (key : Key) (value : Value) (table : Table) : Option Table :=
  if (table.find? key).isSome then none else some (table.add key (.value value))

/-- Adds a value at the path of a key. -/
def insert (path : List Key) (value : Value) (table : Table) : Option Table := do
  let key ← path.getLast?
  updateOpen (addValue key value) path.dropLast table

/-- Opens the table of a header, which closes it for later headers. -/
def openTable (key : Key) (table : Table) : Option Table :=
  match table.find? key with
  | none => some (table.add key (.table true []))
  | some (.table false inner) => some (table.replace key (.table true inner))
  | some _ => none

/-- The value that a table has become. -/
def toValue (table : Table) : Value := .map none (Item.entryValues table)

/-- Starts the next table of a list. -/
def openNext (key : Key) (table : Table) : Option Table :=
  match table.find? key with
  | none => some (table.add key (.tables [] []))
  | some (.tables earlier last) => some (table.replace key (.tables (earlier ++ [toValue last]) []))
  | some _ => none

/-- Closes the table of a key. -/
def close (key : Key) (table : Table) : Option Table :=
  match table.find? key with
  | some (.table _ inner) => some (table.replace key (.table true inner))
  | _ => some table

end Table

/-- What a line of a document says. -/
inductive Statement where
  /-- The following keys belong to a table. -/
  | table (path : List Key)
  /-- The following keys belong to the next table of a list. -/
  | tables (path : List Key)
  /-- A key has a value. -/
  | pair (path : List Key) (value : Value)

/-- A document while it is read. -/
structure Draft where
  /-- The tables so far. -/
  root : Table
  /-- The path of the header before. -/
  header : List Key
  /-- The tables that the keys since then lead through. -/
  passed : List (List Key)

namespace Draft

/-- Changes the table that holds the last key of a path. -/
def atParent (change : Key → Table → Option Table) (path : List Key) (root : Table) :
    Option Table := do
  let key ← path.getLast?
  root.update (change key) path.dropLast

/-- Closes the tables that the keys of a section led through. -/
def endSection (draft : Draft) : Option Table :=
  draft.passed.foldlM (fun root path => atParent Table.close path root) draft.root

/-- The beginnings of a path that lead to tables. -/
def stems (path : List Key) : List (List Key) :=
  (List.range (path.length - 1)).map fun i => path.take (i + 1)

/-- Takes up a statement. -/
def add (draft : Draft) : Statement → Option Draft
  | .table path => do
    let root ← draft.endSection
    let root ← atParent Table.openTable path root
    some ⟨root, path, []⟩
  | .tables path => do
    let root ← draft.endSection
    let root ← atParent Table.openNext path root
    some ⟨root, path, []⟩
  | .pair path value => do
    let root ← draft.root.update (Table.insert path value) draft.header
    some { draft with root, passed := draft.passed ++ (stems path).map (draft.header ++ ·) }

end Draft

/-- The value of a document's statements. -/
def build? (statements : List Statement) : Option Value := do
  let draft ← statements.foldlM Draft.add ⟨[], [], []⟩
  some draft.root.toValue

end FoldMark.Toml
