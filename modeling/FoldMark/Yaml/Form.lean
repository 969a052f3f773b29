import FoldMark.Payload
import FoldMark.Text.Base64
import FoldMark.Yaml.Schema

/-!
# Values as they are written

Before a value is written, its single values become texts with tags, and a value that stands in
several places gets an anchor where it stands first and becomes a reference elsewhere. Anchors are
numbered in the order in which values are met a second time.
-/

namespace FoldMark.Yaml

/-- What is written for a value. -/
inductive Form where
  /-- A reference to the anchor with a number. -/
  | alias (anchor : Nat)
  /-- A text, indented under a sign or not. -/
  | text (anchor : Option Nat) (tag : Tag) (text : CodeText) (isBlock : Bool)
  /-- A list. -/
  | list (anchor : Option Nat) (items : List Form)
  /-- A mapping, or a set as a mapping without values. -/
  | map (anchor : Option Nat) (isSet : Bool) (entries : List (Form × Form))

/-- The values that were met. -/
structure Met where
  /-- All of them. -/
  once : List Nat
  /-- Those that were met again, in that order. -/
  again : List Nat

namespace Met

/-- No values. -/
def none : Met := ⟨[], []⟩

/-- Whether a value was met. -/
def contains (met : Met) (id : Option Nat) : Bool := id.any met.once.contains

/-- Meets a value. -/
def add (met : Met) (id : Option Nat) : Met :=
  match id with
  | .none => met
  | some id =>
    if !met.once.contains id then { met with once := id :: met.once }
    else if met.again.contains id then met
    else { met with again := met.again ++ [id] }

mutual

/-- Meets a value and what is within it. -/
def visit (met : Met) : Value → Met
  | .date id _ | .dateTime id _ => met.add id
  | .list id items | .set id items =>
    if met.contains id then met.add id else visitItems (met.add id) items
  | .tuple items => visitItems met items
  | .map id entries => if met.contains id then met.add id else visitEntries (met.add id) entries
  | .again id => met.add (some id)
  | _ => met

/-- Meets the items of a list. -/
def visitItems (met : Met) : List Value → Met
  | [] => met
  | item :: rest => visitItems (met.visit item) rest

/-- Meets the keys and values of a mapping. -/
def visitEntries (met : Met) : List (Value × Value) → Met
  | [] => met
  | (key, value) :: rest => visitEntries ((met.visit key).visit value) rest

end

end Met

namespace Form

/-- The spellings of what is no finite number. -/
def extremes : Number.Extremes := ⟨".nan", ".inf", "-.inf"⟩

/-- The text of a floating-point number, which has a point. -/
def floatText (x : Float) : List Char :=
  let chars := Number.floatText extremes x
  if chars.contains '.' then chars
  else chars.takeWhile (· != 'e') ++ '.' :: '0' :: chars.dropWhile (· != 'e')

/-- The characters of a line of bytes. -/
def binaryWidth : Nat := 76

/-- Lines of some characters, of which there are at most `fuel`. -/
def linesOf : Nat → List Char → List Char
  | 0, _ | _, [] => []
  | fuel + 1, chars => chars.take binaryWidth ++ '\n' :: linesOf fuel (chars.drop binaryWidth)

/-- The text of bytes. -/
def binaryText (data : List UInt8) : List Char :=
  let chars := Text.Base64.encode data
  linesOf chars.length chars

/-- A text without an anchor. -/
def plain (tag : Tag) (text : CodeText) : Form := .text none tag text false

/-- The number of the anchor of a value that was met again. -/
def anchorOf (again : List Nat) (id : Option Nat) : Option Nat :=
  id.bind fun id => (again.idxOf? id).map (· + 1)

/-- The values written so far. -/
abbrev Written := List Nat

/-- Writes a value, or a reference to it if it was written before. -/
def once (again : List Nat) (id : Option Nat)
    (form : Option Nat → Written → Except WriteError (Form × Written)) (written : Written) :
    Except WriteError (Form × Written) :=
  match id, anchorOf again id with
  | some id, some anchor =>
    if written.contains id then .ok (.alias anchor, written) else form (some anchor) (id :: written)
  | _, _ => form none written

mutual

/-- The form of a value, given the values met again and those written so far. -/
def ofValue (again : List Nat) (written : Written) : Value → Except WriteError (Form × Written)
  | .null => .ok (plain .null "null", written)
  | .bool b => .ok (plain .bool (if b then "true" else "false"), written)
  | .int n => do return (plain .int (← writeShown (.int n)), written)
  | .float x => .ok (plain .float (floatText x), written)
  | .str s => .ok (plain .str s, written)
  | .bytes data => .ok (.text none .binary (binaryText data) true, written)
  | .date id d =>
    once again id (fun anchor written => .ok (.text anchor .timestamp d.text false, written))
      written
  | .dateTime id t =>
    once again id
      (fun anchor written => .ok (.text anchor .timestamp (t.text ' ') false, written)) written
  | .time t => .error (.unrepresentable (.time t))
  | .again id => .ok (.alias ((anchorOf again (some id)).getD 0), written)
  | .tuple items => do
    let (items, written) ← ofItems again written items
    return (.list none items, written)
  | .list id items =>
    once again id
      (fun anchor written => do
        let (items, written) ← ofItems again written items
        return (.list anchor items, written))
      written
  | .set id items =>
    once again id
      (fun anchor written => do
        let (items, written) ← ofItems again written items
        let entries := items.map fun item => (item, plain .null "null")
        return (.map anchor true entries, written))
      written
  | .map id entries =>
    once again id
      (fun anchor written => do
        let (entries, written) ← ofEntries again written entries
        return (.map anchor false entries, written))
      written

/-- The forms of items. -/
def ofItems (again : List Nat) (written : Written) :
    List Value → Except WriteError (List Form × Written)
  | [] => .ok ([], written)
  | item :: rest => do
    let (item, written) ← ofValue again written item
    let (rest, written) ← ofItems again written rest
    return (item :: rest, written)

/-- The forms of entries. -/
def ofEntries (again : List Nat) (written : Written) :
    List (Value × Value) → Except WriteError (List (Form × Form) × Written)
  | [] => .ok ([], written)
  | (key, value) :: rest => do
    let (key, written) ← ofValue again written key
    let (value, written) ← ofValue again written value
    let (rest, written) ← ofEntries again written rest
    return ((key, value) :: rest, written)

end

/-- The form of a value. -/
def of (value : Value) : Except WriteError Form :=
  (ofValue (Met.none.visit value).again [] value).map (·.1)

end Form

end FoldMark.Yaml
