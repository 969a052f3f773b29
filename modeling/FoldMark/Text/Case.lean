import FoldMark.Text.Table.Case
import FoldMark.Text.Table.Compatibility

/-!
# Case mappings

Lower and upper case character by character, without regard to the context. `caseKey` is equal for
texts that differ in case only.
-/

namespace FoldMark.Text

namespace CaseRun

/-- Whether a code point belongs to a run. -/
def contains (run : CaseRun) (n : Nat) : Bool :=
  run.first ≤ n && n ≤ run.last && (n - run.first) % run.step == 0

/-- The code point that a member maps to. -/
def apply (run : CaseRun) (n : Nat) : Char := Char.ofNat ((n : Int) + run.shift).toNat

end CaseRun

/-- The image of a character under the first run that holds it. -/
def applyRuns? (runs : Array CaseRun) (c : Char) : Option Char :=
  (runs.find? (·.contains c.toNat)).map (·.apply c.toNat)

/-- The lower-case form of a character. The dotted capital I is the one letter whose form has two
characters. -/
def lowerChar (c : Char) : List Char :=
  if c.toNat < 0x80 then [c.toLower]
  else if c.toNat == 0x130 then ['i', '\u0307']
  else [(applyRuns? lowerRuns c).getD c]

/-- The upper-case form of a character. -/
def upperChar (c : Char) : List Char :=
  if c.toNat < 0x80 then [c.toUpper]
  else
    match upperExpansions.lookup c.toNat with
    | some expansion => expansion.map Char.ofNat
    | none => [(applyRuns? upperRuns c).getD c]

/-- Maps every character to its lower-case form. -/
def lower (text : List Char) : List Char := text.flatMap lowerChar

/-- Maps every character to its upper-case form. -/
def upper (text : List Char) : List Char := text.flatMap upperChar

/-- A key that texts share when they differ in case only. -/
def caseKey (text : List Char) : List Char := upper (lower text)

/-- The ASCII text that a text is compatible with, if there is one. -/
def asciiForm? (text : List Char) : Option (List Char) :=
  (text.mapM fun c : Char =>
    if c.toNat < 0x80 then some [c]
    else
      match compatibilityExpansions.lookup c.toNat with
      | some expansion => some (expansion.map Char.ofNat)
      | none => (applyRuns? compatibilityRuns c).map fun d => [d]).map List.flatten

end FoldMark.Text
