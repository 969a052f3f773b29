import FoldMark.FrontMatter.Metadata
import FoldMark.Proofs.Toml.Unshared
import FoldMark.Proofs.Yaml.Untimed
import Mathlib.Data.List.Basic
import Mathlib.Data.List.Induction
import Mathlib.Data.List.TakeWhile

/-!
# What metadata can hold

Each notation of front matter has its own values: only YAML lets a value stand in several places,
and so within itself, only TOML has times of day, and only these two have integers of more digits
than are written, since they can be given in another base (`holds_of_metadata`).
-/

namespace FoldMark

open Value
open Yaml (Gives gives_none gives_some)
open Toml (gives_any)

/-! ## JSON -/

namespace Json

/-- The number that decimal digits write has no more of them. -/
theorem ofDigits_lt {digits : List Char} (decimal : ∀ c ∈ digits, c.isDigit = true) :
    Number.ofDigits 10 Number.digit digits < Nat.pow 10 digits.length := by
  induction digits using List.reverseRecOn with
  | nil => decide
  | append_singleton digits last hypothesis =>
    obtain ⟨front, final⟩ := List.forall_mem_append.mp decimal
    have small : Number.digit last < 10 := by
      have digit := List.forall_mem_singleton.mp final
      simp only [Char.isDigit, Bool.and_eq_true, decide_eq_true_eq] at digit
      have most : last.toNat ≤ 57 := digit.2
      rw [Number.digit]
      omega
    have before := hypothesis front
    have power : Nat.pow 10 (digits.length + 1) = Nat.pow 10 digits.length * 10 := rfl
    rw [Number.ofDigits] at before ⊢
    rw [List.foldl_concat, List.length_append, List.length_singleton, power]
    omega

/-- An integer of no more digits than are read is plain. -/
theorem isPlain_int {digits : List Char} (decimal : ∀ c ∈ digits, c.isDigit = true)
    (few : digits.length ≤ Number.maxDigits) (isNegative : Bool) :
    let n := Number.ofDigits 10 Number.digit digits
    isPlain (.int (if isNegative then -n else n)) = true := by
  intro n
  have below : n < Nat.pow 10 Number.maxDigits := by
    generalize Number.maxDigits = limit at few ⊢
    exact Nat.lt_of_lt_of_le (ofDigits_lt decimal) (Nat.pow_le_pow_right (by decide) few)
  have magnitude : (if isNegative then -n else n : Int).natAbs = n := by
    cases isNegative <;> simp
  have short : isLongInt (if isNegative then -n else n) = false := by
    rwa [isLongInt_eq_false_iff, magnitude]
  rw [isPlain, isShort, short]
  rfl

/-- A value that is read is plain. -/
abbrev GivesPlain (found : Option (Value × List Char)) : Prop :=
  Gives (fun found => found.1.all isPlain = true) found

/-- A word or a number. -/
theorem givesPlain_readScalar (text : List Char) : GivesPlain (readScalar? text) := by
  have magnitude : ∀ isNegative text, GivesPlain (readMagnitude? isNegative text) := by
    intro isNegative text
    unfold readMagnitude?
    split
    rename_i whole rest taken
    have decimal : ∀ c ∈ whole, c.isDigit = true := by
      split at taken
      · obtain ⟨rfl, rfl⟩ := Prod.mk.inj taken
        exact List.forall_mem_singleton.mpr rfl
      · obtain ⟨rfl, rfl⟩ := Prod.mk.inj taken
        exact fun c => List.mem_takeWhile_imp
    dsimp only
    split
    · exact gives_none
    · split
      · rename_i bare
        rw [List.isEmpty_iff.mp (Bool.and_eq_true_iff.mp bare).1, List.append_nil]
        split
        · exact gives_none
        · exact gives_some (isPlain_int decimal (Nat.le_of_not_lt ‹_›) isNegative)
      · exact gives_some rfl
  unfold readScalar?
  split
  case h_7 => exact magnitude true _
  case h_8 => exact magnitude false _
  all_goals exact (gives_any _).map fun _ _ => rfl

/-- What the readers of `fuel` steps give is plain. -/
structure ReadersPlain (fuel : Nat) : Prop where
  /-- Of a value. -/
  value : ∀ text, GivesPlain (readValue? fuel text)
  /-- Of the items of a list. -/
  items : ∀ text, Gives (fun found => allItems isPlain found.1 = true) (readItems? fuel text)
  /-- Of the members of a mapping. -/
  members : ∀ entries text, allEntries isPlain entries = true →
    Gives (fun found => allEntries isPlain found.1 = true) (readMembers? fuel entries text)

/-- No reader gives anything that is not plain. -/
theorem readersPlain (fuel : Nat) : ReadersPlain fuel := by
  induction fuel with
  | zero => exact ⟨fun _ => gives_none, fun _ => gives_none, fun _ _ _ => gives_none⟩
  | succ fuel hypothesis =>
    refine ⟨fun text => ?_, fun text => ?_, fun entries text before => ?_⟩
    · unfold readValue?
      split
      · exact (gives_any _).map fun _ _ => rfl
      · split
        · exact gives_some rfl
        · exact (hypothesis.items _).map fun found plain => plain
      · split
        · exact gives_some rfl
        · exact (hypothesis.members [] _ rfl).map fun found plain => plain
      · exact givesPlain_readScalar text
    · unfold readItems?
      refine (hypothesis.value text).bind ?_
      rintro ⟨item, rest⟩ plain
      dsimp only
      split
      · exact (hypothesis.items _).bind fun items others =>
          gives_some (Bool.and_eq_true_iff.mpr ⟨plain, others⟩)
      · exact gives_some (allItems_iff.mpr (by simpa using plain))
      · exact gives_none
    · unfold readMembers?
      split
      · refine (gives_any _).bind ?_
        rintro ⟨name, rest⟩ -
        dsimp only
        split
        · refine (hypothesis.value _).bind ?_
          rintro ⟨value, rest⟩ plain
          have named : (Value.str name).all isPlain = true := rfl
          have filled := all_insert before named plain
          dsimp only
          split
          · exact hypothesis.members _ _ filled
          · exact gives_some filled
          · exact gives_none
        · exact gives_none
      · exact gives_none

/-- A document is plain at every depth. -/
theorem plain_of_read {text : List Char} {value : Value} (found : read? text = some value) :
    value.all isPlain = true := by
  have read : Gives (fun value => value.all isPlain = true) (read? text) := by
    refine ((readersPlain _).value _).bind fun found plain => ?_
    dsimp only
    split
    · exact gives_some plain
    · exact gives_none
  exact read value found

end Json

namespace FrontMatter

/-! ## Definitions -/

/-- What definitions tell is plain. -/
theorem plain_definitionEntries (lines : List DefinitionLine) :
    allEntries isPlain (definitionEntries lines) = true := by
  have line : ∀ line : DefinitionLine, line.entry.all isPlain = true := by
    intro line
    obtain ⟨label, destination, title⟩ := line
    cases title <;> rfl
  rw [allEntries_iff]
  intro entry member
  obtain ⟨⟨label, lines⟩, -, rfl⟩ := List.mem_map.mp member
  refine ⟨rfl, Bool.and_eq_true_iff.mpr ⟨rfl, allItems_iff.mpr fun item listed => ?_⟩⟩
  obtain ⟨inner, -, rfl⟩ := List.mem_map.mp listed
  exact line inner

/-! ## Metadata -/

/-- What a notation can hold, or a document without front matter. -/
def canHold : Option Kind → Value → Bool
  | some .yaml => isUntimed
  | some .toml => isUnshared
  | some .json | some .refdef | none => isPlain

/-- A mapping passes the test that the value it was taken for passes. -/
theorem eq_of_asMapping {kind : Kind} {value mapping : Value}
    (taken : asMapping kind value = .ok mapping) : mapping = value := by
  cases value with
  | map id entries => exact (Except.ok.inj taken).symm
  | _ => cases taken

/-- What was valid is what was read. -/
theorem some_of_orInvalid {kind : Kind} {value : Option Value} {found : Value}
    (taken : orInvalid kind value = .ok found) : value = some found := by
  cases value with
  | none => cases taken
  | some value => exact congrArg some (Except.ok.inj taken)

/-- What a payload is decoded to is of what its notation can hold. -/
theorem holds_of_decode {kind : Kind} {payload : List Char} {value : Value}
    (decoded : decode kind payload = .ok value) : value.all (canHold (some kind)) = true := by
  cases kind with
  | refdef =>
    cases decoded
    exact Bool.and_eq_true_iff.mpr ⟨rfl, plain_definitionEntries _⟩
  | json =>
    rw [decode] at decoded
    split at decoded
    · cases decoded
      rfl
    · obtain ⟨found, valid, taken⟩ := exists_of_bind_eq_ok decoded
      rw [eq_of_asMapping taken]
      exact Json.plain_of_read (some_of_orInvalid valid)
  | toml =>
    obtain ⟨found, valid, taken⟩ := exists_of_bind_eq_ok decoded
    rw [eq_of_asMapping taken]
    exact Toml.unshared_of_read (some_of_orInvalid valid)
  | yaml =>
    rw [decode] at decoded
    split at decoded
    · cases decoded
    · rename_i found read
      rw [eq_of_asMapping decoded]
      split
      · rfl
      · exact Yaml.untimed_of_read read

/-- Metadata are of what the notation of the front matter can hold. -/
theorem holds_of_metadata {front : Option FrontMatter} {value : Value}
    (decoded : metadata front = .ok value) :
    value.all (canHold (front.map FrontMatter.kind)) = true := by
  have nothing : ∀ kind : Option Kind, noMetadata.all (canHold kind) = true := by
    intro kind
    rcases kind with _ | kind
    · rfl
    · cases kind <;> rfl
  cases front with
  | none =>
    cases decoded
    rfl
  | some front =>
    rw [metadata] at decoded
    split at decoded
    · split at decoded
      · cases decoded
        exact nothing _
      · cases decoded
    · cases decoded
      exact holds_of_decode ‹_›

end FrontMatter

end FoldMark
