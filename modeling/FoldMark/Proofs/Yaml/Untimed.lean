import FoldMark.Proofs.Chain
import FoldMark.Proofs.Value.All
import FoldMark.Proofs.Yaml.Building

/-!
# Values of a YAML document

There are dates in YAML but no times of day: no value that is read holds one (`untimed_of_read`).
The single values are those of the tags, and each step of building keeps what was built before.
-/

namespace FoldMark.Yaml

open FoldMark.Value (isUntimed allItems allEntries allItems_iff allEntries_iff all_insert)

/-! ## Single values -/

/-- A date with a time of day is none. -/
theorem Scalar.untimed_ofTimestamp {id : Nat} {parts : Tag.Timestamp} {value : Value}
    (found : ofTimestamp? id parts = some value) : value.all isUntimed = true := by
  obtain ⟨date, -, found⟩ := Option.bind_eq_some_iff.mp found
  split at found
  · cases found
    rfl
  · obtain ⟨time, -, found⟩ := Option.bind_eq_some_iff.mp found
    obtain ⟨-, same⟩ := Option.ite_none_right_eq_some.mp found
    cases same
    rfl

/-- The value of a text by its tag is no time of day. -/
theorem Scalar.untimed_ofTag {id : Nat} {tag : Tag} {text : CodeText} {value : Value}
    (found : ofTag id tag text = .ok value) : value.all isUntimed = true := by
  cases tag with
  | null | str =>
    cases found
    rfl
  | bool =>
    rw [ofTag, bool] at found
    split at found
    · cases found
      rfl
    · cases found
  | int =>
    obtain ⟨n, -, same⟩ := exists_of_bind_eq_ok found
    cases same
    rfl
  | float =>
    rw [ofTag, float] at found
    dsimp only at found
    split at found
    · cases found
    · obtain ⟨x, -, same⟩ := exists_of_bind_eq_ok found
      cases same
      rfl
  | binary =>
    rw [ofTag, binary] at found
    split at found
    · split at found
      · cases found
        rfl
      · cases found
    · cases found
  | timestamp =>
    rw [ofTag, timestamp] at found
    split at found
    · cases found
    · rename_i parts _
      cases made : ofTimestamp? id parts with
      | none =>
        rw [made] at found
        cases found
      | some other =>
        rw [made] at found
        cases found
        exact untimed_ofTimestamp made
  | omap | pairs | set | seq | map | merge | default | other => cases found

/-! ## Building -/

/-- What a node has become holds no time of day. -/
def Built.IsUntimed : Built → Prop
  | .single value => value.all isUntimed = true
  | .list _ | .pairs _ => True
  | .set items => ∀ item ∈ items, item.all isUntimed = true
  | .map entries => ∀ entry ∈ entries, entry.1.all isUntimed = true

/-- What nodes have become holds no time of day. -/
def untimedRule : Rule where
  nodes _ := True
  built := Built.IsUntimed
  error _ := True

/-- Building makes no time of day. -/
theorem isSound_untimedRule : untimedRule.IsSound where
  list _ := trivial
  pairs _ := trivial
  set _ untimed := untimed
  map _ untimed := untimed
  malformed := trivial
  noMapping _ := trivial
  noPair _ _ := trivial
  single _ _ _ _ _ _ := ends_of_ok fun value made => by
    obtain ⟨text, -, made⟩ := exists_of_bind_eq_ok made
    split at made
    · cases made
    · exact Scalar.untimed_ofTag made
  merge _ _ _ _ _ _ _ := ends_of_ok fun _ _ => trivial

namespace Builder

variable {α : Type}

/-- What the nodes have become holds no time of day. -/
def IsUntimed (builder : Builder) : Prop :=
  ∀ (id : Nat) (found : Built), builder.built.getD id none = some found → found.IsUntimed

/-- A step of building makes no time of day, and gives what satisfies a condition. -/
def Makes (condition : α → Prop) (step : BuildStep α) : Prop :=
  ∀ builder : Builder, builder.IsUntimed → ∀ found, step builder = .ok found →
    condition found.1 ∧ found.2.IsUntimed

/-- A document. -/
theorem makes_build (root : Nat) : Makes (fun _ => True) (build root) := by
  intro builder untimed found made
  have kept := isSound_untimedRule.build root builder ⟨trivial, untimed⟩
  rw [made] at kept
  exact ⟨trivial, kept.2.built⟩

end Builder

/-! ## Documents -/

/-- A set or a mapping that is filled key by key. -/
theorem all_foldl_insert {α : Type} {key value : α → Value} {entries : List (Value × Value)}
    {items : List α} (before : allEntries isUntimed entries = true)
    (untimed : ∀ item ∈ items,
      (key item).all isUntimed = true ∧ (value item).all isUntimed = true) :
    allEntries isUntimed (items.foldl (fun entries item =>
      Value.insert entries (key item) (value item)) entries) = true := by
  induction items generalizing entries with
  | nil => exact before
  | cons item rest hypothesis =>
    obtain ⟨first, others⟩ := List.forall_mem_cons.mp untimed
    exact hypothesis (all_insert before first.1 first.2) others

/-- What nodes have become is no time of day, nor holds one. -/
theorem untimed_toValue {built : Array (Option Built)}
    (untimed : ∀ (id : Nat) (found : Built), built.getD id none = some found → found.IsUntimed)
    (fuel : Nat) (around : List Nat) (id : Nat) :
    (Built.toValue built fuel around id).all isUntimed = true := by
  induction fuel generalizing around id with
  | zero => rfl
  | succ fuel hypothesis =>
    rw [Built.toValue]
    split
    · rfl
    · dsimp only
      cases found : built.getD id none with
      | none => rfl
      | some content =>
        have holds := untimed id content found
        cases content with
        | single value => exact holds
        | list items =>
          refine Bool.and_eq_true_iff.mpr ⟨rfl, allItems_iff.mpr fun item member => ?_⟩
          obtain ⟨inner, -, rfl⟩ := List.mem_map.mp member
          exact hypothesis _ inner
        | pairs items =>
          refine Bool.and_eq_true_iff.mpr ⟨rfl, allItems_iff.mpr fun item member => ?_⟩
          obtain ⟨⟨key, value⟩, -, rfl⟩ := List.mem_map.mp member
          simp [Value.all, allItems_iff, isUntimed, hypothesis]
        | set items =>
          have filled : allEntries isUntimed
              (items.foldl (fun entries item => Value.insert entries item .null) []) = true :=
            all_foldl_insert rfl fun item member => ⟨holds item member, rfl⟩
          refine Bool.and_eq_true_iff.mpr ⟨rfl, allItems_iff.mpr fun item member => ?_⟩
          obtain ⟨entry, listed, rfl⟩ := List.mem_map.mp member
          exact (allEntries_iff.mp filled entry listed).1
        | map entries =>
          exact Bool.and_eq_true_iff.mpr ⟨rfl, all_foldl_insert rfl fun entry member =>
            ⟨holds entry member, hypothesis _ entry.2⟩⟩

/-- No value within a document is a time of day. -/
theorem untimed_of_read {text : List Char} {value : Value} (found : read text = .ok value) :
    value.all isUntimed = true := by
  unfold read at found
  split at found
  · cases found
  · cases found
    rfl
  · rename_i nodes root _
    obtain ⟨⟨_, builder⟩, built, same⟩ := exists_of_bind_eq_ok found
    cases same
    have start : (⟨nodes, Array.replicate nodes.size none, []⟩ : Builder).IsUntimed := by
      intro id content present
      rw [Array.getD_eq_getD_getElem?, Array.getElem?_replicate] at present
      split at present <;> cases present
    exact untimed_toValue (Builder.makes_build root _ start _ built).2 _ _ _

end FoldMark.Yaml
