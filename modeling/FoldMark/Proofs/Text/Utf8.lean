import FoldMark.Proofs.Chain
import FoldMark.Text.Utf8

/-!
# Reading bytes as text

A lossy reading goes on behind every fault, so its result is that of one step and of what the step
leaves. A byte of an ASCII character continues nothing: a step stops before it, whatever came
before, so the text is that of the bytes before it, the character, and that of the bytes behind it
(`decodeLossy_append_cons`). Bytes that are read without a fault are read the same by a reading
that could mend one.
-/

namespace FoldMark.Text.Utf8

variable {byte : UInt8} {bytes front rest : List UInt8}

/-- The character that a step gives, with one that stands for a fault. -/
def Step.mended : Step → Char
  | .char c _ => c
  | .fault _ _ => replacement

/-! ## Steps -/

/-- A byte that continues a character is not one of ASCII. -/
theorem le_low_of_lead? {n : Nat} {lead : Lead} (found : lead? n = some lead) :
    0x80 ≤ lead.low ∨ lead.tail = 0 := by
  unfold lead? at found
  repeat' split at found
  all_goals simp only [Option.some.injEq, reduceCtorEq] at found
  all_goals simp [← found]

/-- Reading on takes what was taken and at most what follows. -/
theorem size_continueStep (value size count low high : Nat) (rest : List UInt8) :
    size ≤ (continueStep value size count low high rest).size ∧
      (continueStep value size count low high rest).size ≤ size + rest.length := by
  fun_induction continueStep value size count low high rest with
  | case1 => simp [Step.size]
  | case2 => simp [Step.size]
  | case3 value size count low high byte rest n continues hypothesis =>
    rw [List.length_cons]
    omega
  | case4 => simp [Step.size]

/-- Reading on stops before an ASCII character as it stops at the end. -/
theorem continueStep_append_cons (value size count : Nat) {low : Nat} (high : Nat)
    (beyond : 0x80 ≤ low ∨ count = 0) (ascii : byte.toNat < 0x80) (front rest : List UInt8) :
    (continueStep value size count low high (front ++ byte :: rest)).mended =
        (continueStep value size count low high front).mended ∧
      (continueStep value size count low high (front ++ byte :: rest)).size =
        (continueStep value size count low high front).size := by
  fun_induction continueStep value size count low high front with
  | case1 => simp [continueStep]
  | case2 value size count low high =>
    have stops : ¬ (low ≤ byte.toNat ∧ byte.toNat ≤ high) := by omega
    rw [List.nil_append, continueStep, if_neg stops]
    exact ⟨rfl, rfl⟩
  | case3 value size count low high first front n continues hypothesis =>
    rw [List.cons_append, continueStep, if_pos continues]
    exact hypothesis (Or.inl (Nat.le_refl _))
  | case4 value size count low high first front n stops =>
    rw [List.cons_append, continueStep, if_neg stops]
    exact ⟨rfl, rfl⟩

/-- A step takes the first byte and at most what follows it. -/
theorem size_step (byte : UInt8) (rest : List UInt8) :
    1 ≤ (step byte rest).size ∧ (step byte rest).size ≤ 1 + rest.length := by
  rw [step]
  cases lead? byte.toNat with
  | none => simp [Step.size]
  | some lead => exact size_continueStep lead.bits 1 lead.tail lead.low lead.high rest

/-- A step does not see an ASCII character, nor what is behind it. -/
theorem step_append_cons (ascii : byte.toNat < 0x80) (first : UInt8) (front rest : List UInt8) :
    (step first (front ++ byte :: rest)).mended = (step first front).mended ∧
      (step first (front ++ byte :: rest)).size = (step first front).size := by
  rw [step, step]
  cases found : lead? first.toNat with
  | none => exact ⟨rfl, rfl⟩
  | some lead =>
    exact continueStep_append_cons lead.bits 1 lead.tail lead.high (le_low_of_lead? found) ascii
      front rest

/-- An ASCII character is read on its own. -/
theorem step_of_ascii (ascii : byte.toNat < 0x80) (rest : List UInt8) :
    step byte rest = .char (Char.ofNat byte.toNat) 1 := by
  rw [step, lead?, if_pos ascii]
  exact continueStep.eq_1 _ _ _ _ _

/-! ## Readings -/

/-- How many steps are allowed does not matter where there is one for every byte. -/
theorem decodeWithin_of_le {mend : Nat → List Char} {fuel more : Nat}
    (enough : bytes.length ≤ fuel) (also : bytes.length ≤ more) :
    decodeWithin mend fuel bytes = decodeWithin mend more bytes := by
  induction fuel generalizing bytes more with
  | zero =>
    obtain rfl := List.length_eq_zero_iff.mp (Nat.le_zero.mp enough)
    cases more <;> rfl
  | succ fuel hypothesis =>
    cases bytes with
    | nil => cases more <;> rfl
    | cons byte rest =>
      cases more with
      | zero => exact absurd also (Nat.not_succ_le_zero _)
      | succ more =>
        rw [List.length_cons, Nat.add_le_add_iff_right] at enough also
        have left : (rest.drop ((step byte rest).size - 1)).length ≤ rest.length := by
          rw [List.length_drop]
          exact Nat.sub_le _ _
        rw [decodeWithin, decodeWithin,
          hypothesis (Nat.le_trans left enough) (Nat.le_trans left also)]

/-- No bytes are no text. -/
@[simp] theorem decodeLossy_nil : decodeLossy [] = [] := rfl

/-- The text of bytes is what a step gives and the text of the bytes that it leaves. -/
theorem decodeLossy_cons (byte : UInt8) (rest : List UInt8) :
    decodeLossy (byte :: rest) =
      (step byte rest).mended :: decodeLossy (rest.drop ((step byte rest).size - 1)) := by
  have left : (rest.drop ((step byte rest).size - 1)).length ≤ rest.length := by
    rw [List.length_drop]
    exact Nat.sub_le _ _
  rw [decodeLossy, List.length_cons, decodeWithin, decodeLossy,
    decodeWithin_of_le left (Nat.le_refl _)]
  cases step byte rest <;> rfl

/-- Induction along the steps of a reading. -/
theorem steps_induction {motive : List UInt8 → Prop} (nil : motive [])
    (cons : ∀ byte rest, motive (rest.drop ((step byte rest).size - 1)) → motive (byte :: rest)) :
    ∀ bytes, motive bytes
  | [] => nil
  | byte :: rest => cons byte rest (steps_induction nil cons _)
termination_by bytes => bytes.length
decreasing_by
  rw [List.length_drop, List.length_cons]
  omega

/-- There is at least one byte for every character. -/
theorem length_decodeLossy_le (bytes : List UInt8) :
    (decodeLossy bytes).length ≤ bytes.length := by
  induction bytes using steps_induction with
  | nil => exact Nat.zero_le _
  | cons byte rest hypothesis =>
    rw [List.length_drop] at hypothesis
    rw [decodeLossy_cons, List.length_cons, List.length_cons]
    omega

/-- A byte of an ASCII character stands for it whatever is around it. -/
theorem decodeLossy_append_cons (ascii : byte.toNat < 0x80) (front rest : List UInt8) :
    decodeLossy (front ++ byte :: rest) =
      decodeLossy front ++ Char.ofNat byte.toNat :: decodeLossy rest := by
  induction front using steps_induction with
  | nil =>
    rw [List.nil_append, decodeLossy_cons, step_of_ascii ascii rest]
    rfl
  | cons first front hypothesis =>
    obtain ⟨same, size⟩ := step_append_cons ascii first front rest
    have inside : (step first front).size - 1 ≤ front.length := by
      have bound := (size_step first front).2
      omega
    rw [List.cons_append, decodeLossy_cons, decodeLossy_cons, same, size,
      List.drop_append_of_le_length inside, hypothesis, List.cons_append]

/-- Bytes of ASCII characters stand for these. -/
theorem decodeLossy_of_ascii (ascii : ∀ byte ∈ bytes, byte.toNat < 0x80) :
    decodeLossy bytes = bytes.map fun byte => Char.ofNat byte.toNat := by
  induction bytes with
  | nil => rfl
  | cons byte rest hypothesis =>
    rw [List.forall_mem_cons] at ascii
    have cut := decodeLossy_append_cons ascii.1 [] rest
    rw [List.nil_append, decodeLossy_nil, List.nil_append] at cut
    rw [cut, hypothesis ascii.2, List.map_cons]

/-- Bytes without a fault are read the same where a fault could be mended. -/
theorem decodeLossy_of_decode {text : List Char} (read : decode bytes = .ok text) :
    decodeLossy bytes = text := by
  have within : ∀ (fuel position : Nat) {bytes : List UInt8} {text : List Char},
      decodeFrom fuel position bytes = .ok text →
        decodeWithin (fun _ => [replacement]) fuel bytes = text := by
    intro fuel
    induction fuel with
    | zero =>
      intro position bytes text read
      exact Except.ok.inj read
    | succ fuel hypothesis =>
      intro position bytes text read
      cases bytes with
      | nil => exact Except.ok.inj read
      | cons byte rest =>
        rw [decodeFrom] at read
        rw [decodeWithin]
        cases taken : step byte rest with
        | fault cause size => simp [taken] at read
        | char c size =>
          rw [taken] at read
          obtain ⟨later, readLater, rfl⟩ := exists_of_map_eq_ok read
          have same := hypothesis _ readLater
          exact congrArg (c :: ·) same
  exact within _ _ read

end FoldMark.Text.Utf8
