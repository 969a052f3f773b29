import FoldMark.Proofs.Text.Fronts
import FoldMark.Proofs.Text.Utf8
import FoldMark.Text.Percent
import Mathlib.Data.List.Infix
import Mathlib.Data.List.SplitBy

/-!
# Decoding of escapes

A text is decoded run by run. A character that can be no part of an escape stays where it is, and
the parts around it are decoded each on its own (`decode_append_cons`), so a text can be cut at
slashes before it is decoded or after. Decoding changes nothing exactly where no escape is left: an
escape makes a text shorter, and nothing makes it longer.
-/

namespace FoldMark.Text.Percent

open Utf8 (decodeLossy)

variable {text front back run : List Char} {c : Char} {kind : Bool}

/-- Whether an escape starts here. -/
def startsEscape : List Char → Bool
  | '%' :: high :: low :: _ => isHexDigit high && isHexDigit low
  | _ => false

/-- A text holds an escape. -/
def HasEscape (text : List Char) : Prop := ∃ back, back <:+ text ∧ startsEscape back = true

instance : DecidablePred HasEscape := fun text =>
  decidable_of_iff (∃ back ∈ text.tails, startsEscape back = true)
    (by simp only [HasEscape, List.mem_tails])

/-! ## Escapes -/

/-- Two characters write a byte if both are hexadecimal digits. -/
theorem isSome_byte? (high low : Char) :
    (byte? high low).isSome = (isHexDigit high && isHexDigit low) := by
  rw [byte?, isHexDigit, isHexDigit]
  cases asciiDigit? 16 high <;> cases asciiDigit? 16 low <;> rfl

/-- Hexadecimal digits are ASCII. -/
theorem isAscii_of_isHexDigit (digit : isHexDigit c = true) : isAscii c = true := by
  rw [isAscii, decide_eq_true_iff]
  by_contra beyond
  have noDigit : ¬ (0x30 ≤ c.toNat ∧ c.toNat ≤ 0x39) ∧ ¬ (0x41 ≤ c.toNat ∧ c.toNat ≤ 0x46) ∧
      ¬ (0x61 ≤ c.toNat ∧ c.toNat ≤ 0x66) := by omega
  simp [isHexDigit, asciiDigit?, noDigit] at digit

/-- The byte of an ASCII character has its number. -/
theorem toNat_toUInt8_of_isAscii (ascii : isAscii c = true) :
    c.toNat.toUInt8.toNat = c.toNat := by
  have small : c.toNat < 0x80 := decide_eq_true_iff.mp ascii
  rw [Nat.toUInt8_eq, UInt8.toNat_ofNat']
  exact Nat.mod_eq_of_lt (Nat.lt_trans small (by decide))

/-- No escape is in no text. -/
theorem not_hasEscape_nil : ¬ HasEscape [] := by
  rintro ⟨back, suffix, starts⟩
  rw [List.suffix_nil.mp suffix] at starts
  cases starts

/-- An escape starts a text or is in what follows the first character. -/
theorem hasEscape_cons_iff :
    HasEscape (c :: text) ↔ startsEscape (c :: text) = true ∨ HasEscape text := by
  simp only [HasEscape, List.suffix_cons_iff, or_and_right, exists_or, exists_eq_left]

/-- No escape starts with another character than the percent sign. -/
theorem startsEscape_of_ne (other : c ≠ '%') (text : List Char) :
    startsEscape (c :: text) = false := by
  rw [startsEscape.eq_2]
  intro high low rest same
  exact other (List.cons.inj same).1

/-- An escape is a percent sign and two hexadecimal digits. -/
theorem startsEscape_iff :
    startsEscape text = true ↔ ∃ high low rest, text = '%' :: high :: low :: rest ∧
      isHexDigit high = true ∧ isHexDigit low = true := by
  constructor
  · intro starts
    unfold startsEscape at starts
    split at starts
    · rename_i high low rest
      exact ⟨high, low, rest, rfl, by simpa using starts⟩
    · cases starts
  · rintro ⟨high, low, rest, rfl, digits⟩
    simpa [startsEscape] using digits

/-- An escape does not reach into what starts with no hexadecimal digit. -/
theorem startsEscape_append (stops : ∀ c ∈ back.head?, isHexDigit c = false) (c : Char)
    (front : List Char) :
    startsEscape (c :: front ++ back) = startsEscape (c :: front) := by
  by_cases percent : c = '%'
  · subst percent
    match front, back with
    | [], [] => rfl
    | [], [_] => rfl
    | [], high :: _ :: _ =>
      have noDigit : isHexDigit high = false := stops high rfl
      simp [startsEscape, noDigit]
    | [_], [] => rfl
    | [_], low :: _ =>
      have noDigit : isHexDigit low = false := stops low rfl
      simp [startsEscape, noDigit]
    | _ :: _ :: _, _ => rfl
  · rw [List.cons_append, startsEscape_of_ne percent, startsEscape_of_ne percent]

/-- The escapes of a text are those of the part before what starts with no hexadecimal digit and
those of that. -/
theorem hasEscape_append_iff (stops : ∀ c ∈ back.head?, isHexDigit c = false) :
    HasEscape (front ++ back) ↔ HasEscape front ∨ HasEscape back := by
  induction front with
  | nil => simp [not_hasEscape_nil]
  | cons c front hypothesis =>
    have first := startsEscape_append stops c front
    rw [List.cons_append] at first
    rw [List.cons_append, hasEscape_cons_iff, hasEscape_cons_iff, first, hypothesis, or_assoc]

/-- Without a percent sign at the front, the escapes are those of what follows. -/
theorem hasEscape_append_of_notMem (without : '%' ∉ front) :
    HasEscape (front ++ back) ↔ HasEscape back := by
  induction front with
  | nil => rfl
  | cons c front hypothesis =>
    rw [List.mem_cons, not_or] at without
    obtain ⟨first, later⟩ := without
    have starts := startsEscape_of_ne (Ne.symm first) (front ++ back)
    rw [List.cons_append, hasEscape_cons_iff, starts, hypothesis later]
    exact or_iff_right Bool.false_ne_true

/-! ## Bytes -/

/-- A percent sign that starts no escape stands for itself, as other characters do. -/
theorem bytes_cons_of_not_startsEscape (starts : startsEscape (c :: text) = false) :
    bytes (c :: text) = c.toNat.toUInt8 :: bytes text := by
  by_cases percent : c = '%'
  · subst percent
    match text with
    | [] => rfl
    | [_] => rfl
    | high :: low :: rest =>
      have none : byte? high low = none := by
        rw [← Option.not_isSome_iff_eq_none, isSome_byte?, Bool.not_eq_true]
        exact starts
      rw [bytes, none]
      rfl
  · rw [bytes.eq_2]
    exact fun _ _ _ same => absurd same percent

/-- An escape stands for one byte. -/
theorem exists_bytes_of_startsEscape (starts : startsEscape text = true) :
    ∃ high low rest byte, text = '%' :: high :: low :: rest ∧ bytes text = byte :: bytes rest := by
  obtain ⟨high, low, rest, rfl, isHigh, isLow⟩ := startsEscape_iff.mp starts
  have found : (byte? high low).isSome = true := by rw [isSome_byte?, isHigh, isLow, Bool.and_true]
  obtain ⟨byte, found⟩ := Option.isSome_iff_exists.mp found
  refine ⟨high, low, rest, byte.toUInt8, rfl, ?_⟩
  rw [bytes, found]

/-- The bytes of a text are those of the part before what starts with no hexadecimal digit and
those of that. -/
theorem bytes_append (stops : ∀ c ∈ back.head?, isHexDigit c = false) :
    bytes (front ++ back) = bytes front ++ bytes back := by
  fun_induction bytes front with
  | case1 high low rest byte found hypothesis =>
    simp only [List.cons_append, bytes, found, hypothesis]
  | case2 high low rest none hypothesis =>
    rw [List.cons_append, List.cons_append] at hypothesis
    simp only [List.cons_append, bytes, none, hypothesis]
  | case3 c rest other hypothesis =>
    have starts : startsEscape (c :: rest) = false := by
      rw [startsEscape.eq_2]
      exact fun high low tail same => other high low tail (List.cons.inj same).1
        (List.cons.inj same).2
    have whole := startsEscape_append stops c rest
    rw [starts, List.cons_append] at whole
    rw [List.cons_append, bytes_cons_of_not_startsEscape whole, hypothesis, List.cons_append]
  | case4 => rfl

/-- There are no more bytes than characters. -/
theorem length_bytes_le (text : List Char) : (bytes text).length ≤ text.length := by
  fun_induction bytes text with
  | case1 high low rest byte found hypothesis =>
    simp only [List.length_cons]
    omega
  | case2 high low rest none hypothesis => exact Nat.succ_le_succ hypothesis
  | case3 c rest other hypothesis => exact Nat.succ_le_succ hypothesis
  | case4 => exact Nat.le_refl _

/-- There are fewer bytes than characters where there is an escape. -/
theorem length_bytes_lt (holds : HasEscape text) : (bytes text).length < text.length := by
  induction text with
  | nil => exact absurd holds not_hasEscape_nil
  | cons c text hypothesis =>
    cases starts : startsEscape (c :: text) with
    | true =>
      obtain ⟨high, low, rest, byte, whole, read⟩ := exists_bytes_of_startsEscape starts
      have fewer := length_bytes_le rest
      rw [read, whole]
      simp only [List.length_cons]
      omega
    | false =>
      rw [hasEscape_cons_iff, starts, or_iff_right Bool.false_ne_true] at holds
      rw [bytes_cons_of_not_startsEscape starts]
      exact Nat.succ_lt_succ (hypothesis holds)

/-- Without an escape every character stands for its own byte. -/
theorem bytes_of_not_hasEscape (without : ¬ HasEscape text) :
    bytes text = text.map fun c => c.toNat.toUInt8 := by
  induction text with
  | nil => rfl
  | cons c text hypothesis =>
    rw [hasEscape_cons_iff, not_or, Bool.not_eq_true] at without
    rw [bytes_cons_of_not_startsEscape without.1, hypothesis without.2, List.map_cons]

/-! ## Runs -/

/-- The longest front of a kind is followed by a character of the other, if by any. -/
theorem exists_run (kind : Bool) (text : List Char) :
    ∃ run back, text = run ++ back ∧ (∀ c ∈ run, isAscii c = kind) ∧
      ∀ c ∈ back.head?, isAscii c = !kind := by
  refine ⟨text.takeWhile (isAscii · == kind), text.dropWhile (isAscii · == kind),
    List.takeWhile_append_dropWhile.symm, fun c inside => ?_, fun c first => ?_⟩
  · have alike := List.mem_takeWhile_imp inside
    exact beq_iff_eq.mp alike
  · have fails := List.head?_dropWhile_not (isAscii · == kind) text
    rw [Option.mem_def.mp first] at fails
    exact Bool.eq_not.mpr (beq_eq_false_iff_ne.mp fails)

/-- Induction along the runs of a text: each is of ASCII characters or of others, and the next is
of the other kind. -/
theorem runs_induction {motive : List Char → Prop} (nil : motive [])
    (run : ∀ kind run back, (∀ c ∈ run, isAscii c = kind) → (∀ c ∈ back.head?, isAscii c = !kind) →
      motive back → motive (run ++ back)) (text : List Char) : motive text := by
  induction length : text.length using Nat.strongRecOn generalizing text with
  | ind n hypothesis =>
    cases text with
    | nil => exact nil
    | cons c rest =>
      obtain ⟨front, back, whole, all, stops⟩ := exists_run (isAscii c) (c :: rest)
      cases front with
      | nil =>
        have other := stops c (by rw [← List.nil_append back, ← whole]; rfl)
        exact absurd other (by simp)
      | cons first front =>
        have fewer : back.length < n := by
          rw [← length, whole, List.cons_append, List.length_cons, List.length_append]
          omega
        rw [whole]
        exact run _ _ _ all stops (hypothesis _ fewer _ rfl)

/-- An escape is in one run. -/
theorem hasEscape_run_append_iff (all : ∀ c ∈ run, isAscii c = kind)
    (stops : ∀ c ∈ back.head?, isAscii c = !kind) :
    HasEscape (run ++ back) ↔ (kind = true ∧ HasEscape run) ∨ HasEscape back := by
  cases kind with
  | false =>
    have noPercent : '%' ∉ run := fun inside => absurd (all _ inside) (by decide)
    rw [hasEscape_append_of_notMem noPercent]
    simp
  | true =>
    have noDigit : ∀ c ∈ back.head?, isHexDigit c = false := by
      intro c first
      by_contra digit
      have ascii := isAscii_of_isHexDigit (by simpa using digit)
      rw [stops c first] at ascii
      cases ascii
    rw [hasEscape_append_iff noDigit]
    simp

/-- What a run stands for. -/
def decodeRun (kind : Bool) (run : List Char) : List Char :=
  if kind then decodeLossy (bytes run) else run

/-- A run at the front is decoded on its own. -/
theorem decode_append (all : ∀ c ∈ run, isAscii c = kind)
    (stops : ∀ c ∈ back.head?, isAscii c = !kind) :
    decode (run ++ back) = decodeRun kind run ++ decode back := by
  by_cases nonempty : run = []
  · subst nonempty
    cases kind <;> rfl
  · have alike : run.IsChain fun a b => (isAscii a == isAscii b) = true := by
      refine List.Pairwise.isChain (List.pairwise_of_forall_mem_list fun a first b second => ?_)
      rw [all a first, all b second]
      exact beq_self_eq_true kind
    have apart : ∀ a ∈ run.getLast?, ∀ b ∈ back.head?, (isAscii a == isAscii b) = false := by
      intro a last b first
      rw [all a (List.mem_of_getLast? last), stops b first]
      cases kind <;> rfl
    have ascii : run.any isAscii = kind := by
      obtain ⟨first, others, rfl⟩ := List.exists_cons_of_ne_nil nonempty
      cases kind with
      | true => exact List.any_eq_true.mpr ⟨first, List.mem_cons_self, all first List.mem_cons_self⟩
      | false => exact List.any_eq_false.mpr fun c inside => by simp [all c inside]
    rw [decode, List.splitBy_append apart, List.splitBy_of_isChain nonempty alike,
      List.flatMap_append, List.flatMap_singleton, ascii]
    rfl

/-- A run of ASCII characters is cut off at a character that is no part of an escape. -/
theorem decode_run_append_cons (all : ∀ c ∈ run, isAscii c = true) (ascii : isAscii c = true)
    (noPercent : c ≠ '%') (noDigit : isHexDigit c = false) (back : List Char) :
    decode (run ++ c :: back) = decodeLossy (bytes run) ++ c :: decode back := by
  have small : c.toNat < 0x80 := decide_eq_true_iff.mp ascii
  have byte := toNat_toUInt8_of_isAscii ascii
  obtain ⟨next, rest, rfl, allNext, stops⟩ := exists_run true back
  have whole : ∀ d ∈ run ++ c :: next, isAscii d = true := by
    rw [List.forall_mem_append, List.forall_mem_cons]
    exact ⟨all, ascii, allNext⟩
  have cut : bytes (run ++ c :: next) = bytes run ++ c.toNat.toUInt8 :: bytes next := by
    rw [bytes_append (by simpa using noDigit),
      bytes_cons_of_not_startsEscape (startsEscape_of_ne noPercent next)]
  have read := Utf8.decodeLossy_append_cons (byte.symm ▸ small) (bytes run) (bytes next)
  rw [byte, Char.ofNat_toNat] at read
  have joined : run ++ c :: (next ++ rest) = (run ++ c :: next) ++ rest := by simp
  rw [joined, decode_append whole stops, decode_append allNext stops, decodeRun, decodeRun,
    if_pos rfl, if_pos rfl, cut, read, List.append_assoc, List.cons_append]

/-- A character that is no part of an escape stays where it is, and what is before it and behind it
is decoded on its own. -/
theorem decode_append_cons (ascii : isAscii c = true) (noPercent : c ≠ '%')
    (noDigit : isHexDigit c = false) (front back : List Char) :
    decode (front ++ c :: back) = decode front ++ c :: decode back := by
  induction front using runs_induction with
  | nil =>
    have all : ∀ c ∈ ([] : List Char), isAscii c = true := nofun
    exact decode_run_append_cons all ascii noPercent noDigit back
  | run kind run rest all stops hypothesis =>
    by_cases ends : kind = true ∧ rest = []
    · obtain ⟨rfl, rfl⟩ := ends
      have alone : decode run = decodeLossy (bytes run) := by
        have whole : decode (run ++ []) = decodeRun true run ++ decode [] :=
          decode_append all nofun
        rw [List.append_nil] at whole
        exact whole.trans (List.append_nil _)
      rw [List.append_nil, decode_run_append_cons all ascii noPercent noDigit, alone]
    · have beyond : ∀ d ∈ (rest ++ c :: back).head?, isAscii d = !kind := by
        cases rest with
        | nil =>
          intro d first
          obtain rfl : c = d := Option.some.inj first
          cases kind with
          | true => exact absurd ⟨rfl, rfl⟩ ends
          | false => exact ascii
        | cons other rest => exact stops
      rw [List.append_assoc, decode_append all beyond, decode_append all stops, hypothesis,
        List.append_assoc]

/-- A null character stays. -/
theorem null_mem_decode (null : '\x00' ∈ text) : '\x00' ∈ decode text := by
  obtain ⟨front, back, rfl⟩ := List.append_of_mem null
  rw [decode_append_cons (by decide) (by decide) (by decide)]
  exact List.mem_append_right _ List.mem_cons_self

/-! ## What decoding changes -/

/-- A run stands for no more characters than it has. -/
theorem length_decodeRun_le (kind : Bool) (run : List Char) :
    (decodeRun kind run).length ≤ run.length := by
  cases kind with
  | true => exact (Utf8.length_decodeLossy_le _).trans (length_bytes_le run)
  | false => exact Nat.le_refl _

/-- Decoding makes no text longer. -/
theorem length_decode_le (text : List Char) : (decode text).length ≤ text.length := by
  induction text using runs_induction with
  | nil => exact Nat.le_refl _
  | run kind run back all stops hypothesis =>
    rw [decode_append all stops, List.length_append, List.length_append]
    exact Nat.add_le_add (length_decodeRun_le kind run) hypothesis

/-- Decoding makes a text shorter that holds an escape. -/
theorem length_decode_lt (holds : HasEscape text) : (decode text).length < text.length := by
  induction text using runs_induction with
  | nil => exact absurd holds not_hasEscape_nil
  | run kind run back all stops hypothesis =>
    rw [decode_append all stops, List.length_append, List.length_append]
    rcases (hasEscape_run_append_iff all stops).mp holds with ⟨rfl, inside⟩ | behind
    · have here : (decodeRun true run).length ≤ (bytes run).length :=
        Utf8.length_decodeLossy_le _
      have fewer := length_bytes_lt inside
      have later := length_decode_le back
      omega
    · have here := length_decodeRun_le kind run
      have fewer := hypothesis behind
      omega

/-- Decoding leaves a text as it is that holds no escape. -/
theorem decode_of_not_hasEscape (without : ¬ HasEscape text) : decode text = text := by
  induction text using runs_induction with
  | nil => rfl
  | run kind run back all stops hypothesis =>
    rw [hasEscape_run_append_iff all stops, not_or] at without
    rw [decode_append all stops, hypothesis without.2]
    cases kind with
    | false => rfl
    | true =>
      have small : ∀ c ∈ run, c.toNat.toUInt8.toNat = c.toNat := fun c inside =>
        toNat_toUInt8_of_isAscii (all c inside)
      have ascii : ∀ byte ∈ run.map fun c => c.toNat.toUInt8, byte.toNat < 0x80 := by
        rw [List.forall_mem_map]
        intro c inside
        rw [small c inside]
        exact decide_eq_true_iff.mp (all c inside)
      have same : decodeLossy (bytes run) = run := by
        rw [bytes_of_not_hasEscape fun holds => without.1 ⟨rfl, holds⟩,
          Utf8.decodeLossy_of_ascii ascii, List.map_map]
        calc
          run.map (_ ∘ _) = run.map id :=
            List.map_congr_left fun c inside => by
              rw [Function.comp_apply, small c inside, Char.ofNat_toNat, id]
          _ = run := List.map_id run
      exact congrArg (· ++ back) same

end FoldMark.Text.Percent
