import FoldMark.Text.Class

/-!
# Bytes as text in base 64

Three bytes become four characters. A reader passes over characters that are not of the alphabet,
and stops at the padding that completes a group of four.
-/

namespace FoldMark.Text.Base64

/-- The character of a value below sixty-four. -/
def charOf (n : Nat) : Char :=
  if n < 26 then Char.ofNat (0x41 + n)
  else if n < 52 then Char.ofNat (0x61 + (n - 26))
  else if n < 62 then Char.ofNat (0x30 + (n - 52))
  else if n = 62 then '+' else '/'

/-- The value of a character. -/
def value? (c : Char) : Option Nat :=
  let n := c.toNat
  if 0x41 ≤ n && n ≤ 0x5A then some (n - 0x41)
  else if 0x61 ≤ n && n ≤ 0x7A then some (n - 0x61 + 26)
  else if 0x30 ≤ n && n ≤ 0x39 then some (n - 0x30 + 52)
  else if c == '+' then some 62
  else if c == '/' then some 63
  else none

/-- The text of some bytes, padded to groups of four characters. -/
def encode : List UInt8 → List Char
  | [] => []
  | [a] =>
    let n := a.toNat * 0x10000
    [charOf (n / 0x40000), charOf (n / 0x1000 % 0x40), '=', '=']
  | [a, b] =>
    let n := a.toNat * 0x10000 + b.toNat * 0x100
    [charOf (n / 0x40000), charOf (n / 0x1000 % 0x40), charOf (n / 0x40 % 0x40), '=']
  | a :: b :: c :: rest =>
    let n := a.toNat * 0x10000 + b.toNat * 0x100 + c.toNat
    charOf (n / 0x40000) :: charOf (n / 0x1000 % 0x40) :: charOf (n / 0x40 % 0x40) ::
      charOf (n % 0x40) :: encode rest

/-- What a group holds so far. -/
structure Group where
  /-- The characters of the group. -/
  count : Nat
  /-- The bits that are left from them. -/
  bits : Nat
  /-- The padding since the last of them. -/
  pads : Nat

/-- The byte that a value completes, and the group after it. -/
def Group.add (group : Group) (value : Nat) : List UInt8 × Group :=
  match group.count with
  | 0 => ([], ⟨1, value, 0⟩)
  | 1 => ([(group.bits * 4 + value / 16).toUInt8], ⟨2, value % 16, 0⟩)
  | 2 => ([(group.bits * 16 + value / 4).toUInt8], ⟨3, value % 4, 0⟩)
  | _ => ([(group.bits * 64 + value).toUInt8], ⟨0, 0, 0⟩)

/-- Reads bytes, given the group so far. -/
def decodeFrom? : Group → List Char → Option (List UInt8)
  | group, [] => if group.count = 0 then some [] else none
  | group, c :: rest =>
    if c == '=' then
      if 2 ≤ group.count && 4 ≤ group.count + group.pads + 1 then some []
      else
        decodeFrom? { group with pads := if 2 ≤ group.count then group.pads + 1 else group.pads }
          rest
    else
      match value? c with
      | none => decodeFrom? group rest
      | some value =>
        let (bytes, group) := group.add value
        (decodeFrom? group rest).map (bytes ++ ·)

/-- The bytes of a text. -/
def decode? (text : List Char) : Option (List UInt8) := decodeFrom? ⟨0, 0, 0⟩ text

end FoldMark.Text.Base64
