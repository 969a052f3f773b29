import FoldMark.Text.Class
import FoldMark.Text.Utf8

/-!
# Percent escapes

An escape is a percent sign and two hexadecimal digits, and stands for one byte. Runs of ASCII
characters are read as bytes and then as text; other characters stand for themselves, and an
incomplete escape does too.
-/

namespace FoldMark.Text.Percent

/-- The byte that two hexadecimal digits write. -/
def byte? (high low : Char) : Option Nat := do
  let h ← asciiDigit? 16 high
  let l ← asciiDigit? 16 low
  some (16 * h + l)

/-- The bytes that a run of ASCII characters stands for. -/
def bytes : List Char → List UInt8
  | '%' :: high :: low :: rest =>
    match byte? high low with
    | some byte => byte.toUInt8 :: bytes rest
    | none => 0x25 :: bytes (high :: low :: rest)
  | c :: rest => c.toNat.toUInt8 :: bytes rest
  | [] => []

/-- Whether a character is ASCII. -/
def isAscii (c : Char) : Bool := c.toNat < 0x80

/-- Replaces every escape by what it stands for. -/
def decode (text : List Char) : List Char :=
  (text.splitBy fun a b => isAscii a == isAscii b).flatMap fun run =>
    if run.any isAscii then Utf8.decodeLossy (bytes run) else run

/-- The escape of a byte, with upper-case digits. -/
def escapeByte (byte : UInt8) : List Char :=
  let digit (n : Nat) : Char := Char.ofNat (if n < 10 then 0x30 + n else 0x37 + n)
  ['%', digit (byte.toNat / 16), digit (byte.toNat % 16)]

/-- Escapes every byte of a character. -/
def escapeChar (c : Char) : List Char := (Utf8.encodeChar c).flatMap escapeByte

end FoldMark.Text.Percent
