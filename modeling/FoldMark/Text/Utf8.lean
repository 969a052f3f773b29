import FoldMark.Text.Quoted

/-!
# UTF-8

The byte form of a text. A decoder reads the longest start of a well-formed sequence, so a faulty
byte run is as long as it could still have become a character. `decodeLossy` puts the replacement
character for each such run, `decodeBytewise` for each of its bytes, and `decode` reports the first
run with its position and its cause.
-/

namespace FoldMark.Text.Utf8

/-- The character that stands for bytes that are no text. -/
def replacement : Char := '\uFFFD'

/-- The bytes of a character. -/
def encodeChar (c : Char) : List UInt8 :=
  let n := c.toNat
  let tail (shift : Nat) : UInt8 := (0x80 + n / Nat.pow 2 shift % 0x40).toUInt8
  if n < 0x80 then [n.toUInt8]
  else if n < 0x800 then [(0xC0 + n / 0x40).toUInt8, tail 0]
  else if n < 0x10000 then [(0xE0 + n / 0x1000).toUInt8, tail 6, tail 0]
  else [(0xF0 + n / 0x40000).toUInt8, tail 12, tail 6, tail 0]

/-- The bytes of a text. -/
def encode (text : List Char) : List UInt8 := text.flatMap encodeChar

/-- Why bytes are no text. -/
inductive Cause where
  /-- No character starts with the byte. -/
  | invalidStart
  /-- A byte follows that does not continue the character. -/
  | invalidContinuation
  /-- The bytes end within a character. -/
  | unexpectedEnd
  deriving DecidableEq, Repr

/-- The wording of a cause. -/
def Cause.message : Cause → String
  | .invalidStart => "invalid start byte"
  | .invalidContinuation => "invalid continuation byte"
  | .unexpectedEnd => "unexpected end of data"

/-- What a first byte announces: the bytes that follow it, the least and the greatest value of the
second byte, and the bits it contributes. -/
structure Lead where
  /-- Bytes after the first. -/
  tail : Nat
  /-- The least second byte. -/
  low : Nat
  /-- The greatest second byte. -/
  high : Nat
  /-- Leading bits of the code point. -/
  bits : Nat

/-- The announcement of a first byte, which excludes longer forms than needed, surrogates and
values past the last code point. -/
def lead? (byte : Nat) : Option Lead :=
  if byte < 0x80 then some ⟨0, 0, 0, byte⟩
  else if byte < 0xC2 then none
  else if byte < 0xE0 then some ⟨1, 0x80, 0xBF, byte - 0xC0⟩
  else if byte = 0xE0 then some ⟨2, 0xA0, 0xBF, 0⟩
  else if byte = 0xED then some ⟨2, 0x80, 0x9F, 0xD⟩
  else if byte < 0xF0 then some ⟨2, 0x80, 0xBF, byte - 0xE0⟩
  else if byte = 0xF0 then some ⟨3, 0x90, 0xBF, 0⟩
  else if byte < 0xF4 then some ⟨3, 0x80, 0xBF, byte - 0xF0⟩
  else if byte = 0xF4 then some ⟨3, 0x80, 0x8F, 4⟩
  else none

/-- One step of a decoder: a character, or a run of bytes that is none. -/
inductive Step where
  /-- A character of the given number of bytes. -/
  | char (c : Char) (size : Nat)
  /-- A fault of the given number of bytes. -/
  | fault (cause : Cause) (size : Nat)

/-- Reads the bytes that follow a first byte, of which `count` are missing. -/
def continueStep (value size : Nat) : Nat → Nat → Nat → List UInt8 → Step
  | 0, _, _, _ => .char (Char.ofNat value) size
  | _ + 1, _, _, [] => .fault .unexpectedEnd size
  | count + 1, low, high, byte :: rest =>
    let n := byte.toNat
    if low ≤ n ∧ n ≤ high then
      continueStep (value * 0x40 + (n - 0x80)) (size + 1) count 0x80 0xBF rest
    else .fault .invalidContinuation size

/-- Reads one character or fault from the front. -/
def step (byte : UInt8) (rest : List UInt8) : Step :=
  match lead? byte.toNat with
  | none => .fault .invalidStart 1
  | some lead => continueStep lead.bits 1 lead.tail lead.low lead.high rest

/-- The bytes that a step takes. -/
def Step.size : Step → Nat
  | .char _ size | .fault _ size => size

/-- Reads a text, of at most `fuel` steps; a fault becomes what `mend` makes of its size. -/
def decodeWithin (mend : Nat → List Char) : Nat → List UInt8 → List Char
  | 0, _ | _, [] => []
  | fuel + 1, byte :: rest =>
    let found := step byte rest
    let chars := match found with
      | .char c _ => [c]
      | .fault _ size => mend size
    chars ++ decodeWithin mend fuel (rest.drop (found.size - 1))

/-- Reads a text, putting one replacement character for a fault. -/
def decodeLossy (bytes : List UInt8) : List Char :=
  decodeWithin (fun _ => [replacement]) bytes.length bytes

/-- Reads a text, putting a replacement character for every faulty byte. -/
def decodeBytewise (bytes : List UInt8) : List Char :=
  decodeWithin (fun size => List.replicate size replacement) bytes.length bytes

/-- A fault with its place. -/
structure Fault where
  /-- Why the bytes are no text. -/
  cause : Cause
  /-- Position of the first byte. -/
  position : Nat
  /-- The faulty bytes. -/
  bytes : List UInt8
  deriving DecidableEq, Repr

/-- The wording of a fault. -/
def Fault.message (fault : Fault) : String :=
  let place := match fault.bytes with
    | [byte] =>
      "byte 0x" ++ String.ofList (hexDigits 2 byte.toNat) ++ " in position " ++
        toString fault.position
    | bytes =>
      "bytes in position " ++ toString fault.position ++ "-" ++
        toString (fault.position + bytes.length - 1)
  "'utf-8' codec can't decode " ++ place ++ ": " ++ fault.cause.message

/-- Reads a text from a position, of at most `fuel` steps. -/
def decodeFrom : Nat → Nat → List UInt8 → Except Fault (List Char)
  | 0, _, _ | _, _, [] => .ok []
  | fuel + 1, position, byte :: rest =>
    match step byte rest with
    | .fault cause size => .error ⟨cause, position, (byte :: rest).take size⟩
    | .char c size =>
      (decodeFrom fuel (position + size) (rest.drop (size - 1))).map (c :: ·)

/-- Reads a text, or reports the first fault. -/
def decode (bytes : List UInt8) : Except Fault (List Char) := decodeFrom bytes.length 0 bytes

end FoldMark.Text.Utf8
