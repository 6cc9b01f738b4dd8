import GoIndex.Text.Quoted
import GoIndex.Text.Utf8

/-!
# Bytes that are no text

Where nothing may be replaced, bytes are text only if every character is complete. The first place
where one is not is described: a byte that starts no character, a character broken off by a byte
that does not continue it, or one broken off by the end.

Bytes may come in chunks. The position of a fault is then counted from the start of its chunk, or
from the character that the chunk before it left unfinished, and what the end breaks off is a chunk
of its own.
-/

namespace GoIndex.Text

/-! ### Faults -/

/-- What is wrong with bytes. -/
inductive DecodingFlaw where
  | badStart
  | badContinuation
  | truncated
  deriving DecidableEq, Repr

/-- What is said about a flaw. -/
def DecodingFlaw.label : DecodingFlaw → String
  | .badStart => "invalid start byte"
  | .badContinuation => "invalid continuation byte"
  | .truncated => "unexpected end of data"

/-- A place where bytes are no text: its position, the bytes there, and the flaw. -/
structure DecodingFault where
  position : Nat
  bytes : List UInt8
  flaw : DecodingFlaw
  deriving DecidableEq, Repr

/-- What is said about a fault. -/
def DecodingFault.message (fault : DecodingFault) : String :=
  let start := toString fault.position
  let place := match fault.bytes with
    | [byte] => "byte 0x" ++ String.ofList (hexDigits 2 byte.toNat) ++ " in position " ++ start
    | bytes => "bytes in position " ++ start ++ "-" ++ toString (fault.position + bytes.length - 1)
  "'utf-8' codec can't decode " ++ place ++ ": " ++ fault.flaw.label

/-! ### Finding the first fault -/

/-- How far bytes have been read: the bytes before this chunk, those read of it, the position of the
next character, and the bytes, last first, and the state of one that has started. -/
structure Scanned where
  before : Nat := 0
  read : Nat := 0
  position : Nat := 0
  begun : List UInt8 := []
  unfinished : Option Unfinished := none

/-- Goes to the next chunk when this one has been read. -/
def Scanned.nextChunk (s : Scanned) (chunk : Option Nat) : Scanned :=
  if chunk = some s.read then { s with before := s.before + s.read, read := 0, position := 0 }
  else s

/-- Reads a byte, or says what is wrong with it. -/
def Scanned.push (s : Scanned) (byte : UInt8) : Except DecodingFault Scanned :=
  let b := byte.toNat
  let s := { s with read := s.read + 1 }
  match s.unfinished with
  | none =>
    match (Decoder.start [] b).unfinished with
    | some u => .ok { s with begun := [byte], unfinished := some u }
    | none =>
      if b < 0x80 then .ok { s with position := s.position + 1 }
      else .error ⟨s.position, [byte], .badStart⟩
  | some u =>
    if u.low ≤ b && b ≤ u.high then
      if u.owed ≤ 1 then
        .ok { s with position := s.position + s.begun.length + 1, begun := [], unfinished := none }
      else
        .ok { s with
          begun := byte :: s.begun
          unfinished := some ⟨u.owed - 1, 0x80, 0xbf, 0⟩ }
    else .error ⟨s.position, s.begun.reverse, .badContinuation⟩

/-- Whether a byte behind `begun` starts a surrogate, which two bytes do not tell from a character
that is still to be finished. -/
def startsSurrogate (begun : List UInt8) (byte : UInt8) : Bool :=
  begun == [0xed] && 0xa0 ≤ byte && byte ≤ 0xbf

/-- The first fault in bytes that come in chunks, and how many bytes stand before its chunk. A chunk
that ends with the start of a surrogate leaves it to the next. -/
def faultFrom? (chunk : Option Nat) (s : Scanned) : List UInt8 → Option (Nat × DecodingFault)
  | [] =>
    if s.unfinished.isNone then none
    else if chunk.isNone then some (0, ⟨s.position, s.begun.reverse, .truncated⟩)
    else some (s.before + s.read, ⟨0, s.begun.reverse, .truncated⟩)
  | byte :: bytes =>
    let s := s.nextChunk chunk
    match s.push byte with
    | .ok s => faultFrom? chunk s bytes
    | .error fault =>
      if startsSurrogate s.begun byte &&
          (chunk = some (s.read + 1) || chunk.isSome && bytes.isEmpty) then
        some (s.before + s.read + 1, { fault with position := 0 })
      else some (s.before, fault)

/-- The text of bytes that are text throughout. -/
def decodeStrictly (bytes : List UInt8) : Except DecodingFault (List Char) :=
  match faultFrom? none {} bytes with
  | some (_, fault) => .error fault
  | none => .ok (decode bytes)

/-- The text of bytes that come in chunks, up to the first chunk with a fault, and the fault. -/
def decodeChunks (chunk : Nat) (bytes : List UInt8) : List Char × Option DecodingFault :=
  match faultFrom? (some chunk) {} bytes with
  | some (before, fault) =>
    (((bytes.take before).foldl Decoder.push {}).done.reverse, some fault)
  | none => (decode bytes, none)

/-- A surrogate is broken off behind its first byte, and a character at the end is named whole. -/
example : faultFrom? none {} [0x61, 0xed, 0xa0, 0x80] = some (0, ⟨1, [0xed], .badContinuation⟩) ∧
    faultFrom? none {} [0xc3, 0xa9, 0xe2, 0x82] = some (0, ⟨2, [0xe2, 0x82], .truncated⟩) := by
  decide +kernel

/-- A position is counted from the character that the chunk before left unfinished. -/
example : faultFrom? (some 2) {} [0x61, 0xc3, 0xa9, 0xff] = some (2, ⟨2, [0xff], .badStart⟩) := by
  decide +kernel

end GoIndex.Text
