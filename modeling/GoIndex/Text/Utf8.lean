/-!
# Reading bytes as text

Bytes are read as UTF-8. Each longest stretch of bytes that starts a character and cannot be
completed, and each byte that cannot start one, gives one replacement character; nothing is refused.
`plainLineEnds` then turns a carriage return, with the line feed behind it if there is one, into a
line feed.
-/

namespace GoIndex.Text

/-- The character that stands for bytes that are no text. -/
def replacement : Char := Char.ofNat 0xfffd

/-! ### UTF-8 -/

/-- An unfinished character: how many bytes it still needs, between which bounds the next one lies,
and its value so far. -/
structure Unfinished where
  owed : Nat
  low : Nat
  high : Nat
  value : Nat

/-- What has been read: the characters, last first, and the unfinished one. -/
structure Decoder where
  done : List Char := []
  unfinished : Option Unfinished := none

/-- Reads a byte that stands at the start of a character. -/
def Decoder.start (done : List Char) (byte : Nat) : Decoder :=
  if byte < 0x80 then ⟨Char.ofNat byte :: done, none⟩
  else if 0xc2 ≤ byte && byte ≤ 0xdf then ⟨done, some ⟨1, 0x80, 0xbf, byte - 0xc0⟩⟩
  else if byte == 0xe0 then ⟨done, some ⟨2, 0xa0, 0xbf, 0⟩⟩
  else if byte == 0xed then ⟨done, some ⟨2, 0x80, 0x9f, 0xd⟩⟩
  else if 0xe1 ≤ byte && byte ≤ 0xef then ⟨done, some ⟨2, 0x80, 0xbf, byte - 0xe0⟩⟩
  else if byte == 0xf0 then ⟨done, some ⟨3, 0x90, 0xbf, 0⟩⟩
  else if 0xf1 ≤ byte && byte ≤ 0xf3 then ⟨done, some ⟨3, 0x80, 0xbf, byte - 0xf0⟩⟩
  else if byte == 0xf4 then ⟨done, some ⟨3, 0x80, 0x8f, 4⟩⟩
  else ⟨replacement :: done, none⟩

/-- Reads one more byte. -/
def Decoder.push (decoder : Decoder) (byte : UInt8) : Decoder :=
  let b := byte.toNat
  match decoder.unfinished with
  | none => Decoder.start decoder.done b
  | some u =>
    if u.low ≤ b && b ≤ u.high then
      let value := 64 * u.value + (b - 0x80)
      if u.owed ≤ 1 then ⟨Char.ofNat value :: decoder.done, none⟩
      else ⟨decoder.done, some ⟨u.owed - 1, 0x80, 0xbf, value⟩⟩
    else
      Decoder.start (replacement :: decoder.done) b

/-- The text that was read; an unfinished character at the end is replaced. -/
def Decoder.text (decoder : Decoder) : List Char :=
  match decoder.unfinished with
  | none => decoder.done.reverse
  | some _ => (replacement :: decoder.done).reverse

/-- The text that bytes write in UTF-8. -/
def decode (bytes : List UInt8) : List Char :=
  (bytes.foldl Decoder.push {}).text

/-! ### Line ends -/

/-- Text read so far, last character first, and whether it ends in a carriage return. -/
structure LineEnds where
  done : List Char := []
  afterReturn : Bool := false

/-- Reads one more character. -/
def LineEnds.push (state : LineEnds) (c : Char) : LineEnds :=
  if c == '\r' then ⟨'\n' :: state.done, true⟩
  else if c == '\n' && state.afterReturn then ⟨state.done, false⟩
  else ⟨c :: state.done, false⟩

/-- The text with a line feed for every line end. -/
def plainLineEnds (text : List Char) : List Char :=
  (text.foldl LineEnds.push {}).done.reverse

/-- A truncated character gives one replacement, a surrogate three. -/
example : decode [0xe2, 0x82, 0x20] = [replacement, ' '] ∧
    decode [0xed, 0xa0, 0x80] = [replacement, replacement, replacement] := by decide

example : plainLineEnds ['a', '\r', '\n', '\r', '\r', 'b'] = ['a', '\n', '\n', '\n', 'b'] := by
  decide

end GoIndex.Text
