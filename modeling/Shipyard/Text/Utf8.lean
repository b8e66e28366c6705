/-!
# UTF-8

`Utf8.decode` reads bytes as text one byte at a time. A byte sequence that is no UTF-8 is refused
with the first place where it goes wrong: a byte that starts no character, a character whose next
byte does not continue it, or a character cut off at the end. The fault covers the bytes of the
character that were good so far.

Processes exchange bytes. Inside a process a text has one character for each byte, so that what is
no UTF-8 passes through as it is: `ByteText.inner` makes such a text, and `ByteText.outer` reads one.
-/

namespace Shipyard

/-- The content of a file or of a stream. -/
abbrev Bytes := List UInt8

namespace Utf8

/-- The bytes of a string. -/
def encode (s : String) : Bytes := s.toUTF8.toList

/-- Why a byte sequence is no UTF-8. -/
inductive Reason where
  /-- a byte that cannot start a character -/
  | start
  /-- a byte that does not continue the character -/
  | continuation
  /-- the text ends inside a character -/
  | cutOff
  deriving DecidableEq, Repr

/-- The first place where a byte sequence is no UTF-8. -/
structure Fault where
  /-- the position of the first bad byte -/
  first : Nat
  /-- how many bytes the fault covers -/
  length : Nat
  /-- the byte at `first` -/
  byte : UInt8
  /-- what is wrong there -/
  reason : Reason
  deriving DecidableEq, Repr

/-- A character whose first byte has been read: where it starts, the bits so far, how many bytes are
owed, and the range of the next one. -/
structure Pending where
  /-- the position of the first byte -/
  first : Nat
  /-- the first byte -/
  lead : UInt8
  /-- the bits read so far -/
  bits : Nat
  /-- how many bytes are owed -/
  owed : Nat
  /-- the least next byte -/
  low : UInt8
  /-- the greatest next byte -/
  high : UInt8

/-- The character that a byte of the upper half starts, if it may start one. -/
def Pending.ofLead? (position : Nat) (b : UInt8) : Option Pending :=
  if 0xC2 ≤ b && b ≤ 0xDF then some ⟨position, b, b.toNat - 0xC0, 1, 0x80, 0xBF⟩
  else if b == 0xE0 then some ⟨position, b, 0, 2, 0xA0, 0xBF⟩
  else if b == 0xED then some ⟨position, b, 0xD, 2, 0x80, 0x9F⟩
  else if 0xE1 ≤ b && b ≤ 0xEF then some ⟨position, b, b.toNat - 0xE0, 2, 0x80, 0xBF⟩
  else if b == 0xF0 then some ⟨position, b, 0, 3, 0x90, 0xBF⟩
  else if b == 0xF4 then some ⟨position, b, 4, 3, 0x80, 0x8F⟩
  else if 0xF1 ≤ b && b ≤ 0xF3 then some ⟨position, b, b.toNat - 0xF0, 3, 0x80, 0xBF⟩
  else none

/-- The fault of a pending character at the given position. -/
def Pending.fault (p : Pending) (position : Nat) (reason : Reason) : Fault :=
  ⟨p.first, position - p.first, p.lead, reason⟩

/-- Reads on from a position, with the characters read so far (reversed) and the character that is
under way. -/
def decodeFrom (done : List Char) (position : Nat) (pending : Option Pending) :
    Bytes → Except Fault (List Char)
  | [] =>
    match pending with
    | none => .ok done.reverse
    | some p => .error (p.fault position .cutOff)
  | b :: rest =>
    match pending with
    | some p =>
      if p.low ≤ b && b ≤ p.high then
        let bits := p.bits * 64 + (b.toNat - 0x80)
        if p.owed ≤ 1 then decodeFrom (Char.ofNat bits :: done) (position + 1) none rest
        else
          let next := ⟨p.first, p.lead, bits, p.owed - 1, 0x80, 0xBF⟩
          decodeFrom done (position + 1) (some next) rest
      else .error (p.fault position .continuation)
    | none =>
      if b < 0x80 then decodeFrom (Char.ofNat b.toNat :: done) (position + 1) none rest
      else
        match Pending.ofLead? position b with
        | some p => decodeFrom done (position + 1) (some p) rest
        | none => .error ⟨position, 1, b, .start⟩

/-- The text that a byte sequence encodes. -/
def decode (bytes : Bytes) : Except Fault String :=
  (decodeFrom [] 0 none bytes).map String.ofList

end Utf8

end Shipyard

namespace Shipyard.ByteText

/-! ## Texts of bytes -/

/-- The text with one character for each byte. -/
def ofBytes (bytes : Bytes) : String := String.ofList (bytes.map fun b => Char.ofNat b.toNat)

/-- The bytes of a text of bytes. -/
def toBytes (s : String) : Bytes := s.toList.map fun c => UInt8.ofNat c.toNat

/-- A text as bytes. -/
def inner (s : String) : String := ofBytes (Utf8.encode s)

/-- The text that bytes stand for; what is no UTF-8 stays as it is. -/
def outer (s : String) : String := (Utf8.decode (toBytes s)).toOption.getD s

/-- The characters of a part of some bytes, in front of further ones. -/
def charsFrom (bytes : ByteArray) (start : Nat) : Nat → List Char → List Char
  | 0, after => after
  | count + 1, after =>
    let byte := if h : start + count < bytes.size then bytes[start + count] else 0
    charsFrom bytes start count (Char.ofNat byte.toNat :: after)

/-- The text of a part of some bytes. -/
def slice (bytes : ByteArray) (start count : Nat) : String :=
  String.ofList (charsFrom bytes start (min count (bytes.size - start)) [])

/-- Bytes with those of a text behind them. -/
def pushText (bytes : ByteArray) (s : String) : ByteArray :=
  s.toList.foldl (fun bytes c => bytes.push (UInt8.ofNat c.toNat)) bytes

end Shipyard.ByteText
