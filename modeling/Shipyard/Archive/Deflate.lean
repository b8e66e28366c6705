import Shipyard.Text.Utf8

/-!
# Deflated streams

What zip archives and compressed streams are put together from: numbers of a fixed width with the
lowest byte first, the check sum CRC-32, which is a fold over the bits of a message with the reflected
polynomial and inverted first and last values, and deflated streams. A deflated stream is a list of
blocks. `deflate` writes blocks that are stored as they are, which every reader of the format takes;
`inflate?` reads such streams back.
-/

namespace Shipyard.Archive

/-! ## Fields of binary formats -/

/-- A number in a fixed width, the lowest byte first. -/
def littleEndian : Nat → Nat → Bytes
  | 0, _ => []
  | width + 1, n => UInt8.ofNat n :: littleEndian width (n / 256)

/-- The number of bytes that are written the lowest first. -/
def numberOf (bytes : Bytes) : Nat := bytes.foldr (fun b n => b.toNat + 256 * n) 0

/-- The part of a list of bytes that begins at a place. -/
def part (place width : Nat) (bytes : Bytes) : Bytes := (bytes.drop place).take width

/-- The number at a place. -/
def numberAt (place width : Nat) (bytes : Bytes) : Nat := numberOf (part place width bytes)

/-- The text of bytes; bytes that are no text have none. -/
def textOf? (bytes : Bytes) : Option String := (Utf8.decode bytes).toOption

/-! ## Check sums -/

/-- The reflected polynomial. -/
def crcPolynomial : UInt32 := 0xEDB88320

/-- Shifts one bit out of a check sum. -/
def crcBit (crc : UInt32) : UInt32 :=
  if crc &&& 1 = 1 then (crc >>> 1) ^^^ crcPolynomial else crc >>> 1

/-- Takes one byte into a check sum. -/
def crcByte (crc : UInt32) (b : UInt8) : UInt32 :=
  crcBit (crcBit (crcBit (crcBit (crcBit (crcBit (crcBit (crcBit (crc ^^^ b.toUInt32))))))))

/-- The check sum of a message. -/
def crc32 (message : Bytes) : UInt32 := message.foldl crcByte 0xFFFFFFFF ^^^ 0xFFFFFFFF

/-! ## Deflated streams -/

/-- The most bytes of a stored block. -/
def maxStored : Nat := 65535

/-- One stored block. -/
def storedBlock (last : Bool) (content : Bytes) : Bytes :=
  (if last then 1 else 0) :: littleEndian 2 content.length ++
    littleEndian 2 (maxStored - content.length) ++ content

/-- A content as stored blocks; the blocks so far are in reverse order. -/
def deflateFrom (done : List Bytes) (content : Bytes) : List Bytes :=
  if _h : content.drop maxStored = [] then (storedBlock true content :: done).reverse
  else deflateFrom (storedBlock false (content.take maxStored) :: done) (content.drop maxStored)
termination_by content.length
decreasing_by
  have : 0 < (content.drop maxStored).length := List.length_pos_iff.2 _h
  simp only [List.length_drop, maxStored] at *
  omega

/-- A content as a deflated stream. -/
def deflate (content : Bytes) : Bytes := (deflateFrom [] content).flatten

/-- The content of a stream of stored blocks, with the parts so far in reverse order. The number of
blocks is bounded by the number of bytes. -/
def inflateFrom (done : List Bytes) : Nat → Bytes → Option Bytes
  | 0, _ => none
  | fuel + 1, bytes =>
    match bytes with
    | first :: l0 :: l1 :: m0 :: m1 :: rest =>
      let length := numberOf [l0, l1]
      let content := rest.take length
      if numberOf [m0, m1] + length ≠ maxStored || content.length ≠ length then none
      else if first = 1 then some (content :: done).reverse.flatten
      else if first = 0 then inflateFrom (content :: done) fuel (rest.drop length)
      else none
    | _ => none

/-- The content of a stream of stored blocks. -/
def inflate? (bytes : Bytes) : Option Bytes := inflateFrom [] bytes.length bytes

end Shipyard.Archive
