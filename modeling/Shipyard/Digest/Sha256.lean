import Shipyard.Text.CharClass
import Shipyard.Text.Utf8

/-!
# SHA-256

`Sha256.digest` is the definition on a whole message: the message with its padding, cut into blocks
of 64 bytes, each folded into eight words. `Sha256.Stream` computes the same words from a message
that arrives in chunks of any length; it keeps the bytes that fill no block yet.
-/

namespace Shipyard.Sha256

/-- The eight words that are carried from block to block. -/
structure Hash where
  a : UInt32
  b : UInt32
  c : UInt32
  d : UInt32
  e : UInt32
  f : UInt32
  g : UInt32
  h : UInt32
  deriving DecidableEq, Repr

namespace Hash

/-- The words before the first block. -/
def initial : Hash :=
  ⟨0x6A09E667, 0xBB67AE85, 0x3C6EF372, 0xA54FF53A, 0x510E527F, 0x9B05688C, 0x1F83D9AB, 0x5BE0CD19⟩

/-- Adds two hashes word by word. -/
def add (x y : Hash) : Hash :=
  ⟨x.a + y.a, x.b + y.b, x.c + y.c, x.d + y.d, x.e + y.e, x.f + y.f, x.g + y.g, x.h + y.h⟩

/-- The words in their order. -/
def toList (x : Hash) : List UInt32 := [x.a, x.b, x.c, x.d, x.e, x.f, x.g, x.h]

/-- The words in hexadecimal. -/
def hex (x : Hash) : String :=
  String.ofList (x.toList.flatMap fun word => Text.hexPadded 8 word.toNat)

end Hash

/-! ## Blocks -/

/-- The constants of the sixty-four rounds. -/
def roundConstants : List UInt32 :=
  [0x428A2F98, 0x71374491, 0xB5C0FBCF, 0xE9B5DBA5, 0x3956C25B, 0x59F111F1, 0x923F82A4, 0xAB1C5ED5,
    0xD807AA98, 0x12835B01, 0x243185BE, 0x550C7DC3, 0x72BE5D74, 0x80DEB1FE, 0x9BDC06A7, 0xC19BF174,
    0xE49B69C1, 0xEFBE4786, 0x0FC19DC6, 0x240CA1CC, 0x2DE92C6F, 0x4A7484AA, 0x5CB0A9DC, 0x76F988DA,
    0x983E5152, 0xA831C66D, 0xB00327C8, 0xBF597FC7, 0xC6E00BF3, 0xD5A79147, 0x06CA6351, 0x14292967,
    0x27B70A85, 0x2E1B2138, 0x4D2C6DFC, 0x53380D13, 0x650A7354, 0x766A0ABB, 0x81C2C92E, 0x92722C85,
    0xA2BFE8A1, 0xA81A664B, 0xC24B8B70, 0xC76C51A3, 0xD192E819, 0xD6990624, 0xF40E3585, 0x106AA070,
    0x19A4C116, 0x1E376C08, 0x2748774C, 0x34B0BCB5, 0x391C0CB3, 0x4ED8AA4A, 0x5B9CCA4F, 0x682E6FF3,
    0x748F82EE, 0x78A5636F, 0x84C87814, 0x8CC70208, 0x90BEFFFA, 0xA4506CEB, 0xBEF9A3F7, 0xC67178F2]

/-- Rotates a word to the right. -/
def rotate (x n : UInt32) : UInt32 := (x >>> n) ||| (x <<< (32 - n))

/-- The first mixing function of the schedule. -/
def smallSigma0 (x : UInt32) : UInt32 := rotate x 7 ^^^ rotate x 18 ^^^ (x >>> 3)

/-- The second mixing function of the schedule. -/
def smallSigma1 (x : UInt32) : UInt32 := rotate x 17 ^^^ rotate x 19 ^^^ (x >>> 10)

/-- The first mixing function of a round. -/
def bigSigma0 (x : UInt32) : UInt32 := rotate x 2 ^^^ rotate x 13 ^^^ rotate x 22

/-- The second mixing function of a round. -/
def bigSigma1 (x : UInt32) : UInt32 := rotate x 6 ^^^ rotate x 11 ^^^ rotate x 25

/-- Takes each bit from `y` or `z` as `x` says. -/
def choose (x y z : UInt32) : UInt32 := (x &&& y) ^^^ (~~~x &&& z)

/-- Takes each bit that at least two of three words hold. -/
def majority (x y z : UInt32) : UInt32 := (x &&& y) ^^^ (x &&& z) ^^^ (y &&& z)

/-- The words of a block, the first byte of four being the highest. -/
def wordsOf : Bytes → List UInt32
  | w :: x :: y :: z :: rest =>
    (w.toUInt32 <<< 24 ||| x.toUInt32 <<< 16 ||| y.toUInt32 <<< 8 ||| z.toUInt32) :: wordsOf rest
  | _ => []

/-- The schedule of a block: its sixteen words, and each further word from four earlier ones. -/
def schedule (block : Bytes) : Array UInt32 :=
  (List.range 48).foldl
    (fun w t =>
      w.push (smallSigma1 (w.getD (t + 14) 0) + w.getD (t + 9) 0 + smallSigma0 (w.getD (t + 1) 0) +
        w.getD t 0))
    (wordsOf block).toArray

/-- One round, with its constant and its word of the schedule. -/
def round (x : Hash) (constant word : UInt32) : Hash :=
  let first := x.h + bigSigma1 x.e + choose x.e x.f x.g + constant + word
  let second := bigSigma0 x.a + majority x.a x.b x.c
  ⟨first + second, x.a, x.b, x.c, x.d + first, x.e, x.f, x.g⟩

/-- Folds one block into a hash. -/
def compress (x : Hash) (block : Bytes) : Hash :=
  x.add ((roundConstants.zip (schedule block).toList).foldl (fun y kw => round y kw.1 kw.2) x)

/-- The bytes of a block. -/
def blockSize : Nat := 64

/-- Folds all full blocks of a list of bytes into a hash, and gives the bytes that are left. -/
def absorb (x : Hash) (bytes : Bytes) : Hash × Bytes :=
  if _h : (bytes.take blockSize).length < blockSize then (x, bytes)
  else absorb (compress x (bytes.take blockSize)) (bytes.drop blockSize)
termination_by bytes.length
decreasing_by
  simp only [List.length_take, blockSize] at _h
  simp only [List.length_drop, blockSize]
  omega

/-! ## Whole messages -/

/-- The eight bytes of a number, the highest first. -/
def bigEndian (n : Nat) : Bytes :=
  [56, 48, 40, 32, 24, 16, 8, 0].map fun shift => UInt8.ofNat (n >>> shift)

/-- The padding of a message: a one bit, zeros up to eight bytes before the end of a block, and the
number of bits. -/
def padding (length : Nat) : Bytes :=
  0x80 :: List.replicate ((119 - length % 64) % 64) 0 ++ bigEndian (8 * length)

/-- The hash of a message. -/
def hash (message : Bytes) : Hash := (absorb .initial (message ++ padding message.length)).1

/-- The digest of a message: sixty-four hexadecimal digits. -/
def digest (message : Bytes) : String := (hash message).hex

/-! ## Streams -/

/-- A message of which some bytes have arrived. -/
structure Stream where
  /-- the hash of the full blocks -/
  hash : Hash
  /-- the bytes behind the last full block -/
  pending : Bytes
  /-- how many bytes have arrived -/
  length : Nat

/-- The stream before the first byte. -/
def Stream.empty : Stream := ⟨.initial, [], 0⟩

/-- The stream behind a further chunk. -/
def Stream.update (s : Stream) (chunk : Bytes) : Stream :=
  let (hash, pending) := absorb s.hash (s.pending ++ chunk)
  ⟨hash, pending, s.length + chunk.length⟩

/-- The digest of all that has arrived. -/
def Stream.digest (s : Stream) : String :=
  (absorb s.hash (s.pending ++ padding s.length)).1.hex

/-- A list of bytes in chunks of a size; the last one may be shorter, none is empty. -/
def chunks (size : Nat) (bytes : Bytes) : List Bytes :=
  if _h : size = 0 ∨ bytes = [] then []
  else bytes.take size :: chunks size (bytes.drop size)
termination_by bytes.length
decreasing_by
  have : 0 < bytes.length := List.length_pos_iff.2 fun hb => _h (.inr hb)
  simp only [List.length_drop]
  omega

/-- How many bytes of a file are read at once. -/
def chunkSize : Nat := 1024 * 1024

/-- The digest of a content that is read chunk by chunk. -/
def digestInChunks (content : Bytes) : String :=
  ((chunks chunkSize content).foldl Stream.update .empty).digest

end Shipyard.Sha256
