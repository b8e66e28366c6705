import Mathlib.Analysis.SpecialFunctions.Pow.NthRootLemmas
import Mathlib.Data.Nat.Nth
import Mathlib.Data.Nat.Prime.Defs
import Shipyard.Proofs.Digest.Sha256

/-!
# The hash of a string of bits

`Sha256.Standard.hashOf` is the hash as it is laid down for a message that is a string of bits. Its
words are bit vectors, its schedule and its rounds are recursions over the time, its padding is the
shortest that fits, and its constants are cut out of roots of primes. Nothing of it is shared with
the functions that work on bytes, tables and arrays. They agree with it block by block
(`stateOf_compress`), so a digest writes the hash of the whole message, in whatever parts the
message arrives (`Checksum.digestOf_exact`).
-/

namespace Shipyard

namespace Sha256

namespace Standard

/-! ## Bits -/

/-- The number that bits write, the highest first. -/
def numberOf (bits : List Bool) : Nat := numeral 2 (bits.map Bool.toNat)

/-- The bits that write a number, the highest first. Of a number that is too large the highest are
left out. -/
def bitsOf (width n : Nat) : List Bool := (List.range width).map fun i => n.testBit (width - 1 - i)

/-- The bits of bytes. -/
def bitsOfBytes (bytes : Bytes) : List Bool := bytes.flatMap fun b => bitsOf 8 b.toNat

/-- A word of thirty-two bits. -/
abbrev Word := BitVec 32

/-- The word whose first bit stands at a place. -/
def wordAt (bits : List Bool) (place : Nat) : Word :=
  BitVec.ofNat 32 (numberOf ((bits.drop place).take 32))

/-! ## Padding -/

theorem exists_zeros (length : Nat) : ∃ zeros, (length + 1 + zeros) % 512 = 448 :=
  ⟨(959 - length % 512) % 512, by omega⟩

/-- How many zeros are put behind the bit behind a message: as few as possible, so that 64 bits are
left in the last block. -/
def zeros (length : Nat) : Nat := Nat.find (exists_zeros length)

/-- A message with its padding: a one, zeros, and its length in 64 bits. -/
def padded (message : List Bool) : List Bool :=
  message ++ true :: List.replicate (zeros message.length) false ++ bitsOf 64 message.length

/-! ## Constants -/

/-- The first 32 bits behind the point of a root. -/
def rootFraction (degree n : Nat) : Word :=
  BitVec.ofNat 32 (Nat.nthRoot degree (n * 2 ^ (32 * degree)))

/-- The constant of a round, from the cube root of a prime. -/
noncomputable def constant (t : Nat) : Word := rootFraction 3 (Nat.nth Nat.Prime t)

/-- The eight words of a hash. -/
structure State where
  a : Word
  b : Word
  c : Word
  d : Word
  e : Word
  f : Word
  g : Word
  h : Word

/-- The words before the first block, from the square roots of the first primes. -/
noncomputable def initial : State :=
  let word := fun i => rootFraction 2 (Nat.nth Nat.Prime i)
  ⟨word 0, word 1, word 2, word 3, word 4, word 5, word 6, word 7⟩

/-! ## Blocks -/

/-- The first mixing function of the schedule. -/
def smallSigma0 (x : Word) : Word := x.rotateRight 7 ^^^ x.rotateRight 18 ^^^ (x >>> 3)

/-- The second mixing function of the schedule. -/
def smallSigma1 (x : Word) : Word := x.rotateRight 17 ^^^ x.rotateRight 19 ^^^ (x >>> 10)

/-- The first mixing function of a round. -/
def bigSigma0 (x : Word) : Word := x.rotateRight 2 ^^^ x.rotateRight 13 ^^^ x.rotateRight 22

/-- The second mixing function of a round. -/
def bigSigma1 (x : Word) : Word := x.rotateRight 6 ^^^ x.rotateRight 11 ^^^ x.rotateRight 25

/-- Each bit from `y` or `z`, as `x` says. -/
def choose (x y z : Word) : Word := (x &&& y) ^^^ (~~~x &&& z)

/-- Each bit that at least two of three words hold. -/
def majority (x y z : Word) : Word := (x &&& y) ^^^ (x &&& z) ^^^ (y &&& z)

/-- The schedule of a block of sixteen words. -/
def schedule (block : Nat → Word) (t : Nat) : Word :=
  if _h : t < 16 then block t
  else
    smallSigma1 (schedule block (t - 2)) + schedule block (t - 7) +
      smallSigma0 (schedule block (t - 15)) + schedule block (t - 16)

namespace State

/-- Adds word by word. -/
def add (x y : State) : State :=
  ⟨x.a + y.a, x.b + y.b, x.c + y.c, x.d + y.d, x.e + y.e, x.f + y.f, x.g + y.g, x.h + y.h⟩

/-- One round. -/
def next (x : State) (constant word : Word) : State :=
  let first := x.h + bigSigma1 x.e + choose x.e x.f x.g + constant + word
  let second := bigSigma0 x.a + majority x.a x.b x.c
  ⟨first + second, x.a, x.b, x.c, x.d + first, x.e, x.f, x.g⟩

/-- The words in their order. -/
def toList (x : State) : List Word := [x.a, x.b, x.c, x.d, x.e, x.f, x.g, x.h]

/-- The number that the words write, one behind the other. -/
def number (x : State) : Nat := numeral (2 ^ 32) (x.toList.map BitVec.toNat)

end State

/-- The words after some rounds. -/
noncomputable def rounds (block : Nat → Word) (x : State) : Nat → State
  | 0 => x
  | t + 1 => (rounds block x t).next (constant t) (schedule block t)

/-- The words behind a block. -/
noncomputable def compress (x : State) (block : Nat → Word) : State := x.add (rounds block x 64)

/-- The sixteen words of a block of 512 bits. -/
def blockAt (bits : List Bool) (i t : Nat) : Word := wordAt bits (512 * i + 32 * t)

/-- **The hash of a message.** -/
noncomputable def hashOf (message : List Bool) : State :=
  (List.range ((padded message).length / 512)).foldl
    (fun x i => compress x (blockAt (padded message) i)) initial

/-! ## Bits of bytes -/

theorem numberOf_append (front rest : List Bool) :
    numberOf (front ++ rest) = numberOf front * 2 ^ rest.length + numberOf rest := by
  rw [numberOf, List.map_append, numeral_append, List.length_map]
  rfl

theorem numberOf_singleton (b : Bool) : numberOf [b] = b.toNat := numeral_singleton 2 b.toNat

theorem length_bitsOf (width n : Nat) : (bitsOf width n).length = width := by
  rw [bitsOf, List.length_map, List.length_range]

theorem bitsOf_succ (width n : Nat) :
    bitsOf (width + 1) n = bitsOf width (n / 2) ++ [n.testBit 0] := by
  rw [bitsOf, List.range_succ, List.map_append, List.map_singleton, bitsOf]
  congr 1
  · refine List.map_congr_left fun i hi => ?_
    have hplace : width + 1 - 1 - i = width - 1 - i + 1 := by
      have := List.mem_range.mp hi
      omega
    rw [hplace, Nat.testBit_succ]
  · simp

/-- Bits that write a number are read back. -/
theorem numberOf_bitsOf (width n : Nat) : numberOf (bitsOf width n) = n % 2 ^ width := by
  induction width generalizing n with
  | zero => exact (Nat.mod_one n).symm
  | succ width ih =>
    have hsplit : n % (2 * 2 ^ width) = n % 2 + 2 * (n / 2 % 2 ^ width) := Nat.mod_mul
    rw [bitsOf_succ, numberOf_append, ih, numberOf_singleton, Nat.toNat_testBit, Nat.pow_zero,
      Nat.div_one, List.length_singleton, Nat.pow_one, Nat.pow_succ', hsplit]
    omega

theorem bitsOf_zero (width : Nat) : bitsOf width 0 = List.replicate width false := by
  rw [bitsOf, List.eq_replicate_iff]
  simp

theorem bitsOf_mod (width n : Nat) : bitsOf width (n % 2 ^ width) = bitsOf width n := by
  refine List.map_congr_left fun i hi => ?_
  have hplace : width - 1 - i < width := by
    have := List.mem_range.mp hi
    omega
  rw [Nat.testBit_mod_two_pow, decide_eq_true hplace, Bool.true_and]

theorem bitsOfBytes_append (front rest : Bytes) :
    bitsOfBytes (front ++ rest) = bitsOfBytes front ++ bitsOfBytes rest := List.flatMap_append

theorem bitsOfBytes_cons (b : UInt8) (bytes : Bytes) :
    bitsOfBytes (b :: bytes) = bitsOf 8 b.toNat ++ bitsOfBytes bytes := List.flatMap_cons

theorem length_bitsOfBytes (bytes : Bytes) : (bitsOfBytes bytes).length = 8 * bytes.length := by
  induction bytes with
  | nil => rfl
  | cons b bytes ih =>
    rw [bitsOfBytes_cons, List.length_append, length_bitsOf, ih, List.length_cons, Nat.mul_succ,
      Nat.add_comm]

theorem bitsOfBytes_drop (bytes : Bytes) (n : Nat) :
    bitsOfBytes (bytes.drop n) = (bitsOfBytes bytes).drop (8 * n) := by
  induction n generalizing bytes with
  | zero => rfl
  | succ n ih =>
    cases bytes with
    | nil => exact List.drop_nil.symm
    | cons b bytes =>
      rw [List.drop_succ_cons, ih, bitsOfBytes_cons, Nat.mul_succ, Nat.add_comm, ← List.drop_drop,
        List.drop_left' (length_bitsOf 8 b.toNat)]

theorem bitsOfBytes_take (bytes : Bytes) (n : Nat) :
    bitsOfBytes (bytes.take n) = (bitsOfBytes bytes).take (8 * n) := by
  induction n generalizing bytes with
  | zero => rfl
  | succ n ih =>
    cases bytes with
    | nil => exact List.take_nil.symm
    | cons b bytes =>
      have hplace : 8 * (n + 1) = (bitsOf 8 b.toNat).length + 8 * n := by
        rw [length_bitsOf, Nat.mul_succ, Nat.add_comm]
      rw [List.take_succ_cons, bitsOfBytes_cons, ih, bitsOfBytes_cons, hplace,
        List.take_length_add_append]

theorem bitsOfBytes_replicate (n : Nat) :
    bitsOfBytes (List.replicate n 0) = List.replicate (8 * n) false := by
  induction n with
  | zero => rfl
  | succ n ih =>
    have hzero : bitsOf 8 (0 : UInt8).toNat = List.replicate 8 false := bitsOf_zero 8
    rw [List.replicate_succ, bitsOfBytes_cons, hzero, ih, List.replicate_append_replicate,
      Nat.mul_succ, Nat.add_comm]

/-- The bits of a number that is cut into bytes. -/
theorem bitsOfBytes_bigEndian (n : Nat) : bitsOfBytes (bigEndian n) = bitsOf 64 n := by
  have hbyte (shift : Nat) : bitsOf 8 (UInt8.ofNat (n >>> shift)).toNat =
      (List.range 8).map fun i => n.testBit (shift + (7 - i)) := by
    have hmod : (UInt8.ofNat (n >>> shift)).toNat = n >>> shift % 2 ^ 8 := UInt8.toNat_ofNat'
    rw [hmod, bitsOf_mod, bitsOf]
    simp only [Nat.testBit_shiftRight]
  simp only [bitsOfBytes, bigEndian, List.flatMap_map, hbyte]
  rfl

/-! ## Words of bytes -/

theorem numberOf_fourBytes (w x y z : UInt8) :
    numberOf (bitsOfBytes [w, x, y, z]) =
      ((w.toNat * 2 ^ 8 + x.toNat) * 2 ^ 8 + y.toNat) * 2 ^ 8 + z.toNat := by
  have hbyte (b : UInt8) : b.toNat % 2 ^ 8 = b.toNat := Nat.mod_eq_of_lt b.toNat_lt
  simp only [bitsOfBytes, List.flatMap_cons, List.flatMap_nil, List.append_nil]
  rw [← List.append_assoc, ← List.append_assoc]
  simp only [numberOf_append, length_bitsOf, numberOf_bitsOf, hbyte]

/-- No bit of a byte is lost where it is shifted to within a word. -/
theorem toNat_toUInt32_shiftLeft (b : UInt8) {n : UInt32} (hn : n.toNat ≤ 24) :
    (b.toUInt32 <<< n).toNat = b.toNat <<< n.toNat := by
  have hbound : b.toNat <<< n.toNat < 2 ^ 32 := by
    rw [Nat.shiftLeft_eq]
    calc b.toNat * 2 ^ n.toNat < 2 ^ 8 * 2 ^ n.toNat :=
          Nat.mul_lt_mul_of_pos_right b.toNat_lt (Nat.two_pow_pos _)
      _ ≤ 2 ^ 8 * 2 ^ 24 := Nat.mul_le_mul_left _ (Nat.pow_le_pow_right (by decide) hn)
  rw [UInt32.toNat_shiftLeft, UInt8.toNat_toUInt32, Nat.mod_eq_of_lt (by omega : n.toNat < 32),
    Nat.mod_eq_of_lt hbound]

/-- The word of four bytes. -/
theorem toBitVec_fourBytes (w x y z : UInt8) :
    (w.toUInt32 <<< 24 ||| x.toUInt32 <<< 16 ||| y.toUInt32 <<< 8 ||| z.toUInt32).toBitVec =
      BitVec.ofNat 32 (numberOf (bitsOfBytes [w, x, y, z])) := by
  have hbound : numberOf (bitsOfBytes [w, x, y, z]) < 2 ^ 32 := by
    have hw := w.toNat_lt
    have hx := x.toNat_lt
    have hy := y.toNat_lt
    have hz := z.toNat_lt
    rw [numberOf_fourBytes]
    omega
  have hor (n : Nat) (b : UInt8) : n <<< 8 ||| b.toNat = n * 2 ^ 8 + b.toNat := by
    rw [← Nat.shiftLeft_add_eq_or_of_lt b.toNat_lt, Nat.shiftLeft_eq]
  refine BitVec.eq_of_toNat_eq ?_
  rw [BitVec.toNat_ofNat, Nat.mod_eq_of_lt hbound, numberOf_fourBytes, UInt32.toNat_toBitVec,
    UInt32.toNat_or, UInt32.toNat_or, UInt32.toNat_or, toNat_toUInt32_shiftLeft w (by decide),
    toNat_toUInt32_shiftLeft x (by decide), toNat_toUInt32_shiftLeft y (by decide),
    UInt8.toNat_toUInt32, ← hor, ← hor, ← hor]
  simp only [Nat.shiftLeft_or_distrib, ← Nat.shiftLeft_add]
  rfl

theorem length_wordsOf (bytes : Bytes) : (wordsOf bytes).length = bytes.length / 4 := by
  fun_induction wordsOf bytes with
  | case1 w x y z rest ih =>
    simp only [List.length_cons, ih]
    omega
  | case2 bytes hshort =>
    rcases bytes with _ | ⟨w, _ | ⟨x, _ | ⟨y, _ | ⟨z, rest⟩⟩⟩⟩
    case cons.cons.cons.cons => exact absurd rfl (hshort w x y z rest)
    all_goals simp

/-- Words of bytes are words of their bits. -/
theorem toBitVec_wordsOf {bytes : Bytes} {t : Nat} (h : t < (wordsOf bytes).length) :
    (wordsOf bytes)[t].toBitVec = wordAt (bitsOfBytes bytes) (32 * t) := by
  fun_induction wordsOf bytes generalizing t with
  | case1 w x y z rest ih =>
    have hfour : (bitsOfBytes [w, x, y, z]).length = 32 := length_bitsOfBytes _
    have hsplit : bitsOfBytes (w :: x :: y :: z :: rest) =
        bitsOfBytes [w, x, y, z] ++ bitsOfBytes rest := bitsOfBytes_append [w, x, y, z] rest
    rw [wordAt, hsplit]
    cases t with
    | zero =>
      rw [List.getElem_cons_zero, toBitVec_fourBytes, Nat.mul_zero, List.drop_zero,
        List.take_left' hfour]
    | succ t =>
      have hplace : 32 * (t + 1) = (bitsOfBytes [w, x, y, z]).length + 32 * t := by
        rw [hfour]
        omega
      rw [List.getElem_cons_succ, ih, wordAt, hplace, List.drop_length_add_append]
  | case2 bytes hshort => cases h

/-- The words of a block of bytes are those of its bits. -/
theorem toBitVec_wordsOf_block {bytes : Bytes} {i t : Nat} (ht : t < 16)
    (h : t < (wordsOf ((bytes.drop (64 * i)).take 64)).length) :
    (wordsOf ((bytes.drop (64 * i)).take 64))[t].toBitVec = blockAt (bitsOfBytes bytes) i t := by
  have hlength : min 32 (512 - 32 * t) = 32 := by omega
  rw [toBitVec_wordsOf h, wordAt, bitsOfBytes_take, bitsOfBytes_drop, List.drop_take,
    List.take_take, List.drop_drop, blockAt, wordAt, ← Nat.mul_assoc, hlength]

/-! ## Rounds -/

theorem toBitVec_rotate (x : UInt32) {n : UInt32} (hpos : 0 < n.toNat) (hn : n.toNat < 32) :
    (rotate x n).toBitVec = x.toBitVec.rotateRight n.toNat := by
  have hback : (32 - n).toNat = 32 - n.toNat :=
    UInt32.toNat_sub_of_le _ _ (UInt32.le_iff_toNat_le.mpr (Nat.le_of_lt hn))
  have hleft : (32 - n.toNat) % 32 = 32 - n.toNat := Nat.mod_eq_of_lt (by omega)
  rw [BitVec.rotateRight_def, Nat.mod_eq_of_lt hn]
  refine BitVec.eq_of_toNat_eq ?_
  rw [UInt32.toNat_toBitVec, rotate, UInt32.toNat_or, UInt32.toNat_shiftRight,
    UInt32.toNat_shiftLeft, hback, Nat.mod_eq_of_lt hn, hleft, BitVec.toNat_or,
    BitVec.toNat_ushiftRight, BitVec.toNat_shiftLeft, UInt32.toNat_toBitVec]

theorem toBitVec_smallSigma0 (x : UInt32) :
    (Sha256.smallSigma0 x).toBitVec = smallSigma0 x.toBitVec := by
  simp (disch := decide) only [Sha256.smallSigma0, UInt32.toBitVec_xor, UInt32.toBitVec_shiftRight,
    toBitVec_rotate]
  rfl

theorem toBitVec_smallSigma1 (x : UInt32) :
    (Sha256.smallSigma1 x).toBitVec = smallSigma1 x.toBitVec := by
  simp (disch := decide) only [Sha256.smallSigma1, UInt32.toBitVec_xor, UInt32.toBitVec_shiftRight,
    toBitVec_rotate]
  rfl

theorem toBitVec_bigSigma0 (x : UInt32) :
    (Sha256.bigSigma0 x).toBitVec = bigSigma0 x.toBitVec := by
  simp (disch := decide) only [Sha256.bigSigma0, UInt32.toBitVec_xor, toBitVec_rotate]
  rfl

theorem toBitVec_bigSigma1 (x : UInt32) :
    (Sha256.bigSigma1 x).toBitVec = bigSigma1 x.toBitVec := by
  simp (disch := decide) only [Sha256.bigSigma1, UInt32.toBitVec_xor, toBitVec_rotate]
  rfl

/-! ## Schedules -/

/-- Whether the words of a block are these. -/
def Reads (block : Bytes) (words : Nat → Word) : Prop :=
  ∀ t (h : t < (wordsOf block).length), (wordsOf block)[t].toBitVec = words t

/-- The schedule of a block after some of its further words. -/
def scheduleTo (block : Bytes) (n : Nat) : Array UInt32 :=
  (List.range n).foldl
    (fun w t =>
      w.push (Sha256.smallSigma1 (w.getD (t + 14) 0) + w.getD (t + 9) 0 +
        Sha256.smallSigma0 (w.getD (t + 1) 0) + w.getD t 0))
    (wordsOf block).toArray

theorem schedule_eq_scheduleTo (block : Bytes) : Sha256.schedule block = scheduleTo block 48 := rfl

theorem schedule_of_lt {block : Nat → Word} {t : Nat} (h : t < 16) :
    schedule block t = block t := by
  rw [schedule, dif_pos h]

theorem schedule_add (block : Nat → Word) (t : Nat) :
    schedule block (t + 16) =
      smallSigma1 (schedule block (t + 14)) + schedule block (t + 9) +
        smallSigma0 (schedule block (t + 1)) + schedule block t := by
  rw [schedule, dif_neg (by omega)]
  rfl

/-- Each word that is added is the next one of the schedule. -/
theorem scheduleTo_spec {block : Bytes} {words : Nat → Word} (hlength : block.length = 64)
    (hwords : Reads block words) (n : Nat) :
    (scheduleTo block n).size = n + 16 ∧
      ∀ t < n + 16, ((scheduleTo block n).getD t 0).toBitVec = schedule words t := by
  induction n with
  | zero =>
    have hsixteen : (wordsOf block).length = 16 := by rw [length_wordsOf, hlength]
    refine ⟨hsixteen, fun t ht => ?_⟩
    have ht' : t < (wordsOf block).length := by omega
    rw [schedule_of_lt (by omega), ← hwords t ht']
    simp [scheduleTo, ht']
  | succ n ih =>
    obtain ⟨hsize, hget⟩ := ih
    have hstep : scheduleTo block (n + 1) = (scheduleTo block n).push
        (Sha256.smallSigma1 ((scheduleTo block n).getD (n + 14) 0) +
          (scheduleTo block n).getD (n + 9) 0 +
          Sha256.smallSigma0 ((scheduleTo block n).getD (n + 1) 0) +
          (scheduleTo block n).getD n 0) := by
      rw [scheduleTo, List.range_succ, List.foldl_append]
      rfl
    refine ⟨by rw [hstep, Array.size_push, hsize], fun t ht => ?_⟩
    rw [hstep, Array.getD_eq_getD_getElem?, Array.getElem?_push]
    -- the new word is the recurrence of four that are there, and the others stay
    by_cases hlast : t = n + 16
    · rw [if_pos (by rw [hsize, hlast]), hlast, schedule_add, ← hget (n + 14) (by omega),
        ← hget (n + 9) (by omega), ← hget (n + 1) (by omega), ← hget n (by omega),
        ← toBitVec_smallSigma0, ← toBitVec_smallSigma1]
      rfl
    · rw [if_neg (by rwa [hsize]), ← Array.getD_eq_getD_getElem?, hget t (by omega)]

/-! ## Constants of rounds -/

/-- The numbers below a bound that have a property are the first ones that have it. -/
theorem nth_eq_getElem {p : Nat → Prop} [DecidablePred p] {n i : Nat} {found : List Nat}
    (hfound : (List.range n).filter p = found) (h : i < found.length) : Nat.nth p i = found[i] := by
  subst hfound
  induction n with
  | zero => exact absurd h (Nat.not_lt_zero i)
  | succ n ih =>
    have hcount : ((List.range n).filter p).length = Nat.count p n := by
      rw [Nat.count_eq_card_filter_range]
      rfl
    simp only [List.range_succ, List.filter_append, List.length_append] at h ⊢
    by_cases hi : i < ((List.range n).filter p).length
    · rw [List.getElem_append_left hi, ih hi]
    · rw [List.getElem_append_right (Nat.le_of_not_lt hi)]
      by_cases hn : p n
      · have hlast : [n].filter p = [n] := by simp [hn]
        simp only [hlast, List.length_singleton] at h ⊢
        obtain rfl : i = Nat.count p n := by omega
        rw [List.getElem_singleton, Nat.nth_count hn]
      · have hnone : [n].filter p = [] := by simp [hn]
        rw [hnone] at h
        exact absurd h hi

/-- The primes that the constants come from. -/
def primes : List Nat :=
  [2, 3, 5, 7, 11, 13, 17, 19, 23, 29, 31, 37, 41, 43, 47, 53, 59, 61, 67, 71, 73, 79, 83,
    89, 97, 101, 103, 107, 109, 113, 127, 131, 137, 139, 149, 151, 157, 163, 167, 173, 179,
    181, 191, 193, 197, 199, 211, 223, 227, 229, 233, 239, 241, 251, 257, 263, 269, 271,
    277, 281, 283, 293, 307, 311]

/-- A number below `19 * 19` is a prime if no smaller number below `19` divides it. -/
theorem prime_iff_of_lt {p : Nat} (h : p < 361) :
    p.Prime ↔ 2 ≤ p ∧ ∀ m ∈ List.range 19, 2 ≤ m → m < p → ¬ m ∣ p := by
  rw [Nat.prime_def_le_sqrt]
  refine and_congr_right fun htwo =>
    ⟨fun hprime m _ hm hless hdvd => ?_, fun hsmall m hm hsqrt => ?_⟩
  · exact Nat.prime_def_lt'.mp (Nat.prime_def_le_sqrt.mpr ⟨htwo, hprime⟩) |>.2 m hm hless hdvd
  · -- a divisor up to the root is below `19`, and it is no trivial one
    have hsquare : m * m ≤ p := Nat.le_sqrt.mp hsqrt
    have hless : m < 19 := by
      by_contra hlarge
      have := Nat.mul_le_mul (Nat.le_of_not_lt hlarge) (Nat.le_of_not_lt hlarge)
      omega
    have hdouble : 2 * m ≤ m * m := Nat.mul_le_mul_right m hm
    exact hsmall m (List.mem_range.mpr hless) hm (by omega)

theorem filter_prime : (List.range 312).filter Nat.Prime = primes := by
  have hsmall : (List.range 312).filter Nat.Prime =
      (List.range 312).filter fun p =>
        2 ≤ p ∧ ∀ m ∈ List.range 19, 2 ≤ m → m < p → ¬ m ∣ p :=
    List.filter_congr fun p hp => decide_eq_decide.mpr
      (prime_iff_of_lt (Nat.lt_trans (List.mem_range.mp hp) (by decide)))
  rw [hsmall]
  decide +kernel

theorem nth_prime {t : Nat} (h : t < primes.length) : Nat.nth Nat.Prime t = primes[t] :=
  nth_eq_getElem filter_prime h

theorem rootFraction_eq {degree n whole : Nat} {word : Word}
    (hbelow : (whole * 2 ^ 32 + word.toNat) ^ degree ≤ n * 2 ^ (32 * degree))
    (habove : n * 2 ^ (32 * degree) < (whole * 2 ^ 32 + word.toNat + 1) ^ degree) :
    rootFraction degree n = word := by
  rw [rootFraction, Nat.nthRoot_eq_of_le_of_lt hbelow habove]
  refine BitVec.eq_of_toNat_eq ?_
  have hword : word.toNat < 2 ^ 32 := word.isLt
  rw [BitVec.toNat_ofNat]
  omega

theorem roots_constants : ∀ entry ∈ primes.zip roundConstants, ∃ whole ∈ List.range 7,
    (whole * 2 ^ 32 + entry.2.toNat) ^ 3 ≤ entry.1 * 2 ^ (32 * 3) ∧
      entry.1 * 2 ^ (32 * 3) < (whole * 2 ^ 32 + entry.2.toNat + 1) ^ 3 := by
  decide +kernel

theorem length_primes : primes.length = 64 := rfl

theorem length_roundConstants : roundConstants.length = 64 := rfl

/-- **The constants** of the rounds are cut out of cube roots of primes. -/
theorem constant_eq {t : Nat} (h : t < roundConstants.length) :
    constant t = roundConstants[t].toBitVec := by
  have hprimes : t < primes.length := by rwa [length_primes, ← length_roundConstants]
  have hzip : t < (primes.zip roundConstants).length := by
    rw [List.length_zip]
    exact Nat.lt_min.mpr ⟨hprimes, h⟩
  obtain ⟨whole, -, hbelow, habove⟩ := roots_constants _ (List.getElem_mem hzip)
  rw [List.getElem_zip] at hbelow habove
  rw [constant, nth_prime hprimes]
  exact rootFraction_eq hbelow habove

/-! ## Hashes -/

/-- The words of a hash as bit vectors. -/
def stateOf (x : Hash) : State :=
  ⟨x.a.toBitVec, x.b.toBitVec, x.c.toBitVec, x.d.toBitVec, x.e.toBitVec, x.f.toBitVec,
    x.g.toBitVec, x.h.toBitVec⟩

/-- The first words are cut out of square roots of primes. -/
theorem stateOf_initial : stateOf .initial = initial := by
  have hword (i whole : Nat) {word : UInt32} (h : i < primes.length)
      (hbelow : (whole * 2 ^ 32 + word.toNat) ^ 2 ≤ primes[i] * 2 ^ 64)
      (habove : primes[i] * 2 ^ 64 < (whole * 2 ^ 32 + word.toNat + 1) ^ 2) :
      word.toBitVec = rootFraction 2 (Nat.nth Nat.Prime i) := by
    rw [nth_prime h]
    exact (rootFraction_eq hbelow habove).symm
  simp only [stateOf, Hash.initial, initial, State.mk.injEq]
  -- with each root its whole part, so that only powers are compared
  refine ⟨hword 0 1 ?_ ?_ ?_, hword 1 1 ?_ ?_ ?_, hword 2 2 ?_ ?_ ?_, hword 3 2 ?_ ?_ ?_,
    hword 4 3 ?_ ?_ ?_, hword 5 3 ?_ ?_ ?_, hword 6 4 ?_ ?_ ?_, hword 7 4 ?_ ?_ ?_⟩
  all_goals decide +kernel

theorem stateOf_add (x y : Hash) : stateOf (x.add y) = (stateOf x).add (stateOf y) := rfl

theorem stateOf_round (x : Hash) (constant word : UInt32) :
    stateOf (round x constant word) = (stateOf x).next constant.toBitVec word.toBitVec := by
  simp only [round, stateOf, State.next, UInt32.toBitVec_add, toBitVec_bigSigma0,
    toBitVec_bigSigma1]
  rfl

/-- The rounds of a block, one after the other. -/
theorem stateOf_rounds {block : Bytes} {words : Nat → Word} (hlength : block.length = 64)
    (hwords : Reads block words) (x : Hash) {n : Nat} (hn : n ≤ 64) :
    stateOf (((roundConstants.zip (Sha256.schedule block).toList).take n).foldl
      (fun y kw => round y kw.1 kw.2) x) = rounds words (stateOf x) n := by
  obtain ⟨hsize, hget⟩ := scheduleTo_spec hlength hwords 48
  rw [← schedule_eq_scheduleTo] at hsize hget
  induction n with
  | zero => rfl
  | succ n ih =>
    -- one more round takes the next constant together with the next word
    have hconstant : n < roundConstants.length := by
      rw [length_roundConstants]
      exact hn
    have hword : n < (Sha256.schedule block).size := by
      rw [hsize]
      omega
    have hget' : (Sha256.schedule block).toList[n] = (Sha256.schedule block).getD n 0 := by
      rw [Array.getElem_toList, Array.getD_eq_getD_getElem?, Array.getElem?_eq_getElem hword,
        Option.getD_some]
    have hzip : n < (roundConstants.zip (Sha256.schedule block).toList).length := by
      rw [List.length_zip]
      exact Nat.lt_min.mpr ⟨hconstant, hword⟩
    rw [List.take_succ_eq_append_getElem hzip, List.foldl_append, List.foldl_cons, List.foldl_nil,
      stateOf_round, ih (Nat.le_of_succ_le hn), List.getElem_zip, hget', hget n (by omega), rounds,
      constant_eq hconstant]

/-- **Blocks** are folded in alike. -/
theorem stateOf_compress {block : Bytes} {words : Nat → Word} (hlength : block.length = 64)
    (hwords : Reads block words) (x : Hash) :
    stateOf (Sha256.compress x block) = compress (stateOf x) words := by
  obtain ⟨hsize, -⟩ := scheduleTo_spec hlength hwords 48
  have hzip : (roundConstants.zip (Sha256.schedule block).toList).length = 64 := by
    rw [List.length_zip, length_roundConstants, Array.length_toList, schedule_eq_scheduleTo, hsize]
    rfl
  have hall := stateOf_rounds hlength hwords x (Nat.le_refl 64)
  rw [List.take_of_length_le (Nat.le_of_eq hzip)] at hall
  rw [Sha256.compress, stateOf_add, hall, compress]

theorem stateOf_absorb {bytes : Bytes} (x : Hash) :
    stateOf (absorb x bytes).1 = (List.range (bytes.length / 64)).foldl
      (fun y i => compress y (blockAt (bitsOfBytes bytes) i)) (stateOf x) := by
  rw [absorb_eq_foldl]
  suffices h : ∀ n ≤ bytes.length / 64, stateOf ((List.range n).foldl
      (fun y i => Sha256.compress y ((bytes.drop (64 * i)).take 64)) x) =
        (List.range n).foldl (fun y i => compress y (blockAt (bitsOfBytes bytes) i))
          (stateOf x) from
    h _ (Nat.le_refl _)
  intro n hn
  induction n with
  | zero => rfl
  | succ n ih =>
    have hlength : ((bytes.drop (64 * n)).take 64).length = 64 := by
      rw [List.length_take, List.length_drop]
      omega
    rw [List.range_succ, List.foldl_append, List.foldl_append, List.foldl_cons, List.foldl_nil,
      List.foldl_cons, List.foldl_nil, ← ih (by omega)]
    refine stateOf_compress hlength (fun t ht => toBitVec_wordsOf_block ?_ ht) _
    rw [length_wordsOf, hlength] at ht
    exact ht

/-! ## Messages -/

theorem zeros_eq (length : Nat) : zeros (8 * length) = 7 + 8 * ((119 - length % 64) % 64) := by
  rw [zeros, Nat.find_eq_iff]
  refine ⟨by omega, fun fewer hfewer => ?_⟩
  omega

/-- **Padding** is the same in bytes. -/
theorem bitsOfBytes_padding (message : Bytes) :
    bitsOfBytes (message ++ padding message.length) = padded (bitsOfBytes message) := by
  have hone : bitsOfBytes [0x80] = true :: List.replicate 7 false := by decide
  have hpadding : padding message.length =
      [0x80] ++ (List.replicate ((119 - message.length % 64) % 64) 0 ++
        bigEndian (8 * message.length)) := rfl
  rw [bitsOfBytes_append, hpadding, bitsOfBytes_append, bitsOfBytes_append, hone,
    bitsOfBytes_replicate, bitsOfBytes_bigEndian, padded, length_bitsOfBytes, zeros_eq,
    ← List.replicate_append_replicate]
  simp only [List.append_assoc, List.cons_append]

/-- **Whole messages** are hashed alike. -/
theorem stateOf_hash (message : Bytes) : stateOf (hash message) = hashOf (bitsOfBytes message) := by
  have hcount : (padded (bitsOfBytes message)).length / 512 =
      (message ++ padding message.length).length / 64 := by
    rw [← bitsOfBytes_padding, length_bitsOfBytes]
    omega
  rw [hash, stateOf_absorb, stateOf_initial, bitsOfBytes_padding, hashOf, hcount]

/-! ## Digits -/

/-- **Digits** write the words, one behind the other. -/
theorem numberOfHex_hex (x : Hash) : numberOfHex x.hex.toList = (stateOf x).number := by
  rw [Hash.hex, String.toList_ofList, numberOfHex_flatMap]
  rfl

/-- Whether a text writes a hash: in sixty-four hexadecimal digits in lower case. -/
structure Writes (s : String) (x : State) : Prop where
  /-- there are as many digits as the words need -/
  length : s.length = 64
  /-- there is nothing but digits in lower case -/
  digits : ∀ c ∈ s.toList, IsDigit c
  /-- they write the words, one behind the other -/
  number : numberOfHex s.toList = x.number

theorem writes_digest (message : Bytes) :
    Writes (digest message) (hashOf (bitsOfBytes message)) where
  length := length_hex _
  digits _ hc := isDigit_of_mem_hex hc
  number := by rw [digest, numberOfHex_hex, stateOf_hash]

end Standard

end Sha256

/-! ## Files -/

namespace Checksum

open Sha256 Standard

/-- **The digest of a file** writes the hash of all that the file holds. A stream that gets the
content in any other parts ends with the same digest. -/
theorem digestOf_exact {fs : FileSystem} {path : Path} {content : Bytes}
    (hholds : fs.Holds path content) :
    ∃ digest, Disk.runOn (digestOf path) fs = (.ok digest, fs) ∧
      Writes digest (hashOf (bitsOfBytes content)) ∧
      ∀ parts : List Bytes, parts.flatten = content →
        (parts.foldl Stream.update .empty).digest = digest := by
  refine ⟨Sha256.digest content, runOn_digestOf hholds, writes_digest content, ?_⟩
  rintro parts rfl
  rw [← Stream.of_nil, Stream.foldl_update, List.nil_append, Stream.digest_of]

/-- A text that is too long for one block with its padding. -/
def twoBlocks : Bytes :=
  Utf8.encode "abcdbcdecdefdefgefghfghighijhijkijkljklmklmnlmnomnopnopq"

/-- A file with this text. -/
def twoBlockFile : FileSystem :=
  (FileSystem.empty []).put ["a.zip"] (.file ⟨twoBlocks, 0o644, 0⟩)

theorem holds_twoBlockFile : twoBlockFile.Holds ⟨.root, ["a.zip"]⟩ twoBlocks := by
  refine ⟨["a.zip"], ⟨twoBlocks, 0o644, 0⟩, by decide, ?_, by decide, rfl⟩
  rw [twoBlockFile, FileSystem.node?_put _ _ _ (by decide)]
  rfl

/-- The digits of its digest, which are published with the hash. -/
theorem digestOf_exact_twoBlocks :
    (Disk.runOn (digestOf ⟨.root, ["a.zip"]⟩) twoBlockFile).1 =
        .ok "248d6a61d20638b8e5c026930c3e6039a33ce45964ff2167f6ecedd419db06c1" ∧
      Writes "248d6a61d20638b8e5c026930c3e6039a33ce45964ff2167f6ecedd419db06c1"
        (hashOf (bitsOfBytes twoBlocks)) := by
  obtain ⟨digest, hrun, hwrites, hparts⟩ := digestOf_exact holds_twoBlockFile
  have hdigest : ([twoBlocks.take 55, [], twoBlocks.drop 55].foldl Stream.update .empty).digest =
      "248d6a61d20638b8e5c026930c3e6039a33ce45964ff2167f6ecedd419db06c1" := by decide +kernel
  rw [hparts _ (by simp)] at hdigest
  rw [hrun, ← hdigest]
  exact ⟨rfl, hwrites⟩

end Checksum

end Shipyard
