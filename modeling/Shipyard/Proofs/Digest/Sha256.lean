import Mathlib.Data.Nat.Digits.Defs
import Shipyard.Asset.Checksum
import Shipyard.Proofs.FileSystem.Content

/-!
# Digests

Bytes can be absorbed one part after the other, if the bytes that fill no block yet are kept. So the
digest of a file does not depend on how the file is cut while it is read, and it is a digest in the
sense of a sidecar. Its digits are a numeral of its words (`numberOfHex_flatMap`).
-/

namespace Shipyard

namespace Sha256

/-! ## Absorbing in parts -/

theorem absorb_of_lt {x : Hash} {bytes : Bytes} (h : bytes.length < blockSize) :
    absorb x bytes = (x, bytes) := by
  rw [absorb, dif_pos (by rw [List.length_take]; omega)]

theorem absorb_of_le {x : Hash} {bytes : Bytes} (h : blockSize ≤ bytes.length) :
    absorb x bytes = absorb (compress x (bytes.take blockSize)) (bytes.drop blockSize) := by
  rw [absorb, dif_neg (by rw [List.length_take]; omega)]

/-- **Parts.** What a first part leaves over is absorbed together with the second part. -/
theorem absorb_append (x : Hash) (front rest : Bytes) :
    absorb x (front ++ rest) = absorb (absorb x front).1 ((absorb x front).2 ++ rest) := by
  by_cases h : blockSize ≤ front.length
  · rw [absorb_of_le (by rw [List.length_append]; omega), absorb_of_le h,
      List.take_append_of_le_length h, List.drop_append_of_le_length h]
    exact absorb_append _ _ rest
  · rw [absorb_of_lt (Nat.lt_of_not_le h)]
termination_by front.length
decreasing_by
  simp only [List.length_drop, blockSize] at h ⊢
  omega

/-- Absorbing folds in one full block after the other. -/
theorem absorb_eq_foldl (x : Hash) (bytes : Bytes) :
    (absorb x bytes).1 = (List.range (bytes.length / 64)).foldl
      (fun y i => compress y ((bytes.drop (64 * i)).take 64)) x := by
  by_cases h : blockSize ≤ bytes.length
  · have hcount : bytes.length / 64 = (bytes.drop blockSize).length / 64 + 1 := by
      rw [List.length_drop]
      simp only [blockSize] at h ⊢
      omega
    rw [absorb_of_le h, absorb_eq_foldl _ (bytes.drop blockSize), hcount, List.range_succ_eq_map,
      List.foldl_cons, List.foldl_map]
    simp only [List.drop_drop, blockSize, Nat.mul_zero, List.drop_zero, Nat.mul_succ, Nat.add_comm]
  · have hcount : bytes.length / 64 = 0 := Nat.div_eq_of_lt (Nat.lt_of_not_le h)
    rw [absorb_of_lt (Nat.lt_of_not_le h), hcount]
    rfl
termination_by bytes.length
decreasing_by
  simp only [List.length_drop, blockSize] at h ⊢
  omega

/-! ## Streams -/

/-- The stream behind a whole text. -/
def Stream.of (arrived : Bytes) : Stream :=
  ⟨(absorb .initial arrived).1, (absorb .initial arrived).2, arrived.length⟩

theorem Stream.of_nil : Stream.of [] = .empty := by
  rw [of, absorb_of_lt (by decide : [].length < blockSize)]
  rfl

/-- A stream is determined by all that has arrived. -/
theorem Stream.update_of (arrived chunk : Bytes) :
    (Stream.of arrived).update chunk = Stream.of (arrived ++ chunk) := by
  simp only [update, of, ← absorb_append, List.length_append]

theorem Stream.digest_of (arrived : Bytes) : (Stream.of arrived).digest = Sha256.digest arrived := by
  simp only [digest, of, Sha256.digest, Sha256.hash, ← absorb_append]

theorem Stream.foldl_update (arrived : Bytes) (parts : List Bytes) :
    parts.foldl update (of arrived) = of (arrived ++ parts.flatten) := by
  induction parts generalizing arrived with
  | nil => rw [List.foldl_nil, List.flatten_nil, List.append_nil]
  | cons part rest ih =>
    rw [List.foldl_cons, update_of, ih, List.flatten_cons, List.append_assoc]

theorem flatten_chunks {size : Nat} (hsize : size ≠ 0) (bytes : Bytes) :
    (chunks size bytes).flatten = bytes := by
  fun_induction chunks size bytes with
  | case1 bytes h => exact (h.resolve_left hsize) ▸ rfl
  | case2 bytes h ih => rw [List.flatten_cons, ih, List.take_append_drop]

/-- **Chunks do not matter.** -/
theorem digestInChunks_eq (content : Bytes) : digestInChunks content = digest content := by
  rw [digestInChunks, ← Stream.of_nil, Stream.foldl_update, List.nil_append,
    flatten_chunks (by decide), Stream.digest_of]

/-! ## Digits -/

/-- Whether a character is a hexadecimal digit in lower case. -/
def IsDigit (c : Char) : Prop := '0' ≤ c ∧ c ≤ '9' ∨ 'a' ≤ c ∧ c ≤ 'f'

instance : DecidablePred IsDigit := fun _ => inferInstanceAs (Decidable (_ ∨ _))

theorem isDigit_hexDigit {n : Nat} (h : n < 16) : IsDigit (Text.hexDigit n) := by
  revert n
  decide

theorem length_hexPadded (width n : Nat) : (Text.hexPadded width n).length = width := by
  induction width generalizing n with
  | zero => rfl
  | succ width ih => rw [Text.hexPadded, List.length_append, ih, List.length_singleton]

theorem isDigit_of_mem_hexPadded {width n : Nat} {c : Char} (h : c ∈ Text.hexPadded width n) :
    IsDigit c := by
  induction width generalizing n with
  | zero => exact absurd h List.not_mem_nil
  | succ width ih =>
    rw [Text.hexPadded, List.mem_append, List.mem_singleton] at h
    rcases h with h | rfl
    · exact ih h
    · exact isDigit_hexDigit (Nat.mod_lt _ (by decide))

theorem length_hex (x : Hash) : x.hex.length = 64 := by
  simp [Hash.hex, Hash.toList, length_hexPadded]

theorem isDigit_of_mem_hex {x : Hash} {c : Char} (h : c ∈ x.hex.toList) : IsDigit c := by
  rw [Hash.hex, String.toList_ofList, List.mem_flatMap] at h
  obtain ⟨word, -, hc⟩ := h
  exact isDigit_of_mem_hexPadded hc

/-! ## Numerals -/

/-- The number that digits write in a base, the highest first. -/
def numeral (base : Nat) (digits : List Nat) : Nat := Nat.ofDigits base digits.reverse

theorem numeral_append (base : Nat) (front rest : List Nat) :
    numeral base (front ++ rest) = numeral base front * base ^ rest.length + numeral base rest := by
  rw [numeral, List.reverse_append, Nat.ofDigits_append, List.length_reverse, Nat.add_comm,
    Nat.mul_comm]
  rfl

theorem numeral_singleton (base digit : Nat) : numeral base [digit] = digit :=
  Nat.ofDigits_singleton

/-- The number that hexadecimal digits write. -/
def numberOfHex (cs : List Char) : Nat := numeral 16 (cs.map fun c => (Text.hexValue? c).getD 0)

theorem numberOfHex_append (front rest : List Char) :
    numberOfHex (front ++ rest) = numberOfHex front * 16 ^ rest.length + numberOfHex rest := by
  rw [numberOfHex, List.map_append, numeral_append, List.length_map]
  rfl

theorem numberOfHex_hexDigit {n : Nat} (h : n < 16) : numberOfHex [Text.hexDigit n] = n := by
  have hvalue : Text.hexValue? (Text.hexDigit n) = some n := by
    revert n
    decide
  rw [numberOfHex, List.map_singleton, numeral_singleton, hvalue, Option.getD_some]

/-- Padded digits write a number, without what is above them. -/
theorem numberOfHex_hexPadded (width n : Nat) :
    numberOfHex (Text.hexPadded width n) = n % 16 ^ width := by
  induction width generalizing n with
  | zero => exact (Nat.mod_one n).symm
  | succ width ih =>
    have hsplit : n % (16 * 16 ^ width) = n % 16 + 16 * (n / 16 % 16 ^ width) := Nat.mod_mul
    rw [Text.hexPadded, numberOfHex_append, ih, numberOfHex_hexDigit (Nat.mod_lt n (by decide)),
      List.length_singleton, Nat.pow_one, Nat.pow_succ', hsplit]
    omega

/-- The digits of words write the words, one behind the other. -/
theorem numberOfHex_flatMap (words : List UInt32) :
    numberOfHex (words.flatMap fun word => Text.hexPadded 8 word.toNat) =
      numeral (2 ^ 32) (words.map UInt32.toNat) := by
  induction words with
  | nil => rfl
  | cons word words ih =>
    have hlength : (words.flatMap fun word => Text.hexPadded 8 word.toNat).length =
        8 * words.length := by
      simp only [List.length_flatMap, length_hexPadded, List.map_const', List.sum_replicate_nat,
        Nat.mul_comm]
    have hbase : (16 : Nat) ^ (8 * words.length) = (2 ^ 32) ^ words.length := Nat.pow_mul 16 8 _
    have hword : word.toNat % 16 ^ 8 = word.toNat := Nat.mod_eq_of_lt word.toNat_lt
    rw [List.flatMap_cons, numberOfHex_append, ih, numberOfHex_hexPadded, hword, hlength, hbase,
      List.map_cons, ← List.singleton_append, numeral_append, numeral_singleton, List.length_map]

end Sha256

open Sha256

/-- **A digest is one.** -/
theorem Checksum.isDigest_digest (content : Bytes) : isDigest (Sha256.digest content) = true := by
  simp only [isDigest, Sha256.digest, length_hex, decide_true, Bool.true_and, List.all_eq_true,
    Bool.or_eq_true, Bool.and_eq_true, decide_eq_true_eq]
  exact fun c hc => isDigit_of_mem_hex hc

/-- The digest of a file is that of all that it holds. -/
theorem Checksum.runOn_digestOf {fs : FileSystem} {path : Path} {content : Bytes}
    (hholds : fs.Holds path content) :
    Disk.runOn (digestOf path) fs = (.ok (Sha256.digest content), fs) := by
  rw [digestOf, Disk.runOn_bind_ok (Disk.runOn_readBytes_of_holds hholds), digestInChunks_eq]
  rfl

end Shipyard
