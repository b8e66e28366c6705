import Shipyard.Text.Utf8

/-!
# Reading what was written

Decoding undoes encoding, and it reads nothing but what encoding writes (`decode_eq_ok_iff`). The
decoder goes byte by byte, so both are proved for one character first: behind the bytes of a
character it stands between characters again, with the character read, and where it does so the
bytes behind it were those of the character.
-/

namespace Shipyard.Utf8

/-! ## Encoding -/

theorem toList_loop_eq (bs : ByteArray) (i : Nat) (r : List UInt8) :
    ByteArray.toList.loop bs i r = r.reverse ++ bs.data.toList.drop i := by
  fun_induction ByteArray.toList.loop bs i r with
  | case1 i r h ih =>
    have hi : i < bs.data.toList.length := by simpa using h
    have hget : bs.get! i = bs.data.toList[i] := by
      simp [ByteArray.get!, getElem!_pos, h]
    rw [ih, List.reverse_cons, List.append_assoc, hget, List.singleton_append,
      ← List.drop_eq_getElem_cons]
  | case2 i r h =>
    rw [List.drop_eq_nil_of_le (by simpa using h), List.append_nil]

/-- A text is encoded character by character. -/
theorem encode_eq (s : String) : encode s = s.toList.flatMap String.utf8EncodeChar := by
  have hbytes : s.toUTF8 = (s.toList.flatMap String.utf8EncodeChar).toByteArray :=
    (String.utf8Encode_toList (b := s)).symm
  rw [encode, ByteArray.toList, toList_loop_eq, hbytes, List.data_toByteArray]
  rfl

/-! ## Decoding -/

/-- A character of two bytes begins so. -/
theorem ofLead?_two {position : Nat} {b : UInt8} (hlow : 0xC2 ≤ b.toNat) (hhigh : b.toNat ≤ 0xDF) :
    Pending.ofLead? position b = some ⟨position, b, b.toNat - 0xC0, 1, 0x80, 0xBF⟩ := by
  have h : (decide (0xC2 ≤ b) && decide (b ≤ 0xDF)) = true := by
    simp [UInt8.le_iff_toNat_le, hlow, hhigh]
  rw [Pending.ofLead?, if_pos h]

/-- A character of three bytes begins so. -/
theorem ofLead?_three {position : Nat} {b : UInt8} (hlow : 0xE0 ≤ b.toNat)
    (hhigh : b.toNat ≤ 0xEF) :
    Pending.ofLead? position b = some ⟨position, b, b.toNat - 0xE0, 2,
      if b = 0xE0 then 0xA0 else 0x80, if b = 0xED then 0x9F else 0xBF⟩ := by
  have hnot : ¬ (decide (0xC2 ≤ b) && decide (b ≤ 0xDF)) = true := by
    simp [UInt8.le_iff_toNat_le]
    omega
  rw [Pending.ofLead?, if_neg hnot]
  by_cases h₁ : b = 0xE0
  · subst h₁
    rfl
  by_cases h₂ : b = 0xED
  · subst h₂
    rfl
  have hne : b.toNat ≠ 0xE0 := fun h => h₁ (UInt8.toNat_inj.mp h)
  have h : (decide (0xE1 ≤ b) && decide (b ≤ 0xEF)) = true := by
    simp [UInt8.le_iff_toNat_le]
    omega
  simp [h₁, h₂, h]

/-- A character of four bytes begins so. -/
theorem ofLead?_four {position : Nat} {b : UInt8} (hlow : 0xF0 ≤ b.toNat)
    (hhigh : b.toNat ≤ 0xF4) :
    Pending.ofLead? position b = some ⟨position, b, b.toNat - 0xF0, 3,
      if b = 0xF0 then 0x90 else 0x80, if b = 0xF4 then 0x8F else 0xBF⟩ := by
  have hnot : ¬ (decide (0xC2 ≤ b) && decide (b ≤ 0xDF)) = true := by
    simp [UInt8.le_iff_toNat_le]
    omega
  have hnot' : ¬ (decide (0xE1 ≤ b) && decide (b ≤ 0xEF)) = true := by
    simp [UInt8.le_iff_toNat_le]
    omega
  have h₀ : b ≠ 0xE0 := by
    rintro rfl
    exact absurd hlow (by decide)
  have h₀' : b ≠ 0xED := by
    rintro rfl
    exact absurd hlow (by decide)
  rw [Pending.ofLead?, if_neg hnot]
  by_cases h₁ : b = 0xF0
  · subst h₁
    rfl
  by_cases h₂ : b = 0xF4
  · subst h₂
    rfl
  have hne : b.toNat ≠ 0xF0 := fun h => h₁ (UInt8.toNat_inj.mp h)
  have hne' : b.toNat ≠ 0xF4 := fun h => h₂ (UInt8.toNat_inj.mp h)
  have h : (decide (0xF1 ≤ b) && decide (b ≤ 0xF3)) = true := by
    simp [UInt8.le_iff_toNat_le]
    omega
  simp [h₀, h₀', h₁, h₂, h, hnot']

theorem decodeFrom_lead {done : List Char} {position : Nat} {p : Pending} {b : UInt8} {rest : Bytes}
    (hascii : 0x80 ≤ b.toNat) (hlead : Pending.ofLead? position b = some p) :
    decodeFrom done position none (b :: rest) = decodeFrom done (position + 1) (some p) rest := by
  have hnot : ¬ b < 0x80 := by
    simp [UInt8.lt_iff_toNat_lt]
    omega
  rw [decodeFrom, if_neg hnot, hlead]

/-- A byte within the bounds continues a character. -/
theorem decodeFrom_continue {done : List Char} {position : Nat} {p : Pending} {b : UInt8}
    {rest : Bytes} (hlow : p.low.toNat ≤ b.toNat) (hhigh : b.toNat ≤ p.high.toNat)
    (howed : 1 < p.owed) :
    decodeFrom done position (some p) (b :: rest) =
      decodeFrom done (position + 1)
        (some ⟨p.first, p.lead, p.bits * 64 + (b.toNat - 0x80), p.owed - 1, 0x80, 0xBF⟩) rest := by
  have h : (decide (p.low ≤ b) && decide (b ≤ p.high)) = true := by
    simp [UInt8.le_iff_toNat_le, hlow, hhigh]
  rw [decodeFrom]
  simp only [h, if_true, Nat.not_le.mpr howed, if_false]

/-- The last byte completes it. -/
theorem decodeFrom_complete {done : List Char} {position : Nat} {p : Pending} {b : UInt8}
    {rest : Bytes} (hlow : p.low.toNat ≤ b.toNat) (hhigh : b.toNat ≤ p.high.toNat)
    (howed : p.owed ≤ 1) {c : Char} (hc : p.bits * 64 + (b.toNat - 0x80) = c.toNat) :
    decodeFrom done position (some p) (b :: rest) =
      decodeFrom (c :: done) (position + 1) none rest := by
  have h : (decide (p.low ≤ b) && decide (b ≤ p.high)) = true := by
    simp [UInt8.le_iff_toNat_le, hlow, hhigh]
  rw [decodeFrom]
  simp only [h, if_true, howed]
  rw [hc, Char.ofNat_toNat]

section Character

/-- The number of a byte that is made of one. -/
theorem byte_toNat {n : Nat} (h : n < 256) : (UInt8.ofNat n).toNat = n :=
  UInt8.toNat_ofNat_of_lt' h

variable (done : List Char) (position : Nat) {c : Char} (rest : Bytes)

theorem decodeFrom_oneByte (h : c.toNat ≤ 127) :
    decodeFrom done position none (String.utf8EncodeChar c ++ rest) =
      decodeFrom (c :: done) (position + 1) none rest := by
  have hv : c.val.toNat = c.toNat := rfl
  have hb : (UInt8.ofNat c.toNat).toNat = c.toNat := byte_toNat (by omega)
  have hascii : UInt8.ofNat c.toNat < 0x80 := by
    rw [UInt8.lt_iff_toNat_lt, hb]
    exact Nat.lt_succ_of_le h
  unfold String.utf8EncodeChar
  simp only [hv]
  rw [if_pos h, List.singleton_append, decodeFrom, if_pos hascii, hb, Char.ofNat_toNat]

theorem decodeFrom_twoBytes (hlow : 127 < c.toNat) (hhigh : c.toNat ≤ 2047) :
    decodeFrom done position none (String.utf8EncodeChar c ++ rest) =
      decodeFrom (c :: done) (position + 2) none rest := by
  have hv : c.val.toNat = c.toNat := rfl
  have hb₁ := byte_toNat (n := c.toNat / 64 % 32 + 192) (by omega)
  have hb₂ := byte_toNat (n := c.toNat % 64 + 128) (by omega)
  unfold String.utf8EncodeChar
  simp only [hv]
  rw [if_neg (Nat.not_le.mpr hlow), if_pos hhigh, List.cons_append, List.singleton_append,
    decodeFrom_lead (by rw [hb₁]; omega) (ofLead?_two (by rw [hb₁]; omega) (by rw [hb₁]; omega))]
  refine decodeFrom_complete ?_ ?_ (Nat.le_refl 1) ?_
  all_goals simp only [hb₁, hb₂]
  · show 128 ≤ _
    omega
  · show _ ≤ 191
    omega
  · omega

theorem decodeFrom_threeBytes (hlow : 2047 < c.toNat) (hhigh : c.toNat ≤ 65535) :
    decodeFrom done position none (String.utf8EncodeChar c ++ rest) =
      decodeFrom (c :: done) (position + 3) none rest := by
  have hvalid : c.toNat < 0xD800 ∨ 0xDFFF < c.toNat ∧ c.toNat < 0x110000 := c.valid
  have hv : c.val.toNat = c.toNat := rfl
  have hb₁ := byte_toNat (n := c.toNat / 4096 % 16 + 224) (by omega)
  have hb₂ := byte_toNat (n := c.toNat / 64 % 64 + 128) (by omega)
  have hb₃ := byte_toNat (n := c.toNat % 64 + 128) (by omega)
  unfold String.utf8EncodeChar
  simp only [hv]
  rw [if_neg (by omega), if_neg (Nat.not_le.mpr hlow), if_pos hhigh, List.cons_append,
    List.cons_append, List.singleton_append, decodeFrom_lead (by rw [hb₁]; omega)
      (ofLead?_three (by rw [hb₁]; omega) (by rw [hb₁]; omega)),
    decodeFrom_continue ?low ?high (Nat.lt_succ_self 1)]
  refine decodeFrom_complete ?_ ?_ (Nat.le_refl 1) ?_
  all_goals simp only [← UInt8.toNat_inj, apply_ite UInt8.toNat, hb₁, hb₂, hb₃]
  -- The bounds keep out what has a shorter form, and the surrogates.
  case low =>
    show (if _ = 224 then 160 else 128) ≤ _
    split <;> omega
  case high =>
    show _ ≤ (if _ = 237 then 159 else 191)
    split <;> omega
  · show 128 ≤ _
    omega
  · show _ ≤ 191
    omega
  · omega

theorem decodeFrom_fourBytes (hlow : 65535 < c.toNat) :
    decodeFrom done position none (String.utf8EncodeChar c ++ rest) =
      decodeFrom (c :: done) (position + 4) none rest := by
  have hvalid : c.toNat < 0xD800 ∨ 0xDFFF < c.toNat ∧ c.toNat < 0x110000 := c.valid
  have hv : c.val.toNat = c.toNat := rfl
  have hb₁ := byte_toNat (n := c.toNat / 262144 % 8 + 240) (by omega)
  have hb₂ := byte_toNat (n := c.toNat / 4096 % 64 + 128) (by omega)
  have hb₃ := byte_toNat (n := c.toNat / 64 % 64 + 128) (by omega)
  have hb₄ := byte_toNat (n := c.toNat % 64 + 128) (by omega)
  unfold String.utf8EncodeChar
  simp only [hv]
  rw [if_neg (by omega), if_neg (by omega), if_neg (Nat.not_le.mpr hlow), List.cons_append,
    List.cons_append, List.cons_append, List.singleton_append, decodeFrom_lead (by rw [hb₁]; omega)
      (ofLead?_four (by rw [hb₁]; omega) (by rw [hb₁]; omega)),
    decodeFrom_continue ?low ?high (by decide : 1 < 3),
    decodeFrom_continue ?low' ?high' (Nat.lt_succ_self 1)]
  refine decodeFrom_complete ?_ ?_ (Nat.le_refl 1) ?_
  all_goals simp only [← UInt8.toNat_inj, apply_ite UInt8.toNat, hb₁, hb₂, hb₃, hb₄]
  -- The bounds keep out what has a shorter form, and what lies beyond the last character.
  case low =>
    show (if _ = 240 then 144 else 128) ≤ _
    split <;> omega
  case high =>
    show _ ≤ (if _ = 244 then 143 else 191)
    split <;> omega
  case low' =>
    show 128 ≤ _
    omega
  case high' =>
    show _ ≤ 191
    omega
  · show 128 ≤ _
    omega
  · show _ ≤ 191
    omega
  · omega

/-- **One character.** -/
theorem decodeFrom_utf8EncodeChar (c : Char) :
    ∃ position', decodeFrom done position none (String.utf8EncodeChar c ++ rest) =
      decodeFrom (c :: done) position' none rest := by
  by_cases h₁ : c.toNat ≤ 127
  · exact ⟨_, decodeFrom_oneByte done position rest h₁⟩
  by_cases h₂ : c.toNat ≤ 2047
  · exact ⟨_, decodeFrom_twoBytes done position rest (Nat.lt_of_not_le h₁) h₂⟩
  by_cases h₃ : c.toNat ≤ 65535
  · exact ⟨_, decodeFrom_threeBytes done position rest (Nat.lt_of_not_le h₂) h₃⟩
  · exact ⟨_, decodeFrom_fourBytes done position rest (Nat.lt_of_not_le h₃)⟩

end Character

theorem decodeFrom_flatMap (done cs : List Char) (position : Nat) :
    decodeFrom done position none (cs.flatMap String.utf8EncodeChar) =
      .ok (done.reverse ++ cs) := by
  induction cs generalizing done position with
  | nil => rw [List.flatMap_nil, List.append_nil, decodeFrom]
  | cons c cs ih =>
    obtain ⟨position', hchar⟩ :=
      decodeFrom_utf8EncodeChar done position (cs.flatMap String.utf8EncodeChar) c
    rw [List.flatMap_cons, hchar, ih]
    simp

/-- **Decoding undoes encoding.** -/
@[simp] theorem decode_encode (s : String) : decode (encode s) = .ok s := by
  rw [decode, encode_eq, decodeFrom_flatMap]
  simp [Except.map]

/-- Different texts are written differently. -/
theorem encode_injective {s t : String} (h : encode s = encode t) : s = t := by
  have hdecode : decode (encode s) = .ok t := by rw [h, decode_encode]
  exact Except.ok.inj ((decode_encode s).symm.trans hdecode)

/-! ## Reading only what is written -/

theorem val_ofNat {n : Nat} (h : n.isValidChar) : (Char.ofNat n).val.toNat = n := by
  rw [Char.ofNat, dif_pos h]
  rfl

/-- The bytes that begin a character of more than one byte. -/
theorem of_ofLead? {position : Nat} {b : UInt8} {p : Pending}
    (h : Pending.ofLead? position b = some p) :
    (0xC2 ≤ b.toNat ∧ b.toNat ≤ 0xDF) ∨ (0xE0 ≤ b.toNat ∧ b.toNat ≤ 0xEF) ∨
      (0xF0 ≤ b.toNat ∧ b.toNat ≤ 0xF4) := by
  unfold Pending.ofLead? at h
  simp only [UInt8.le_iff_toNat_le, ← UInt8.toNat_inj, beq_iff_eq, Bool.and_eq_true,
    decide_eq_true_eq] at h
  repeat' split at h
  all_goals simp_all
  all_goals omega

/-- A pending character that is read to its end: its next byte, and what it is then. -/
theorem decodeFrom_pending_eq_ok {done : List Char} {position : Nat} {p : Pending} {bytes : Bytes}
    {cs : List Char} (h : decodeFrom done position (some p) bytes = .ok cs) :
    ∃ b rest, bytes = b :: rest ∧ p.low.toNat ≤ b.toNat ∧ b.toNat ≤ p.high.toNat ∧
      (p.owed ≤ 1 → decodeFrom (Char.ofNat (p.bits * 64 + (b.toNat - 0x80)) :: done) (position + 1)
        none rest = .ok cs) ∧
      (1 < p.owed → decodeFrom done (position + 1)
        (some ⟨p.first, p.lead, p.bits * 64 + (b.toNat - 0x80), p.owed - 1, 0x80, 0xBF⟩) rest =
          .ok cs) := by
  rcases bytes with _ | ⟨b, rest⟩
  · rw [decodeFrom] at h
    cases h
  rw [decodeFrom] at h
  split at h
  · next hrange =>
    simp only [Bool.and_eq_true, decide_eq_true_eq, UInt8.le_iff_toNat_le] at hrange
    refine ⟨b, rest, rfl, hrange.1, hrange.2, fun howed => ?_, fun howed => ?_⟩
    · rwa [if_pos howed] at h
    · rwa [if_neg (Nat.not_le.mpr howed)] at h
  · cases h

/-- A byte is known by its number. -/
theorem ofNat_eq {n : Nat} {b : UInt8} (h : n = b.toNat) : UInt8.ofNat n = b := by
  rw [h, UInt8.ofNat_toNat]

theorem utf8EncodeChar_two {b₁ b₂ : UInt8} (h₁ : 0xC2 ≤ b₁.toNat ∧ b₁.toNat ≤ 0xDF)
    (h₂ : 0x80 ≤ b₂.toNat ∧ b₂.toNat ≤ 0xBF) :
    String.utf8EncodeChar (Char.ofNat ((b₁.toNat - 0xC0) * 64 + (b₂.toNat - 0x80))) = [b₁, b₂] := by
  unfold String.utf8EncodeChar
  simp only [val_ofNat (n := (b₁.toNat - 0xC0) * 64 + (b₂.toNat - 0x80)) (.inl (by omega))]
  rw [if_neg (by omega), if_pos (by omega), ofNat_eq (b := b₁) (by omega),
    ofNat_eq (b := b₂) (by omega)]

theorem utf8EncodeChar_three {b₁ b₂ b₃ : UInt8} (h₁ : 0xE0 ≤ b₁.toNat ∧ b₁.toNat ≤ 0xEF)
    (hlow : (if b₁ = 0xE0 then 0xA0 else 0x80 : UInt8).toNat ≤ b₂.toNat)
    (hhigh : b₂.toNat ≤ (if b₁ = 0xED then 0x9F else 0xBF : UInt8).toNat)
    (h₃ : 0x80 ≤ b₃.toNat ∧ b₃.toNat ≤ 0xBF) :
    String.utf8EncodeChar (Char.ofNat
      (((b₁.toNat - 0xE0) * 64 + (b₂.toNat - 0x80)) * 64 + (b₃.toNat - 0x80))) = [b₁, b₂, b₃] := by
  simp only [← UInt8.toNat_inj, apply_ite UInt8.toNat] at hlow hhigh
  change (if b₁.toNat = 224 then 160 else 128) ≤ b₂.toNat at hlow
  change b₂.toNat ≤ (if b₁.toNat = 237 then 159 else 191) at hhigh
  have h₂ : 0x80 ≤ b₂.toNat ∧ b₂.toNat ≤ 0xBF :=
    ⟨by split at hlow <;> omega, by split at hhigh <;> omega⟩
  generalize hn : ((b₁.toNat - 0xE0) * 64 + (b₂.toNat - 0x80)) * 64 + (b₃.toNat - 0x80) = n
  -- The bounds of the second byte keep out what has a shorter form, and the surrogates.
  have hlong : 0x7FF < n := by split at hlow <;> omega
  have hvalid : n.isValidChar := by
    show n < 55296 ∨ 57343 < n ∧ n < 1114112
    split at hhigh <;> omega
  unfold String.utf8EncodeChar
  simp only [val_ofNat hvalid]
  rw [if_neg (by omega), if_neg (by omega), if_pos (by omega), ofNat_eq (b := b₁) (by omega),
    ofNat_eq (b := b₂) (by omega), ofNat_eq (b := b₃) (by omega)]

theorem utf8EncodeChar_four {b₁ b₂ b₃ b₄ : UInt8} (h₁ : 0xF0 ≤ b₁.toNat ∧ b₁.toNat ≤ 0xF4)
    (hlow : (if b₁ = 0xF0 then 0x90 else 0x80 : UInt8).toNat ≤ b₂.toNat)
    (hhigh : b₂.toNat ≤ (if b₁ = 0xF4 then 0x8F else 0xBF : UInt8).toNat)
    (h₃ : 0x80 ≤ b₃.toNat ∧ b₃.toNat ≤ 0xBF) (h₄ : 0x80 ≤ b₄.toNat ∧ b₄.toNat ≤ 0xBF) :
    String.utf8EncodeChar (Char.ofNat
      ((((b₁.toNat - 0xF0) * 64 + (b₂.toNat - 0x80)) * 64 + (b₃.toNat - 0x80)) * 64 +
        (b₄.toNat - 0x80))) = [b₁, b₂, b₃, b₄] := by
  simp only [← UInt8.toNat_inj, apply_ite UInt8.toNat] at hlow hhigh
  change (if b₁.toNat = 240 then 144 else 128) ≤ b₂.toNat at hlow
  change b₂.toNat ≤ (if b₁.toNat = 244 then 143 else 191) at hhigh
  have h₂ : 0x80 ≤ b₂.toNat ∧ b₂.toNat ≤ 0xBF :=
    ⟨by split at hlow <;> omega, by split at hhigh <;> omega⟩
  generalize hn : (((b₁.toNat - 0xF0) * 64 + (b₂.toNat - 0x80)) * 64 + (b₃.toNat - 0x80)) * 64 +
    (b₄.toNat - 0x80) = n
  -- And what lies beyond the last character.
  have hlong : 0xFFFF < n := by split at hlow <;> omega
  have hvalid : n.isValidChar := by
    show n < 55296 ∨ 57343 < n ∧ n < 1114112
    split at hhigh <;> omega
  unfold String.utf8EncodeChar
  simp only [val_ofNat hvalid]
  rw [if_neg (by omega), if_neg (by omega), if_neg (by omega), ofNat_eq (b := b₁) (by omega),
    ofNat_eq (b := b₂) (by omega), ofNat_eq (b := b₃) (by omega), ofNat_eq (b := b₄) (by omega)]

/-- **What is read of one character is what is written for it.** -/
theorem utf8EncodeChar_of_decodeFrom {done : List Char} {position : Nat} {b : UInt8} {bytes : Bytes}
    {cs : List Char} (h : decodeFrom done position none (b :: bytes) = .ok cs) :
    ∃ c rest position', b :: bytes = String.utf8EncodeChar c ++ rest ∧
      decodeFrom (c :: done) position' none rest = .ok cs := by
  rw [decodeFrom] at h
  split at h
  · next hascii =>
    rw [UInt8.lt_iff_toNat_lt] at hascii
    refine ⟨_, bytes, _, ?_, h⟩
    unfold String.utf8EncodeChar
    simp only [val_ofNat (n := b.toNat) (.inl (Nat.lt_trans hascii (by decide)))]
    rw [if_pos (Nat.le_of_lt_succ hascii), UInt8.ofNat_toNat, List.singleton_append]
  split at h
  case h_2 => cases h
  next p hlead =>
  -- the first byte says how many there are, and each of the others is within a range of its own
  rcases of_ofLead? hlead with hb | hb | hb
  · rw [ofLead?_two hb.1 hb.2] at hlead
    cases hlead
    obtain ⟨b₂, rest, rfl, hlow, hhigh, hlast, -⟩ := decodeFrom_pending_eq_ok h
    refine ⟨_, rest, _, ?_, hlast (Nat.le_refl 1)⟩
    rw [utf8EncodeChar_two hb ⟨hlow, hhigh⟩]
    rfl
  · rw [ofLead?_three hb.1 hb.2] at hlead
    cases hlead
    obtain ⟨b₂, rest, rfl, hlow, hhigh, -, hmore⟩ := decodeFrom_pending_eq_ok h
    obtain ⟨b₃, rest, rfl, hlow₃, hhigh₃, hlast, -⟩ :=
      decodeFrom_pending_eq_ok (hmore (Nat.lt_succ_self 1))
    refine ⟨_, rest, _, ?_, hlast (Nat.le_refl 1)⟩
    rw [utf8EncodeChar_three hb hlow hhigh ⟨hlow₃, hhigh₃⟩]
    rfl
  · rw [ofLead?_four hb.1 hb.2] at hlead
    cases hlead
    obtain ⟨b₂, rest, rfl, hlow, hhigh, -, hmore⟩ := decodeFrom_pending_eq_ok h
    obtain ⟨b₃, rest, rfl, hlow₃, hhigh₃, -, hmore⟩ :=
      decodeFrom_pending_eq_ok (hmore (by decide : 1 < 3))
    obtain ⟨b₄, rest, rfl, hlow₄, hhigh₄, hlast, -⟩ :=
      decodeFrom_pending_eq_ok (hmore (Nat.lt_succ_self 1))
    refine ⟨_, rest, _, ?_, hlast (Nat.le_refl 1)⟩
    rw [utf8EncodeChar_four hb hlow hhigh ⟨hlow₃, hhigh₃⟩ ⟨hlow₄, hhigh₄⟩]
    rfl

/-- The characters that are read are those whose bytes were there. -/
theorem flatMap_of_decodeFrom {done : List Char} {position : Nat} {bytes : Bytes} {cs : List Char}
    (h : decodeFrom done position none bytes = .ok cs) :
    ∃ tail, bytes = tail.flatMap String.utf8EncodeChar ∧ cs = done.reverse ++ tail := by
  induction hlength : bytes.length using Nat.strongRecOn generalizing done position bytes with
  | ind n ih =>
    subst hlength
    rcases bytes with _ | ⟨b, bytes⟩
    · rw [decodeFrom] at h
      exact ⟨[], rfl, by rw [List.append_nil, Except.ok.inj h]⟩
    · obtain ⟨c, rest, position', hbytes, hrest⟩ := utf8EncodeChar_of_decodeFrom h
      have hshorter : rest.length < (b :: bytes).length := by
        rw [hbytes, List.length_append, String.length_utf8EncodeChar]
        exact Nat.lt_add_of_pos_left c.utf8Size_pos
      obtain ⟨tail, hrest', hcs⟩ := ih _ hshorter hrest rfl
      refine ⟨c :: tail, ?_, ?_⟩
      · rw [hbytes, hrest', List.flatMap_cons]
      · rw [hcs, List.reverse_cons, List.append_assoc, List.singleton_append]

/-- **Only what a text is written as is read as this text.** -/
theorem decode_eq_ok_iff {bytes : Bytes} {s : String} :
    decode bytes = .ok s ↔ bytes = encode s := by
  constructor
  · intro h
    rw [decode] at h
    rcases hfrom : decodeFrom [] 0 none bytes with fault | cs
    · rw [hfrom] at h
      cases h
    · rw [hfrom] at h
      obtain ⟨tail, hbytes, hcs⟩ := flatMap_of_decodeFrom hfrom
      obtain rfl : String.ofList cs = s := Except.ok.inj h
      rw [encode_eq, String.toList_ofList, hcs, hbytes]
      rfl
  · rintro rfl
    exact decode_encode s

end Shipyard.Utf8
