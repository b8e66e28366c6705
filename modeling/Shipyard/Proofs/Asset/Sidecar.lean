import Shipyard.Proofs.Digest.Sha256
import Shipyard.Proofs.Text.Case

/-!
# What a sidecar says

A bare sidecar is always read back. A named one is cut at its blanks, so it is read back if the name
of the archive is one word; otherwise it is taken for malformed.

The reader of sidecars cuts a text at its blanks and lowers the first word. `Records` is the format
without a reader: digits between blanks, and behind them the name of the archive or nothing. The two
agree on every text (`ofSidecarText?_eq_some_iff`). Behind this is a fact about the case mappings of
Unicode: no character but a digit or a letter of ASCII has a hexadecimal digit as its lower-case
form.
-/

namespace Shipyard.Checksum

open Text

variable {archiveName : String}

/-! ## Digests in texts -/

theorem isBlank_eq_false_of_isDigit {c : Char} (h : Sha256.IsDigit c) : isBlank c = false := by
  have hcode : (48 ≤ c.toNat ∧ c.toNat ≤ 57) ∨ (97 ≤ c.toNat ∧ c.toNat ≤ 102) := h
  exact isBlank_eq_false_of_printable (by omega) (by omega)

theorem toLower_of_isDigit {c : Char} (h : Sha256.IsDigit c) : c.toNat < 128 ∧ c.toLower = c := by
  have hcode : (48 ≤ c.toNat ∧ c.toNat ≤ 57) ∨ (97 ≤ c.toNat ∧ c.toNat ≤ 102) := h
  exact ⟨by omega, toLower_of_not_capital (by omega)⟩

theorem not_isBlank_digest (content : Bytes) :
    ∀ c ∈ (Sha256.digest content).toList, isBlank c = false :=
  fun _ hc => isBlank_eq_false_of_isDigit (Sha256.isDigit_of_mem_hex hc)

theorem return_not_mem_digest (content : Bytes) : '\r' ∉ (Sha256.digest content).toList := fun h =>
  absurd (not_isBlank_digest content _ h) (by decide)

theorem digest_ne_empty (content : Bytes) : Sha256.digest content ≠ "" := fun h =>
  absurd (congrArg String.length h) (by rw [Sha256.digest, Sha256.length_hex]; decide)

@[simp] theorem lower_digest (content : Bytes) :
    lower (Sha256.digest content) = Sha256.digest content :=
  lower_of_forall fun _ hc => toLower_of_isDigit (Sha256.isDigit_of_mem_hex hc)

/-! ## Words of sidecars -/

/-- The words of a text that begins with a digest and a blank. -/
theorem words_unixLines_digest (content : Bytes) {c : Char} (hblank : isBlank c = true)
    (hreturn : c ≠ '\r') (rest : List Char) :
    words (unixLines (String.ofList ((Sha256.digest content).toList ++ c :: rest))) =
      Sha256.digest content :: words (unixLines (String.ofList rest)) := by
  have hsplit : (Sha256.digest content).toList ++ c :: rest =
      ((Sha256.digest content).toList ++ [c]) ++ rest := by simp
  have hmem : '\r' ∉ (Sha256.digest content).toList ++ [c] := by
    rw [List.mem_append, List.mem_singleton]
    exact not_or.mpr ⟨return_not_mem_digest content, Ne.symm hreturn⟩
  rw [hsplit, unixLines_append hmem, List.append_assoc, List.singleton_append,
    words_append_cons (not_isBlank_digest content) (digest_ne_empty content) hblank,
    String.ofList_toList]

theorem words_unixLines_bare (content : Bytes) :
    words (unixLines (render ⟨Sha256.digest content, archiveName⟩ .bare)) =
      [Sha256.digest content] := by
  have htext : render ⟨Sha256.digest content, archiveName⟩ .bare =
      String.ofList ((Sha256.digest content).toList ++ '\n' :: []) := by
    rw [render, String.ofList_append, String.ofList_toList]
  rw [htext, words_unixLines_digest content (by decide) (by decide)]
  rfl

theorem words_unixLines_named (content : Bytes) :
    words (unixLines (render ⟨Sha256.digest content, archiveName⟩ .named)) =
      Sha256.digest content :: words (unixLines (archiveName ++ "\n")) := by
  have htext : render ⟨Sha256.digest content, archiveName⟩ .named =
      String.ofList ((Sha256.digest content).toList ++ ' ' :: (archiveName ++ "\n").toList) := by
    apply String.toList_injective
    rw [render, String.toList_ofList]
    simp
  rw [htext, words_unixLines_digest content (by decide) (by decide), String.ofList_toList]

/-- A name without blanks is one word. -/
theorem words_name_of_not_isBlank (hblank : ∀ c ∈ archiveName.toList, isBlank c = false)
    (hne : archiveName ≠ "") : words (unixLines (archiveName ++ "\n")) = [archiveName] := by
  have hreturn : '\r' ∉ (archiveName ++ "\n").toList := by
    rw [String.toList_append, List.mem_append]
    refine not_or.mpr ⟨fun h => absurd (hblank _ h) (by decide), by decide⟩
  have htext : archiveName ++ "\n" = String.ofList (archiveName.toList ++ '\n' :: []) := by
    rw [String.ofList_append, String.ofList_toList]
  rw [unixLines_of_not_mem hreturn, htext, words_append_cons hblank hne (by decide)]
  rfl

/-! ## Round trips -/

/-- Whether a sidecar of a form is read back: a bare one is, and a named one if the name has no
blank. -/
def ReadsBack (archiveName : String) (format : SidecarFormat) : Prop :=
  format = .bare ∨ archiveName.toList.any isBlank = false

instance (archiveName : String) (format : SidecarFormat) :
    Decidable (ReadsBack archiveName format) :=
  inferInstanceAs (Decidable (_ ∨ _))

/-- **Round trip.** What is read from the text of a checksum, if the name does not consist of
blanks: the checksum, or nothing if the form does not keep the name together. -/
theorem ofSidecarText?_render (content : Bytes) {mark : Char} (hmark : mark ∈ archiveName.toList)
    (hmarkBlank : isBlank mark = false) (format : SidecarFormat) :
    ofSidecarText? archiveName (unixLines (render ⟨Sha256.digest content, archiveName⟩ format)) =
      if ReadsBack archiveName format then some ⟨Sha256.digest content, archiveName⟩ else none := by
  cases format with
  | bare =>
    rw [ofSidecarText?, words_unixLines_bare, if_pos (.inl rfl)]
    simp only [lower_digest, isDigest_digest, if_true]
  | named =>
    rw [ofSidecarText?, words_unixLines_named]
    by_cases hblank : archiveName.toList.any isBlank = false
    · have hne : archiveName ≠ "" := by
        rintro rfl
        exact absurd hmark List.not_mem_nil
      have hnone : ∀ c ∈ archiveName.toList, isBlank c = false := by
        simpa only [List.any_eq_false, Bool.not_eq_true] using hblank
      rw [words_name_of_not_isBlank hnone hne, if_pos (.inr hblank)]
      simp only [lower_digest, isDigest_digest, decide_true, Bool.and_self, if_true]
    · rw [if_neg fun h => h.elim nofun hblank]
      have hsome : words (unixLines (archiveName ++ "\n")) ≠ [] := by
        refine words_ne_nil (mem_unixLines (c := mark) ?_ ?_ ?_) hmarkBlank
        · rw [String.toList_append]
          exact List.mem_append_left _ hmark
        · rintro rfl
          exact absurd hmarkBlank (by decide)
        · rintro rfl
          exact absurd hmarkBlank (by decide)
      rcases hwords : words (unixLines (archiveName ++ "\n")) with _ | ⟨name, _ | ⟨next, rest⟩⟩
      · exact absurd hwords hsome
      -- one word has no blanks, and the name has some
      · have hne : name ≠ archiveName := by
          rintro rfl
          have hnone := not_isBlank_of_mem_words (hwords ▸ List.mem_singleton_self _)
          exact hblank (by simpa only [List.any_eq_false, Bool.not_eq_true] using hnone)
        simp only [decide_eq_false hne, Bool.and_false, Bool.false_eq_true, if_false]
      · rfl

end Shipyard.Checksum

namespace Shipyard

open Text

namespace Text

/-! ## Hexadecimal digits -/

/-- Whether a character is a hexadecimal digit in either case. -/
def IsHexDigit (c : Char) : Prop := '0' ≤ c ∧ c ≤ '9' ∨ 'a' ≤ c ∧ c ≤ 'f' ∨ 'A' ≤ c ∧ c ≤ 'F'

instance : DecidablePred IsHexDigit := fun _ => inferInstanceAs (Decidable (_ ∨ _))

theorem isHexDigit_iff {c : Char} :
    IsHexDigit c ↔ (48 ≤ c.toNat ∧ c.toNat ≤ 57) ∨ (97 ≤ c.toNat ∧ c.toNat ≤ 102) ∨
      (65 ≤ c.toNat ∧ c.toNat ≤ 70) := Iff.rfl

theorem isDigit_iff {c : Char} :
    Sha256.IsDigit c ↔ (48 ≤ c.toNat ∧ c.toNat ≤ 57) ∨ (97 ≤ c.toNat ∧ c.toNat ≤ 102) := Iff.rfl

/-- Among the characters of ASCII, these are the ones whose lower-case forms are digits. -/
theorem isDigit_toLower_iff {c : Char} : Sha256.IsDigit c.toLower ↔ IsHexDigit c := by
  rw [isDigit_iff, isHexDigit_iff]
  by_cases hcapital : 0x41 ≤ c.toNat ∧ c.toNat ≤ 0x5A
  · rw [toNat_toLower_of_capital hcapital]
    omega
  · rw [toLower_of_not_capital hcapital]
    omega

/-- Beyond ASCII, the tables of the case mappings lead to no digit. -/
theorem lowerRuns_skip_digits : ∀ run ∈ lowerRuns, run.last < 128 ∨ 102 < run.image := by
  decide +kernel

theorem lowerExpansions_skip_digits :
    ∀ entry ∈ lowerExpansions, ∃ code ∈ entry.2, ¬ Sha256.IsDigit (Char.ofNat code) := by
  decide

theorem not_isDigit_ofNat {n : Nat} (h : 102 < n) : ¬ Sha256.IsDigit (Char.ofNat n) := by
  rw [isDigit_iff]
  have := toNat_ofNat n
  omega

/-- A character beyond ASCII has something else than digits in its lower-case form. -/
theorem exists_mem_lowerChar {c : Char} (h : 128 ≤ c.toNat) :
    ∃ d ∈ lowerChar c, ¬ Sha256.IsDigit d := by
  rcases lowerChar_cases h with ⟨entry, hentry, himage⟩ |
    ⟨run, hrun, hfirst, hlast, himage⟩ | himage
  · obtain ⟨code, hcode, hdigit⟩ := lowerExpansions_skip_digits entry hentry
    exact ⟨Char.ofNat code, himage ▸ List.mem_map_of_mem hcode, hdigit⟩
  · have := lowerRuns_skip_digits run hrun
    exact ⟨_, himage ▸ List.mem_singleton_self _, not_isDigit_ofNat (by omega)⟩
  · exact ⟨_, himage ▸ List.mem_singleton_self _, not_isDigit_ofNat (by omega)⟩

/-- A text is in ASCII if its lower-case form consists of digits. -/
theorem ascii_of_lower {s : String} (h : ∀ c ∈ (lower s).toList, Sha256.IsDigit c) :
    ∀ c ∈ s.toList, c.toNat < 128 := by
  suffices hfrom : ∀ before done cs, (∀ c ∈ lowerFrom before done cs, Sha256.IsDigit c) →
      ∀ c ∈ cs, c.toNat < 128 from
    hfrom [] [] s.toList (by simpa only [lower, String.toList_ofList] using h)
  intro before done cs
  induction cs generalizing before done with
  | nil => exact fun _ _ hc => absurd hc List.not_mem_nil
  | cons d cs ih =>
    intro hdigits
    refine List.forall_mem_cons.mpr ⟨?_, ih _ _ hdigits⟩
    by_contra hbeyond
    -- the image of `d` stays in the lower-case form, with what is no digit in it
    have himage : ∀ image ∈ (if d = 'Σ' then [if isFinalSigma before cs then 'ς' else 'σ']
        else lowerChar d), Sha256.IsDigit image := by
      intro image himage
      refine hdigits image ?_
      rw [lowerFrom]
      exact mem_lowerFrom (List.mem_append_left _ (List.mem_reverse.mpr himage))
    by_cases hsigma : d = 'Σ'
    · rw [if_pos hsigma] at himage
      have := himage _ (List.mem_singleton_self _)
      revert this
      split
      · decide
      · decide
    · rw [if_neg hsigma] at himage
      obtain ⟨image, hmem, hno⟩ := exists_mem_lowerChar (Nat.le_of_not_lt hbeyond)
      exact hno (himage image hmem)

end Text

namespace Checksum

variable {archiveName digits text : String}

theorem isDigest_iff {s : String} :
    isDigest s = true ↔ s.length = 64 ∧ ∀ c ∈ s.toList, Sha256.IsDigit c := by
  simp only [isDigest, Bool.and_eq_true, decide_eq_true_eq, List.all_eq_true, Bool.or_eq_true]
  rfl

/-- **Digits in either case.** The lower-case form of a text is a digest exactly if the text
consists of sixty-four hexadecimal digits of ASCII. -/
theorem isDigest_lower_iff {s : String} :
    isDigest (lower s) = true ↔ s.length = 64 ∧ ∀ c ∈ s.toList, IsHexDigit c := by
  rw [isDigest_iff]
  constructor
  · rintro ⟨hlength, hdigits⟩
    have hlower := lower_of_ascii (ascii_of_lower hdigits)
    rw [hlower] at hlength hdigits
    simp only [String.length_ofList, List.length_map, String.toList_ofList, List.forall_mem_map,
      isDigit_toLower_iff] at hlength hdigits
    exact ⟨hlength, hdigits⟩
  · rintro ⟨hlength, hdigits⟩
    have hlower : lower s = _ := lower_of_ascii fun c hc => by
      have := isHexDigit_iff.mp (hdigits c hc)
      omega
    rw [hlower]
    simp only [String.length_ofList, List.length_map, String.toList_ofList, List.forall_mem_map,
      isDigit_toLower_iff]
    exact ⟨hlength, hdigits⟩

/-! ## The format of sidecars -/

/-- Whether a text consists of blanks. -/
def AllBlank (s : String) : Prop := ∀ c ∈ s.toList, isBlank c = true

/-- Whether no character of a text is blank. -/
def NoBlank (s : String) : Prop := ∀ c ∈ s.toList, isBlank c = false

instance (s : String) : Decidable (AllBlank s) := List.decidableBAll _ s.toList

instance (s : String) : Decidable (NoBlank s) := List.decidableBAll _ s.toList

/-- Digits between blanks, and behind them the name of the archive, if it has no blank, or
nothing. -/
inductive Frames (archiveName digits : String) : String → Prop
  | bare {before after : String} (hbefore : AllBlank before) (hafter : AllBlank after) :
    Frames archiveName digits (before ++ digits ++ after)
  | named {before gap after : String} (hbefore : AllBlank before) (hgap : AllBlank gap)
    (hne : gap ≠ "") (hname : NoBlank archiveName) (hafter : AllBlank after) :
    Frames archiveName digits (before ++ digits ++ gap ++ archiveName ++ after)

/-- Whether a text is a sidecar of an archive: sixty-four hexadecimal digits in their place. -/
structure Records (archiveName digits text : String) : Prop where
  /-- there are sixty-four of them -/
  length : digits.length = 64
  /-- all of them are hexadecimal digits, in either case -/
  isHexDigit : ∀ c ∈ digits.toList, IsHexDigit c
  /-- they stand where they should -/
  framed : Frames archiveName digits text

theorem Records.noBlank (h : Records archiveName digits text) : NoBlank digits := fun c hc => by
  have := isHexDigit_iff.mp (h.isHexDigit c hc)
  exact isBlank_eq_false_of_printable (by omega) (by omega)

theorem Records.ne_empty (h : Records archiveName digits text) : digits ≠ "" := fun hempty =>
  absurd h.length (by rw [hempty]; decide)

/-- A word with nothing but blanks behind it is the last one. -/
theorem words_eq_singleton_iff {s word : String} :
    words s = [word] ↔ ∃ before after, s = before ++ word ++ after ∧ AllBlank before ∧
      AllBlank after ∧ word ≠ "" ∧ NoBlank word := by
  rw [words_eq_cons_iff]
  constructor
  · rintro ⟨before, rest, hs, hbefore, hne, hword, -, hrest⟩
    exact ⟨before, rest, hs, hbefore, words_eq_nil_iff.mp hrest, hne, hword⟩
  · rintro ⟨before, after, hs, hbefore, hafter, hne, hword⟩
    exact ⟨before, after, hs, hbefore, hne, hword, fun c hc => hafter c (List.mem_of_mem_head? hc),
      words_eq_nil_iff.mpr hafter⟩

/-- The words of a sidecar are the digits and, in a named one, the name. -/
theorem words_eq_of_frames (hframes : Frames archiveName digits text) (hne : digits ≠ "")
    (hdigits : NoBlank digits) (hname : archiveName ≠ "") :
    words text = [digits] ∨ words text = [digits, archiveName] := by
  cases hframes with
  | bare hbefore hafter =>
    exact .inl (words_eq_singleton_iff.mpr ⟨_, _, rfl, hbefore, hafter, hne, hdigits⟩)
  | @named before gap after hbefore hgap hgapne hnoblank hafter =>
    refine .inr (words_eq_cons_iff.mpr ⟨before, gap ++ archiveName ++ after, ?_, hbefore, hne,
      hdigits, ?_, ?_⟩)
    · simp only [String.append_assoc]
    · -- the gap is not empty, so it is a blank that follows the digits
      intro c hc
      rw [String.append_assoc, String.toList_append] at hc
      obtain ⟨first, others, hlist⟩ :=
        List.exists_cons_of_ne_nil (mt String.toList_eq_nil_iff.mp hgapne)
      rw [hlist] at hc
      exact hgap c (hlist ▸ List.mem_of_mem_head? hc)
    · exact words_eq_singleton_iff.mpr ⟨gap, after, rfl, hgap, hafter, hname, hnoblank⟩

/-- A text with these words is a sidecar. -/
theorem frames_of_words (h : words text = [digits] ∨ words text = [digits, archiveName]) :
    Frames archiveName digits text := by
  rcases h with h | h
  · obtain ⟨before, after, rfl, hbefore, hafter, -⟩ := words_eq_singleton_iff.mp h
    exact .bare hbefore hafter
  · obtain ⟨before, rest, rfl, hbefore, -, -, hhead, hrest⟩ := words_eq_cons_iff.mp h
    obtain ⟨gap, after, rfl, hgap, hafter, hne, hname⟩ := words_eq_singleton_iff.mp hrest
    have htext : before ++ digits ++ (gap ++ archiveName ++ after) =
        before ++ digits ++ gap ++ archiveName ++ after := by simp only [String.append_assoc]
    rw [htext]
    refine .named hbefore hgap ?_ hname hafter
    -- without a gap, the first character of the name would be a blank
    rintro rfl
    obtain ⟨c, cs, hlist⟩ := List.exists_cons_of_ne_nil (mt String.toList_eq_nil_iff.mp hne)
    have hc : archiveName.toList.head? = some c := by rw [hlist, List.head?_cons]
    have hblank : isBlank c = true := hhead c (by
      rw [String.append_assoc, String.toList_append, String.toList_append, List.head?_append,
        List.head?_append, hc]
      rfl)
    rw [hname c (List.mem_of_mem_head? hc)] at hblank
    cases hblank

/-- The form of its ends of lines does not matter to a sidecar. -/
theorem ofSidecarText?_unixLines :
    ofSidecarText? archiveName (unixLines text) = ofSidecarText? archiveName text := by
  simp only [ofSidecarText?, words_unixLines]

/-- **The reader of sidecars.** It finds a checksum in exactly the texts that record one, the digits
of the text in lower case. -/
theorem ofSidecarText?_eq_some_iff {c : Checksum} (hname : archiveName ≠ "") :
    ofSidecarText? archiveName text = some c ↔
      ∃ digits, Records archiveName digits text ∧ c = ⟨lower digits, archiveName⟩ := by
  constructor
  · intro h
    rw [ofSidecarText?] at h
    split at h
    · next digits hwords =>
      split at h
      · next hdigest =>
        cases h
        obtain ⟨hlength, hdigits⟩ := isDigest_lower_iff.mp hdigest
        exact ⟨digits, ⟨hlength, hdigits, frames_of_words (.inl hwords)⟩, rfl⟩
      · cases h
    · next digits name hwords =>
      split at h
      · next hboth =>
        cases h
        obtain ⟨hdigest, hsame⟩ := Bool.and_eq_true_iff.mp hboth
        obtain ⟨hlength, hdigits⟩ := isDigest_lower_iff.mp hdigest
        rw [decide_eq_true_eq.mp hsame] at hwords
        exact ⟨digits, ⟨hlength, hdigits, frames_of_words (.inr hwords)⟩, rfl⟩
      · cases h
    · cases h
  · rintro ⟨digits, hrecords, rfl⟩
    have hdigest := isDigest_lower_iff.mpr ⟨hrecords.length, hrecords.isHexDigit⟩
    rcases words_eq_of_frames hrecords.framed hrecords.ne_empty hrecords.noBlank hname with h | h
    · rw [ofSidecarText?, h]
      simp only [hdigest, if_true]
    · rw [ofSidecarText?, h]
      simp only [hdigest, decide_true, Bool.and_self, if_true]

end Checksum

end Shipyard
