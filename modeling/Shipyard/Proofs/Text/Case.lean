import Shipyard.Proofs.Text.Blank
import Shipyard.Proofs.Text.Words

/-!
# Lower-case forms

Which characters a lower-case form can have: those of ASCII are lowered on their own, a sigma has
two forms, and everything else comes from the tables of the case mappings (`lowerChar_cases`), whose
properties can be checked run by run.
-/

namespace Shipyard.Text

/-- The character of a number, or the null character if there is none. -/
theorem toNat_ofNat (n : Nat) : (Char.ofNat n).toNat = n ∨ (Char.ofNat n).toNat = 0 := by
  rw [Char.ofNat]
  by_cases h : n.isValidChar
  · rw [dif_pos h]
    exact .inl rfl
  · rw [dif_neg h]
    exact .inr rfl

/-- **The tables.** Beyond ASCII, a character has the form of one of the expansions, the image under
one of the runs, or its own number. -/
theorem lowerChar_cases {c : Char} (h : 128 ≤ c.toNat) :
    (∃ entry ∈ lowerExpansions, lowerChar c = entry.2.map Char.ofNat) ∨
      (∃ run ∈ lowerRuns, run.first ≤ c.toNat ∧ c.toNat ≤ run.last ∧
        lowerChar c = [Char.ofNat (run.image + (c.toNat - run.first))]) ∨
      lowerChar c = [Char.ofNat c.toNat] := by
  rw [lowerChar, if_neg (Nat.not_lt.mpr h), mapCase]
  split
  · next codes hlookup =>
    obtain ⟨l₁, l₂, hentries, -⟩ := List.lookup_eq_some_iff.mp hlookup
    exact .inl ⟨(c.toNat, codes), hentries ▸ List.mem_append_right _ List.mem_cons_self, rfl⟩
  · rcases hfind : lowerRuns.findSome? (·.image? c.toNat) with _ | image
    · exact .inr (.inr (by rw [hfind, Option.getD_none]))
    · obtain ⟨run, hrun, himage⟩ := List.exists_of_findSome?_eq_some hfind
      rw [CaseRun.image?] at himage
      split at himage
      · next hin =>
        simp only [Bool.and_eq_true, decide_eq_true_eq] at hin
        cases himage
        exact .inr (.inl ⟨run, hrun, hin.1.1, hin.1.2, by rw [hfind, Option.getD_some]⟩)
      · cases himage

/-- Beyond ASCII the tables send no character into ranges that their images miss. -/
theorem not_inRanges_of_beyond {ranges : List CodeRange} {c d : Char}
    (hexpansions : ∀ entry ∈ lowerExpansions, ∀ code ∈ entry.2, inRanges ranges code = false)
    (hruns : ∀ run ∈ lowerRuns, ∀ range ∈ ranges, run.last < 128 ∨
      run.image + (run.last - run.first) < range.1 ∨ range.2 < run.image)
    (hnull : inRanges ranges 0 = false) (hbeyond : 128 ≤ c.toNat)
    (hc : inRanges ranges c.toNat = false) (hd : d ∈ lowerChar c) :
    inRanges ranges d.toNat = false := by
  have hcode {n : Nat} (hn : inRanges ranges n = false) :
      inRanges ranges (Char.ofNat n).toNat = false := by
    rcases toNat_ofNat n with h | h
    · rwa [h]
    · rwa [h]
  rcases lowerChar_cases hbeyond with ⟨entry, hentry, himage⟩ |
    ⟨run, hrun, hfirst, hlast, himage⟩ | himage
  · rw [himage] at hd
    obtain ⟨code, hmem, rfl⟩ := List.mem_map.mp hd
    exact hcode (hexpansions entry hentry code hmem)
  · rw [himage, List.mem_singleton] at hd
    rw [hd]
    refine hcode (Bool.eq_false_iff.mpr fun hin => ?_)
    obtain ⟨range, hrange, hlow, hhigh⟩ := (inRanges_eq_true_iff _ _).mp hin
    have := hruns run hrun range hrange
    omega
  · rw [himage, List.mem_singleton] at hd
    rw [hd]
    exact hcode hc

/-- No character is lowered into ranges that all images miss, unless it lies there itself. -/
theorem not_inRanges_of_mem_lowerChar {ranges : List CodeRange} {c d : Char}
    (hexpansions : ∀ entry ∈ lowerExpansions, ∀ code ∈ entry.2, inRanges ranges code = false)
    (hruns : ∀ run ∈ lowerRuns, ∀ range ∈ ranges,
      run.image + (run.last - run.first) < range.1 ∨ range.2 < run.image)
    (hnull : inRanges ranges 0 = false) (hc : inRanges ranges c.toNat = false)
    (hd : d ∈ lowerChar c) : inRanges ranges d.toNat = false := by
  by_cases hascii : c.toNat < 128
  · rw [lowerChar, if_pos hascii, List.mem_singleton] at hd
    rw [hd]
    by_cases hcapital : 0x41 ≤ c.toNat ∧ c.toNat ≤ 0x5A
    · rw [toNat_toLower_of_capital hcapital, Bool.eq_false_iff]
      intro hin
      obtain ⟨range, hrange, hlow, hhigh⟩ := (inRanges_eq_true_iff _ _).mp hin
      have := hruns ⟨0x41, 0x5A, 1, 0x61⟩ List.mem_cons_self range hrange
      dsimp only at this
      omega
    · rwa [toLower_of_not_capital hcapital]
  · exact not_inRanges_of_beyond hexpansions (fun run hrun range hrange =>
      .inr (hruns run hrun range hrange)) hnull (Nat.le_of_not_lt hascii) hc hd

theorem lowerChar_ne_nil (c : Char) : lowerChar c ≠ [] := by
  by_cases hascii : c.toNat < 128
  · rw [lowerChar, if_pos hascii]
    exact List.cons_ne_nil _ _
  · rcases lowerChar_cases (Nat.le_of_not_lt hascii) with ⟨entry, hentry, himage⟩ |
      ⟨run, -, -, -, himage⟩ | himage
    · have hexpansions : ∀ entry ∈ lowerExpansions, entry.2 ≠ [] := by decide
      rw [himage]
      exact mt List.map_eq_nil_iff.mp (hexpansions entry hentry)
    · rw [himage]
      exact List.cons_ne_nil _ _
    · rw [himage]
      exact List.cons_ne_nil _ _

theorem lowerFrom_eq_append (before done cs : List Char) :
    lowerFrom before done cs = done.reverse ++ lowerFrom before [] cs := by
  suffices h : ∀ front, lowerFrom before (front ++ done) cs =
      done.reverse ++ lowerFrom before front cs from h []
  induction cs generalizing before with
  | nil => exact fun front => List.reverse_append
  | cons c cs ih =>
    intro front
    rw [lowerFrom, lowerFrom, ← List.append_assoc, ih]

theorem mem_lowerFrom {before done cs : List Char} {c : Char} (h : c ∈ done) :
    c ∈ lowerFrom before done cs := by
  rw [lowerFrom_eq_append]
  exact List.mem_append_left _ (List.mem_reverse.mpr h)

/-- What the characters of a lower-case form come from. -/
theorem mem_lower {s : String} {c : Char} (h : c ∈ (lower s).toList) :
    (∃ d ∈ s.toList, c ∈ lowerChar d) ∨ c = 'ς' ∨ c = 'σ' := by
  suffices hfrom : ∀ before done cs, c ∈ lowerFrom before done cs →
      c ∈ done ∨ (∃ d ∈ cs, c ∈ lowerChar d) ∨ c = 'ς' ∨ c = 'σ' by
    rw [lower, String.toList_ofList] at h
    exact (hfrom [] [] s.toList h).resolve_left List.not_mem_nil
  intro before done cs
  induction cs generalizing before done with
  | nil => exact fun h => .inl (List.mem_reverse.mp h)
  | cons d cs ih =>
    intro h
    rw [lowerFrom] at h
    rcases ih _ _ h with h | ⟨e, he, hc⟩ | hsigma
    · rcases List.mem_append.mp h with h | h
      · rw [List.mem_reverse] at h
        split at h
        · rw [List.mem_singleton] at h
          split at h
          · exact .inr (.inr (.inl h))
          · exact .inr (.inr (.inr h))
        · exact .inr (.inl ⟨d, List.mem_cons_self, h⟩)
      · exact .inl h
    · exact .inr (.inl ⟨e, List.mem_cons_of_mem _ he, hc⟩)
    · exact .inr (.inr hsigma)

/-! ## Blanks -/

/-- A blank is its own lower-case form, and no part of a word with a sigma. -/
theorem inert_of_isBlank {c : Char} (h : isBlank c = true) :
    lowerChar c = [c] ∧ inRanges caseIgnorableRanges c.toNat = false ∧
      inRanges casedRanges c.toNat = false ∧ c ≠ 'Σ' := by
  have hranges : ∀ range ∈ blankRanges, ∀ n ∈ List.range' range.1 (range.2 + 1 - range.1),
      lowerChar (Char.ofNat n) = [Char.ofNat n] ∧ inRanges caseIgnorableRanges n = false ∧
        inRanges casedRanges n = false ∧ Char.ofNat n ≠ 'Σ' := by
    decide +kernel
  obtain ⟨range, hrange, hlow, hhigh⟩ := (inRanges_eq_true_iff _ _).mp h
  have hmem : c.toNat ∈ List.range' range.1 (range.2 + 1 - range.1) := by
    rw [List.mem_range'_1]
    omega
  have hc := hranges range hrange c.toNat hmem
  rwa [Char.ofNat_toNat] at hc

theorem startsCased_cons (c : Char) (cs : List Char) :
    startsCased (c :: cs) =
      if inRanges caseIgnorableRanges c.toNat then startsCased cs
      else inRanges casedRanges c.toNat := by
  cases hc : inRanges caseIgnorableRanges c.toNat <;> simp [startsCased, hc]

/-- What stands behind a blank does not count for a sigma in front of it. -/
theorem startsCased_append_cons {cs rest : List Char} {c : Char} (hc : isBlank c = true) :
    startsCased (cs ++ c :: rest) = startsCased cs := by
  induction cs with
  | nil =>
    obtain ⟨-, hignorable, hcased, -⟩ := inert_of_isBlank hc
    rw [List.nil_append, startsCased_cons, hignorable, hcased]
    rfl
  | cons d cs ih => rw [List.cons_append, startsCased_cons, startsCased_cons, ih]

/-- Of what stands before a text, it only counts whether a cased character comes first. -/
theorem lowerFrom_congr {before before' done cs : List Char}
    (h : startsCased before = startsCased before') :
    lowerFrom before done cs = lowerFrom before' done cs := by
  induction cs generalizing before before' done with
  | nil => rfl
  | cons d cs ih =>
    have hnext : startsCased (d :: before) = startsCased (d :: before') := by
      rw [startsCased_cons, startsCased_cons, h]
    rw [lowerFrom, lowerFrom, isFinalSigma, h, isFinalSigma, ih hnext]

/-- No sigma at the beginning of a text is final. -/
theorem lowerFrom_cons (c : Char) (cs : List Char) :
    lowerFrom [] [] (c :: cs) =
      (if c = 'Σ' then ['σ'] else lowerChar c) ++ lowerFrom [c] [] cs := by
  rw [lowerFrom, lowerFrom_eq_append, List.append_nil, List.reverse_reverse]
  rfl

/-- Lowering leaves something of a text. -/
theorem lower_ne_empty {s : String} (h : s ≠ "") : lower s ≠ "" := by
  obtain ⟨c, cs, hs⟩ := List.exists_cons_of_ne_nil (mt String.toList_eq_nil_iff.mp h)
  intro hempty
  have hnil : lowerFrom [] [] (c :: cs) = [] := by
    rw [← hs, ← String.toList_ofList (l := lowerFrom [] [] s.toList)]
    exact congrArg String.toList hempty
  rw [lowerFrom_cons, List.append_eq_nil_iff] at hnil
  by_cases hsigma : c = 'Σ'
  · rw [if_pos hsigma] at hnil
    exact List.cons_ne_nil _ _ hnil.1
  · rw [if_neg hsigma] at hnil
    exact lowerChar_ne_nil c hnil.1

/-- The parts of a text on the two sides of a blank are lowered on their own. -/
theorem lowerFrom_append_cons {before done front rest : List Char} {c : Char}
    (hc : isBlank c = true) :
    lowerFrom before done (front ++ c :: rest) =
      lowerFrom before done front ++ c :: lowerFrom [] [] rest := by
  induction front generalizing before done with
  | nil =>
    obtain ⟨hlower, -, -, hsigma⟩ := inert_of_isBlank hc
    have hbehind : startsCased ([] ++ c :: before) = startsCased [] := startsCased_append_cons hc
    rw [List.nil_append] at hbehind
    simp only [List.nil_append, lowerFrom, if_neg hsigma, hlower, List.reverse_singleton,
      List.singleton_append]
    rw [lowerFrom_congr hbehind, lowerFrom_eq_append, List.reverse_cons, List.append_assoc]
    rfl
  | cons d front ih =>
    rw [List.cons_append, lowerFrom, lowerFrom, isFinalSigma, startsCased_append_cons hc,
      isFinalSigma, ih]

/-- **Blanks part a text.** -/
theorem lower_append_cons {front rest : List Char} {c : Char} (hc : isBlank c = true) :
    (lower (String.ofList (front ++ c :: rest))).toList =
      (lower (String.ofList front)).toList ++ c :: (lower (String.ofList rest)).toList := by
  simp only [lower, String.toList_ofList]
  exact lowerFrom_append_cons hc

section Strip

variable {isSep : Char → Bool} (hsep : ∀ c, isBlank c = true → isSep c = true)

include hsep

theorem runs_lowerFrom_cons {cs : List Char} {c : Char} (hc : isBlank c = true) :
    runs isSep (lowerFrom [] [] (c :: cs)) = runs isSep (lowerFrom [] [] cs) := by
  have hlower : lowerFrom [] [] ([] ++ c :: cs) = _ := lowerFrom_append_cons hc
  rw [List.nil_append] at hlower
  rw [hlower, runs_append_sep (hsep c hc)]
  rfl

theorem runs_lowerFrom_concat {cs : List Char} {c : Char} (hc : isBlank c = true) :
    runs isSep (lowerFrom [] [] (cs ++ [c])) = runs isSep (lowerFrom [] [] cs) := by
  rw [lowerFrom_append_cons hc, runs_append_sep (hsep c hc)]
  exact List.append_nil _

/-- Blanks at the ends of a text change none of its words. -/
theorem runs_lower_strip (s : String) :
    runs isSep (lower (strip s)).toList = runs isSep (lower s).toList := by
  have hleft (cs : List Char) :
      runs isSep (lowerFrom [] [] (stripLeft cs)) = runs isSep (lowerFrom [] [] cs) := by
    induction cs with
    | nil => rfl
    | cons c cs ih =>
      rw [stripLeft, List.dropWhile_cons]
      split
      · next hc => rw [← stripLeft, ih, runs_lowerFrom_cons hsep hc]
      · rfl
  have hright (cs : List Char) :
      runs isSep (lowerFrom [] [] (stripRight cs)) = runs isSep (lowerFrom [] [] cs) := by
    rw [stripRight_eq_rdropWhile]
    induction cs using List.reverseRecOn with
    | nil => rfl
    | append_singleton cs c ih =>
      rw [List.rdropWhile_concat]
      split
      · next hc => rw [ih, runs_lowerFrom_concat hsep hc]
      · rfl
  simp only [lower, strip, stripBlanks, String.toList_ofList]
  rw [hright, hleft]

end Strip

/-! ## A letter in front -/

/-- Whether a text begins with a capital sigma, or with characters that are ignored and such a
sigma, and no cased character follows: a letter in front makes this sigma final. -/
def LedBySigma (cs : List Char) : Prop :=
  ∃ before after, cs = before ++ 'Σ' :: after ∧
    (∀ c ∈ before, inRanges caseIgnorableRanges c.toNat = true) ∧ startsCased after = false

theorem not_ledBySigma {cs : List Char} (h : 'Σ' ∉ cs) : ¬ LedBySigma cs := by
  rintro ⟨before, after, rfl, -⟩
  exact h (List.mem_append_right _ List.mem_cons_self)

/-- Whether a cased character stands before a text makes no other difference. -/
theorem lowerFrom_eq_of_not_ledBySigma {before before' done cs : List Char}
    (hcased : startsCased before = true) (huncased : startsCased before' = false)
    (hled : ¬ LedBySigma cs) : lowerFrom before done cs = lowerFrom before' done cs := by
  induction cs generalizing before before' done with
  | nil => rfl
  | cons d cs ih =>
    rw [lowerFrom, lowerFrom]
    by_cases hsigma : d = 'Σ'
    · -- something cased follows, so the sigma is final in neither text
      have hafter : startsCased cs = true := by
        by_contra hnone
        exact hled ⟨[], cs, by rw [hsigma]; rfl, List.forall_mem_nil _,
          Bool.eq_false_iff.mpr hnone⟩
      have hkept : inRanges caseIgnorableRanges 'Σ'.toNat = false := by decide +kernel
      have hnext : startsCased (d :: before) = startsCased (d :: before') := by
        rw [startsCased_cons, startsCased_cons, hsigma, hkept]
        rfl
      simp only [isFinalSigma, hafter, Bool.not_true, Bool.and_false]
      exact lowerFrom_congr hnext
    · simp only [if_neg hsigma]
      by_cases hignorable : inRanges caseIgnorableRanges d.toNat = true
      · -- what stands before still counts behind an ignored character
        have hrest : ¬ LedBySigma cs := by
          rintro ⟨front, after, rfl, hfront, hafter⟩
          exact hled ⟨d :: front, after, rfl,
            List.forall_mem_cons.mpr ⟨hignorable, hfront⟩, hafter⟩
        refine ih ?_ ?_ hrest
        · rw [startsCased_cons, if_pos hignorable, hcased]
        · rw [startsCased_cons, if_pos hignorable, huncased]
      · refine lowerFrom_congr ?_
        rw [startsCased_cons, startsCased_cons, if_neg hignorable, if_neg hignorable]

/-- A `v` in front of a text is lowered on its own. -/
theorem lower_append_v {s : String} (hled : ¬ LedBySigma s.toList) :
    lower ("v" ++ s) = "v" ++ lower s := by
  have hrest : lowerFrom ['v'] [] s.toList = lowerFrom [] [] s.toList :=
    lowerFrom_eq_of_not_ledBySigma (by decide +kernel) rfl hled
  refine String.toList_injective ?_
  simp only [lower, ← hrest, String.toList_append, String.toList_ofList]
  exact lowerFrom_cons 'v' s.toList

-- the sigma of the second text stands alone
example : lower "vΣ" ≠ "v" ++ lower "Σ" := by decide +kernel

/-- Only the letter itself, in either case, is lowered to a `v`. -/
theorem eq_v_of_mem_lowerChar {c : Char} (h : 'v' ∈ lowerChar c) : c = 'v' ∨ c = 'V' := by
  by_cases hascii : c.toNat < 128
  · rw [lowerChar, if_pos hascii, List.mem_singleton] at h
    by_cases hcapital : 0x41 ≤ c.toNat ∧ c.toNat ≤ 0x5A
    · have hcode := toNat_toLower_of_capital hcapital
      rw [← h] at hcode
      have hv : 'v'.toNat = 0x76 := rfl
      have hV : 'V'.toNat = 0x56 := rfl
      exact .inr (Char.toNat_inj.mp (by omega))
    · rw [toLower_of_not_capital hcapital] at h
      exact .inl h.symm
  · have hout : inRanges [(0x76, 0x76)] c.toNat = false := by
      rw [Bool.eq_false_iff]
      intro hin
      obtain ⟨range, hrange, hlow, hhigh⟩ := (inRanges_eq_true_iff _ _).mp hin
      rw [List.mem_singleton.mp hrange] at hhigh
      omega
    have hno := not_inRanges_of_beyond (by decide) (by decide +kernel) rfl
      (Nat.le_of_not_lt hascii) hout h
    cases hno

end Shipyard.Text
