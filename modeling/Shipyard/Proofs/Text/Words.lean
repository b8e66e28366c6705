import Mathlib.Data.List.TakeWhile
import Shipyard.Text.Blank
import Shipyard.Text.Case
import Shipyard.Text.Search

/-!
# Words of a text

A text is cut at its blanks: the first word stands behind some blanks and in front of another one
(`words_eq_cons_iff`), no word holds a blank, and every other character is in some word. What is
known of a text survives its reading, which only touches ends of lines.
-/

namespace Shipyard.Text

variable {isSep : Char → Bool}

/-! ## Runs -/

theorem piecesFrom_append {piece word : List Char} {inSep : Bool} {cs : List Char}
    (hword : ∀ c ∈ word, isSep c = false) (hne : word ≠ []) :
    piecesFrom isSep piece inSep (word ++ cs) =
      piecesFrom isSep (word.reverse ++ piece) false cs := by
  induction word generalizing piece inSep with
  | nil => exact absurd rfl hne
  | cons c rest ih =>
    obtain ⟨hc, hrest⟩ := List.forall_mem_cons.mp hword
    rw [List.cons_append, piecesFrom, if_neg (Bool.eq_false_iff.mp hc)]
    cases rest with
    | nil => rfl
    | cons d rest =>
      rw [ih hrest (List.cons_ne_nil _ _), List.reverse_cons (a := c), List.append_assoc]
      rfl

/-- It does not matter for the runs whether a text begins behind a separator. -/
theorem filter_piecesFrom_nil (cs : List Char) :
    ((piecesFrom isSep [] true cs).filter fun piece => !piece.isEmpty) =
      (piecesFrom isSep [] false cs).filter fun piece => !piece.isEmpty := by
  cases cs with
  | nil => rfl
  | cons c rest =>
    rw [piecesFrom, piecesFrom]
    split
    · rfl
    · rfl

theorem filter_piecesFrom_append {piece front cs : List Char} {inSep : Bool} {c : Char}
    (hpiece : inSep = true → piece = []) (hc : isSep c = true) :
    ((piecesFrom isSep piece inSep (front ++ c :: cs)).filter fun piece => !piece.isEmpty) =
      ((piecesFrom isSep piece inSep front).filter fun piece => !piece.isEmpty) ++
        runs isSep cs := by
  -- between separators nothing has been read, and this is what the induction carries along
  induction front generalizing piece inSep with
  | nil =>
    rw [List.nil_append, piecesFrom, piecesFrom, if_pos hc, runs, pieces, ← filter_piecesFrom_nil]
    cases inSep with
    | true => rw [hpiece rfl]; rfl
    | false => exact List.filter_append [piece.reverse] _
  | cons d front ih =>
    rw [List.cons_append, piecesFrom, piecesFrom]
    by_cases hd : isSep d = true
    · rw [if_pos hd, if_pos hd]
      cases inSep with
      | true => exact ih hpiece
      | false =>
        rw [if_neg Bool.false_ne_true, if_neg Bool.false_ne_true, List.filter_cons,
          List.filter_cons, ih fun _ => rfl]
        split
        · rfl
        · rfl
    · rw [if_neg hd, if_neg hd]
      exact ih nofun

/-- The runs on the two sides of a separator. -/
theorem runs_append_sep {front cs : List Char} {c : Char} (hc : isSep c = true) :
    runs isSep (front ++ c :: cs) = runs isSep front ++ runs isSep cs :=
  filter_piecesFrom_append nofun hc

/-- Separators in front of a text change none of its runs. -/
theorem runs_append {before cs : List Char} (hbefore : ∀ c ∈ before, isSep c = true) :
    runs isSep (before ++ cs) = runs isSep cs := by
  induction before with
  | nil => rfl
  | cons c before ih =>
    obtain ⟨hc, hbefore⟩ := List.forall_mem_cons.mp hbefore
    have hskip : runs isSep ([] ++ c :: (before ++ cs)) = _ := runs_append_sep hc
    rw [List.cons_append]
    exact hskip.trans (ih hbefore)

theorem runs_eq_nil {cs : List Char} (hcs : ∀ c ∈ cs, isSep c = true) : runs isSep cs = [] := by
  have h : runs isSep (cs ++ []) = runs isSep [] := runs_append hcs
  rwa [List.append_nil] at h

/-- A text without separators is its only run. -/
theorem runs_eq_singleton {word : List Char} (hword : ∀ c ∈ word, isSep c = false)
    (hne : word ≠ []) : runs isSep word = [word] := by
  have h : piecesFrom isSep [] false (word ++ []) = _ := piecesFrom_append hword hne
  rw [List.append_nil] at h
  rw [runs, pieces, h, piecesFrom, List.append_nil, List.reverse_reverse,
    List.filter_cons_of_pos (by simpa using hne), List.filter_nil]

/-- The text before the first separator is the first run. -/
theorem runs_append_cons {word cs : List Char} {c : Char} (hword : ∀ c ∈ word, isSep c = false)
    (hne : word ≠ []) (hc : isSep c = true) :
    runs isSep (word ++ c :: cs) = word :: runs isSep cs := by
  rw [runs_append_sep hc, runs_eq_singleton hword hne]
  rfl

/-- A run in front of a separator, or at the end of a text. -/
theorem runs_append_eq_cons {word rest : List Char} (hword : ∀ c ∈ word, isSep c = false)
    (hne : word ≠ []) (hrest : ∀ c ∈ rest.head?, isSep c = true) :
    runs isSep (word ++ rest) = word :: runs isSep rest := by
  cases rest with
  | nil => rw [List.append_nil, runs_eq_singleton hword hne]; rfl
  | cons c cs =>
    have hc : isSep c = true := hrest c rfl
    have hskip : runs isSep ([] ++ c :: cs) = runs isSep cs := runs_append_sep hc
    rw [runs_append_cons hword hne hc]
    exact congrArg _ hskip.symm

/-- **The shape of a text.** A text is all separators, or a first run stands behind some separators
and ends at a separator or with the text. -/
theorem separators_or_run (isSep : Char → Bool) (cs : List Char) :
    (∀ c ∈ cs, isSep c = true) ∨
      ∃ before word rest, cs = before ++ word ++ rest ∧ (∀ c ∈ before, isSep c = true) ∧
        word ≠ [] ∧ (∀ c ∈ word, isSep c = false) ∧ ∀ c ∈ rest.head?, isSep c = true := by
  have hcs : cs = cs.takeWhile isSep ++ cs.dropWhile isSep := List.takeWhile_append_dropWhile.symm
  have hbefore : ∀ c ∈ cs.takeWhile isSep, isSep c = true := fun c hc => List.mem_takeWhile_imp hc
  rcases hdrop : cs.dropWhile isSep with _ | ⟨first, tail⟩
  · left
    rw [hcs, hdrop, List.append_nil]
    exact hbefore
  · right
    have hfirst : isSep first = false := by
      have h := List.head?_dropWhile_not isSep cs
      rw [hdrop] at h
      simpa using h
    let isWord := fun c => !isSep c
    have htail : first :: tail =
        (first :: tail).takeWhile isWord ++ (first :: tail).dropWhile isWord :=
      List.takeWhile_append_dropWhile.symm
    refine ⟨_, (first :: tail).takeWhile isWord, (first :: tail).dropWhile isWord, ?_, hbefore, ?_,
      ?_, ?_⟩
    · rw [List.append_assoc, ← htail, ← hdrop]
      exact hcs
    · simp [isWord, hfirst]
    · intro c hc
      simpa [isWord] using List.mem_takeWhile_imp hc
    · intro c hc
      have h := List.head?_dropWhile_not isWord (first :: tail)
      rw [Option.mem_def.mp hc] at h
      simpa [isWord] using h

theorem not_isSep_of_mem_piecesFrom {piece run cs : List Char} {inSep : Bool}
    (h : run ∈ piecesFrom isSep piece inSep cs) (hpiece : ∀ c ∈ piece, isSep c = false) :
    ∀ c ∈ run, isSep c = false := by
  induction cs generalizing piece inSep with
  | nil =>
    rw [piecesFrom, List.mem_singleton] at h
    rw [h]
    exact fun c hc => hpiece c (List.mem_reverse.mp hc)
  | cons d rest ih =>
    rw [piecesFrom] at h
    by_cases hd : isSep d = true
    · rw [if_pos hd] at h
      cases inSep with
      | true => exact ih (by simpa using h) hpiece
      | false =>
        rcases List.mem_cons.mp (by simpa using h) with rfl | h
        · exact fun c hc => hpiece c (List.mem_reverse.mp hc)
        · exact ih h nofun
    · rw [if_neg hd] at h
      exact ih h (List.forall_mem_cons.mpr ⟨Bool.eq_false_iff.mpr hd, hpiece⟩)

/-- No run holds a separator. -/
theorem not_isSep_of_mem_runs {run cs : List Char} (h : run ∈ runs isSep cs) :
    ∀ c ∈ run, isSep c = false :=
  not_isSep_of_mem_piecesFrom (List.mem_filter.mp h).1 nofun

theorem exists_mem_piecesFrom {piece cs : List Char} {inSep : Bool} {c : Char}
    (h : c ∈ piece ∧ inSep = false ∨ c ∈ cs ∧ isSep c = false) :
    ∃ run ∈ piecesFrom isSep piece inSep cs, c ∈ run := by
  -- the character is in the piece that has been read, or still to come
  induction cs generalizing piece inSep with
  | nil =>
    obtain ⟨hc, -⟩ := h.resolve_right fun h => absurd h.1 List.not_mem_nil
    exact ⟨_, List.mem_singleton_self _, List.mem_reverse.mpr hc⟩
  | cons d rest ih =>
    rw [piecesFrom]
    by_cases hd : isSep d = true
    · have hrest : c ∈ d :: rest ∧ isSep c = false → c ∈ rest ∧ isSep c = false := by
        rintro ⟨hc, hsep⟩
        refine ⟨(List.mem_cons.mp hc).resolve_left ?_, hsep⟩
        rintro rfl
        exact absurd hd (Bool.eq_false_iff.mp hsep)
      rw [if_pos hd]
      cases inSep with
      | true => exact ih (.inr (hrest (h.resolve_left fun h => nomatch h.2)))
      | false =>
        rcases h with ⟨hc, -⟩ | h
        · exact ⟨_, List.mem_cons_self, List.mem_reverse.mpr hc⟩
        · obtain ⟨run, hrun, hc⟩ := ih (.inr (hrest h))
          exact ⟨run, List.mem_cons_of_mem _ hrun, hc⟩
    · rw [if_neg hd]
      refine ih ?_
      rcases h with ⟨hc, -⟩ | ⟨hc, hsep⟩
      · exact .inl ⟨List.mem_cons_of_mem _ hc, rfl⟩
      · rcases List.mem_cons.mp hc with rfl | hc
        · exact .inl ⟨List.mem_cons_self, rfl⟩
        · exact .inr ⟨hc, hsep⟩

/-- Every other character is in some run. -/
theorem exists_mem_runs {cs : List Char} {c : Char} (hc : c ∈ cs) (hsep : isSep c = false) :
    ∃ run ∈ runs isSep cs, c ∈ run := by
  obtain ⟨run, hrun, hmem⟩ : ∃ run ∈ piecesFrom isSep [] false cs, c ∈ run :=
    exists_mem_piecesFrom (.inr ⟨hc, hsep⟩)
  refine ⟨run, List.mem_filter.mpr ⟨hrun, ?_⟩, hmem⟩
  simpa using List.ne_nil_of_mem hmem

/-- Whether a text has a run: a part without separators, between separators or the ends of the
text. -/
def IsRun (isSep : Char → Bool) (run cs : List Char) : Prop :=
  ∃ before after, cs = before ++ run ++ after ∧ run ≠ [] ∧ (∀ c ∈ run, isSep c = false) ∧
    (∀ c ∈ before.getLast?, isSep c = true) ∧ ∀ c ∈ after.head?, isSep c = true

theorem mem_runs_of_isRun {run cs : List Char} (h : IsRun isSep run cs) : run ∈ runs isSep cs := by
  obtain ⟨before, after, rfl, hne, hrun, hbefore, hafter⟩ := h
  have hmem : run ∈ runs isSep (run ++ after) := by
    rw [runs_append_eq_cons hrun hne hafter]
    exact List.mem_cons_self
  rcases List.eq_nil_or_concat before with rfl | ⟨front, c, rfl⟩
  · exact hmem
  · rw [List.concat_eq_append] at hbefore ⊢
    rw [List.append_assoc, List.append_assoc, List.singleton_append,
      runs_append_sep (hbefore c List.getLast?_concat)]
    exact List.mem_append_right _ hmem

theorem isRun_of_mem_runs {run cs : List Char} (h : run ∈ runs isSep cs) : IsRun isSep run cs := by
  rcases separators_or_run isSep cs with hseps | ⟨before, first, rest, rfl, hshape⟩
  · rw [runs_eq_nil hseps] at h
    cases h
  obtain ⟨hbefore, hne, hfirst, hrest⟩ := hshape
  rw [List.append_assoc, runs_append hbefore, runs_append_eq_cons hfirst hne hrest] at h
  rcases List.mem_cons.mp h with rfl | h
  · exact ⟨before, rest, rfl, hne, hfirst, fun c hc => hbefore c (List.mem_of_getLast? hc), hrest⟩
  · have hshorter : rest.length < (before ++ first ++ rest).length := by
      have := List.length_pos_iff.mpr hne
      simp only [List.length_append]
      omega
    obtain ⟨before', after, rfl, hne', hrun, hbefore', hafter⟩ := isRun_of_mem_runs h
    have hparts : before ++ first ++ (before' ++ run ++ after) =
        before ++ first ++ before' ++ run ++ after := by simp only [List.append_assoc]
    refine ⟨before ++ first ++ before', after, hparts, hne', hrun, ?_, hafter⟩
    rcases List.eq_nil_or_concat before' with rfl | ⟨front, c, rfl⟩
    · -- the run would stand right behind the first one
      obtain ⟨d, ds, rfl⟩ := List.exists_cons_of_ne_nil hne'
      cases (hrun d List.mem_cons_self).symm.trans (hrest d rfl)
    · rw [List.concat_eq_append] at hbefore' ⊢
      intro d hd
      refine hbefore' d ?_
      simpa [← List.append_assoc] using hd
termination_by cs.length

/-- **The runs of a text.** -/
theorem mem_runs_iff {run cs : List Char} : run ∈ runs isSep cs ↔ IsRun isSep run cs :=
  ⟨isRun_of_mem_runs, mem_runs_of_isRun⟩

/-! ## Words -/

/-- The printable characters of ASCII are not blank, but for the space. -/
theorem isBlank_eq_false_of_printable {c : Char} (hlow : 0x21 ≤ c.toNat) (hhigh : c.toNat ≤ 0x7E) :
    isBlank c = false := by
  simp only [isBlank, inRanges, blankRanges, List.any_cons, List.any_nil, Bool.or_false,
    Bool.or_eq_false_iff, Bool.and_eq_false_iff, decide_eq_false_iff_not]
  omega

/-- The text before the first blank is the first word. -/
theorem words_append_cons {word : String} {cs : List Char} {c : Char}
    (hword : ∀ c ∈ word.toList, isBlank c = false) (hne : word ≠ "") (hc : isBlank c = true) :
    words (String.ofList (word.toList ++ c :: cs)) = word :: words (String.ofList cs) := by
  have hne' : word.toList ≠ [] := mt String.toList_eq_nil_iff.mp hne
  rw [words, String.toList_ofList, runs_append_cons hword hne' hc, List.map_cons,
    String.ofList_toList, words, String.toList_ofList]

/-- No word holds a blank. -/
theorem not_isBlank_of_mem_words {s word : String} (h : word ∈ words s) :
    ∀ c ∈ word.toList, isBlank c = false := by
  rw [words, List.mem_map] at h
  obtain ⟨run, hrun, rfl⟩ := h
  rw [String.toList_ofList]
  exact not_isSep_of_mem_runs hrun

/-- A text with another character than blanks has words. -/
theorem words_ne_nil {s : String} {c : Char} (hc : c ∈ s.toList) (hblank : isBlank c = false) :
    words s ≠ [] := by
  obtain ⟨run, hrun, -⟩ := exists_mem_runs hc hblank
  exact List.ne_nil_of_mem (List.mem_map_of_mem hrun)

theorem words_eq_nil_iff {s : String} : words s = [] ↔ ∀ c ∈ s.toList, isBlank c = true := by
  constructor
  · intro h c hc
    by_contra hblank
    exact words_ne_nil hc (Bool.eq_false_iff.mpr hblank) h
  · intro h
    rw [words, runs_eq_nil h, List.map_nil]

/-- **Words.** The first word of a text stands behind some blanks, and a blank or nothing is behind
it; the other words are those of the rest. -/
theorem words_eq_cons_iff {s word : String} {others : List String} :
    words s = word :: others ↔
      ∃ before rest, s = before ++ word ++ rest ∧ (∀ c ∈ before.toList, isBlank c = true) ∧
        word ≠ "" ∧ (∀ c ∈ word.toList, isBlank c = false) ∧
        (∀ c ∈ rest.toList.head?, isBlank c = true) ∧ words rest = others := by
  have hwords {before word rest : List Char} (hbefore : ∀ c ∈ before, isBlank c = true)
      (hne : word ≠ []) (hword : ∀ c ∈ word, isBlank c = false)
      (hrest : ∀ c ∈ rest.head?, isBlank c = true) :
      words (String.ofList (before ++ word ++ rest)) =
        String.ofList word :: words (String.ofList rest) := by
    rw [words, String.toList_ofList, List.append_assoc, runs_append hbefore,
      runs_append_eq_cons hword hne hrest, List.map_cons, words, String.toList_ofList]
  constructor
  · intro h
    rcases separators_or_run isBlank s.toList with hblank | ⟨before, run, rest, hs, hshape⟩
    · rw [words_eq_nil_iff.mpr hblank] at h
      cases h
    · obtain ⟨hbefore, hne, hrun, hrest⟩ := hshape
      have hs' : s = String.ofList (before ++ run ++ rest) := by rw [← hs, String.ofList_toList]
      rw [hs', hwords hbefore hne hrun hrest] at h
      cases h
      refine ⟨String.ofList before, String.ofList rest, ?_, ?_, ?_, ?_, ?_, rfl⟩
      · rw [hs', String.ofList_append, String.ofList_append]
      · rwa [String.toList_ofList]
      · intro hempty
        exact hne (by simpa using congrArg String.toList hempty)
      · rwa [String.toList_ofList]
      · rwa [String.toList_ofList]
  · rintro ⟨before, rest, rfl, hbefore, hne, hword, hrest, rfl⟩
    have hne' : word.toList ≠ [] := mt String.toList_eq_nil_iff.mp hne
    have h := hwords hbefore hne' hword hrest
    simpa only [← String.toList_append, String.ofList_toList] using h

/-! ## Ends of lines -/

theorem unixNewlinesFrom_append {done front rest : List Char} (h : '\r' ∉ front) :
    unixNewlinesFrom done (front ++ rest) = unixNewlinesFrom (front.reverse ++ done) rest := by
  induction front generalizing done with
  | nil => rfl
  | cons c cs ih =>
    obtain ⟨hc, hcs⟩ := not_or.mp (mt List.mem_cons.mpr h)
    rw [List.cons_append, unixNewlinesFrom, if_neg (Ne.symm hc), ih hcs, List.reverse_cons,
      List.append_assoc]
    · rfl
    · rintro rest' rfl -
      exact hc rfl

theorem unixNewlinesFrom_eq_append (done cs : List Char) :
    unixNewlinesFrom done cs = done.reverse ++ unixNewlinesFrom [] cs := by
  suffices h : ∀ front, unixNewlinesFrom (front ++ done) cs =
      done.reverse ++ unixNewlinesFrom front cs from h []
  intro front
  fun_induction unixNewlinesFrom front cs with
  | case1 front => rw [unixNewlinesFrom, List.reverse_append]
  | case2 front rest ih => rw [unixNewlinesFrom, ← ih, List.cons_append]
  | case3 front c rest hnot ih => rw [unixNewlinesFrom, ← ih, List.cons_append]; exact hnot

/-- A text before the first carriage return is kept. -/
theorem unixLines_append {front rest : List Char} (h : '\r' ∉ front) :
    unixLines (String.ofList (front ++ rest)) =
      String.ofList (front ++ (unixLines (String.ofList rest)).toList) := by
  simp only [unixLines, String.toList_ofList]
  rw [unixNewlinesFrom_append h, unixNewlinesFrom_eq_append, List.append_nil, List.reverse_reverse]

/-- So is a text without one. -/
theorem unixLines_of_not_mem {s : String} (h : '\r' ∉ s.toList) : unixLines s = s := by
  have hlines : unixNewlinesFrom [] (s.toList ++ []) = _ := unixNewlinesFrom_append h
  rw [List.append_nil] at hlines
  rw [unixLines, hlines, unixNewlinesFrom, List.append_nil, List.reverse_reverse,
    String.ofList_toList]

/-- A character that ends no line is kept. -/
theorem mem_unixLines {s : String} {c : Char} (hc : c ∈ s.toList) (hreturn : c ≠ '\r')
    (hfeed : c ≠ '\n') : c ∈ (unixLines s).toList := by
  rw [unixLines, String.toList_ofList]
  suffices h : ∀ done cs, c ∈ done ∨ c ∈ cs → c ∈ unixNewlinesFrom done cs from h _ _ (.inr hc)
  intro done cs
  fun_induction unixNewlinesFrom done cs with
  | case1 done =>
    intro h
    simpa using h
  | case2 done rest ih =>
    intro h
    refine ih ?_
    simpa [hreturn, hfeed] using h
  | case3 done d rest hnot ih =>
    intro h
    refine ih ?_
    rcases h with h | h
    · exact .inl (List.mem_cons_of_mem _ h)
    · rcases List.mem_cons.mp h with rfl | h
      · rw [if_neg hreturn]
        exact .inl List.mem_cons_self
      · exact .inr h

/-- Ends of lines are blank in every form. -/
theorem words_unixLines (s : String) : words (unixLines s) = words s := by
  suffices h : ∀ done cs,
      runs isBlank (unixNewlinesFrom done cs) = runs isBlank (done.reverse ++ cs) by
    rw [words, unixLines, String.toList_ofList, h, words]
    rfl
  intro done cs
  fun_induction unixNewlinesFrom done cs with
  | case1 done => rw [List.append_nil]
  | case2 done rest ih =>
    have hskip : runs isBlank ([] ++ '\n' :: rest) = runs isBlank [] ++ runs isBlank rest :=
      runs_append_sep (by decide)
    rw [ih, List.reverse_cons, List.append_assoc, List.singleton_append,
      runs_append_sep (by decide), runs_append_sep (by decide)]
    exact congrArg _ hskip.symm
  | case3 done c rest hnot ih =>
    rw [ih, List.reverse_cons, List.append_assoc, List.singleton_append]
    by_cases hreturn : c = '\r'
    · rw [if_pos hreturn, hreturn, runs_append_sep (by decide), runs_append_sep (by decide)]
    · rw [if_neg hreturn]

/-! ## Beginnings and endings -/

theorem afterPrefix?_eq_some_iff {start cs rest : List Char} :
    afterPrefix? start cs = some rest ↔ cs = start ++ rest := by
  rw [afterPrefix?]
  constructor
  · intro h
    split at h
    · next hbegins =>
      obtain ⟨tail, rfl⟩ := List.isPrefixOf_iff_prefix.mp hbegins
      rw [List.drop_left] at h
      rw [Option.some.inj h]
    · cases h
  · rintro rfl
    rw [if_pos (by simp), List.drop_left]

theorem afterPrefix?_eq_none_iff {start cs : List Char} :
    afterPrefix? start cs = none ↔ ¬ start <+: cs := by
  rw [Option.eq_none_iff_forall_ne_some]
  refine ⟨fun h ⟨rest, hrest⟩ => h rest (afterPrefix?_eq_some_iff.mpr hrest.symm), ?_⟩
  exact fun h rest hrest => h ⟨rest, (afterPrefix?_eq_some_iff.mp hrest).symm⟩

/-- A beginning is one of what is taken as long as its characters are. -/
theorem prefix_takeWhile_iff {p : Char → Bool} {front cs : List Char} :
    front <+: cs.takeWhile p ↔ front <+: cs ∧ ∀ c ∈ front, p c = true := by
  constructor
  · intro h
    exact ⟨h.trans (List.takeWhile_prefix p), fun c hc => List.mem_takeWhile_imp (h.subset hc)⟩
  · rintro ⟨⟨rest, rfl⟩, hall⟩
    rw [List.takeWhile_append_of_pos hall]
    exact List.prefix_append _ _

/-- An ending is taken off again. -/
theorem dropEnd_append (s stop : String) : dropEnd (s ++ stop) stop = s := by
  rw [dropEnd, String.toList_append, List.reverse_append, afterPrefix?,
    if_pos (by simp), List.drop_left' rfl]
  simp

/-- So is a beginning. -/
theorem dropStart_append (start s : String) : dropStart (start ++ s) start = s := by
  rw [dropStart, String.toList_append, afterPrefix?, if_pos (by simp), List.drop_left]
  exact String.ofList_toList

/-- A text keeps what it does not begin with. -/
theorem eq_append_or_dropStart_eq (s start : String) :
    s = start ++ dropStart s start ∨ dropStart s start = s := by
  rw [dropStart]
  split
  · next rest hrest =>
    refine .inl (String.toList_injective ?_)
    rw [String.toList_append, String.toList_ofList, ← afterPrefix?_eq_some_iff.mp hrest]
  · exact .inr rfl

/-! ## Letters -/

/-- Characters of ASCII are lowered one by one. -/
theorem lower_of_ascii {s : String} (h : ∀ c ∈ s.toList, c.toNat < 128) :
    lower s = String.ofList (s.toList.map Char.toLower) := by
  suffices hfrom : ∀ before done cs, (∀ c ∈ cs, c.toNat < 128) →
      lowerFrom before done cs = done.reverse ++ cs.map Char.toLower by
    rw [lower, hfrom [] [] _ h, List.reverse_nil, List.nil_append]
  intro before done cs
  induction cs generalizing before done with
  | nil =>
    intro
    rw [lowerFrom, List.map_nil, List.append_nil]
  | cons c cs ih =>
    intro hcs
    obtain ⟨hascii, hrest⟩ := List.forall_mem_cons.mp hcs
    have hsigma : c ≠ 'Σ' := by
      rintro rfl
      exact absurd hascii (by decide)
    rw [lowerFrom]
    simp only [if_neg hsigma, lowerChar, if_pos hascii]
    rw [ih _ _ hrest, List.reverse_append, List.append_assoc]
    rfl

theorem toLower_of_not_capital {c : Char} (h : ¬ (0x41 ≤ c.toNat ∧ c.toNat ≤ 0x5A)) :
    c.toLower = c :=
  dif_neg h

theorem toNat_toLower_of_capital {c : Char} (h : 0x41 ≤ c.toNat ∧ c.toNat ≤ 0x5A) :
    c.toLower.toNat = c.toNat + 0x20 := by
  have hlower : c.toLower = _ := dif_pos h
  have hcode : (c.val + ('a'.val - 'A'.val)).toNat = c.toNat + 0x20 := by
    rw [UInt32.toNat_add]
    exact Nat.mod_eq_of_lt (show c.toNat + 0x20 < 2 ^ 32 by omega)
  rw [hlower]
  exact hcode

/-- A text without capitals, all in ASCII, is its own lower-case form. -/
theorem lower_of_forall {s : String} (h : ∀ c ∈ s.toList, c.toNat < 128 ∧ c.toLower = c) :
    lower s = s := by
  rw [lower_of_ascii fun c hc => (h c hc).1, List.map_congr_left fun c hc => (h c hc).2,
    List.map_id', String.ofList_toList]

end Shipyard.Text
