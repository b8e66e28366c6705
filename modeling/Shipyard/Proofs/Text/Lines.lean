import Shipyard.Proofs.Text.Case
import Shipyard.Text.ShellWord

/-!
# Lines of a text

A text is unbroken if none of its characters ends a line. Whatever is put together from unbroken
texts is unbroken. Every text is made of lines in exactly one way (`MadeOf`), so unbroken texts, one
below the other, are cut into themselves again (`lines_intercalate`).
-/

namespace Shipyard.Text

variable {s t : String}

/-- Whether no character of a text ends a line. -/
def Unbroken (s : String) : Prop := ∀ c ∈ s.toList, isLineBreak c = false

instance (s : String) : Decidable (Unbroken s) := List.decidableBAll _ s.toList

/-! ## Unbroken texts -/

@[simp] theorem unbroken_append : Unbroken (s ++ t) ↔ Unbroken s ∧ Unbroken t := by
  simp only [Unbroken, String.toList_append, List.forall_mem_append]

theorem unbroken_ofList {cs : List Char} (h : ∀ c ∈ cs, isLineBreak c = false) :
    Unbroken (String.ofList cs) := by
  rwa [Unbroken, String.toList_ofList]

theorem unbroken_intercalate {texts : List String} (hs : Unbroken s)
    (h : ∀ t ∈ texts, Unbroken t) : Unbroken (String.intercalate s texts) := by
  induction texts with
  | nil => exact nofun
  | cons t texts ih =>
    obtain ⟨ht, htexts⟩ := List.forall_mem_cons.mp h
    by_cases hne : texts = []
    · rwa [hne, String.intercalate_singleton]
    · rw [String.intercalate_cons_of_ne_nil hne, unbroken_append, unbroken_append]
      exact ⟨⟨ht, hs⟩, ih htexts⟩

/-- The printable characters of ASCII end no line. -/
theorem isLineBreak_eq_false {c : Char} (hlow : 0x1F ≤ c.toNat) (hhigh : c.toNat ≤ 0x7E) :
    isLineBreak c = false := by
  simp only [isLineBreak, List.mem_cons, List.not_mem_nil, or_false, decide_eq_false_iff_not]
  omega

theorem unbroken_natToString (n : Nat) : Unbroken (toString n) := by
  rw [Nat.toString_eq_ofList_toDigits]
  refine unbroken_ofList fun c hc => ?_
  have hdigit := Nat.isDigit_of_mem_toDigits (by decide) (by decide) hc
  simp only [Char.isDigit, Bool.and_eq_true, decide_eq_true_eq] at hdigit
  have hlow : 48 ≤ c.toNat := hdigit.1
  have hhigh : c.toNat ≤ 57 := hdigit.2
  exact isLineBreak_eq_false (by omega) (by omega)

theorem unbroken_intToString (i : Int) : Unbroken (toString i) := by
  cases i with
  | ofNat n => exact unbroken_natToString n
  | negSucc n => exact unbroken_append.mpr ⟨by decide, unbroken_natToString (n + 1)⟩

/-- Quotes of a shell end no line. -/
theorem unbroken_quote (h : Unbroken s) : Unbroken (ShellWord.quote s) := by
  refine unbroken_ofList fun c hc => ?_
  rw [ShellWord.quoteChars] at hc
  split at hc
  · simp only [List.mem_cons, List.not_mem_nil, or_false, or_self] at hc
    rw [hc]
    decide
  · split at hc
    · exact h c hc
    · rw [List.cons_append, List.mem_cons, List.mem_append, ShellWord.quotedBody, List.mem_flatMap,
        List.mem_singleton] at hc
      rcases hc with rfl | ⟨d, hd, hc⟩ | rfl
      · decide
      · split at hc
        · simp only [List.mem_cons, List.not_mem_nil, or_false] at hc
          rcases hc with rfl | rfl | rfl | rfl | rfl
          all_goals decide
        · rw [List.mem_singleton.mp hc]
          exact h d hd
      · decide

/-! ## Lower case -/

theorem isLineBreak_eq (c : Char) :
    isLineBreak c =
      inRanges [(0xA, 0xD), (0x1C, 0x1E), (0x85, 0x85), (0x2028, 0x2029)] c.toNat := by
  rw [Bool.eq_iff_iff, isLineBreak, decide_eq_true_eq, inRanges_eq_true_iff]
  simp only [List.mem_cons, List.not_mem_nil, or_false, exists_eq_or_imp, exists_eq_left]
  omega

/-- Lowering brings no end of a line. -/
theorem isLineBreak_lowerChar {c d : Char} (hd : isLineBreak d = false) (h : c ∈ lowerChar d) :
    isLineBreak c = false := by
  rw [isLineBreak_eq] at hd ⊢
  exact not_inRanges_of_mem_lowerChar (by decide) (by decide +kernel) rfl hd h

theorem unbroken_lower (h : Unbroken s) : Unbroken (lower s) := by
  intro c hc
  rcases mem_lower hc with ⟨d, hd, hc⟩ | rfl | rfl
  · exact isLineBreak_lowerChar (h d hd) hc
  · decide
  · decide

/-! ## Lines -/

theorem linesFrom_append {line front rest : List Char} (h : ∀ c ∈ front, isLineBreak c = false) :
    linesFrom line (front ++ rest) = linesFrom (front.reverse ++ line) rest := by
  induction front generalizing line with
  | nil => rfl
  | cons c front ih =>
    obtain ⟨hc, hfront⟩ := List.forall_mem_cons.mp h
    -- a carriage return would end the line together with what follows
    have hreturn : c ≠ '\r' := by
      rintro rfl
      exact absurd hc (by decide)
    rw [List.cons_append, linesFrom, if_neg (Bool.eq_false_iff.mp hc), ih hfront, List.reverse_cons,
      List.append_assoc]
    · rfl
    · rintro rest' rfl -
      exact hreturn rfl

/-- An end of a line in front of a text: a carriage return with its line feed, or any other
character that ends a line. -/
inductive EndsLine : List Char → List Char → Prop
  /-- the two belong together -/
  | pair {rest : List Char} : EndsLine ['\r', '\n'] rest
  /-- the character alone -/
  | single {c : Char} {rest : List Char} : isLineBreak c = true →
      ¬(c = '\r' ∧ rest.head? = some '\n') → EndsLine [c] rest

/-- Whether a text is made of lines, each with its end. Only the last line may have none, and there
is something in it then. -/
inductive MadeOf : List Char → List (List Char) → Prop
  /-- no lines -/
  | nil : MadeOf [] []
  /-- a line without an end -/
  | last {line : List Char} : line ≠ [] → (∀ c ∈ line, isLineBreak c = false) →
      MadeOf line [line]
  /-- a line with its end, and the lines behind it -/
  | ended {line ending rest : List Char} {lines : List (List Char)} :
      (∀ c ∈ line, isLineBreak c = false) → EndsLine ending rest → MadeOf rest lines →
      MadeOf (line ++ (ending ++ rest)) (line :: lines)

theorem madeOf_linesFrom {line : List Char} (cs : List Char)
    (h : ∀ c ∈ line, isLineBreak c = false) :
    MadeOf (line.reverse ++ cs) (linesFrom line cs) := by
  have hline : ∀ c ∈ line.reverse, isLineBreak c = false :=
    fun c hc => h c (List.mem_reverse.mp hc)
  fun_induction linesFrom line cs with
  | case1 line hempty =>
    rw [List.isEmpty_iff.mp hempty]
    exact .nil
  | case2 line hempty =>
    rw [List.append_nil]
    exact .last (by simpa using hempty) hline
  | case3 line rest ih => exact .ended hline .pair (ih nofun nofun)
  | case4 line c rest hpair hbreak ih =>
    have hends : EndsLine [c] rest := by
      refine .single hbreak ?_
      rintro ⟨rfl, hnext⟩
      obtain ⟨rest', rfl⟩ := List.head?_eq_some_iff.mp hnext
      exact hpair rest' rfl rfl
    exact .ended hline hends (ih nofun nofun)
  | case5 line c rest hpair hbreak ih =>
    -- the line grows by a character that does not end it
    have hcons : ∀ d ∈ c :: line, isLineBreak d = false :=
      List.forall_mem_cons.mpr ⟨Bool.eq_false_iff.mpr hbreak, h⟩
    have hlonger := ih hcons fun d hd => hcons d (List.mem_reverse.mp hd)
    rwa [List.reverse_cons, List.append_assoc] at hlonger

/-- There is only one way to cut a text into lines. -/
theorem MadeOf.linesFrom_eq {cs : List Char} {lines : List (List Char)} (h : MadeOf cs lines) :
    linesFrom [] cs = lines := by
  induction h with
  | nil => rfl
  | @last line hne hline =>
    have hlines : linesFrom [] (line ++ []) = linesFrom (line.reverse ++ []) [] :=
      linesFrom_append hline
    rw [List.append_nil, List.append_nil, linesFrom, if_neg (by simpa using hne),
      List.reverse_reverse] at hlines
    exact hlines
  | @ended line ending rest lines hline hends _ ih =>
    rw [linesFrom_append hline, List.append_nil]
    cases hends with
    | pair => rw [List.cons_append, List.cons_append, List.nil_append, linesFrom, ih,
        List.reverse_reverse]
    | single hbreak hpair =>
      rw [List.cons_append, List.nil_append, linesFrom, if_pos hbreak, ih, List.reverse_reverse]
      rintro rest' rfl rfl
      exact hpair ⟨rfl, rfl⟩

/-- No line has an end of a line in it. -/
theorem MadeOf.unbroken {cs : List Char} {lines : List (List Char)} (h : MadeOf cs lines) :
    ∀ line ∈ lines, ∀ c ∈ line, isLineBreak c = false := by
  induction h with
  | nil => exact List.forall_mem_nil _
  | last _ hline => exact List.forall_mem_singleton.mpr hline
  | ended hline _ _ ih => exact List.forall_mem_cons.mpr ⟨hline, ih⟩

theorem EndsLine.getLast? {ending rest : List Char} (h : EndsLine ending rest) :
    ∃ c, ending.getLast? = some c ∧ isLineBreak c = true := by
  cases h with
  | pair => exact ⟨'\n', rfl, by decide⟩
  | single hbreak => exact ⟨_, rfl, hbreak⟩

theorem MadeOf.eq_nil_iff {cs : List Char} {lines : List (List Char)} (h : MadeOf cs lines) :
    lines = [] ↔ cs = [] := by
  cases h with
  | nil => exact ⟨fun _ => rfl, fun _ => rfl⟩
  | last hne => simp [hne]
  | ended _ hends => cases hends <;> simp

/-- The last line of a text is not empty if the text does not end with an end of a line. -/
theorem MadeOf.getLast?_ne_nil {cs line : List Char} {lines : List (List Char)}
    (h : MadeOf cs lines) (hend : ∀ c, cs.getLast? = some c → isLineBreak c = false)
    (hlast : lines.getLast? = some line) : line ≠ [] := by
  induction h with
  | nil => cases hlast
  | last hne =>
    obtain rfl := Option.some.inj hlast
    exact hne
  | @ended first ending rest lines hline hends hrest ih =>
    obtain ⟨c, hc, hbreak⟩ := hends.getLast?
    by_cases hnil : rest = []
    · -- the text would end with the end of this line
      rw [hnil, List.append_nil, List.getLast?_append, hc] at hend
      have hnone : isLineBreak c = false := hend c rfl
      rw [hbreak] at hnone
      cases hnone
    · have hlines : lines ≠ [] := mt hrest.eq_nil_iff.mp hnil
      rw [List.getLast?_cons_of_ne_nil hlines] at hlast
      refine ih (fun d hd => hend d ?_) hlast
      rw [List.getLast?_append, List.getLast?_append, hd]
      rfl

/-! ## Lines again -/

theorem map_toList_lines (s : String) : (lines s).map String.toList = linesFrom [] s.toList := by
  rw [lines, List.map_map]
  exact (List.map_congr_left fun cs _ => String.toList_ofList).trans (List.map_id _)

/-- **Lines.** A text is made of its lines. -/
theorem madeOf_lines (s : String) : MadeOf s.toList ((lines s).map String.toList) := by
  rw [map_toList_lines]
  exact madeOf_linesFrom s.toList (List.forall_mem_nil _)

theorem MadeOf.lines_eq {texts : List String} (h : MadeOf s.toList (texts.map String.toList)) :
    lines s = texts := by
  rw [lines, h.linesFrom_eq, List.map_map]
  exact (List.map_congr_left fun t _ => String.ofList_toList).trans (List.map_id _)

/-- An unbroken text is its only line. -/
theorem lines_eq_singleton (h : Unbroken s) (hne : s ≠ "") : lines s = [s] :=
  (MadeOf.last (mt String.toList_eq_nil_iff.mp hne) h).lines_eq

theorem unbroken_of_mem_lines (h : t ∈ lines s) : Unbroken t :=
  (madeOf_lines s).unbroken _ (List.mem_map_of_mem h)

theorem lines_eq_nil_iff : lines s = [] ↔ s = "" := by
  rw [← List.map_eq_nil_iff (f := String.toList), (madeOf_lines s).eq_nil_iff,
    String.toList_eq_nil_iff]

theorem ne_empty_of_getLast?_lines
    (hend : ∀ c, s.toList.getLast? = some c → isLineBreak c = false)
    (h : (lines s).getLast? = some t) : t ≠ "" := by
  have hlast : ((lines s).map String.toList).getLast? = some t.toList := by
    rw [List.getLast?_map, h]
    rfl
  exact mt String.toList_eq_nil_iff.mpr ((madeOf_lines s).getLast?_ne_nil hend hlast)

theorem madeOf_intercalate {texts : List String} (h : ∀ s ∈ texts, Unbroken s)
    (hlast : ∀ s, texts.getLast? = some s → s ≠ "") :
    MadeOf (String.intercalate "\n" texts).toList (texts.map String.toList) := by
  induction texts with
  | nil => exact .nil
  | cons s texts ih =>
    obtain ⟨hs, htexts⟩ := List.forall_mem_cons.mp h
    rcases texts with _ | ⟨t, texts⟩
    · rw [String.intercalate_singleton]
      exact .last (mt String.toList_eq_nil_iff.mp (hlast s rfl)) hs
    · rw [String.intercalate_cons_cons, String.toList_append, String.toList_append,
        List.append_assoc]
      exact .ended hs (.single (by decide) (fun hreturn => absurd hreturn.1 (by decide)))
        (ih htexts hlast)

/-- Every end of a line is blank. -/
theorem isBlank_of_isLineBreak {c : Char} (h : isLineBreak c = true) : isBlank c = true := by
  rw [isLineBreak_eq, inRanges_eq_true_iff] at h
  rw [isBlank, inRanges_eq_true_iff]
  simp only [blankRanges, List.mem_cons, List.not_mem_nil, or_false, exists_eq_or_imp,
    exists_eq_left] at h ⊢
  omega

theorem isLineBreak_of_isBlank {c : Char} (h : isBlank c = false) : isLineBreak c = false := by
  rw [Bool.eq_false_iff]
  intro hbreak
  rw [isBlank_of_isLineBreak hbreak] at h
  cases h

/-- There is something in the last line of a stripped text. -/
theorem ne_empty_of_getLast?_lines_strip (h : (lines (strip s)).getLast? = some t) : t ≠ "" :=
  ne_empty_of_getLast?_lines
    (fun _ hlast => isLineBreak_of_isBlank (isBlank_of_getLast?_strip hlast)) h

/-- Unbroken texts that are put one below the other are the lines again if there is something in
the last one. -/
theorem lines_intercalate_of_getLast? {texts : List String} (h : ∀ s ∈ texts, Unbroken s)
    (hlast : ∀ s, texts.getLast? = some s → s ≠ "") :
    lines (String.intercalate "\n" texts) = texts :=
  (madeOf_intercalate h hlast).lines_eq

/-- Unbroken texts that are put one below the other are the lines again. -/
theorem lines_intercalate {texts : List String} (h : ∀ s ∈ texts, Unbroken s ∧ s ≠ "") :
    lines (String.intercalate "\n" texts) = texts :=
  lines_intercalate_of_getLast? (fun s hs => (h s hs).1)
    fun s hs => (h s (List.mem_of_getLast? hs)).2

end Shipyard.Text
