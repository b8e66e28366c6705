import Shipyard.Proofs.Text.Words
import Shipyard.Text.CharClass

/-!
# The size of a document

Readers of documents refuse two things that are no errors of syntax: an integer with too many digits
and a nesting that is too deep. Both can be seen from the text alone: a number is a run of
characters, and each list and each table has a character that opens it.
-/

namespace Shipyard.Text

variable {isKind : Char → Bool} {n depth : Nat} {cs ds : List Char}

/-! ## Openings -/

/-- The characters that open a list or a table. -/
def isOpening (c : Char) : Bool := c = '[' || c = '\x7b'

/-- How many lists and tables a text may open. -/
def openings (cs : List Char) : Nat := cs.countP isOpening

theorem openings_le (h : cs <:+ ds) : openings cs ≤ openings ds := h.sublist.countP_le

theorem openings_cons {c : Char} (h : isOpening c = true) : openings (c :: cs) = openings cs + 1 :=
  List.countP_cons_of_pos h

/-! ## Runs -/

/-- Whether a text has a number of characters of one kind in a row. -/
def HasRun (isKind : Char → Bool) (n : Nat) (cs : List Char) : Prop :=
  ∃ run, run <:+: cs ∧ (∀ c ∈ run, isKind c = true) ∧ n ≤ run.length

theorem HasRun.of_suffix (h : HasRun isKind n cs) (hsuffix : cs <:+ ds) : HasRun isKind n ds := by
  obtain ⟨run, hrun, hkind, hlength⟩ := h
  exact ⟨run, hrun.trans hsuffix.isInfix, hkind, hlength⟩

theorem hasRun_of_beginning {run : List Char} (h : run <+: cs)
    (hkind : ∀ c ∈ run, isKind c = true) : HasRun isKind run.length cs :=
  ⟨run, h.isInfix, hkind, Nat.le_refl _⟩

/-- A beginning of a text without its first character is empty. -/
theorem eq_nil_of_prefix_cons {c : Char} {run : List Char} (h : run <+: c :: cs) (hc : c ∉ run) :
    run = [] := by
  rcases run with _ | ⟨d, run⟩
  · rfl
  · exact absurd ((List.cons_prefix_cons.mp h).1 ▸ List.mem_cons_self) hc

/-- A run does not go on over a character of another kind, so it is still there when something else
stands in the place of that character. -/
theorem HasRun.replace {c : Char} {es : List Char} (h : HasRun isKind n (cs ++ c :: ds))
    (hc : isKind c = false) (hsuffix : ds <:+ es) : HasRun isKind n (cs ++ es) := by
  obtain ⟨run, hrun, hkind, hlength⟩ := h
  have hnot : ∀ part : List Char, (∀ d ∈ part, d ∈ run) → c ∉ part := fun part hpart hmem =>
    Bool.false_ne_true (hc.symm.trans (hkind c (hpart c hmem)))
  have hleft := (List.prefix_append cs es).isInfix
  have hright := (hsuffix.trans (List.suffix_append cs es)).isInfix
  rcases List.infix_append_iff.mp hrun with hinfix | hinfix | ⟨front, back, rfl, hfront, hback⟩
  · exact ⟨run, hinfix.trans hleft, hkind, hlength⟩
  · rcases List.infix_cons_iff.mp hinfix with hprefix | hinfix
    · obtain rfl := eq_nil_of_prefix_cons hprefix (hnot run fun _ hd => hd)
      exact ⟨[], List.nil_infix, hkind, hlength⟩
    · exact ⟨run, hinfix.trans hright, hkind, hlength⟩
  · obtain rfl := eq_nil_of_prefix_cons hback
      (hnot back fun _ hd => List.mem_append_right front hd)
    rw [List.append_nil] at hkind hlength
    exact ⟨front, hfront.isInfix.trans hleft, hkind, hlength⟩

/-! ## Ends of lines -/

/-- A text has no run that it has not with its own ends of lines. -/
theorem hasRun_of_unixNewlinesFrom {done : List Char} (hline : isKind '\n' = false)
    (h : HasRun isKind n (unixNewlinesFrom done cs)) : HasRun isKind n (done.reverse ++ cs) := by
  fun_induction unixNewlinesFrom done cs with
  | case1 done => rwa [List.append_nil]
  | case2 done rest ih =>
    have hrun := ih h
    rw [List.reverse_cons, List.append_assoc, List.singleton_append] at hrun
    exact hrun.replace hline (List.suffix_append ['\r', '\n'] rest)
  | case3 done c rest _ ih =>
    have hrun := ih h
    rw [List.reverse_cons, List.append_assoc, List.singleton_append] at hrun
    split at hrun
    · exact hrun.replace hline (List.suffix_cons c rest)
    · exact hrun

theorem openings_unixNewlinesFrom (done cs : List Char) :
    openings (unixNewlinesFrom done cs) = openings done + openings cs := by
  fun_induction unixNewlinesFrom done cs with
  | case1 done => simp [openings]
  | case2 done rest ih =>
    rw [ih]
    simp [openings, isOpening]
  | case3 done c rest _ ih =>
    have hopening : isOpening (if c = '\r' then '\n' else c) = isOpening c := by
      split
      · next hc =>
        rw [hc]
        rfl
      · rfl
    rw [ih]
    simp only [openings, List.countP_cons, hopening]
    omega

/-! ## Limits -/

/-- What a reader can find too large. -/
inductive Excess where
  /-- nothing -/
  | none
  /-- a number with so many digits -/
  | digits (n : Nat)
  /-- one more list or table inside the others -/
  | depth

/-- The limits of a format with the refusals of its reader. -/
structure Limits (ε : Type) where
  /-- the characters that a number is made of -/
  isDigit : Char → Bool
  /-- the most digits of a number -/
  maxDigits : Nat
  /-- the deepest nesting of lists and tables -/
  maxDepth : Nat
  /-- what a refusal finds too large -/
  excess : ε → Excess

namespace Limits

variable {ε α β : Type} {limits : Limits ε} {rest : α → List Char}

/-- Whether a text explains what a reader inside `depth` lists and tables refuses. -/
def Explains (limits : Limits ε) (depth : Nat) (cs : List Char) (fault : ε) : Prop :=
  match limits.excess fault with
  | .none => True
  | .digits n => limits.maxDigits < n ∧ HasRun limits.isDigit n cs
  | .depth => limits.maxDepth < depth + openings cs

/-- Whether the answer of a reader fits the text it has read: an end of the text is left, or the
text explains the refusal. -/
def Fits (limits : Limits ε) (rest : α → List Char) (depth : Nat) (cs : List Char) :
    Except ε α → Prop
  | .ok a => rest a <:+ cs
  | .error fault => limits.Explains depth cs fault

theorem Explains.of_suffix {fault : ε} (h : limits.Explains depth cs fault) (hsuffix : cs <:+ ds) :
    limits.Explains depth ds fault := by
  unfold Explains at h ⊢
  split at h
  · trivial
  · exact ⟨h.1, h.2.of_suffix hsuffix⟩
  · exact Nat.lt_of_lt_of_le h (Nat.add_le_add_left (openings_le hsuffix) depth)

/-- Inside one more list or table there is one opening more. -/
theorem Explains.of_inside {fault : ε} {c : Char} (h : limits.Explains (depth + 1) cs fault)
    (hopening : isOpening c = true) : limits.Explains depth (c :: cs) fault := by
  unfold Explains at h ⊢
  split at h
  · trivial
  · exact ⟨h.1, h.2.of_suffix (List.suffix_cons c cs)⟩
  · rw [openings_cons hopening]
    omega

theorem Fits.of_suffix {r : Except ε α} (h : limits.Fits rest depth cs r) (hsuffix : cs <:+ ds) :
    limits.Fits rest depth ds r := by
  rcases r with fault | a
  · exact Explains.of_suffix h hsuffix
  · exact List.IsSuffix.trans h hsuffix

theorem Fits.of_inside {r : Except ε α} {c : Char} (h : limits.Fits rest (depth + 1) cs r)
    (hopening : isOpening c = true) : limits.Fits rest depth (c :: cs) r := by
  rcases r with fault | a
  · exact Explains.of_inside h hopening
  · exact List.IsSuffix.trans h (List.suffix_cons c cs)

theorem Fits.map {r : Except ε α} {f : α → β} {rest' : β → List Char}
    (h : limits.Fits rest depth cs r) (hf : ∀ a, rest' (f a) <:+ rest a) :
    limits.Fits rest' depth cs (r.map f) := by
  rcases r with fault | a
  · exact h
  · exact (hf a).trans h

/-- The opening that is one too many explains a refusal. -/
theorem fits_tooDeep {fault : ε} {c : Char} (hexcess : limits.excess fault = .depth)
    (hdeep : limits.maxDepth ≤ depth) (hopening : isOpening c = true) :
    limits.Fits rest depth (c :: cs) (.error fault) := by
  show limits.Explains depth (c :: cs) fault
  unfold Explains
  rw [hexcess, openings_cons hopening]
  show limits.maxDepth < depth + (openings cs + 1)
  omega

/-- Whether a text keeps the limits: no number has too many digits, and there are not too many
openings. -/
structure Kept (limits : Limits ε) (cs : List Char) : Prop where
  short : ¬ HasRun limits.isDigit (limits.maxDigits + 1) cs
  shallow : openings cs ≤ limits.maxDepth

/-- In a text that keeps the limits nothing is too large. -/
theorem Kept.excess {fault : ε} (h : limits.Kept cs) (hexplains : limits.Explains 0 cs fault) :
    limits.excess fault = .none := by
  unfold Explains at hexplains
  split at hexplains
  · assumption
  · obtain ⟨hhuge, run, hinfix, hdigits, hlength⟩ := hexplains
    exact absurd ⟨run, hinfix, hdigits, Nat.le_trans hhuge hlength⟩ h.short
  · have := h.shallow
    omega

end Limits

end Shipyard.Text
