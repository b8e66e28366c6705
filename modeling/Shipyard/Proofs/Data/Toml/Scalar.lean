import Shipyard.Data.Toml.Document
import Shipyard.Proofs.Data.Extent

/-!
# What is left behind a scalar of TOML

Each reader takes characters from the beginning of a text and leaves the rest. The only scalar that
is refused as too large is an integer, and its digits stand in the text in a row, at most with
underscores between them.
-/

namespace Shipyard.Toml

open Text

variable {α β : Type} (depth : Nat) {cs ds : List Char}

/-! ## Answers -/

/-- The characters of a decimal number. -/
def isDigitOrMark (c : Char) : Bool := isAsciiDigit c || c = '_'

/-- The limits of TOML. -/
def limits : Limits Fault where
  isDigit := isDigitOrMark
  maxDigits := Json.maxDigits
  maxDepth := maxDepth
  excess
    | .malformed => .none
    | .hugeInteger n => .digits n
    | .tooDeep => .depth

/-- Whether the answer of a reader fits the text it has read. -/
abbrev Fits (depth : Nat) (cs : List Char) (r : Reading α) : Prop :=
  limits.Fits Prod.snd depth cs r

variable {depth} in
theorem fits_refuse : Fits depth cs (refuse : Reading α) := trivial

variable {depth} in
theorem fits_map {r : Reading α} {f : α × List Char → β × List Char} (h : Fits depth cs r)
    (hf : ∀ a, (f a).2 <:+ a.2) : Fits depth cs (r.map f) :=
  Limits.Fits.map h hf

theorem skipSpace_suffix (cs : List Char) : skipSpace cs <:+ cs := List.dropWhile_suffix isSpace

/-- What is left behind the first character of an end of a text. -/
theorem suffix_of_cons {c : Char} {rest : List Char} (h : c :: rest <:+ cs) : rest <:+ cs :=
  (List.suffix_cons c rest).trans h

/-! ## Strings -/

theorem fits_readCode (count : Nat) (cs : List Char) : Fits depth cs (readCode count cs) := by
  unfold readCode
  dsimp only
  split
  · exact fits_refuse
  split
  · exact fits_refuse
  · split
    · exact List.drop_suffix count cs
    · exact fits_refuse

theorem fits_readEscape (multiline : Bool) (cs : List Char) :
    Fits depth cs (readEscape multiline cs) := by
  unfold readEscape
  split
  · exact fits_refuse
  next c rest =>
  have hcons := List.suffix_cons c rest
  split
  · dsimp only
    generalize hspace : (if c = '\n' then c :: rest else skipSpace rest) = afterSpace
    have hafter : afterSpace <:+ c :: rest := by
      rw [← hspace]
      split
      · exact List.suffix_rfl
      · exact (skipSpace_suffix rest).trans hcons
    split
    · exact List.nil_suffix
    · exact (List.dropWhile_suffix _).trans (suffix_of_cons hafter)
    · exact fits_refuse
  split
  · exact Limits.Fits.of_suffix (fits_map (fits_readCode depth 4 rest) fun _ => List.suffix_rfl)
      hcons
  split
  · exact Limits.Fits.of_suffix (fits_map (fits_readCode depth 8 rest) fun _ => List.suffix_rfl)
      hcons
  split
  · exact fits_refuse
  split
  · exact hcons
  · exact fits_refuse

theorem fits_readBasic (multiline : Bool) (fuel : Nat) (done cs : List Char) :
    Fits depth cs (readBasic multiline fuel done cs) := by
  induction fuel generalizing done cs with
  | zero => exact fits_refuse
  | succ fuel ih =>
    unfold readBasic
    split
    · exact fits_refuse
    · next rest =>
      have hescape := fits_readEscape depth multiline rest
      generalize readEscape multiline rest = answer at hescape ⊢
      rcases answer with fault | ⟨_ | c, after⟩
      · exact Limits.Explains.of_suffix hescape (List.suffix_cons _ rest)
      · exact (ih _ after).of_suffix (List.IsSuffix.trans hescape (List.suffix_cons _ rest))
      · exact (ih _ after).of_suffix (List.IsSuffix.trans hescape (List.suffix_cons _ rest))
    · next rest =>
      split
      · exact List.suffix_cons _ rest
      split
      · next after => exact (List.suffix_append ['"', '"'] after).trans (List.suffix_cons _ _)
      · exact (ih _ rest).of_suffix (List.suffix_cons _ rest)
    · next rest _ _ =>
      split
      · exact fits_refuse
      · exact (ih _ rest).of_suffix (List.suffix_cons _ rest)

theorem fits_readLiteral (cs : List Char) : Fits depth cs (readLiteral cs) := by
  unfold readLiteral
  dsimp only
  have hdrop := List.dropWhile_suffix (l := cs) (· ≠ '\x27')
  split
  · exact fits_refuse
  · next after heq =>
    split
    · exact fits_refuse
    · rw [heq] at hdrop
      exact suffix_of_cons hdrop

theorem untilTripleQuote_suffix {done body after : List Char}
    (h : untilTripleQuote done cs = some (body, after)) : after <:+ cs := by
  fun_induction untilTripleQuote done cs with
  | case1 => cases h
  | case2 =>
    cases h
    exact List.suffix_append ['\x27', '\x27', '\x27'] _
  | case3 done c rest _ ih => exact (ih h).trans (List.suffix_cons c rest)

theorem extraQuotes_suffix (quote : Char) (body cs : List Char) :
    (extraQuotes quote body cs).2 <:+ cs := by
  unfold extraQuotes
  split
  · next a b rest =>
    split
    · exact List.suffix_append [a, b] rest
    split
    · exact List.suffix_cons a (b :: rest)
    · exact List.suffix_rfl
  · split
    · exact List.nil_suffix
    · exact List.suffix_rfl
  · exact List.suffix_rfl

theorem skipFirstNewline_suffix (cs : List Char) : skipFirstNewline cs <:+ cs := by
  unfold skipFirstNewline
  split
  · exact List.suffix_cons _ _
  · exact List.suffix_rfl

theorem fits_readString (cs : List Char) : Fits depth cs (readString cs) := by
  unfold readString
  split
  · next rest =>
    refine fits_map ?_ fun r => extraQuotes_suffix '"' r.1 r.2
    refine (fits_readBasic depth true _ [] _).of_suffix ((skipFirstNewline_suffix rest).trans ?_)
    exact List.suffix_append ['"', '"', '"'] rest
  · next rest _ => exact (fits_readBasic depth false _ [] rest).of_suffix (List.suffix_cons _ rest)
  · next rest =>
    split
    · exact fits_refuse
    · next body after heq =>
      split
      · exact fits_refuse
      · refine (extraQuotes_suffix _ _ after).trans ?_
        refine ((untilTripleQuote_suffix heq).trans (skipFirstNewline_suffix rest)).trans ?_
        exact List.suffix_append ['\x27', '\x27', '\x27'] rest
  · next rest _ => exact (fits_readLiteral depth rest).of_suffix (List.suffix_cons _ rest)
  · exact fits_refuse

/-! ## Keys -/

theorem fits_readKeyPart (cs : List Char) : Fits depth cs (readKeyPart cs) := by
  unfold readKeyPart
  split
  · next rest =>
    refine fits_map ?_ fun _ => List.suffix_rfl
    exact (fits_readBasic depth false _ [] rest).of_suffix (List.suffix_cons _ rest)
  · next rest =>
    refine fits_map ?_ fun _ => List.suffix_rfl
    exact (fits_readLiteral depth rest).of_suffix (List.suffix_cons _ rest)
  · dsimp only
    split
    · exact fits_refuse
    · exact List.dropWhile_suffix isBareKey

theorem fits_readKeyFrom (fuel : Nat) (done : List String) (cs : List Char) :
    Fits depth cs (readKeyFrom fuel done cs) := by
  induction fuel generalizing done cs with
  | zero => exact fits_refuse
  | succ fuel ih =>
    rw [readKeyFrom]
    have hpart := fits_readKeyPart depth cs
    generalize readKeyPart cs = answer at hpart ⊢
    rcases answer with fault | ⟨part, after⟩
    · exact hpart
    have hspace : skipSpace after <:+ cs := (skipSpace_suffix after).trans hpart
    dsimp only
    split
    · next rest heq =>
      rw [heq] at hspace
      exact (ih _ _).of_suffix ((skipSpace_suffix rest).trans (suffix_of_cons hspace))
    · exact hspace

theorem fits_readKey (cs : List Char) : Fits depth cs (readKey cs) :=
  fits_readKeyFrom depth _ [] cs

/-! ## Numbers, dates and times -/

/-- The digits of a number are taken from a run of digits and underscores. -/
theorem exists_run_of_digitsFrom (isDigit : Char → Bool) (done cs : List Char) :
    ∃ run, cs = run ++ (digitsFrom isDigit done cs).2 ∧
      (∀ c ∈ run, isDigit c = true ∨ c = '_') ∧
      (digitsFrom isDigit done cs).1.length ≤ done.length + run.length := by
  fun_induction digitsFrom isDigit done cs with
  | case1 done c rest hdigit ih =>
    obtain ⟨run, hrun, hkind, hlength⟩ := ih
    rw [Bool.and_eq_true] at hdigit
    refine ⟨'_' :: c :: run, ?_, ?_, ?_⟩
    · rw [List.cons_append, List.cons_append, ← hrun]
    · simp only [List.mem_cons, forall_eq_or_imp]
      exact ⟨.inr trivial, .inl hdigit.1, hkind⟩
    · simp only [List.length_cons] at hlength ⊢
      omega
  | case2 done c rest hdigit => exact ⟨[], rfl, nofun, by simp⟩
  | case3 done c rest _ hdigit ih =>
    obtain ⟨run, hrun, hkind, hlength⟩ := ih
    refine ⟨c :: run, ?_, ?_, ?_⟩
    · rw [List.cons_append, ← hrun]
    · simp only [List.mem_cons, forall_eq_or_imp]
      exact ⟨.inl hdigit, hkind⟩
    · simp only [List.length_cons] at hlength ⊢
      omega
  | case4 done c rest _ hdigit => exact ⟨[], rfl, nofun, by simp⟩
  | case5 done => exact ⟨[], rfl, nofun, by simp⟩

theorem digitsFrom_suffix (isDigit : Char → Bool) (done cs : List Char) :
    (digitsFrom isDigit done cs).2 <:+ cs := by
  obtain ⟨run, hrun, -, -⟩ := exists_run_of_digitsFrom isDigit done cs
  exact ⟨run, hrun.symm⟩

theorem readMarked?_suffix {n : Int} {after : List Char} (h : readMarked? cs = some (n, after)) :
    after <:+ cs := by
  unfold readMarked? at h
  split at h
  · next mark rest =>
    simp only [Option.ite_none_left_eq_some, Option.some.injEq, Prod.mk.injEq] at h
    rw [← h.2.2]
    exact (digitsFrom_suffix _ [] rest).trans (List.suffix_append ['0', mark] rest)
  · cases h

theorem digitsBehind_suffix {digits after : List Char}
    (h : digitsBehind cs = some (digits, after)) : after <:+ cs := by
  unfold digitsBehind at h
  dsimp only at h
  split at h
  · cases h
  · cases h
    exact digitsFrom_suffix _ [] cs

theorem twoDigits?_suffix {n : Nat} {after : List Char} (h : twoDigits? cs = some (n, after)) :
    after <:+ cs := by
  unfold twoDigits? at h
  split at h
  · next a b rest =>
    split at h
    · cases h
      exact List.suffix_append [a, b] after
    · cases h
  · cases h

theorem twoDigitsIn?_suffix {low high n : Nat} {after : List Char}
    (h : twoDigitsIn? low high cs = some (n, after)) : after <:+ cs := by
  rw [twoDigitsIn?, Option.filter_eq_some_iff] at h
  exact twoDigits?_suffix h.1

theorem behind?_suffix {c : Char} {after : List Char} (h : behind? c cs = some after) :
    after <:+ cs := by
  unfold behind? at h
  split at h
  · next d rest =>
    split at h
    · cases h
      exact List.suffix_cons d after
    · cases h
  · cases h

theorem behindTime?_suffix {after : List Char} (h : behindTime? cs = some after) :
    after <:+ cs := by
  simp only [behindTime?, Option.bind_eq_bind, Option.bind_eq_some_iff, Prod.exists] at h
  obtain ⟨_, cs₁, hhour, cs₂, hcolon, _, cs₃, hminute, cs₄, hcolon', _, cs₅, hsecond, h⟩ := h
  have hbehind : cs₅ <:+ cs :=
    ((((twoDigitsIn?_suffix hsecond).trans (behind?_suffix hcolon')).trans
      (twoDigitsIn?_suffix hminute)).trans (behind?_suffix hcolon)).trans
      (twoDigitsIn?_suffix hhour)
  split at h
  · next d more =>
    cases h
    split
    · exact ((List.dropWhile_suffix _).trans (List.suffix_append ['.', d] more)).trans hbehind
    · exact hbehind
  · cases h
    exact hbehind

/-- What an attempt leaves, or the text itself where it fails, is a rest of the text. -/
theorem getD_rest_suffix {rest? : Option (List Char)}
    (h : ∀ rest, rest? = some rest → rest <:+ cs) : rest?.getD cs <:+ cs := by
  cases rest? with
  | none => exact List.suffix_rfl
  | some rest => exact h rest rfl

theorem behindOffset_suffix (cs : List Char) : behindOffset cs <:+ cs := by
  unfold behindOffset
  split
  · next c rest =>
    split
    · exact List.suffix_cons c rest
    split
    · refine getD_rest_suffix fun more hmore => ?_
      simp only [Option.bind_eq_bind, Option.bind_eq_some_iff, Prod.exists] at hmore
      obtain ⟨_, cs₁, hhour, cs₂, hcolon, _, cs₃, hminute, hmore⟩ := hmore
      cases hmore
      exact (((twoDigitsIn?_suffix hminute).trans (behind?_suffix hcolon)).trans
        (twoDigitsIn?_suffix hhour)).trans (List.suffix_cons c rest)
    · exact List.suffix_rfl
  · exact List.suffix_rfl

theorem behindDate?_suffix {isDay : Bool} {after : List Char}
    (h : behindDate? cs = some (isDay, after)) : after <:+ cs := by
  simp only [behindDate?, Option.bind_eq_bind, Option.bind_eq_some_iff, Prod.exists] at h
  obtain ⟨_, cs₁, hcentury, _, cs₂, hofCentury, cs₃, hdash, _, cs₄, hmonth, cs₅, hdash', _, cs₆,
    hday, h⟩ := h
  have hbehind : cs₆ <:+ cs :=
    (((((twoDigitsIn?_suffix hday).trans (behind?_suffix hdash')).trans
      (twoDigitsIn?_suffix hmonth)).trans (behind?_suffix hdash)).trans
      (twoDigits?_suffix hofCentury)).trans (twoDigits?_suffix hcentury)
  split at h
  · next c rest =>
    split at h
    · split at h
      · next after' htime =>
        cases h
        exact ((((behindOffset_suffix after').trans (behindTime?_suffix htime))).trans
          (List.suffix_cons c rest)).trans hbehind
      · cases h
        exact hbehind
    · cases h
      exact hbehind
  · cases h
    exact hbehind

/-- The text behind a sign, if there is one. -/
theorem signed_suffix {negative : Bool} {body : List Char}
    (h : (match cs with
      | '+' :: rest => (false, rest)
      | '-' :: rest => (true, rest)
      | _ => (false, cs)) = (negative, body)) : body <:+ cs := by
  split at h
  · cases h
    exact List.suffix_cons _ body
  · cases h
    exact List.suffix_cons _ body
  · cases h
    exact List.suffix_rfl

/-- The digits in front of the point stand in the text in a row. -/
theorem hasRun_whole {whole rest : List Char}
    (h : (match cs with
      | '0' :: rest => (['0'], rest)
      | _ => digitsFrom isAsciiDigit [] cs) = (whole, rest)) :
    HasRun isDigitOrMark whole.length cs ∧ rest <:+ cs := by
  split at h
  · cases h
    have hzero : ∀ c ∈ ['0'], isDigitOrMark c = true := List.forall_mem_singleton.mpr rfl
    exact ⟨hasRun_of_beginning (List.prefix_append ['0'] rest) hzero, List.suffix_cons _ rest⟩
  · obtain ⟨run, hrun, hkind, hlength⟩ := exists_run_of_digitsFrom isAsciiDigit [] cs
    rw [h] at hrun hlength
    refine ⟨⟨run, hrun ▸ (List.prefix_append run rest).isInfix, fun c hc => ?_, ?_⟩, run, hrun.symm⟩
    · simpa [isDigitOrMark] using hkind c hc
    · simpa using hlength

/-- What is read if it is there leaves an end of the text in either case. -/
theorem getD_suffix {o : Option (α × List Char)} {fallback a : α} {after : List Char}
    (ho : ∀ r, o = some r → r.2 <:+ cs) (h : o.getD (fallback, cs) = (a, after)) :
    after <:+ cs := by
  rcases o with _ | r
  · cases h
    exact List.suffix_rfl
  · cases h
    exact ho _ rfl

theorem fraction_suffix {fraction after : List Char}
    (h : (match cs with
      | '.' :: more => digitsBehind more
      | _ => none).getD ([], cs) = (fraction, after)) : after <:+ cs := by
  refine getD_suffix (fun r hr => ?_) h
  split at hr
  · next more => exact (digitsBehind_suffix hr).trans (List.suffix_cons _ more)
  · cases hr

theorem fits_readDecimal? {r : Except Fault Value} {after : List Char} :
    readDecimal? cs = some (r, after) → Fits depth cs (r.map fun v => (v, after)) := by
  fun_cases readDecimal? cs with
  | case1 => exact nofun
  | case2 _ body hsigned whole _ hwhole _ _ _ _ _ hhuge =>
    rintro ⟨⟩
    exact And.intro hhuge ((hasRun_whole hwhole).1.of_suffix (signed_suffix hsigned))
  | case3 _ body hsigned whole _ hwhole _ _ _ _ _ _ _ hfraction =>
    rintro ⟨⟩
    exact ((fraction_suffix hfraction).trans (hasRun_whole hwhole).2).trans (signed_suffix hsigned)
  | case4 _ body hsigned whole rest hwhole _ _ _ behind hfraction exponent? _ _ hexponent =>
    rintro ⟨⟩
    have hbehind : behind <:+ cs :=
      ((fraction_suffix hfraction).trans (hasRun_whole hwhole).2).trans (signed_suffix hsigned)
    refine (getD_suffix (fun r hr => ?_) hexponent).trans hbehind
    dsimp only [exponent?] at hr
    split at hr
    case h_2 => cases hr
    next e more _ =>
    refine List.IsSuffix.trans ?_ (List.suffix_cons e more)
    split at hr
    case isFalse => cases hr
    split at hr
    all_goals obtain ⟨digits, hdigits, rfl⟩ := Option.map_eq_some_iff.mp hr
    · exact (digitsBehind_suffix hdigits).trans (List.suffix_cons _ _)
    · exact (digitsBehind_suffix hdigits).trans (List.suffix_cons _ _)
    · exact digitsBehind_suffix hdigits

theorem fits_readScalar (cs : List Char) : Fits depth cs (readScalar cs) := by
  unfold readScalar
  split
  · exact List.drop_suffix 4 cs
  split
  · exact List.drop_suffix 5 cs
  split
  · next hdate =>
    split
    · exact behindDate?_suffix hdate
    · exact fits_refuse
  split
  · next htime => exact behindTime?_suffix htime
  split
  · next hmarked => exact readMarked?_suffix hmarked
  split
  · next hdecimal => exact fits_readDecimal? depth hdecimal
  · next hdecimal => exact fits_readDecimal? depth hdecimal
  split
  · exact List.drop_suffix _ cs
  · exact fits_refuse

end Shipyard.Toml
