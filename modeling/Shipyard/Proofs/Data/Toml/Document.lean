import Shipyard.Data.Document
import Shipyard.Proofs.Data.Toml.Scalar

/-!
# What a TOML text is refused for

As with JSON, what is refused as too large was in the text: the digits of a huge integer, and an
opening for each list and each inline table around the innermost one. A text that keeps the limits
is read, or it is no TOML (`exists_ofToml_eq_ok`).
-/

namespace Shipyard.Toml

open Text

variable (depth : Nat) {cs : List Char}

/-! ## Values -/

theorem fits_skipFiller (fuel : Nat) (cs : List Char) :
    limits.Fits id depth cs (skipFiller fuel cs) := by
  induction fuel generalizing cs with
  | zero => exact List.suffix_rfl
  | succ fuel ih =>
    have hdrop := List.dropWhile_suffix (l := cs) fun c => isSpace c || c = '\n'
    unfold skipFiller
    split
    · next rest heq =>
      rw [heq] at hdrop
      dsimp only
      split
      · trivial
      · exact (ih _).of_suffix ((List.dropWhile_suffix _).trans (suffix_of_cons hdrop))
    · exact hdrop

theorem fits_skipFillers (cs : List Char) : limits.Fits id depth cs (skipFillers cs) :=
  fits_skipFiller depth _ cs

/-- Whether the readers of values fit with the given fuel. -/
structure AllFit (fuel : Nat) : Prop where
  value : ∀ depth cs, Fits depth cs (readValue fuel depth cs)
  items : ∀ depth done cs, Fits depth cs (readItems fuel depth done cs)
  fields : ∀ depth frozen done cs, Fits depth cs (readInline fuel depth frozen done cs)

namespace AllFit

variable {fuel : Nat}

theorem readValue (h : AllFit fuel) (depth : Nat) (cs : List Char) :
    Fits depth cs (readValue (fuel + 1) depth cs) := by
  unfold Toml.readValue
  split
  · exact fits_map (fits_readString depth _) fun _ => List.suffix_rfl
  · exact fits_map (fits_readString depth _) fun _ => List.suffix_rfl
  · next rest =>
    split
    · next hdeep => exact Limits.fits_tooDeep rfl hdeep rfl
    refine Limits.Fits.of_inside ?_ rfl
    have hfillers := fits_skipFillers (depth + 1) rest
    generalize skipFillers rest = answer at hfillers ⊢
    split
    · exact hfillers
    · exact suffix_of_cons hfillers
    · next inner _ => exact (h.items (depth + 1) [] inner).of_suffix hfillers
  · next rest =>
    split
    · next hdeep => exact Limits.fits_tooDeep rfl hdeep rfl
    refine Limits.Fits.of_inside ?_ rfl
    have hspace := skipSpace_suffix rest
    split
    · next after heq =>
      rw [heq] at hspace
      exact suffix_of_cons hspace
    · exact (h.fields (depth + 1) [] [] _).of_suffix hspace
  · exact fits_readScalar depth cs

theorem readItems (h : AllFit fuel) (depth : Nat) (done : List Value) (cs : List Char) :
    Fits depth cs (readItems (fuel + 1) depth done cs) := by
  unfold Toml.readItems
  have hvalue := h.value depth cs
  generalize Toml.readValue fuel depth cs = answer at hvalue ⊢
  rcases answer with fault | ⟨v, after⟩
  · exact hvalue
  dsimp only
  have hfillers := (fits_skipFillers depth after).of_suffix hvalue
  generalize skipFillers after = answer at hfillers ⊢
  split
  · exact hfillers
  · exact suffix_of_cons hfillers
  · next rest =>
    have hmore := (fits_skipFillers depth rest).of_suffix (suffix_of_cons hfillers)
    generalize skipFillers rest = answer at hmore ⊢
    split
    · exact hmore
    · exact suffix_of_cons hmore
    · next inner _ => exact (h.items depth (v :: done) inner).of_suffix hmore
  · exact fits_refuse

theorem readInline (h : AllFit fuel) (depth : Nat) (frozen : List KeyPath) (done : Table)
    (cs : List Char) : Fits depth cs (readInline (fuel + 1) depth frozen done cs) := by
  unfold Toml.readInline
  have hkey := fits_readKey depth cs
  generalize readKey cs = answer at hkey ⊢
  split
  · exact hkey
  case h_3 => exact fits_refuse
  next key rest =>
  have hvalue := (h.value depth (skipSpace rest)).of_suffix
    ((skipSpace_suffix rest).trans (suffix_of_cons hkey))
  generalize Toml.readValue fuel depth (skipSpace rest) = answer at hvalue ⊢
  rcases answer with fault | ⟨v, after⟩
  · exact hvalue
  dsimp only
  split
  · exact fits_refuse
  have hspace : skipSpace after <:+ cs := (skipSpace_suffix after).trans hvalue
  split
  · next rest heq =>
    rw [heq] at hspace
    exact suffix_of_cons hspace
  · next rest heq =>
    rw [heq] at hspace
    exact (h.fields depth _ _ _).of_suffix ((skipSpace_suffix rest).trans (suffix_of_cons hspace))
  · exact fits_refuse

end AllFit

/-- The readers of values fit the text, whatever it is. -/
theorem allFit (fuel : Nat) : AllFit fuel := by
  induction fuel with
  | zero => exact ⟨fun _ _ => trivial, fun _ _ _ => trivial, fun _ _ _ _ => trivial⟩
  | succ fuel ih => exact ⟨ih.readValue, ih.readItems, ih.readInline⟩

/-! ## Documents -/

theorem fits_readHeader (d : Draft) (close : List Char) (enter : Draft → KeyPath → Option Draft)
    (cs : List Char) : Fits depth cs (readHeader d close enter cs) := by
  unfold readHeader
  have hkey := (fits_readKey depth (skipSpace cs)).of_suffix (skipSpace_suffix cs)
  generalize readKey (skipSpace cs) = answer at hkey ⊢
  rcases answer with fault | ⟨key, after⟩
  · exact hkey
  dsimp only
  split
  · exact fits_refuse
  split
  · exact (List.drop_suffix _ after).trans hkey
  · exact fits_refuse

theorem fits_readAssignment (d : Draft) (cs : List Char) : Fits 0 cs (readAssignment d cs) := by
  unfold readAssignment
  have hkey := fits_readKey 0 cs
  generalize readKey cs = answer at hkey ⊢
  split
  · exact hkey
  case h_3 => exact fits_refuse
  next key rest =>
  have hvalue := ((allFit (2 * cs.length + 2)).value 0 (skipSpace rest)).of_suffix
    ((skipSpace_suffix rest).trans (suffix_of_cons hkey))
  generalize readValue (2 * cs.length + 2) 0 (skipSpace rest) = answer at hvalue ⊢
  rcases answer with fault | ⟨v, after⟩
  · exact hvalue
  dsimp only
  split
  · exact fits_refuse
  · exact hvalue

theorem fits_readStatement (d : Draft) (cs : List Char) : Fits 0 cs (readStatement d cs) := by
  unfold readStatement
  split
  · exact List.suffix_rfl
  · next rest =>
    exact (fits_readHeader 0 d _ _ rest).of_suffix (List.suffix_append ['[', '['] rest)
  · next rest _ => exact (fits_readHeader 0 d _ _ rest).of_suffix (List.suffix_cons _ rest)
  · split
    · exact List.suffix_rfl
    split
    · exact fits_readAssignment d _
    · exact fits_refuse

theorem fits_finishLine (cs : List Char) : limits.Fits id depth cs (finishLine cs) := by
  fun_cases finishLine cs with
  | case1 => trivial
  | case2 => exact List.nil_suffix
  | case3 after comment _ rest hcomment =>
    have hafter : after <:+ cs := skipSpace_suffix cs
    clear_value after
    refine List.IsSuffix.trans ?_ hafter
    split at hcomment
    · next behind =>
      have hrest : '\n' :: rest <:+ behind :=
        (Prod.mk.inj hcomment).2 ▸ List.dropWhile_suffix (· ≠ '\n')
      exact (suffix_of_cons hrest).trans (List.suffix_cons '#' behind)
    · exact (Prod.mk.inj hcomment).2 ▸ List.suffix_cons '\n' rest
  | case4 => trivial

theorem explains_of_readLines {fuel : Nat} {d : Draft} {fault : Fault}
    (h : readLines fuel d cs = .error fault) : limits.Explains 0 cs fault := by
  induction fuel generalizing d cs with
  | zero =>
    cases h
    trivial
  | succ fuel ih =>
    unfold readLines at h
    have hspace := skipSpace_suffix cs
    split at h
    · cases h
    have hstatement := (fits_readStatement d (skipSpace cs)).of_suffix hspace
    generalize readStatement d (skipSpace cs) = answer at hstatement h
    rcases answer with fault' | ⟨d', after⟩
    · cases h
      exact hstatement
    dsimp only at h
    have hline := (fits_finishLine 0 after).of_suffix hstatement
    generalize finishLine after = answer at hline h
    rcases answer with fault' | rest
    · cases h
      exact hline
    · exact (ih h).of_suffix hline

/-- A text has no run that it has not before the carriage returns are dropped. -/
theorem hasRun_of_dropReturns {n : Nat} {done : List Char}
    (h : HasRun isDigitOrMark n (dropReturns done cs)) :
    HasRun isDigitOrMark n (done.reverse ++ cs) := by
  fun_induction dropReturns done cs with
  | case1 done => rwa [List.append_nil]
  | case2 done rest ih =>
    have hrun := ih h
    rw [List.reverse_cons, List.append_assoc, List.singleton_append] at hrun
    exact hrun.replace rfl (List.suffix_append ['\r', '\n'] rest)
  | case3 done c rest _ ih =>
    have hrun := ih h
    rwa [List.reverse_cons, List.append_assoc, List.singleton_append] at hrun

theorem openings_dropReturns (done cs : List Char) :
    openings (dropReturns done cs) = openings done + openings cs := by
  fun_induction dropReturns done cs with
  | case1 done => simp [openings]
  | case2 done rest ih =>
    rw [ih]
    simp [openings, isOpening]
  | case3 done c rest _ ih =>
    rw [ih]
    simp only [openings, List.countP_cons]
    omega

theorem kept_dropReturns (h : limits.Kept cs) : limits.Kept (dropReturns [] cs) where
  short hrun := h.short (hasRun_of_dropReturns hrun)
  shallow := by
    rw [openings_dropReturns]
    exact Nat.le_trans (Nat.le_of_eq (Nat.zero_add _)) h.shallow

/-- Of a text that keeps the limits the table is known, or it is no TOML. -/
theorem exists_ofToml_eq_ok {s : String} (h : limits.Kept s.toList) :
    ∃ answer, Table.ofToml s = .ok answer := by
  unfold Table.ofToml
  rcases hread : read s with fault | t
  · have hexcess := (kept_dropReturns h).excess (explains_of_readLines hread)
    cases fault with
    | malformed => exact ⟨_, rfl⟩
    | hugeInteger n => cases hexcess
    | tooDeep => cases hexcess
  · exact ⟨_, rfl⟩

end Shipyard.Toml
