import Shipyard.Data.Document
import Shipyard.Proofs.Data.Extent

/-!
# What a JSON text is refused for

A reader takes characters from the beginning of a text and leaves the rest. So what it refuses as
too large was in the text: the digits of a huge integer stand there in a row, and each list and each
table around the innermost one was opened there.
-/

namespace Shipyard.Json

open Text

variable {α : Type} {depth : Nat} {cs ds : List Char}

/-! ## Cursors -/

theorem Cursor.next_suffix (c : Cursor) : c.next.rest <:+ c.rest := List.drop_suffix 1 c.rest

theorem Cursor.skip_suffix (c : Cursor) (n : Nat) : (c.skip n).rest <:+ c.rest :=
  List.drop_suffix n c.rest

theorem Cursor.skipSpace_suffix (c : Cursor) : c.skipSpace.rest <:+ c.rest :=
  List.dropWhile_suffix Cursor.isSpace

/-! ## Answers -/

/-- The limits of JSON. -/
def limits : Limits Fault where
  isDigit := isAsciiDigit
  maxDigits := maxDigits
  maxDepth := maxDepth
  excess
    | .malformed _ _ => .none
    | .hugeInteger n => .digits n
    | .tooDeep _ => .depth

/-- Whether the answer of a reader fits the text at its cursor. -/
abbrev Fits (depth : Nat) (cs : List Char) (r : Except Fault (α × Cursor)) : Prop :=
  limits.Fits (fun a => a.2.rest) depth cs r

theorem fits_refuse (c : Cursor) (reason : Reason) :
    Fits depth cs (c.refuse reason : Except Fault (α × Cursor)) := trivial

/-! ## Strings and numbers -/

theorem fits_readUnicodeEscape (depth : Nat) (c : Cursor) :
    Fits depth c.rest (readUnicodeEscape c) := by
  unfold readUnicodeEscape
  dsimp only
  split
  · exact fits_refuse c _
  split
  · exact fits_refuse c _
  split
  · split
    · split
      · exact fits_refuse _ _
      · split
        · exact (Cursor.skip_suffix _ 6).trans (c.skip_suffix 5)
        · exact c.skip_suffix 5
    · exact c.skip_suffix 5
  · exact c.skip_suffix 5

theorem fits_readString (depth opening fuel : Nat) (done : List Char) (c : Cursor) :
    Fits depth c.rest (readString opening fuel done c) := by
  induction fuel generalizing done c with
  | zero => trivial
  | succ fuel ih =>
    rw [readString]
    split
    · trivial
    · exact c.next_suffix
    · trivial
    · have hescape := fits_readUnicodeEscape depth c.next
      rcases hread : readUnicodeEscape c.next with fault | ⟨ch, after⟩
      · rw [hread] at hescape
        exact Limits.Explains.of_suffix hescape c.next_suffix
      · rw [hread] at hescape
        exact (ih _ after).of_suffix (List.IsSuffix.trans hescape c.next_suffix)
    · split
      · exact (ih _ _).of_suffix (c.skip_suffix 2)
      · exact fits_refuse c _
    · split
      · exact fits_refuse c _
      · exact (ih _ _).of_suffix c.next_suffix

theorem fits_readDigits (depth : Nat) (start : Cursor) (negative : Bool) (c : Cursor) :
    Fits depth c.rest (readDigits start negative c) := by
  unfold readDigits
  extract_lets whole behindWhole fraction behind
  have hwhole : whole <+: c.rest ∧ ∀ d ∈ whole, isAsciiDigit d = true := by
    dsimp only [whole]
    split
    · next h => exact ⟨h ▸ List.prefix_append ['0'] _, List.forall_mem_singleton.mpr rfl⟩
    · exact ⟨List.takeWhile_prefix _, fun d hd => List.all_eq_true.mp List.all_takeWhile d hd⟩
  have hbehind : behind.rest <:+ c.rest := by
    dsimp only [behind]
    split
    · exact c.skip_suffix _
    · exact (Cursor.skip_suffix _ _).trans (c.skip_suffix _)
  clear_value whole behind fraction
  split
  · exact fits_refuse start _
  split
  · split
    · next hhuge => exact And.intro hhuge (hasRun_of_beginning hwhole.1 hwhole.2)
    · exact hbehind
  · rcases exponentOf? behind.rest with _ | ⟨down, digits, length⟩
    · exact hbehind
    · exact (behind.skip_suffix length).trans hbehind

theorem fits_readScalar (depth : Nat) (c : Cursor) : Fits depth c.rest (readScalar c) := by
  unfold readScalar
  split
  · exact c.skip_suffix _
  unfold readNumber
  split
  · split
    · exact c.skip_suffix 9
    · exact (fits_readDigits depth c true c.next).of_suffix c.next_suffix
  · exact fits_readDigits depth c false c

/-! ## Values -/

/-- The text behind an opening and the white space that follows it. -/
theorem Cursor.inside_suffix {c : Cursor} {first : Char} {rest : List Char}
    (h : c.rest = first :: rest) : c.next.skipSpace.rest <:+ rest := by
  have hnext : c.next.rest = rest := by
    rw [Cursor.next, h]
    rfl
  exact hnext ▸ c.next.skipSpace_suffix

/-- Whether the readers of values fit with the given fuel. -/
structure AllFit (fuel : Nat) : Prop where
  value : ∀ depth c, Fits depth c.rest (readValue fuel depth c)
  items : ∀ depth done c, Fits depth c.rest (readItems fuel depth done c)
  fields : ∀ depth done c, Fits depth c.rest (readFields fuel depth done c)

namespace AllFit

variable {fuel : Nat}

theorem readValue (h : AllFit fuel) (depth : Nat) (c : Cursor) :
    Fits depth c.rest (readValue (fuel + 1) depth c) := by
  rw [Json.readValue]
  split
  · have hstring := fits_readString depth c.position c.rest.length [] c.next
    rcases hread : readString c.position c.rest.length [] c.next with fault | ⟨s, after⟩
    · rw [hread] at hstring
      exact Limits.Explains.of_suffix hstring c.next_suffix
    · rw [hread] at hstring
      exact List.IsSuffix.trans hstring c.next_suffix
  · next rest hrest =>
    have hinside := Cursor.inside_suffix hrest
    rw [hrest]
    split
    · next hdeep => exact Limits.fits_tooDeep rfl hdeep rfl
    -- inside of a bracket one more may be open
    refine Limits.Fits.of_inside ?_ rfl
    dsimp only
    split
    · exact (Cursor.next_suffix _).trans hinside
    · exact (h.items (depth + 1) [] _).of_suffix hinside
  · next rest hrest =>
    have hinside := Cursor.inside_suffix hrest
    rw [hrest]
    split
    · next hdeep => exact Limits.fits_tooDeep rfl hdeep rfl
    refine Limits.Fits.of_inside ?_ rfl
    dsimp only
    split
    · exact (Cursor.next_suffix _).trans hinside
    · exact (h.fields (depth + 1) [] _).of_suffix hinside
  · exact fits_readScalar depth c

theorem readItems (h : AllFit fuel) (depth : Nat) (done : List Value) (c : Cursor) :
    Fits depth c.rest (readItems (fuel + 1) depth done c) := by
  rw [Json.readItems]
  have hvalue := h.value depth c
  rcases hread : Json.readValue fuel depth c with fault | ⟨v, after⟩
  · rw [hread] at hvalue
    exact hvalue
  rw [hread] at hvalue
  have hafter : after.skipSpace.rest <:+ c.rest := after.skipSpace_suffix.trans hvalue
  dsimp only
  split
  · exact (Cursor.next_suffix _).trans hafter
  · refine (h.items depth (v :: done) _).of_suffix ?_
    exact ((Cursor.skipSpace_suffix _).trans (Cursor.next_suffix _)).trans hafter
  · exact fits_refuse _ _

theorem readFields (h : AllFit fuel) (depth : Nat) (done : Table) (c : Cursor) :
    Fits depth c.rest (readFields (fuel + 1) depth done c) := by
  rw [Json.readFields]
  split
  case h_2 => exact fits_refuse c _
  have hstring := fits_readString depth c.position c.rest.length [] c.next
  rcases hread : readString c.position c.rest.length [] c.next with fault | ⟨key, afterKey⟩
  · rw [hread] at hstring
    exact Limits.Explains.of_suffix hstring c.next_suffix
  rw [hread] at hstring
  have hkey : afterKey.skipSpace.rest <:+ c.rest :=
    (afterKey.skipSpace_suffix.trans hstring).trans c.next_suffix
  dsimp only
  split
  case h_2 => exact fits_refuse _ _
  have hcolon : afterKey.skipSpace.next.skipSpace.rest <:+ c.rest :=
    ((Cursor.skipSpace_suffix _).trans (Cursor.next_suffix _)).trans hkey
  have hvalue := h.value depth afterKey.skipSpace.next.skipSpace
  rcases hread : Json.readValue fuel depth afterKey.skipSpace.next.skipSpace with
    fault | ⟨v, after⟩
  · rw [hread] at hvalue
    exact Limits.Explains.of_suffix hvalue hcolon
  rw [hread] at hvalue
  have hafter : after.skipSpace.rest <:+ c.rest :=
    (after.skipSpace_suffix.trans hvalue).trans hcolon
  dsimp only
  split
  · exact (Cursor.next_suffix _).trans hafter
  · refine (h.fields depth _ _).of_suffix ?_
    exact ((Cursor.skipSpace_suffix _).trans (Cursor.next_suffix _)).trans hafter
  · exact fits_refuse _ _

end AllFit

/-- The readers of values fit the text, whatever it is. -/
theorem allFit (fuel : Nat) : AllFit fuel := by
  induction fuel with
  | zero => exact ⟨fun _ _ => trivial, fun _ _ _ => trivial, fun _ _ _ => trivial⟩
  | succ fuel ih => exact ⟨ih.readValue, ih.readItems, ih.readFields⟩

/-! ## Documents -/

/-- **A refusal has its reason in the text**: more digits in a row than are converted, or more
openings than may be nested. -/
theorem explains_of_read {s : String} {fault : Fault} (h : read s = .error fault) :
    limits.Explains 0 s.toList fault := by
  unfold read at h
  dsimp only at h
  split at h
  · cases h
    trivial
  have hvalue := (allFit (2 * s.toList.length + 2)).value 0 (Cursor.skipSpace ⟨0, s.toList⟩)
  rcases hread : readValue (2 * s.toList.length + 2) 0 (Cursor.skipSpace ⟨0, s.toList⟩) with
    fault' | ⟨v, after⟩
  · rw [hread] at h hvalue
    cases h
    exact Limits.Explains.of_suffix hvalue (Cursor.skipSpace_suffix ⟨0, s.toList⟩)
  · rw [hread] at h
    dsimp only [bind, Except.bind] at h
    split at h
    · cases h
    · cases h
      trivial

theorem kept_unixLines {s : String} (h : limits.Kept s.toList) :
    limits.Kept (unixLines s).toList := by
  rw [unixLines, String.toList_ofList]
  refine ⟨fun hrun => h.short (hasRun_of_unixNewlinesFrom rfl hrun), ?_⟩
  rw [openings_unixNewlinesFrom]
  exact Nat.le_trans (Nat.le_of_eq (Nat.zero_add _)) h.shallow

/-- Of a text that keeps the limits the value is known, or what is wrong with it. -/
theorem exists_ofJson_eq_ok {s : String} (h : limits.Kept s.toList) :
    ∃ answer, Value.ofJson s = .ok answer := by
  unfold Value.ofJson
  rcases hread : read s with fault | v
  · have hexcess := h.excess (explains_of_read hread)
    cases fault with
    | malformed reason position => exact ⟨_, rfl⟩
    | hugeInteger n => cases hexcess
    | tooDeep innermost => cases hexcess
  · exact ⟨_, rfl⟩

end Shipyard.Json
