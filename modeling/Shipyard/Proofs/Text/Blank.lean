import Mathlib.Data.List.DropRight
import Shipyard.Data.Value
import Shipyard.Text.Blank

/-!
# Stripping

A stripped text has no blanks at its ends, so stripping it again changes nothing, and nothing is
left of a blank text. The text of a value is always stripped, and not empty.
-/

namespace Shipyard

namespace Text

theorem stripRight_eq_rdropWhile (cs : List Char) : stripRight cs = cs.rdropWhile isBlank := rfl

/-- Dropping the blanks at the end brings none to the beginning. -/
theorem stripLeft_stripBlanks (cs : List Char) : stripLeft (stripBlanks cs) = stripBlanks cs := by
  unfold stripBlanks
  have hleft : stripLeft (stripLeft cs) = stripLeft cs := List.dropWhile_idempotent _ _
  rw [stripLeft, List.dropWhile_eq_self_iff] at hleft
  rw [stripLeft, List.dropWhile_eq_self_iff, stripRight_eq_rdropWhile]
  intro hpos
  have hbegin : (stripLeft cs).rdropWhile isBlank <+: stripLeft cs := List.rdropWhile_prefix _ _
  rw [hbegin.getElem hpos]
  exact hleft (Nat.lt_of_lt_of_le hpos hbegin.length_le)

@[simp] theorem stripBlanks_stripBlanks (cs : List Char) :
    stripBlanks (stripBlanks cs) = stripBlanks cs := by
  rw [stripBlanks, stripLeft_stripBlanks, stripBlanks, stripRight_eq_rdropWhile,
    stripRight_eq_rdropWhile, List.rdropWhile_idempotent]

/-- **Stripping is idempotent.** -/
@[simp] theorem strip_strip (s : String) : strip (strip s) = strip s := by
  simp [strip]

theorem mem_dropWhile_isBlank {c : Char} {cs : List Char} (hc : isBlank c = false) :
    c ∈ cs.dropWhile isBlank ↔ c ∈ cs := by
  refine ⟨fun h => (List.dropWhile_sublist _).subset h, fun h => ?_⟩
  rw [← List.takeWhile_append_dropWhile (p := isBlank) (l := cs), List.mem_append] at h
  rcases h with h | h
  · rw [List.mem_takeWhile_imp h] at hc
    cases hc
  · exact h

/-- Stripping keeps what is not blank. -/
theorem mem_strip_iff {c : Char} {s : String} (hc : isBlank c = false) :
    c ∈ (strip s).toList ↔ c ∈ s.toList := by
  rw [strip, String.toList_ofList, stripBlanks, stripRight, List.mem_reverse,
    mem_dropWhile_isBlank hc, List.mem_reverse, stripLeft, mem_dropWhile_isBlank hc]

theorem stripLeft_eq_self {cs : List Char} (h : ∃ c, cs.head? = some c ∧ isBlank c = false) :
    stripLeft cs = cs := by
  obtain ⟨first, hhead, hfirst⟩ := h
  rw [stripLeft, List.dropWhile_eq_self_iff]
  intro hpos
  rw [List.head?_eq_getElem?, List.getElem?_eq_getElem hpos] at hhead
  rw [Option.some.inj hhead, hfirst]
  nofun

theorem stripRight_eq_self {cs : List Char} (h : ∃ c, cs.getLast? = some c ∧ isBlank c = false) :
    stripRight cs = cs := by
  obtain ⟨last, hend, hlast⟩ := h
  rw [stripRight_eq_rdropWhile, List.rdropWhile_eq_self_iff]
  intro hne
  rw [List.getLast?_eq_some_getLast hne] at hend
  rw [Option.some.inj hend, hlast]
  nofun

/-- A stripped text does not end with a blank. -/
theorem isBlank_of_getLast?_strip {c : Char} {s : String}
    (h : (strip s).toList.getLast? = some c) : isBlank c = false := by
  rw [strip, String.toList_ofList, stripBlanks, stripRight_eq_rdropWhile] at h
  have hne : (stripLeft s.toList).rdropWhile isBlank ≠ [] := fun hnil => by
    rw [hnil] at h
    cases h
  rw [List.getLast?_eq_some_getLast hne] at h
  obtain rfl := Option.some.inj h
  exact Bool.eq_false_iff.mpr (List.rdropWhile_last_not _ _ hne)

/-- Nothing is left of a blank text. -/
theorem strip_eq_empty_iff {s : String} : strip s = "" ↔ ∀ c ∈ s.toList, isBlank c = true := by
  rw [strip, String.ofList_eq_empty_iff, stripBlanks, stripRight_eq_rdropWhile,
    List.rdropWhile_eq_nil_iff, stripLeft]
  refine forall_congr' fun c => ?_
  rcases hc : isBlank c with _ | _
  · rw [mem_dropWhile_isBlank hc]
  · exact ⟨fun _ _ => rfl, fun _ _ => rfl⟩

/-- Of a text that ends with something unstripped, only the beginning is stripped. -/
theorem exists_strip_append {front tail : String}
    (hfirst : ∃ c, tail.toList.head? = some c ∧ isBlank c = false)
    (hlast : ∃ c, tail.toList.getLast? = some c ∧ isBlank c = false) :
    ∃ front', strip (front ++ tail) = front' ++ tail := by
  have hleft : ∃ cs, stripLeft (front.toList ++ tail.toList) = cs ++ tail.toList := by
    rw [stripLeft, List.dropWhile_append]
    split
    · exact ⟨[], stripLeft_eq_self hfirst⟩
    · exact ⟨_, rfl⟩
  obtain ⟨cs, hcs⟩ := hleft
  refine ⟨String.ofList cs, ?_⟩
  have hright : stripRight (cs ++ tail.toList) = cs ++ tail.toList := by
    obtain ⟨last, hend, hlast⟩ := hlast
    refine stripRight_eq_self ⟨last, ?_, hlast⟩
    rw [List.getLast?_append, hend]
    rfl
  rw [strip, String.toList_append, stripBlanks, hcs, hright, String.ofList_append,
    String.ofList_toList]

/-- No digit is blank. -/
theorem isBlank_of_isDecimalDigit {c : Char} (h : isDecimalDigit c = true) : isBlank c = false := by
  have hapart : ∀ first ∈ digitZeros, ∀ range ∈ blankRanges,
      first + 9 < range.1 ∨ range.2 < first := by decide
  simp only [isDecimalDigit, List.any_eq_true, Bool.and_eq_true, decide_eq_true_eq] at h
  obtain ⟨first, hfirst, hlow, hhigh⟩ := h
  rw [Bool.eq_false_iff]
  intro hblank
  obtain ⟨range, hrange, hbegin, hend⟩ := (inRanges_eq_true_iff _ _).mp hblank
  have := hapart first hfirst range hrange
  omega

end Text

theorem Value.asText?_eq_some_iff {v : Value} {s : String} :
    v.asText? = some s ↔ ∃ raw, v = .text raw ∧ Text.strip raw = s ∧ s ≠ "" := by
  cases v with
  | text raw =>
    simp only [asText?, text.injEq]
    split
    · next h =>
      refine ⟨fun hn => absurd hn nofun, ?_⟩
      rintro ⟨_, rfl, rfl, hne⟩
      exact absurd h hne
    · next h =>
      constructor
      · intro hs
        cases hs
        exact ⟨raw, rfl, rfl, h⟩
      · rintro ⟨_, rfl, rfl, -⟩
        rfl
  | _ => simp [asText?]

end Shipyard
