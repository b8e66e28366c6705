import Shipyard.Proofs.Formula.Lookup

/-!
# Titles of bumps

A bump is titled with the formula and its new version. If both are plain words, the title is
recognized for every spelling of the tag: the two words of the lowered title are the lowered formula
and the lowered version, and the lowered version is one of the words that stand for the tag. A
capital `V` stays in the version, which is the whole tag then.
-/

namespace Shipyard.Formula

open Shipyard.Text

/-- The version that a tag stands for: the tag without its leading `v`. -/
def versionOf (tag : String) : String := dropStart tag "v"

/-- The title of the pull request that bumps a formula to a tag. -/
def bumpTitle (formula tag : String) : String := formula ++ " " ++ versionOf tag

/-! ## Plain texts -/

/-- Whether a text is printable ASCII without spaces and colons. -/
def IsPlain (s : String) : Prop :=
  ∀ c ∈ s.toList, 0x21 ≤ c.toNat ∧ c.toNat ≤ 0x7E ∧ c ≠ ':'

instance (s : String) : Decidable (IsPlain s) := List.decidableBAll _ _

namespace IsPlain

variable {s tag : String}

theorem ascii (h : IsPlain s) : ∀ c ∈ s.toList, c.toNat < 128 := by
  intro c hc
  have := (h c hc).2.1
  omega

theorem unparted (h : IsPlain s) : Unparted s := by
  intro c hc
  obtain ⟨hlow, hhigh, hcolon⟩ := h c hc
  rw [separatesWords, isBlank_eq_false_of_printable hlow hhigh, Bool.false_or,
    decide_eq_false_iff_not]
  exact hcolon

theorem versionOf (h : IsPlain tag) : IsPlain (versionOf tag) := by
  rcases eq_append_or_dropStart_eq tag "v" with hv | hv
  · intro c hc
    refine h c ?_
    rw [hv, String.toList_append]
    exact List.mem_append_right _ hc
  · rw [Formula.versionOf, hv]
    exact h

end IsPlain

/-! ## Recognition -/

variable {formula tag : String}

/-- However a tag is spelled, its lowered version stands for it. -/
theorem lower_versionOf_mem_versionWords (h : IsPlain tag) :
    lower (versionOf tag) ∈ versionWords tag := by
  rw [mem_versionWords_iff]
  rcases eq_append_or_dropStart_eq tag "v" with hv | hv
  · have hled : ¬ LedBySigma (versionOf tag).toList :=
      not_ledBySigma fun hsigma => absurd (h.versionOf.ascii _ hsigma) (by decide)
    right
    calc "v" ++ lower (versionOf tag) = lower ("v" ++ versionOf tag) := (lower_append_v hled).symm
      _ = lower tag := congrArg lower hv.symm
  · left
    rw [versionOf, hv]

/-- **A bump is recognized by its title.** -/
theorem titleMentions_bumpTitle (hformula : IsPlain formula) (hne : formula ≠ "")
    (htag : IsPlain tag) (hversion : versionOf tag ≠ "") :
    titleMentions (strip (bumpTitle formula tag)) formula tag = true := by
  have hname : HasWord (lower (bumpTitle formula tag)) (lower formula) :=
    hasWord_formula hne hformula.unparted (versionOf tag)
  have hword : HasWord (lower (bumpTitle formula tag)) (lower (versionOf tag)) :=
    hasWord_tag formula hversion htag.versionOf.unparted
  rw [titleMentions, Bool.and_eq_true, List.any_eq_true]
  exact ⟨(contains_titleWords_iff (lower_ne_empty hne)).mpr hname, _,
    lower_versionOf_mem_versionWords htag,
    (contains_titleWords_iff (lower_ne_empty hversion)).mpr hword⟩

end Shipyard.Formula
