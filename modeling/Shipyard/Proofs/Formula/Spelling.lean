import Shipyard.Proofs.Formula.Lookup

/-!
# Two spellings of a tag

A tag may be spelled with a `v` in front or without it. Both spellings are looked up by the same
command, and a title with the bare version is found for both of them. A title with the `v` is found
for the tag with the `v` only, since a tag without it does not stand for the other spelling
(`bare_tag_misses`). Where no such title is listed, a look gives the same for both
(`spelling_ignored`), unless the version begins with a capital sigma that a letter in front of it
makes final.
-/

namespace Shipyard

/-- A request with another tag. -/
def FormulaRequest.tagged (request : FormulaRequest) (tag : String) : FormulaRequest :=
  { request with tag }

namespace Formula

open Text

variable {request : FormulaRequest} {title formula t word : String}

/-- Whether a version is not empty and has no `v` in front, in neither case. -/
structure IsBare (t : String) : Prop where
  /-- it is not empty -/
  ne_empty : t ≠ ""
  /-- it begins with something else -/
  first : ∀ c ∈ t.toList.head?, c ≠ 'v' ∧ c ≠ 'V'

/-- Whether a title has a version with a `v` in front only. -/
structure SpelledOnly (title formula t : String) : Prop where
  /-- it has the formula, if that has a name -/
  formula : formula ≠ "" → HasWord (lower title) (lower formula)
  /-- it has the version with the `v` -/
  spelled : HasWord (lower title) ("v" ++ lower t)
  /-- but not without it -/
  bare : ¬ HasWord (lower title) (lower t)

/-! ## Words for a tag -/

/-- The lower-case form of a bare version is bare. -/
theorem IsBare.v_append_ne_lower (h : IsBare t) (word : String) : "v" ++ word ≠ lower t := by
  obtain ⟨c, cs, ht⟩ := List.exists_cons_of_ne_nil (mt String.toList_eq_nil_iff.mp h.ne_empty)
  intro heq
  have hchars : 'v' :: word.toList =
      (if c = 'Σ' then ['σ'] else lowerChar c) ++ lowerFrom [c] [] cs := by
    rw [← lowerFrom_cons, ← ht]
    simpa [lower] using congrArg String.toList heq
  by_cases hsigma : c = 'Σ'
  · rw [if_pos hsigma] at hchars
    cases (List.cons.inj hchars).1
  · rw [if_neg hsigma] at hchars
    obtain ⟨first, image, himage⟩ := List.exists_cons_of_ne_nil (lowerChar_ne_nil c)
    rw [himage] at hchars
    have hv : 'v' ∈ lowerChar c := by
      rw [himage, (List.cons.inj hchars).1]
      exact List.mem_cons_self
    obtain ⟨hlow, hcapital⟩ := h.first c (by rw [ht]; rfl)
    exact (eq_v_of_mem_lowerChar hv).elim hlow hcapital

theorem IsBare.mem_versionWords_iff (h : IsBare t) : word ∈ versionWords t ↔ word = lower t := by
  rw [Formula.mem_versionWords_iff]
  exact or_iff_left (h.v_append_ne_lower word)

theorem mem_versionWords_spelled_iff (hled : ¬ LedBySigma t.toList) :
    word ∈ versionWords ("v" ++ t) ↔ word = "v" ++ lower t ∨ word = lower t := by
  rw [mem_versionWords_iff, lower_append_v hled, String.append_right_inj]

/-- A title that is recognized for one spelling only has the version in this spelling only. -/
theorem titleMentions_spelled_eq (hbare : IsBare t) (hled : ¬ LedBySigma t.toList)
    (honly : ¬ SpelledOnly title formula t) :
    titleMentions (strip title) formula ("v" ++ t) = titleMentions (strip title) formula t := by
  have hne : lower t ≠ "" := lower_ne_empty hbare.ne_empty
  have hne' : "v" ++ lower t ≠ "" := by
    intro h
    simpa using congrArg String.toList h
  rw [Bool.eq_iff_iff, titleMentions, titleMentions, Bool.and_eq_true, Bool.and_eq_true,
    List.any_eq_true, List.any_eq_true]
  -- the formula counts alike for both tags, so only the words for the tag can differ
  refine and_congr_right fun hformula => ?_
  simp only [mem_versionWords_spelled_iff hled, hbare.mem_versionWords_iff, exists_eq_left,
    exists_eq_or_imp, contains_titleWords_iff hne, contains_titleWords_iff hne']
  refine or_iff_right_of_imp fun hspelled => ?_
  by_contra hno
  exact honly ⟨fun hname => (contains_titleWords_iff (lower_ne_empty hname)).mp hformula,
    hspelled, hno⟩

/-! ## Looks -/

/-- Entries without such a title match both tags or none. -/
theorem matching?_spelled_eq (hbare : IsBare t) (hled : ¬ LedBySigma t.toList) {entry : Value}
    (honly : ∀ title, Titled title entry → ¬ SpelledOnly title request.formula t) :
    matching? (request.tagged ("v" ++ t)) entry = matching? (request.tagged t) entry := by
  cases entry with
  | table fields =>
    obtain ⟨title, hread, htitle⟩ := exists_title_eq fields
    have hno : ¬ SpelledOnly title request.formula t := by
      rcases htitle with htitle | rfl
      · exact honly title ⟨fields, rfl, htitle⟩
      · exact fun h => not_hasWord_empty h.spelled
    have hsame : titleMentions (strip title) (request.tagged ("v" ++ t)).formula
        (request.tagged ("v" ++ t)).tag =
        titleMentions (strip title) (request.tagged t).formula (request.tagged t).tag :=
      titleMentions_spelled_eq hbare hled hno
    rw [matching?_table, matching?_table, hread, hsame]
  | _ => rw [matching?_eq_none rfl, matching?_eq_none rfl]

/-- The command of a look leaves out the `v` in front of the tag. -/
theorem listCommand_spelled_eq (hbare : IsBare t) (c : RunContext) (request : FormulaRequest)
    (token : String) :
    listCommand c (request.tagged ("v" ++ t)) token = listCommand c (request.tagged t) token := by
  have hdrop : dropStart t "v" = t := by
    rcases eq_append_or_dropStart_eq t "v" with h | h
    · have hfirst : t.toList.head? = some 'v' := by
        rw [h, String.toList_append]
        rfl
      exact absurd rfl (hbare.first 'v' hfirst).1
    · exact h
  simp only [listCommand, FormulaRequest.tagged, dropStart_append, hdrop]

/-- A failure does not depend on the tag. -/
theorem Fails.tagged {reply : Except CommandFailure String} {failure : FormulaFailure}
    (h : Fails request reply failure) (tag : String) :
    Fails (request.tagged tag) reply failure := by
  cases h with
  | failed => exact .failed
  | noJson hne hjson => exact .noJson hne hjson

/-- Lists without such titles give the same for both tags. -/
theorem found_spelled_eq (hbare : IsBare t) (hled : ¬ LedBySigma t.toList) {answer : Answer}
    (honly : ∀ reply entries, answer = .ok reply → Lists reply entries → ∀ entry ∈ entries,
      ∀ title, Titled title entry → ¬ SpelledOnly title request.formula t) :
    found (request.tagged ("v" ++ t)) answer = found (request.tagged t) answer := by
  rcases answer with fault | reply
  · rfl
  rcases reply_cases request reply with ⟨output, fault, rfl, hne, hjson⟩ | ⟨failure, hfails⟩ |
    ⟨entries, hlists⟩
  · rw [found_of_refused hne hjson, found_of_refused hne hjson]
  · rw [found_of_fails (hfails.tagged _), found_of_fails (hfails.tagged _)]
  · have hsame : entries.filterMap (matching? (request.tagged ("v" ++ t))) =
        entries.filterMap (matching? (request.tagged t)) :=
      List.filterMap_congr fun entry hmem =>
        matching?_spelled_eq hbare hled (honly reply entries rfl hlists entry hmem)
    rw [found_of_lists hlists, found_of_lists hlists, ← List.head?_filterMap, hsame,
      List.head?_filterMap]

/-! ## Titles of bumps -/

/-- Whatever the tag, a title of the formula and the tag mentions the bump. -/
theorem mentions_title (hname : formula ≠ "") (hformula : Unparted formula) (hne : t ≠ "")
    (hparts : Unparted t) : MentionsBump (formula ++ " " ++ t) formula t :=
  ⟨hasWord_formula hname hformula t, lower t, .inl rfl, hasWord_tag formula hne hparts⟩

/-- So does one with the version that the tag stands for. -/
theorem mentions_spelled (hname : formula ≠ "") (hformula : Unparted formula) (hne : t ≠ "")
    (hparts : Unparted t) (hled : ¬ LedBySigma t.toList) :
    MentionsBump (formula ++ " " ++ t) formula ("v" ++ t) :=
  ⟨hasWord_formula hname hformula t, lower t, .inr (lower_append_v hled).symm,
    hasWord_tag formula hne hparts⟩

theorem Unparted.v_append (h : Unparted t) : Unparted ("v" ++ t) := by
  rw [Unparted, String.toList_append]
  exact List.forall_mem_append.mpr ⟨List.forall_mem_singleton.mpr (by decide), h⟩

/-! ## Both tags -/

section Runs

variable {σ : Type} (host : Host σ) (c : RunContext) (token : String) (w : World σ)

/-- Whether the answer to a look lists entries. -/
def Listed (request : FormulaRequest) (entries : List Value) : Prop :=
  ∃ reply, (Action.runOn (Action.issue host (listCommand c request token)) w).1 = .ok reply ∧
    Lists reply entries

/-- Whether a look finds something. -/
def FindsOne (request : FormulaRequest) : Prop :=
  ∃ told, (Action.runOn (findOpen host c request token) w).1 = .ok (.ok (some told))

variable {host c token w}

/-- A look finds something if an entry is listed that mentions the bump. -/
theorem findsOne_of_listed {entries : List Value} {entry : Value} (hformula : request.formula ≠ "")
    (htag : lower request.tag ≠ "") (hletter : lower request.tag ≠ "v")
    (hlisted : Listed host c token w request entries) (hmem : entry ∈ entries)
    (htitled : Titled title entry) (hmentions : MentionsBump title request.formula request.tag) :
    FindsOne host c token w request := by
  obtain ⟨reply, hreply, hlists⟩ := hlisted
  obtain ⟨told, hshows⟩ := exists_shows htitled hmentions
  have hmatches := matching?_of_shows hformula htag hletter hshows
  have hsome : (entries.findSome? (matching? request)).isSome = true :=
    List.findSome?_isSome_iff.mpr ⟨entry, hmem, Option.isSome_of_eq_some hmatches⟩
  obtain ⟨first, hfirst⟩ := Option.isSome_iff_exists.mp hsome
  rw [FindsOne, runOn_findOpen, hreply, found_of_lists hlists, hfirst]
  exact ⟨first, rfl⟩

/-- The answer is the same for both tags. -/
theorem listed_spelled_iff (hbare : IsBare t) {entries : List Value} :
    Listed host c token w (request.tagged ("v" ++ t)) entries ↔
      Listed host c token w (request.tagged t) entries := by
  rw [Listed, listCommand_spelled_eq hbare, Listed]

/-- So is the look, where no title is listed that has the version with the `v` only. -/
theorem runOn_findOpen_spelled_eq (hbare : IsBare t) (hled : ¬ LedBySigma t.toList)
    (honly : ∀ entries, Listed host c token w (request.tagged t) entries → ∀ entry ∈ entries,
      ∀ title, Titled title entry → ¬ SpelledOnly title request.formula t) :
    Action.runOn (findOpen host c (request.tagged ("v" ++ t)) token) w =
      Action.runOn (findOpen host c (request.tagged t) token) w := by
  rw [runOn_findOpen, runOn_findOpen, listCommand_spelled_eq hbare,
    found_spelled_eq hbare hled fun reply entries hreply hlists =>
      honly entries ⟨reply, hreply, hlists⟩]

/-- A title with the bare version is found for both tags, one with the `v` for the tag with it. -/
theorem findsOne_of_titled (hbare : IsBare t) (hled : ¬ LedBySigma t.toList)
    (hname : request.formula ≠ "") (hformula : Unparted request.formula) (hparts : Unparted t)
    {entries : List Value} {entry : Value}
    (hlisted : Listed host c token w (request.tagged t) entries) (hmem : entry ∈ entries) :
    (Titled (request.formula ++ " " ++ t) entry →
      FindsOne host c token w (request.tagged t) ∧
        FindsOne host c token w (request.tagged ("v" ++ t))) ∧
    (Titled (request.formula ++ " " ++ ("v" ++ t)) entry →
      FindsOne host c token w (request.tagged ("v" ++ t))) := by
  have hlisted' := (listed_spelled_iff hbare).mpr hlisted
  have hne : lower t ≠ "" := lower_ne_empty hbare.ne_empty
  have hletter : lower t ≠ "v" := (hbare.v_append_ne_lower "").symm
  have hspelled : "v" ++ t ≠ "" := fun h => by simpa using congrArg String.toList h
  have hne' : lower ("v" ++ t) ≠ "" := lower_ne_empty hspelled
  have hletter' : lower ("v" ++ t) ≠ "v" := by
    rw [lower_append_v hled]
    exact fun h => hne ((String.append_right_inj "v").mp h)
  refine ⟨fun htitled => ⟨?_, ?_⟩, fun htitled => ?_⟩
  · exact findsOne_of_listed hname hne hletter hlisted hmem htitled
      (mentions_title hname hformula hbare.ne_empty hparts)
  · exact findsOne_of_listed hname hne' hletter' hlisted' hmem htitled
      (mentions_spelled hname hformula hbare.ne_empty hparts hled)
  · exact findsOne_of_listed hname hne' hletter' hlisted' hmem htitled
      (mentions_title hname hformula hspelled hparts.v_append)

/-- **Where the spelling of a tag does not matter.** Both spellings of a tag are looked up by the
same command. Unless the version begins with a sigma that the `v` makes final, the looks give the
same if no title is listed that has the version with the `v` only. For words without blanks and
colons, a title of the formula and the version is found for both tags, and one with the `v` for the
tag that has it. -/
theorem spelling_ignored (host : Host σ) (c : RunContext) (token : String) (w : World σ)
    (request : FormulaRequest) (hbare : IsBare t) :
    listCommand c (request.tagged ("v" ++ t)) token = listCommand c (request.tagged t) token ∧
    (¬ LedBySigma t.toList →
      ((∀ entries, Listed host c token w (request.tagged t) entries → ∀ entry ∈ entries,
        ∀ title, Titled title entry → ¬ SpelledOnly title request.formula t) →
        Action.runOn (findOpen host c (request.tagged ("v" ++ t)) token) w =
          Action.runOn (findOpen host c (request.tagged t) token) w) ∧
      (request.formula ≠ "" → Unparted request.formula → Unparted t →
        ∀ entries, Listed host c token w (request.tagged t) entries → ∀ entry ∈ entries,
          (Titled (request.formula ++ " " ++ t) entry →
            FindsOne host c token w (request.tagged t) ∧
              FindsOne host c token w (request.tagged ("v" ++ t))) ∧
          (Titled (request.formula ++ " " ++ ("v" ++ t)) entry →
            FindsOne host c token w (request.tagged ("v" ++ t))))) :=
  ⟨listCommand_spelled_eq hbare c request token, fun hled =>
    ⟨runOn_findOpen_spelled_eq hbare hled, fun hname hformula hparts _ hlisted _ hmem =>
      findsOne_of_titled hbare hled hname hformula hparts hlisted hmem⟩⟩

end Runs

/-! ## A title in each spelling -/

/-- A list with one pull request. -/
def titledEntries (title : String) : List Value :=
  [.table [("title", .text title), ("url", .text "https://github.com/o/r/pull/1")]]

/-- What a look gives on that list. -/
def lookAt (title tag : String) :
    Except Fault (Except FormulaFailure (Option String)) × World Unit :=
  Action.runOn (findOpen (listingHost (titledEntries title)) Rehearsal.context (sought.tagged tag)
    "t") start

set_option maxRecDepth 100000 in
theorem lists_titledEntries : Lists (.ok (Json.write (.list (titledEntries "replibyte 1.2.3"))))
    (titledEntries "replibyte 1.2.3") := by
  have hjson : Value.ofJson (Json.write (.list (titledEntries "replibyte 1.2.3"))) =
    .ok (.ok (.list (titledEntries "replibyte 1.2.3"))) := rfl
  exact .list (by decide) hjson

theorem titled_titledEntries {title other : String} {entry : Value}
    (hmem : entry ∈ titledEntries title) : Titled other entry ↔ other = title := by
  obtain rfl := List.mem_singleton.mp hmem
  constructor
  · rintro ⟨fields, hfields, htitle⟩
    cases hfields
    cases htitle
    rfl
  · rintro rfl
    exact ⟨_, rfl, rfl⟩

/-- A title with the bare version is found for both tags. -/
theorem spelling_ignored_bareTitle :
    IsBare "1.2.3" ∧ lookAt "replibyte 1.2.3" ("v" ++ "1.2.3") = lookAt "replibyte 1.2.3" "1.2.3" ∧
      (∃ told, (lookAt "replibyte 1.2.3" "1.2.3").1 = .ok (.ok (some told))) ∧
      ∃ told, (lookAt "replibyte 1.2.3" ("v" ++ "1.2.3")).1 = .ok (.ok (some told)) := by
  have hbare : IsBare "1.2.3" := by
    refine ⟨by decide, ?_⟩
    rintro c ⟨⟩
    exact ⟨by decide, by decide⟩
  have hled : ¬ LedBySigma "1.2.3".toList := not_ledBySigma (by decide)
  have htitle : sought.formula ++ " " ++ "1.2.3" = "replibyte 1.2.3" := by decide
  obtain ⟨-, hlooks⟩ := spelling_ignored (listingHost (titledEntries "replibyte 1.2.3"))
    Rehearsal.context "t" start sought hbare
  obtain ⟨hsame, hfound⟩ := hlooks hled
  refine ⟨hbare, hsame ?_, ?_⟩
  · rintro entries ⟨reply, hreply, hentries⟩ entry hmem title htitled honly
    obtain rfl : Except.ok (Json.write (.list (titledEntries "replibyte 1.2.3"))) = reply :=
      Except.ok.inj hreply
    rw [hentries.eq lists_titledEntries] at hmem
    rw [titled_titledEntries hmem, ← htitle] at htitled
    refine honly.bare ?_
    rw [htitled]
    exact hasWord_tag sought.formula (by decide) (by decide)
  · refine (hfound (by decide) (by decide) (by decide) _ ⟨_, rfl, lists_titledEntries⟩ _
      List.mem_cons_self).1 ?_
    rw [titled_titledEntries List.mem_cons_self]
    exact htitle

set_option maxRecDepth 100000 in
/-- **A tag without the `v` misses titles with it.** -/
theorem bare_tag_misses :
    (lookAt "replibyte v1.2.3" "v1.2.3").1 = .ok (.ok (some "https://github.com/o/r/pull/1")) ∧
      (lookAt "replibyte v1.2.3" "1.2.3").1 = .ok (.ok none) :=
  ⟨rfl, rfl⟩

end Formula

end Shipyard
