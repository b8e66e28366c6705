import Shipyard.Proofs.Data.Table
import Shipyard.Proofs.Formula.Protocol
import Shipyard.Proofs.Rehearsal
import Shipyard.Proofs.Text.Case

/-!
# Which open pull request is found

A title mentions a bump if the formula and the tag are among its words (`MentionsBump`), and an
entry of a list that has such a title shows a pull request (`Shows`). A look at the open pull
requests gives the first entry that shows one; it fails exactly if the command failed or gave no
JSON (`lookup_exact`).
-/

namespace Shipyard.Formula

open Text

variable {request : FormulaRequest} {title formula tag word : String}

/-! ## Words of a title -/

/-- Whether a text has a word: a part without blanks and colons with one of these, or nothing, on
either side. A part of a longer word is none. -/
def HasWord (s word : String) : Prop := IsRun separatesWords word.toList s.toList

/-- Whether a title mentions a bump: in lower case, it has the formula among its words, and the tag,
with or without the `v` that the tag has in front. -/
def MentionsBump (title formula tag : String) : Prop :=
  HasWord (lower title) (lower formula) ∧
    ∃ word, (word = lower tag ∨ "v" ++ word = lower tag) ∧ HasWord (lower title) word

theorem separatesWords_of_isBlank {c : Char} (h : isBlank c = true) : separatesWords c = true := by
  rw [separatesWords, h, Bool.true_or]

theorem not_hasWord_empty : ¬ HasWord "" word := by
  rintro ⟨before, after, hparts, hne, -⟩
  have hnil := List.append_eq_nil_iff.mp hparts.symm
  exact hne (List.append_eq_nil_iff.mp hnil.1).2

/-- The words of a title that was read are those of the whole title. -/
theorem contains_titleWords_iff (hne : word ≠ "") :
    (titleWords (strip title)).contains word = true ↔ HasWord (lower title) word := by
  -- pieces and runs differ by empty texts only, and the word is none
  have hnil : word.toList ≠ [] := mt String.toList_eq_nil_iff.mp hne
  rw [HasWord, ← mem_runs_iff, ← runs_lower_strip fun c => separatesWords_of_isBlank,
    List.contains_iff_mem, titleWords, List.mem_map]
  constructor
  · rintro ⟨piece, hpiece, rfl⟩
    rw [String.toList_ofList] at hnil ⊢
    exact List.mem_filter.mpr ⟨hpiece, by simpa using hnil⟩
  · intro hrun
    exact ⟨word.toList, (List.mem_filter.mp hrun).1, String.ofList_toList⟩

/-- Whether a text has neither blanks nor colons. -/
def Unparted (s : String) : Prop := ∀ c ∈ s.toList, separatesWords c = false

instance (s : String) : Decidable (Unparted s) := List.decidableBAll _ _

theorem separatesWords_eq (c : Char) :
    separatesWords c = inRanges (blankRanges ++ [(0x3A, 0x3A)]) c.toNat := by
  have hcolon : decide (c = ':') = inRanges [(0x3A, 0x3A)] c.toNat := by
    have hcode : c = ':' ↔ c.toNat = 0x3A := Char.toNat_inj.symm
    rw [Bool.eq_iff_iff, decide_eq_true_eq, hcode, inRanges_eq_true_iff]
    simp only [List.mem_singleton, exists_eq_left]
    omega
  rw [separatesWords, isBlank, hcolon, inRanges, inRanges, inRanges, List.any_append]

/-- Lowering makes no separator out of another character. -/
theorem not_separatesWords_of_mem_lowerChar {c d : Char} (hc : separatesWords c = false)
    (hd : d ∈ lowerChar c) : separatesWords d = false := by
  rw [separatesWords_eq] at hc ⊢
  exact not_inRanges_of_mem_lowerChar (by decide) (by decide +kernel) rfl hc hd

theorem Unparted.lower {s : String} (h : Unparted s) : Unparted (lower s) := by
  intro c hc
  rcases mem_lower hc with ⟨d, hd, hc⟩ | rfl | rfl
  · exact not_separatesWords_of_mem_lowerChar (h d hd) hc
  · decide
  · decide

theorem toList_lower_title (formula tag : String) :
    (lower (formula ++ " " ++ tag)).toList =
      (lower formula).toList ++ ' ' :: (lower tag).toList := by
  have htitle : formula ++ " " ++ tag = String.ofList (formula.toList ++ ' ' :: tag.toList) := by
    refine String.toList_injective ?_
    rw [String.toList_ofList, String.toList_append, String.toList_append, List.append_assoc]
    rfl
  rw [htitle, lower_append_cons (by decide), String.ofList_toList, String.ofList_toList]

/-- A title of two words has the first one. -/
theorem hasWord_formula (hne : formula ≠ "") (hparts : Unparted formula) (tag : String) :
    HasWord (lower (formula ++ " " ++ tag)) (lower formula) := by
  refine ⟨[], ' ' :: (lower tag).toList, toList_lower_title formula tag, ?_, hparts.lower, nofun,
    ?_⟩
  · exact mt String.toList_eq_nil_iff.mp (lower_ne_empty hne)
  · rintro c ⟨⟩
    decide

/-- And the second one. -/
theorem hasWord_tag (formula : String) (hne : tag ≠ "") (hparts : Unparted tag) :
    HasWord (lower (formula ++ " " ++ tag)) (lower tag) := by
  refine ⟨(lower formula).toList ++ [' '], [], ?_, ?_, hparts.lower, ?_, nofun⟩
  · rw [toList_lower_title, List.append_nil, List.append_assoc]
    rfl
  · exact mt String.toList_eq_nil_iff.mp (lower_ne_empty hne)
  · rw [List.getLast?_concat]
    rintro c ⟨⟩
    decide

/-! ## Titles -/

/-- The words that stand for a tag. -/
theorem mem_versionWords_iff :
    word ∈ versionWords tag ↔ word = lower tag ∨ "v" ++ word = lower tag := by
  rw [versionWords, List.mem_cons, List.mem_singleton]
  constructor
  · rintro (h | rfl)
    · exact .inl h
    · rcases eq_append_or_dropStart_eq (lower tag) "v" with h | h
      · exact .inr h.symm
      · exact .inl h
  · rintro (h | h)
    · exact .inl h
    · right
      rw [← h, dropStart_append]

/-- **A title is recognized if it mentions the bump.** -/
theorem titleMentions_iff (hformula : formula ≠ "") (htag : lower tag ≠ "")
    (hletter : lower tag ≠ "v") :
    titleMentions (strip title) formula tag = true ↔ MentionsBump title formula tag := by
  have hne : ∀ word, word = lower tag ∨ "v" ++ word = lower tag → word ≠ "" := by
    rintro word (h | h) rfl
    · exact htag h.symm
    · exact hletter h.symm
  rw [titleMentions, Bool.and_eq_true, contains_titleWords_iff (lower_ne_empty hformula),
    MentionsBump, List.any_eq_true]
  refine and_congr_right fun _ => exists_congr fun word => ?_
  rw [mem_versionWords_iff]
  exact and_congr_right fun hword => contains_titleWords_iff (hne word hword)

/-! ## Entries -/

/-- Whether an entry shows a pull request for a bump, and what is told of it: its link, or its title
if it has none. -/
inductive Shows (request : FormulaRequest) : Value → String → Prop where
  /-- it has a link -/
  | linked {t : Table} {title url : String} (htitle : t.find? "title" = some (.text title))
    (hmentions : MentionsBump title request.formula request.tag)
    (hurl : t.find? "url" = some (.text url)) (hne : strip url ≠ "") :
    Shows request (.table t) (strip url)
  /-- it has no link, or a blank one -/
  | unlinked {t : Table} {title : String} (htitle : t.find? "title" = some (.text title))
    (hmentions : MentionsBump title request.formula request.tag)
    (hnone : ∀ url, t.find? "url" = some (.text url) → strip url = "") :
    Shows request (.table t) (strip title)

/-- What is found in a list: what the first entry tells that shows a pull request, if there is
any. -/
inductive Finds (request : FormulaRequest) : List Value → Option String → Prop where
  /-- an entry shows one, and none before it does -/
  | first {before after : List Value} {entry : Value} {told : String}
    (hbefore : ∀ other ∈ before, ∀ s, ¬ Shows request other s) (hshows : Shows request entry told) :
    Finds request (before ++ entry :: after) (some told)
  /-- no entry shows one -/
  | none {entries : List Value} (hnone : ∀ entry ∈ entries, ∀ s, ¬ Shows request entry s) :
    Finds request entries none

/-- Whether an entry is a pull request with a title. -/
def Titled (title : String) (entry : Value) : Prop :=
  ∃ fields : Table, entry = .table fields ∧ fields.find? "title" = some (.text title)

/-- An entry whose title mentions a bump shows a pull request. -/
theorem exists_shows {entry : Value} (htitled : Titled title entry)
    (hmentions : MentionsBump title request.formula request.tag) :
    ∃ told, Shows request entry told := by
  obtain ⟨fields, rfl, htitle⟩ := htitled
  by_cases hlink : ∃ url, fields.find? "url" = some (.text url) ∧ strip url ≠ ""
  · obtain ⟨url, hurl, hne⟩ := hlink
    exact ⟨_, .linked htitle hmentions hurl hne⟩
  · refine ⟨_, .unlinked htitle hmentions fun url hurl => ?_⟩
    by_contra hne
    exact hlink ⟨url, hurl, hne⟩

/-- A title is read as blank if it is. -/
theorem getD_text?_title {t : Table} (h : t.find? "title" = some (.text title)) :
    (t.text? "title").getD "" = strip title := by
  by_cases hblank : strip title = ""
  · have hnone : t.text? "title" = none := Table.text?_eq_none_iff.mpr fun raw hraw => by
      cases h.symm.trans hraw
      exact hblank
    rw [hnone, Option.getD_none, hblank]
  · rw [Table.text?_eq_some_iff.mpr ⟨title, h, rfl, hblank⟩, Option.getD_some]

/-- The title that is read is that of the table, or blank. -/
theorem exists_title_eq (t : Table) :
    ∃ title, (t.text? "title").getD "" = strip title ∧
      (t.find? "title" = some (.text title) ∨ title = "") := by
  rcases htext : t.text? "title" with _ | s
  · exact ⟨"", rfl, .inr rfl⟩
  · obtain ⟨title, htitle, -, -⟩ := Table.text?_eq_some_iff.mp htext
    exact ⟨title, htext ▸ getD_text?_title htitle, .inl htitle⟩

theorem matching?_table (request : FormulaRequest) (t : Table) :
    matching? request (.table t) =
      if titleMentions ((t.text? "title").getD "") request.formula request.tag then
        some ((t.text? "url").getD ((t.text? "title").getD ""))
      else none := by
  simp only [matching?, Value.asTable?, Option.bind_eq_bind, Option.bind_some]

theorem matching?_eq_none {entry : Value} (h : entry.asTable? = none) :
    matching? request entry = none := by
  rw [matching?, h]
  rfl

section Sought

variable (hformula : request.formula ≠ "") (htag : lower request.tag ≠ "")
  (hletter : lower request.tag ≠ "v")

include hformula htag hletter

/-- A title that was read and mentions the bump is a text of the table. -/
theorem exists_title {t : Table}
    (h : titleMentions ((t.text? "title").getD "") request.formula request.tag = true) :
    ∃ title, t.find? "title" = some (.text title) ∧
      MentionsBump title request.formula request.tag := by
  obtain ⟨title, hread, htitle⟩ := exists_title_eq t
  rw [hread, titleMentions_iff hformula htag hletter] at h
  rcases htitle with htitle | rfl
  · exact ⟨title, htitle, h⟩
  · exact absurd h.1 not_hasWord_empty

theorem shows_of_matching? {entry : Value} {told : String}
    (h : matching? request entry = some told) : Shows request entry told := by
  cases entry with
  | table t =>
    rw [matching?_table] at h
    split at h
    · next hmentions =>
      obtain ⟨title, htitle, hmentions⟩ := exists_title hformula htag hletter hmentions
      rw [getD_text?_title htitle] at h
      rcases hurl : Table.text? t "url" with _ | link
      · rw [hurl] at h
        obtain rfl := Option.some.inj h
        exact .unlinked htitle hmentions (Table.text?_eq_none_iff.mp hurl)
      · rw [hurl] at h
        obtain rfl := Option.some.inj h
        obtain ⟨url, hfind, rfl, hne⟩ := Table.text?_eq_some_iff.mp hurl
        exact .linked htitle hmentions hfind hne
    · cases h
  | _ => cases (matching?_eq_none rfl).symm.trans h

theorem matching?_of_shows {entry : Value} {told : String} (h : Shows request entry told) :
    matching? request entry = some told := by
  have hread {t : Table} {title : String} (htitle : t.find? "title" = some (.text title))
      (hmentions : MentionsBump title request.formula request.tag) :
      matching? request (.table t) = some ((t.text? "url").getD (strip title)) := by
    rw [matching?_table, getD_text?_title htitle,
      if_pos ((titleMentions_iff hformula htag hletter).mpr hmentions)]
  cases h with
  | linked htitle hmentions hurl hne =>
    rw [hread htitle hmentions, Table.text?_eq_some_iff.mpr ⟨_, hurl, rfl, hne⟩, Option.getD_some]
  | unlinked htitle hmentions hnone =>
    rw [hread htitle hmentions, Table.text?_eq_none_iff.mpr hnone, Option.getD_none]

/-- **An entry matches if it shows a pull request.** -/
theorem matching?_eq_some_iff {entry : Value} {told : String} :
    matching? request entry = some told ↔ Shows request entry told :=
  ⟨shows_of_matching? hformula htag hletter, matching?_of_shows hformula htag hletter⟩

theorem matching?_eq_none_iff_not_shows {entry : Value} :
    matching? request entry = none ↔ ∀ s, ¬ Shows request entry s := by
  rw [Option.eq_none_iff_forall_ne_some]
  exact forall_congr' fun s => not_congr (matching?_eq_some_iff hformula htag hletter)

/-- Of a list the first match is taken. -/
theorem findSome?_matching?_eq_iff {entries : List Value} {result : Option String} :
    entries.findSome? (matching? request) = result ↔ Finds request entries result := by
  constructor
  · rintro rfl
    rcases h : entries.findSome? (matching? request) with _ | told
    · rw [List.findSome?_eq_none_iff] at h
      refine .none fun entry hmem => ?_
      exact (matching?_eq_none_iff_not_shows hformula htag hletter).mp (h entry hmem)
    · obtain ⟨before, entry, after, rfl, hentry, hbefore⟩ := List.findSome?_eq_some_iff.mp h
      refine .first (fun other hmem => ?_) (shows_of_matching? hformula htag hletter hentry)
      exact (matching?_eq_none_iff_not_shows hformula htag hletter).mp (hbefore other hmem)
  · rintro (⟨hbefore, hshows⟩ | hnone)
    · refine List.findSome?_eq_some_iff.mpr ⟨_, _, _, rfl, ?_, fun other hmem => ?_⟩
      · exact matching?_of_shows hformula htag hletter hshows
      · exact (matching?_eq_none_iff_not_shows hformula htag hletter).mpr (hbefore other hmem)
    · refine List.findSome?_eq_none_iff.mpr fun entry hmem => ?_
      exact (matching?_eq_none_iff_not_shows hformula htag hletter).mpr (hnone entry hmem)

end Sought

/-! ## Looks -/

/-- The open pull requests that an answer lists. -/
inductive Lists : Except CommandFailure String → List Value → Prop where
  /-- no output lists none -/
  | silent : Lists (.ok "") []
  /-- a list lists its entries -/
  | list {output : String} {entries : List Value} (hne : output ≠ "")
    (hjson : Value.ofJson output = .ok (.ok (.list entries))) : Lists (.ok output) entries
  /-- any other value lists none -/
  | other {output : String} {value : Value} (hne : output ≠ "")
    (hjson : Value.ofJson output = .ok (.ok value)) (hother : ∀ entries, value ≠ .list entries) :
    Lists (.ok output) []

/-- The answers that list nothing, and the failures they are. -/
inductive Fails (request : FormulaRequest) : Except CommandFailure String → FormulaFailure → Prop
  where
  /-- the command failed -/
  | failed {failure : CommandFailure} : Fails request (.error failure)
      ⟨.lookupFailed, "cannot list open pull requests on " ++ request.tap, failure.hint⟩
  /-- its output is no JSON -/
  | noJson {output what : String} (hne : output ≠ "")
    (hjson : Value.ofJson output = .ok (.error what)) : Fails request (.ok output)
      ⟨.lookupFailed, "invalid JSON from gh pr list: " ++ what, none⟩

theorem Lists.eq {reply : Except CommandFailure String} {entries entries' : List Value}
    (h : Lists reply entries) (h' : Lists reply entries') : entries = entries' := by
  cases h with
  | silent =>
    cases h' with
    | silent => rfl
    | list hne | other hne => exact absurd rfl hne
  | list hne hjson =>
    cases h' with
    | silent => exact absurd rfl hne
    | list _ hjson' => cases hjson.symm.trans hjson'; rfl
    | other _ hjson' hother => cases hjson.symm.trans hjson'; exact absurd rfl (hother _)
  | other hne hjson hother =>
    cases h' with
    | silent | other => rfl
    | list _ hjson' => cases hjson.symm.trans hjson'; exact absurd rfl (hother _)

/-- A look is what is found in the answer. -/
theorem runOn_findOpen {σ : Type} (host : Host σ) (c : RunContext) (request : FormulaRequest)
    (token : String) (w : World σ) :
    Action.runOn (findOpen host c request token) w =
      (found request (Action.runOn (Action.issue host (listCommand c request token)) w).1,
        (Action.runOn (Action.issue host (listCommand c request token)) w).2) := by
  rcases hissue : Action.runOn (Action.issue host (listCommand c request token)) w with
    ⟨fault | failure | output, w'⟩
  · rw [findOpen, Action.runOn_bind_error hissue]
    rfl
  · rw [findOpen, Action.runOn_bind_ok hissue]
    rfl
  · rw [findOpen, Action.runOn_bind_ok hissue, found]
    dsimp only
    rw [Action.runOn_bind, Action.runOn_orFault]
    rcases Value.ofJson (if output = "" then "[]" else output) with fault | what | answer
    · rfl
    · rfl
    · rfl

/-- What an answer can be: JSON that is refused, a failure, or a list. -/
theorem reply_cases (request : FormulaRequest) (reply : Except CommandFailure String) :
    (∃ output fault, reply = .ok output ∧ output ≠ "" ∧ Value.ofJson output = .error fault) ∨
      (∃ failure, Fails request reply failure) ∨ ∃ entries, Lists reply entries := by
  rcases reply with failure | output
  · exact .inr (.inl ⟨_, .failed⟩)
  by_cases hne : output = ""
  · exact .inr (.inr ⟨[], hne ▸ .silent⟩)
  rcases hjson : Value.ofJson output with fault | what | value
  · exact .inl ⟨output, fault, rfl, hne, hjson⟩
  · exact .inr (.inl ⟨_, .noJson hne hjson⟩)
  by_cases hlist : ∃ entries, value = .list entries
  · obtain ⟨entries, rfl⟩ := hlist
    exact .inr (.inr ⟨entries, .list hne hjson⟩)
  · exact .inr (.inr ⟨[], .other hne hjson (not_exists.mp hlist)⟩)

theorem found_of_refused {output : String} {fault : Fault} (hne : output ≠ "")
    (hjson : Value.ofJson output = .error fault) :
    found request (.ok (.ok output)) = .error fault := by
  simp only [found, if_neg hne, hjson]

theorem found_of_fails {reply : Except CommandFailure String} {failure : FormulaFailure}
    (h : Fails request reply failure) : found request (.ok reply) = .ok (.error failure) := by
  cases h with
  | failed => rfl
  | noJson hne hjson => simp only [found, if_neg hne, hjson]

theorem found_of_lists {reply : Except CommandFailure String} {entries : List Value}
    (h : Lists reply entries) :
    found request (.ok reply) = .ok (.ok (entries.findSome? (matching? request))) := by
  cases h with
  | silent => rfl
  | list hne hjson =>
    simp only [found, if_neg hne, hjson]
    rfl
  | @other output value hne hjson hother =>
    simp only [found, if_neg hne, hjson]
    cases value with
    | list entries => exact absurd rfl (hother entries)
    | _ => rfl

/-- No answer both fails and lists something. -/
theorem not_lists_of_fails {reply : Except CommandFailure String} {failure : FormulaFailure}
    {entries : List Value} (h : Fails request reply failure) : ¬ Lists reply entries := by
  intro hlists
  have hfound := (found_of_fails h).symm.trans (found_of_lists hlists)
  cases hfound

/-- **Which open pull request is found.** A look fails exactly if its command failed or gave no
JSON. Otherwise it gives what the first entry tells that shows a pull request for the bump, and
nothing if there is no such entry. -/
theorem lookup_exact {σ : Type} {host : Host σ} {c : RunContext} {token : String} {w w' : World σ}
    {reply : Except CommandFailure String} (hformula : request.formula ≠ "")
    (htag : lower request.tag ≠ "") (hletter : lower request.tag ≠ "v")
    (hissue : Action.runOn (Action.issue host (listCommand c request token)) w = (.ok reply, w'))
    (hread : ∀ output, reply = .ok output → output ≠ "" → ∃ read, Value.ofJson output = .ok read) :
    ∃ result, Action.runOn (findOpen host c request token) w = (.ok result, w') ∧
      (∀ failure, result = .error failure ↔ Fails request reply failure) ∧
      ∀ told, result = .ok told ↔ ∃ entries, Lists reply entries ∧ Finds request entries told := by
  have hrun := runOn_findOpen host c request token w
  rw [hissue] at hrun
  rcases reply_cases request reply with ⟨output, fault, rfl, hne, hjson⟩ | ⟨failure, hfails⟩ |
    ⟨entries, hlists⟩
  · -- an answer that cannot be read is excluded
    obtain ⟨read, hok⟩ := hread output rfl hne
    cases hok.symm.trans hjson
  · rw [found_of_fails hfails] at hrun
    refine ⟨_, hrun, fun failure' => ⟨?_, fun hfails' => ?_⟩, fun told => ⟨nofun, ?_⟩⟩
    · rintro ⟨⟩
      exact hfails
    · exact Except.ok.inj ((found_of_fails hfails).symm.trans (found_of_fails hfails'))
    · rintro ⟨entries, hlists, -⟩
      exact absurd hlists (not_lists_of_fails hfails)
  · rw [found_of_lists hlists] at hrun
    refine ⟨_, hrun, fun failure => ⟨nofun, fun hfails => ?_⟩, fun told => ?_⟩
    · exact absurd hlists (not_lists_of_fails hfails)
    · rw [Except.ok.injEq, findSome?_matching?_eq_iff hformula htag hletter]
      refine ⟨fun hfinds => ⟨entries, hlists, hfinds⟩, ?_⟩
      rintro ⟨entries', hlists', hfinds⟩
      rwa [hlists.eq hlists']

/-! ## A list with a longer name -/

/-- A host whose answer to every command is a list. -/
def listingHost (entries : List Value) : Host Unit where
  answer _ files outside := (.ok (.ok (Json.write (.list entries))), files, outside)
  installed _ := true
  archiver := Archive.storing

/-- A list with a number, the pull request of another formula, and one without a link. -/
def mixedEntries : List Value :=
  [.int 7, .table [("title", .text "replibyte-extra 1"), ("url", .text "u")],
    .table [("title", .text " Replibyte: 1"), ("url", .text " ")]]

/-- The bump of `replibyte` to `v1`. -/
def sought : FormulaRequest := ⟨"o/homebrew-r", "replibyte", "v1", "c0ffee", false⟩

/-- The world before the look. -/
def start : World Unit := ⟨FileSystem.empty [], [], [], ()⟩

set_option maxRecDepth 100000 in
/-- The longer name is passed over. -/
theorem lookup_exact_mixedEntries :
    (Action.runOn (findOpen (listingHost mixedEntries) Rehearsal.context sought "t") start).1 =
      .ok (.ok (some "Replibyte: 1")) := by
  have hformula : sought.formula ≠ "" := by decide
  have htag : lower sought.tag ≠ "" := by decide
  have hletter : lower sought.tag ≠ "v" := by decide
  have hne : Json.write (.list mixedEntries) ≠ "" := by decide
  have hjson : Value.ofJson (Json.write (.list mixedEntries)) =
      .ok (.ok (.list mixedEntries)) := rfl
  have hissue : Action.runOn (Action.issue (listingHost mixedEntries)
      (listCommand Rehearsal.context sought "t")) start =
      (.ok (.ok (Json.write (.list mixedEntries))), _) := rfl
  obtain ⟨result, hrun, -, hfound⟩ := lookup_exact hformula htag hletter hissue
    fun output houtput _ => by
      cases houtput
      exact ⟨_, hjson⟩
  rw [hrun]
  refine congrArg _ ((hfound _).mpr ⟨mixedEntries, .list hne hjson, ?_⟩)
  exact (findSome?_matching?_eq_iff hformula htag hletter).mp rfl

end Shipyard.Formula
