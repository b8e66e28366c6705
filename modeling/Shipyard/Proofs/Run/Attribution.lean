import Shipyard.Proofs.Run.Delivery
import Shipyard.Proofs.Run.Telling

/-!
# Whose lines these are

The branches of a run share one console, and the tags are all that tells their lines apart. If no
text of the context holds the end of a line, every line carries the tag of the branch or of the
formula that told it, and the lines with one tag are what was told under it, in whatever order the
console got the notices (`lines_attributed`). A tag stands only at the beginning of a message, so
without that condition further lines of a message carry none (`revision_loses_tag`).
-/

namespace Shipyard

open Text Shipyard.Action

variable {σ : Type}

/-! ## Tags on lines -/

/-- The words that stand in front of a message for its kind. -/
def recordLabels : List String := ["", "OK ", "error: ", "warning: ", "info: "]

/-- The names under which something is told. -/
def tellerNames : List String := BuildTarget.platformNames ++ ["formula"]

/-- Whether a line carries the tag of a name, behind the word for its kind. -/
def carriesTag (name line : String) : Bool :=
  recordLabels.any fun label => (label ++ Notice.tag name).toList.isPrefixOf line.toList

/-- No tag begins with another one, whatever words are in front of them. -/
theorem eq_of_tags_alike : ∀ name ∈ tellerNames, ∀ name' ∈ tellerNames, ∀ label ∈ recordLabels,
    ∀ label' ∈ recordLabels, (label ++ Notice.tag name).toList.isPrefixOf
      (label' ++ Notice.tag name').toList = true → name = name' := by
  decide

/-- The one line that is told without a tag has none. -/
theorem not_tag_of_warning : ∀ name ∈ tellerNames, ∀ label ∈ recordLabels,
    (label ++ Notice.tag name).toList.isPrefixOf "warning: formula bump".toList = false ∧
      "warning: formula bump".toList.isPrefixOf (label ++ Notice.tag name).toList = false := by
  decide

/-- Of a line with the tag of a name, no other name is read. -/
theorem carriesTag_append {name name' label : String} (hname : name ∈ tellerNames)
    (hname' : name' ∈ tellerNames) (hlabel : label ∈ recordLabels) (rest : String) :
    carriesTag name' (label ++ (Notice.tag name ++ rest)) = decide (name = name') := by
  rw [Bool.eq_iff_iff, decide_eq_true_eq, carriesTag, List.any_eq_true]
  have hline : (label ++ (Notice.tag name ++ rest)).toList =
      (label ++ Notice.tag name).toList ++ rest.toList := by
    simp only [String.toList_append, List.append_assoc]
  constructor
  · rintro ⟨label', hlabel', hprefix⟩
    rw [hline, List.isPrefixOf_iff_prefix] at hprefix
    -- both tags begin the line, so one of them begins with the other one
    rcases List.prefix_or_prefix_of_prefix hprefix (List.prefix_append _ _) with h | h
    · exact (eq_of_tags_alike name' hname' name hname label' hlabel' label hlabel
        (List.isPrefixOf_iff_prefix.mpr h)).symm
    · exact eq_of_tags_alike name hname name' hname' label hlabel label' hlabel'
        (List.isPrefixOf_iff_prefix.mpr h)
  · rintro rfl
    refine ⟨label, hlabel, ?_⟩
    rw [hline, List.isPrefixOf_iff_prefix]
    exact List.prefix_append _ _

theorem carriesTag_warning {name : String} (hname : name ∈ tellerNames) (rest : String) :
    carriesTag name ("warning: " ++ ("formula bump" ++ rest)) = false := by
  rw [carriesTag, List.any_eq_false]
  intro label hlabel hprefix
  have hline : ("warning: " ++ ("formula bump" ++ rest)).toList =
      "warning: formula bump".toList ++ rest.toList := by
    rw [String.toList_append, String.toList_append, ← List.append_assoc]
    rfl
  obtain ⟨hno, hno'⟩ := not_tag_of_warning name hname label hlabel
  rw [hline, List.isPrefixOf_iff_prefix] at hprefix
  rcases List.prefix_or_prefix_of_prefix hprefix (List.prefix_append _ _) with h | h
  · rw [List.isPrefixOf_iff_prefix.mpr h] at hno
    cases hno
  · rw [List.isPrefixOf_iff_prefix.mpr h] at hno'
    cases hno'

/-! ## Tellings -/

/-- A notice at the console, with the name under which it was told; what the run itself tells has
none. -/
structure Telling where
  /-- under which name it was told -/
  teller : Option String
  /-- the notice as it arrived -/
  notice : Notice
  deriving DecidableEq, Repr

namespace Telling

/-- The text of the record. -/
def message (t : Telling) : String := t.notice.record.message

/-- Whether a telling is a line that shows who told it: one with the tag, or the warning of the run
that no bump was requested. -/
def Attributable (t : Telling) : Prop :=
  match t.teller with
  | some name => name ∈ tellerNames ∧
    ∃ n : Notice, n.Unbroken ∧ t.notice = (Console.plain.within name).deliver n
  | none => ∃ rest, Text.Unbroken rest ∧ t.notice = .warning ("formula bump" ++ rest)

/-- What a notice under a tag is recorded as. -/
theorem record_within {n : Notice} (h : n.Unbroken) (name : String) :
    ∃ label ∈ recordLabels, ∃ rest, Text.Unbroken rest ∧
      ((Console.plain.within name).deliver n).record.message =
        label ++ (Notice.tag name ++ rest) := by
  cases n with
  | print message style => exact ⟨"", by decide, message, h, String.empty_append.symm⟩
  | success message => exact ⟨"OK ", by decide, message, h, rfl⟩
  | error message => exact ⟨"error: ", by decide, message, h, rfl⟩
  | warning message => exact ⟨"warning: ", by decide, message, h, rfl⟩
  | info message => exact ⟨"info: ", by decide, message, h, rfl⟩
  | header message => exact ⟨"", by decide, message, h, String.empty_append.symm⟩
  | newline => exact absurd h id

theorem unbroken_tag : ∀ name ∈ tellerNames, Text.Unbroken (Notice.tag name) := by decide

theorem unbroken_recordLabels : ∀ label ∈ recordLabels, Text.Unbroken label := by decide

theorem tag_append_ne_empty (label name rest : String) :
    label ++ (Notice.tag name ++ rest) ≠ "" := by
  intro hempty
  have hlist := congrArg String.toList hempty
  simp [Notice.tag] at hlist

/-- An attributable telling is one line, and its tag is that of its teller. -/
theorem Attributable.line {t : Telling} (h : t.Attributable) :
    Text.Unbroken t.message ∧ t.message ≠ "" ∧
      ∀ name ∈ tellerNames, carriesTag name t.message = decide (t.teller = some name) := by
  obtain ⟨teller, notice⟩ := t
  cases teller with
  | some name =>
    obtain ⟨hname, n, hn, rfl⟩ := h
    obtain ⟨label, hlabel, rest, hrest, hrecord⟩ := record_within hn name
    have hmessage : message ⟨some name, (Console.plain.within name).deliver n⟩ =
        label ++ (Notice.tag name ++ rest) := hrecord
    rw [hmessage]
    refine ⟨?_, tag_append_ne_empty _ _ _, fun name' hname' => ?_⟩
    · simp only [unbroken_append]
      exact ⟨unbroken_recordLabels label hlabel, unbroken_tag name hname, hrest⟩
    · rw [carriesTag_append hname hname' hlabel]
      simp only [Option.some.injEq]
  | none =>
    obtain ⟨rest, hrest, rfl⟩ := h
    refine ⟨?_, ?_, fun name hname => ?_⟩
    · simp only [message, Notice.record, unbroken_append]
      exact ⟨by decide, by decide, hrest⟩
    · intro hempty
      have hlist := congrArg String.toList hempty
      simp [message, Notice.record] at hlist
    · rw [message, Notice.record, carriesTag_warning hname]
      rfl

theorem Attributable.lines_eq {t : Telling} (h : t.Attributable) : lines t.message = [t.message] :=
  lines_eq_singleton h.line.1 h.line.2.1

end Telling

/-- Whether the notices of every teller come in the same order in two lists, and are the same. -/
def Interleaves (mix tellings : List Telling) : Prop :=
  ∀ teller, (mix.filter fun t => t.teller = teller) = tellings.filter fun t => t.teller = teller

theorem Interleaves.mem_of_mem {mix tellings : List Telling} (h : Interleaves mix tellings)
    {t : Telling} (ht : t ∈ mix) : t ∈ tellings := by
  have hmem : t ∈ mix.filter fun other => other.teller = t.teller :=
    List.mem_filter.mpr ⟨ht, decide_eq_true rfl⟩
  rw [h] at hmem
  exact (List.mem_filter.mp hmem).1

/-- **Selecting by tag.** The lines of a console that carry the tag of a name are what was told
under that name, however the tellings were interleaved. -/
theorem Interleaves.filter_lines {mix tellings : List Telling} (h : Interleaves mix tellings)
    (hall : ∀ t ∈ tellings, t.Attributable) {name : String} (hname : name ∈ tellerNames) :
    (lines (Record.textOf (mix.map (·.notice.record)))).filter (carriesTag name) =
      (tellings.filter fun t => t.teller = some name).map (·.message) := by
  have hmix : ∀ t ∈ mix, t.Attributable := fun t ht => hall t (h.mem_of_mem ht)
  have hlines : lines (Record.textOf (mix.map (·.notice.record))) = mix.map (·.message) := by
    have hmessages : (mix.map (·.notice.record)).map (·.message) = mix.map (·.message) :=
      List.map_map ..
    rw [Record.textOf, hmessages]
    refine lines_intercalate fun message hmessage => ?_
    obtain ⟨t, ht, rfl⟩ := List.mem_map.mp hmessage
    exact ⟨(hmix t ht).line.1, (hmix t ht).line.2.1⟩
  rw [hlines, List.filter_map, ← h (some name)]
  refine congrArg _ (List.filter_congr fun t ht => ?_)
  exact (hmix t ht).line.2.2 name hname

/-! ## Tellings of a run -/

/-- What a step tells from a world on. -/
def Action.told {α : Type} (a : Action σ α) (w : World σ) : List Notice :=
  (runOn a w).2.transcript.drop w.transcript.length

theorem Action.Tells.told_eq {α : Type} {out : Console} {P : Notice → Prop} {a : Action σ α}
    {Q : α → Prop} (h : Tells out P a Q) (w : World σ) :
    (runOn a w).2.transcript = w.transcript ++ a.told w ∧
      ∀ notice ∈ a.told w, ∃ n, P n ∧ notice = out.deliver n := by
  obtain ⟨⟨notices, hnotices, htranscript⟩, -⟩ := h w
  have htold : a.told w = notices.map out.deliver := by
    rw [told, htranscript, List.drop_left]
  rw [htold]
  refine ⟨htranscript, fun notice hnotice => ?_⟩
  obtain ⟨n, hn, rfl⟩ := List.mem_map.mp hnotice
  exact ⟨n, hnotices n hn, rfl⟩

namespace Release

variable {c : RunContext}

/-- What the branches of some targets tell, each in its turn. -/
def branchTellings (host : Host σ) (c : RunContext) : List BuildTarget → World σ → List Telling
  | [], _ => []
  | target :: rest, w =>
    ((runBranch host c .plain target).told w).map (⟨some target.platform, ·⟩) ++
      branchTellings host c rest (runOn (runBranch host c .plain target) w).2

/-- Under which name the last step tells something: the bump has a name, and the warning that there
is none has not. -/
def lastTeller (gate : Option BranchOutcome) : Option String :=
  if gate.any (·.ok) then some "formula" else none

/-- What a run tells. -/
def tellings (host : Host σ) (c : RunContext) (targets : List BuildTarget) (w : World σ) :
    List Telling :=
  match runOn (runBranches host c .plain targets) w with
  | (.ok outcomes, w') =>
    let gate := outcomeOf? outcomes BuildTarget.formulaGate
    branchTellings host c targets w ++
      ((runFormula host c .plain gate).told w').map (⟨lastTeller gate, ·⟩)
  | (.error _, _) => branchTellings host c targets w

/-! ## Branches -/

theorem tells_runBranch (host : Host σ) (hc : c.Unbroken) {target : BuildTarget}
    (htarget : target ∈ BuildTarget.all) :
    Tells (Console.plain.within target.platform) Notice.Unbroken
      (runBranch host c .plain target) fun _ => True := by
  refine (Branch.tells_run hc htarget .plain).caught.bind fun r _ => ?_
  cases r with
  | ok outcome => exact tells_pure trivial
  | error fault => exact tells_pure trivial

/-- A branch always comes to an outcome. -/
theorem exists_runOn_runBranch (host : Host σ) (c : RunContext) (console : Console)
    (target : BuildTarget) (w : World σ) :
    ∃ outcome w', runOn (runBranch host c console target) w = (.ok outcome, w') := by
  rw [runBranch, runOn_bind_ok (runOn_caught _ w)]
  rcases (runOn (Branch.run host c target console) w).1 with fault | outcome
  · exact ⟨_, _, rfl⟩
  · exact ⟨_, _, rfl⟩

theorem platform_mem_tellerNames :
    ∀ target ∈ BuildTarget.all, target.platform ∈ tellerNames := by decide

theorem attributable_branchTellings (host : Host σ) (hc : c.Unbroken) {targets : List BuildTarget}
    (htargets : ∀ target ∈ targets, target ∈ BuildTarget.all) (w : World σ) :
    ∀ t ∈ branchTellings host c targets w, t.Attributable := by
  induction targets generalizing w with
  | nil => exact nofun
  | cons target rest ih =>
    obtain ⟨htarget, hrest⟩ := List.forall_mem_cons.mp htargets
    rw [branchTellings]
    refine List.forall_mem_append.mpr ⟨fun t ht => ?_, ih hrest _⟩
    obtain ⟨notice, hnotice, rfl⟩ := List.mem_map.mp ht
    obtain ⟨n, hn, hdeliver⟩ := ((tells_runBranch host hc htarget).told_eq w).2 notice hnotice
    exact ⟨platform_mem_tellerNames target htarget, n, hn, hdeliver⟩

/-- The transcript of the branches is what they tell, each in its turn. -/
theorem transcript_runBranches (host : Host σ) (hc : c.Unbroken) {targets : List BuildTarget}
    (htargets : ∀ target ∈ targets, target ∈ BuildTarget.all) (w : World σ) :
    ∃ outcomes w', runOn (runBranches host c .plain targets) w = (.ok outcomes, w') ∧
      w'.transcript = w.transcript ++ (branchTellings host c targets w).map (·.notice) := by
  induction targets generalizing w with
  | nil => exact ⟨[], w, rfl, (List.append_nil _).symm⟩
  | cons target rest ih =>
    obtain ⟨htarget, hrest⟩ := List.forall_mem_cons.mp htargets
    obtain ⟨outcome, w₁, hbranch⟩ := exists_runOn_runBranch host c .plain target w
    obtain ⟨outcomes, w₂, hbranches, htranscript⟩ := ih hrest w₁
    -- the notices of the first branch come before all others
    refine ⟨outcome :: outcomes, w₂, ?_, ?_⟩
    · rw [runBranches, runOn_bind_ok hbranch, runOn_bind_ok hbranches]
      rfl
    · have htold := ((tells_runBranch host hc htarget).told_eq w).1
      rw [hbranch] at htold
      have hnotices : ∀ notices : List Notice,
          (notices.map (Telling.mk (some target.platform) ·)).map (·.notice) = notices := by
        intro notices
        rw [List.map_map]
        exact List.map_id _
      rw [htranscript, htold, branchTellings, hbranch, List.map_append, hnotices, List.append_assoc]

/-! ## The last step -/

/-- Behind an open gate the last step tells lines of the formula. -/
theorem tells_runFormula_of_ok (host : Host σ) (hc : c.Unbroken) {outcome : BranchOutcome}
    (hok : outcome.ok = true) :
    Tells (Console.plain.within "formula") Notice.Unbroken
      (runFormula host c .plain (some outcome)) fun _ => True := by
  have hrequest : Text.Unbroken ("requesting " ++ c.config.formula.name ++ " " ++ c.event.tag ++
      " on " ++ c.config.formula.tap) := by
    simp only [unbroken_append]
    exact ⟨⟨⟨⟨⟨by decide, hc.formula⟩, by decide⟩, hc.tag⟩, by decide⟩, hc.tap⟩
  rw [runFormula]
  dsimp only
  rw [if_pos hok]
  exact Tells.tell_bind hrequest ((Formula.tells_bump hc).bind fun _ _ => tells_pure trivial)

/-- Behind a closed one it tells a warning under no name. -/
theorem tells_runFormula_of_not_ok (host : Host σ) {outcome : BranchOutcome}
    (hok : ¬ outcome.ok = true) :
    Tells Console.plain
      (fun n => ∃ rest, Text.Unbroken rest ∧ n = .warning ("formula bump" ++ rest))
      (runFormula host c .plain (some outcome)) fun _ => True := by
  rw [runFormula]
  dsimp only
  rw [if_neg hok]
  refine Tells.tell_bind ⟨" not requested: " ++ BuildTarget.formulaGate.platform ++
    " branch ended " ++ outcome.state.word, ?_, ?_⟩ (tells_pure trivial)
  · simp only [unbroken_append]
    refine ⟨by decide, ?_⟩
    cases outcome.state <;> decide
  · simp only [← String.append_assoc]
    rfl

/-- What the last step tells: under the name of the formula, if the branch of the gate is done, and
else one warning at most. -/
theorem attributable_runFormula (host : Host σ) (hc : c.Unbroken) (gate : Option BranchOutcome)
    (w : World σ) :
    (runOn (runFormula host c .plain gate) w).2.transcript =
        w.transcript ++ (runFormula host c .plain gate).told w ∧
      ∀ notice ∈ (runFormula host c .plain gate).told w,
        Telling.Attributable ⟨lastTeller gate, notice⟩ := by
  rcases gate with _ | outcome
  · have hsilent : Tells Console.plain (fun _ => False) (runFormula host c .plain none)
        fun _ => True := tells_pure trivial
    obtain ⟨htranscript, hnotices⟩ := hsilent.told_eq w
    refine ⟨htranscript, fun notice hnotice => ?_⟩
    obtain ⟨_, hn, -⟩ := hnotices notice hnotice
    exact hn.elim
  by_cases hok : outcome.ok = true
  · obtain ⟨htranscript, hnotices⟩ := (tells_runFormula_of_ok host hc hok).told_eq w
    have hteller : lastTeller (some outcome) = some "formula" := by
      rw [lastTeller, Option.any_some, hok]
      rfl
    refine ⟨htranscript, fun notice hnotice => ?_⟩
    rw [hteller]
    exact ⟨by decide, hnotices notice hnotice⟩
  · obtain ⟨htranscript, hnotices⟩ := (tells_runFormula_of_not_ok host (c := c) hok).told_eq w
    have hteller : lastTeller (some outcome) = none := by
      rw [lastTeller, Option.any_some, if_neg hok]
    refine ⟨htranscript, fun notice hnotice => ?_⟩
    rw [hteller]
    obtain ⟨n, ⟨rest, hrest, rfl⟩, rfl⟩ := hnotices notice hnotice
    exact ⟨rest, hrest, rfl⟩

/-! ## Attribution -/

/-- What a run tells is its transcript, and shows who told it. -/
theorem transcript_run (host : Host σ) (hc : c.Unbroken) {targets : List BuildTarget}
    (htargets : ∀ target ∈ targets, target ∈ BuildTarget.all) (w : World σ) :
    (runOn (run host c targets .plain) w).2.transcript =
        w.transcript ++ (tellings host c targets w).map (·.notice) ∧
      ∀ t ∈ tellings host c targets w, t.Attributable := by
  obtain ⟨outcomes, w₁, hbranches, htranscript⟩ := transcript_runBranches host hc htargets w
  have hall := attributable_branchTellings host hc htargets w
  obtain ⟨hlast, hlastAll⟩ :=
    attributable_runFormula host hc (outcomeOf? outcomes BuildTarget.formulaGate) w₁
  rw [tellings, hbranches]
  constructor
  · have hrun : (runOn (run host c targets .plain) w).2.transcript =
        (runOn (runFormula host c .plain (outcomeOf? outcomes BuildTarget.formulaGate))
          w₁).2.transcript := by
      by_cases hne : targets = []
      · -- without targets nothing is begun
        subst hne
        cases hbranches
        rfl
      · rw [runOn_run hne hbranches]
        rcases runOn (runFormula host c .plain
          (outcomeOf? outcomes BuildTarget.formulaGate)) w₁ with ⟨fault | formula, w₂⟩
        · rfl
        · rfl
    rw [hrun, hlast, htranscript, List.map_append, List.append_assoc, List.map_map]
    exact congrArg _ (congrArg _ (List.map_id _).symm)
  · refine List.forall_mem_append.mpr ⟨hall, fun t ht => ?_⟩
    obtain ⟨notice, hnotice, rfl⟩ := List.mem_map.mp ht
    exact hlastAll notice hnotice

/-- **Lines and their tellers.** If the texts of a context are unbroken, a run over built-in targets
tells nothing but its tellings; every line of what is told under a name carries the tag of that
name; and in whatever order the console gets the tellings, the lines with the tag of a name are the
lines of what was told under it. -/
theorem lines_attributed (host : Host σ) (c : RunContext) (targets : List BuildTarget) (w : World σ)
    (hc : c.Unbroken) (htargets : ∀ target ∈ targets, target ∈ BuildTarget.all) :
    (runOn (run host c targets .plain) w).2.transcript =
        w.transcript ++ (tellings host c targets w).map (·.notice) ∧
      (∀ t ∈ tellings host c targets w, ∀ name, t.teller = some name →
        name ∈ tellerNames ∧ ∀ line ∈ lines t.message, carriesTag name line = true) ∧
      ∀ mix, Interleaves mix (tellings host c targets w) → ∀ name ∈ tellerNames,
        (lines (Record.textOf (mix.map (·.notice.record)))).filter (carriesTag name) =
          ((tellings host c targets w).filter fun t => t.teller = some name).flatMap
            fun t => lines t.message := by
  obtain ⟨htranscript, hall⟩ := transcript_run host hc htargets w
  refine ⟨htranscript, fun t ht name hteller => ?_, fun mix hmix name hname => ?_⟩
  · have hname : name ∈ tellerNames := by
      have hattributable := hall t ht
      rw [Telling.Attributable, hteller] at hattributable
      exact hattributable.1
    refine ⟨hname, fun line hline => ?_⟩
    rw [(hall t ht).lines_eq, List.mem_singleton] at hline
    rw [hline, (hall t ht).line.2.2 name hname, hteller]
    exact decide_eq_true rfl
  · rw [hmix.filter_lines hall hname]
    -- every telling is one line
    have hlines : ∀ ts : List Telling, (∀ t ∈ ts, t.Attributable) →
        ts.map (·.message) = ts.flatMap fun t => lines t.message := by
      intro ts hts
      induction ts with
      | nil => rfl
      | cons t ts ih =>
        obtain ⟨ht, hts⟩ := List.forall_mem_cons.mp hts
        rw [List.map_cons, List.flatMap_cons, ht.lines_eq, ih hts]
        rfl
    exact hlines _ fun t ht => hall t (List.mem_filter.mp ht).1

/-- Of two branches of a rehearsal, the lines of macOS are read off the console again. -/
theorem lines_attributed_rehearsed :
    (lines (Record.textOf ((tellings (Rehearsal.host Rehearsal.script) Rehearsal.context
      [.linux, .macos] (Rehearsal.world [])).map (·.notice.record)))).filter (carriesTag "macos") =
    ((tellings (Rehearsal.host Rehearsal.script) Rehearsal.context [.linux, .macos]
      (Rehearsal.world [])).filter fun t => t.teller = some "macos").flatMap
        fun t => lines t.message := by
  have hc : Rehearsal.context.Unbroken :=
    ⟨by decide, by decide, by decide, by decide, by decide, by decide, by decide, by decide,
      by decide, by decide⟩
  exact (lines_attributed (Rehearsal.host Rehearsal.script) Rehearsal.context [.linux, .macos]
    (Rehearsal.world []) hc (by decide)).2.2 _ (fun _ => rfl) "macos" (by decide)

/-- The payload of a release whose commit has two lines. -/
def brokenPayload : Table :=
  [("action", .text "published"),
    ("release", .table [("tag_name", .text "v1"), ("target_commitish", .text "abc\ndef")])]

/-- The context of that release. -/
def brokenContext : RunContext := { Rehearsal.context with event := ⟨"v1", "abc\ndef"⟩ }

/-- **A line without a tag.** The event is accepted, and the branch tells of a commit whose second
line carries no tag. -/
theorem revision_loses_tag :
    ReleaseEvent.ofPayload brokenPayload (some "release") none = .ok brokenContext.event ∧
      ∃ t ∈ tellings (Rehearsal.host { Rehearsal.script with installed := false }) brokenContext
        [.windows] (Rehearsal.world []), t.teller = some "windows" ∧
          ∃ line ∈ lines t.message, ∀ name ∈ tellerNames, carriesTag name line = false := by
  constructor
  · rfl
  · decide

end Release

end Shipyard
