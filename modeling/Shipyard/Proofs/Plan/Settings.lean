import Shipyard.Plan.Config
import Shipyard.Proofs.Data.Table

/-!
# What a table of settings gives

Every setting stands at one place, a key in one of the tables, and depends on the value at that
place alone. `Reads` says what the settings of a table are, place by place and without the reader;
the reader gives exactly these (`ofTable_exact`). So two tables with the same values at the places
have the same settings, and where they differ at one place only, so do the settings.
-/

namespace Shipyard.Config

open Text

variable {t t' : Table} {c c' : Config}

/-! ## Places -/

/-- Where a setting stands. -/
structure Place where
  /-- the key of its table -/
  table : String
  /-- its own key -/
  key : String
  deriving DecidableEq, Repr

/-- The value at a place; there is none if the table is missing or no table. -/
def Place.value? (place : Place) (t : Table) : Option Value :=
  match t.find? place.table with
  | some (.table inner) => Table.find? inner place.key
  | _ => none

/-- Whether a text stands at a place that is not blank, and what it is without the blanks at its
ends. -/
def Place.Says (place : Place) (t : Table) (s : String) : Prop :=
  ∃ raw, place.value? t = some (.text raw) ∧ strip raw = s ∧ s ≠ ""

/-- A setting that is a text. -/
structure TextSetting where
  /-- where it stands -/
  place : Place
  /-- what it is if nothing is said there -/
  fallback : String
  /-- where it is among the settings -/
  get : Config → String

/-- The settings that are texts, with their defaults. -/
def textSettings : List TextSetting :=
  [⟨⟨"project", "binary_name"⟩, "replibyte", (·.project.binaryName)⟩,
    ⟨⟨"project", "repo"⟩, "Qovery/replibyte", (·.project.repo)⟩,
    ⟨⟨"formula", "tap"⟩, "Qovery/homebrew-replibyte", (·.formula.tap)⟩,
    ⟨⟨"formula", "name"⟩, "replibyte", (·.formula.name)⟩,
    ⟨⟨"secrets", "publish_token_env"⟩, "GITHUB_TOKEN", (·.secrets.publishTokenEnv)⟩,
    ⟨⟨"secrets", "formula_token_env"⟩, "PERSONAL_TOKEN", (·.secrets.formulaTokenEnv)⟩,
    ⟨⟨"toolchain", "builder_image"⟩, "joseluisq/rust-linux-darwin-builder:1.60.0",
      (·.toolchain.builderImage)⟩,
    ⟨⟨"paths", "work_dir"⟩, ".rbr", (·.paths.workDir)⟩]

/-- Where it stands whether a bump is forced. -/
def forcePlace : Place := ⟨"formula", "force"⟩

/-- Where the policy for sidecars stands. -/
def policyPlace : Place := ⟨"checksums", "sidecar_format"⟩

/-- The words for the policies. -/
def policyWords : List (String × SidecarPolicy) :=
  [("per-target", .perTarget), ("bare", .bare), ("named", .named)]

/-- All places that are looked at. -/
def places : List Place := textSettings.map (·.place) ++ [forcePlace, policyPlace]

/-- **The settings of a table.** -/
structure Reads (t : Table) (c : Config) : Prop where
  /-- a text is what is said at its place -/
  given : ∀ setting ∈ textSettings, ∀ s, setting.place.Says t s → setting.get c = s
  /-- and its default if nothing is said there -/
  missing : ∀ setting ∈ textSettings, (∀ s, ¬ setting.place.Says t s) →
    setting.get c = setting.fallback
  /-- a bump is forced if the truth value at its place says so, and in no other case -/
  forced : c.formula.force = true ↔ forcePlace.value? t = some (.bool true)
  /-- the policy is the one whose word is at its place -/
  policy : ∀ w, policyPlace.Says t w → (w, c.sidecarPolicy) ∈ policyWords
  /-- and without a word each target has its own form -/
  noPolicy : (∀ w, ¬ policyPlace.Says t w) → c.sidecarPolicy = .perTarget

/-- Whether two configurations have the same settings, but for the one at a place. -/
structure AgreeBut (place : Place) (c c' : Config) : Prop where
  /-- the texts of other places -/
  texts : ∀ setting ∈ textSettings, setting.place ≠ place → setting.get c = setting.get c'
  /-- whether a bump is forced -/
  force : forcePlace ≠ place → c.formula.force = c'.formula.force
  /-- the policy for sidecars -/
  policy : policyPlace ≠ place → c.sidecarPolicy = c'.sidecarPolicy

/-! ## Values at places -/

/-- A reader of a key in a table reads the value at a place. -/
theorem bind_table? {α : Type} (place : Place) (read : Value → Option α) :
    ((t.table? place.table).bind fun inner => (inner.find? place.key).bind read) =
      (place.value? t).bind read := by
  rw [Place.value?, Table.table?]
  rcases t.find? place.table with _ | v
  · rfl
  · cases v <;> rfl

theorem text?_eq (place : Place) :
    text? t place.table place.key = (place.value? t).bind Value.asText? :=
  bind_table? place Value.asText?

theorem text?_eq_some_iff {place : Place} {s : String} :
    text? t place.table place.key = some s ↔ place.Says t s := by
  rw [text?_eq, Option.bind_eq_some_iff]
  constructor
  · rintro ⟨v, hv, htext⟩
    obtain ⟨raw, rfl, hstrip, hne⟩ := Value.asText?_eq_some_iff.mp htext
    exact ⟨raw, hv, hstrip, hne⟩
  · rintro ⟨raw, hraw, hstrip, hne⟩
    exact ⟨.text raw, hraw, Value.asText?_eq_some_iff.mpr ⟨raw, rfl, hstrip, hne⟩⟩

theorem text?_eq_none_iff {place : Place} :
    text? t place.table place.key = none ↔ ∀ s, ¬ place.Says t s := by
  rw [Option.eq_none_iff_forall_ne_some]
  exact forall_congr' fun s => not_congr text?_eq_some_iff

theorem getD_bool?_eq_true_iff :
    (((t.table? "formula").bind fun inner => inner.bool? "force").getD false) = true ↔
      forcePlace.value? t = some (.bool true) := by
  have hread : ((t.table? "formula").bind fun inner => inner.bool? "force") =
      (forcePlace.value? t).bind Value.asBool? := bind_table? forcePlace Value.asBool?
  rw [hread]
  rcases forcePlace.value? t with _ | v
  · simp
  · cases v <;> simp [Value.asBool?]

/-! ## Policies -/

theorem mem_policyWords_iff {w : String} {policy : SidecarPolicy} :
    (w, policy) ∈ policyWords ↔ w = policy.word := by
  cases policy <;> simp [policyWords, SidecarPolicy.word]

theorem find?_word_eq_some_iff {w : String} {policy : SidecarPolicy} :
    SidecarPolicy.all.find? (·.word = w) = some policy ↔ (w, policy) ∈ policyWords := by
  rw [mem_policyWords_iff]
  constructor
  · intro h
    have hword := List.find?_some h
    exact (of_decide_eq_true hword).symm
  · rintro rfl
    cases policy <;> rfl

/-- The policy of a word that was given. -/
theorem ofWord_some_eq_ok_iff {w : String} {policy : SidecarPolicy} :
    SidecarPolicy.ofWord (some w) = .ok policy ↔ (w, policy) ∈ policyWords := by
  rw [← find?_word_eq_some_iff, SidecarPolicy.ofWord]
  split
  · next found hfound => rw [hfound, Except.ok.injEq, Option.some.injEq]
  · next hnone => rw [hnone]; exact iff_of_false nofun nofun

/-- A word is refused if it stands for no policy. -/
theorem ofWord_some_eq_error_iff {w : String} {refusal : Refusal} :
    SidecarPolicy.ofWord (some w) = .error refusal ↔
      w ∉ policyWords.map (·.1) ∧ refusal = .sidecarPolicy w (policyWords.map (·.1)) := by
  have hnone : SidecarPolicy.all.find? (·.word = w) = none ↔ w ∉ policyWords.map (·.1) := by
    rw [Option.eq_none_iff_forall_ne_some]
    simp only [ne_eq, find?_word_eq_some_iff, List.mem_map, Prod.exists, exists_and_right,
      exists_eq_right, not_exists]
  rw [← hnone, SidecarPolicy.ofWord]
  split
  · next found hfound =>
    rw [hfound]
    exact iff_of_false nofun fun h => nomatch h.1
  · next hunknown =>
    rw [hunknown, Except.error.injEq, eq_comm]
    exact (and_iff_right rfl).symm

/-! ## Reading -/

/-- A word that is refused ends the reading. -/
theorem ofTable_of_refused {refusal : Refusal}
    (h : SidecarPolicy.ofWord (text? t policyPlace.table policyPlace.key) = .error refusal) :
    ofTable t = .error refusal := by
  have hword : SidecarPolicy.ofWord (text? t "checksums" "sidecar_format") = .error refusal := h
  rw [ofTable, hword]
  rfl

/-- No other word does. -/
theorem exists_ofTable_eq_ok {policy : SidecarPolicy}
    (h : SidecarPolicy.ofWord (text? t policyPlace.table policyPlace.key) = .ok policy) :
    ∃ c, ofTable t = .ok c := by
  have hword : SidecarPolicy.ofWord (text? t "checksums" "sidecar_format") = .ok policy := h
  rw [ofTable, hword]
  exact ⟨_, rfl⟩

/-- Each of the settings that were read comes from its own place. -/
theorem settings_of_ofTable (h : ofTable t = .ok c) :
    SidecarPolicy.ofWord (text? t policyPlace.table policyPlace.key) = .ok c.sidecarPolicy ∧
      c.formula.force = ((t.table? "formula").bind fun inner => inner.bool? "force").getD false ∧
      ∀ setting ∈ textSettings, setting.get c =
        (text? t setting.place.table setting.place.key).getD setting.fallback := by
  rcases hpolicy : SidecarPolicy.ofWord (text? t policyPlace.table policyPlace.key) with
    refusal | policy
  · rw [ofTable_of_refused hpolicy] at h
    cases h
  · have hword : SidecarPolicy.ofWord (text? t "checksums" "sidecar_format") = .ok policy := hpolicy
    rw [ofTable, hword] at h
    cases h
    refine ⟨rfl, rfl, ?_⟩
    simp only [textSettings, List.forall_mem_cons]
    exact ⟨rfl, rfl, rfl, rfl, rfl, rfl, rfl, rfl, List.forall_mem_nil _⟩

/-- What was read are the settings of the table. -/
theorem reads_of_ofTable (h : ofTable t = .ok c) : Reads t c := by
  obtain ⟨hpolicy, hforce, htexts⟩ := settings_of_ofTable h
  refine ⟨fun setting hmem s hsaid => ?_, fun setting hmem hnone => ?_, ?_, fun w hsaid => ?_,
    fun hnone => ?_⟩
  · rw [htexts setting hmem, text?_eq_some_iff.mpr hsaid, Option.getD_some]
  · rw [htexts setting hmem, text?_eq_none_iff.mpr hnone, Option.getD_none]
  · rw [hforce, getD_bool?_eq_true_iff]
  · rw [text?_eq_some_iff.mpr hsaid] at hpolicy
    exact ofWord_some_eq_ok_iff.mp hpolicy
  · rw [text?_eq_none_iff.mpr hnone] at hpolicy
    exact (Except.ok.inj hpolicy).symm

/-- Two configurations with the same settings are the same. -/
theorem ext_settings (htexts : ∀ setting ∈ textSettings, setting.get c = setting.get c')
    (hforce : c.formula.force = c'.formula.force) (hpolicy : c.sidecarPolicy = c'.sidecarPolicy) :
    c = c' := by
  obtain ⟨⟨_, _⟩, ⟨_, _, _⟩, ⟨_, _⟩, ⟨_⟩, ⟨_⟩, _⟩ := c
  obtain ⟨⟨_, _⟩, ⟨_, _, _⟩, ⟨_, _⟩, ⟨_⟩, ⟨_⟩, _⟩ := c'
  simp only [textSettings, List.forall_mem_cons] at htexts
  obtain ⟨rfl, rfl, rfl, rfl, rfl, rfl, rfl, rfl, -⟩ := htexts
  obtain rfl := hforce
  obtain rfl := hpolicy
  rfl

namespace Reads

/-- A text is the same in all settings of a table. -/
theorem get_eq (h : Reads t c) (h' : Reads t' c') {setting : TextSetting}
    (hmem : setting ∈ textSettings) (hsame : setting.place.value? t = setting.place.value? t') :
    setting.get c = setting.get c' := by
  have hagree : ∀ s, setting.place.Says t s ↔ setting.place.Says t' s := fun s => by
    rw [Place.Says, hsame, Place.Says]
  by_cases hsaid : ∃ s, setting.place.Says t s
  · obtain ⟨s, hs⟩ := hsaid
    rw [h.given setting hmem s hs, h'.given setting hmem s ((hagree s).mp hs)]
  · have hnone := not_exists.mp hsaid
    rw [h.missing setting hmem hnone,
      h'.missing setting hmem fun s hs => hnone s ((hagree s).mpr hs)]

theorem force_eq (h : Reads t c) (h' : Reads t' c')
    (hsame : forcePlace.value? t = forcePlace.value? t') :
    c.formula.force = c'.formula.force := by
  rw [Bool.eq_iff_iff, h.forced, h'.forced, hsame]

theorem policy_eq (h : Reads t c) (h' : Reads t' c')
    (hsame : policyPlace.value? t = policyPlace.value? t') :
    c.sidecarPolicy = c'.sidecarPolicy := by
  have hagree : ∀ w, policyPlace.Says t w ↔ policyPlace.Says t' w := fun w => by
    rw [Place.Says, hsame, Place.Says]
  by_cases hsaid : ∃ w, policyPlace.Says t w
  · obtain ⟨w, hw⟩ := hsaid
    have hword := (mem_policyWords_iff.mp (h.policy w hw)).symm.trans
      (mem_policyWords_iff.mp (h'.policy w ((hagree w).mp hw)))
    revert hword
    rcases c.sidecarPolicy <;> rcases c'.sidecarPolicy <;> decide
  · have hnone := not_exists.mp hsaid
    rw [h.noPolicy hnone, h'.noPolicy fun w hw => hnone w ((hagree w).mpr hw)]

/-- A table has no other settings. -/
theorem eq (h : Reads t c) (h' : Reads t c') : c = c' :=
  ext_settings (fun _ hmem => h.get_eq h' hmem rfl) (h.force_eq h' rfl) (h.policy_eq h' rfl)

/-- **No setting is empty or padded.** -/
theorem stripped (h : Reads t c) {setting : TextSetting} (hmem : setting ∈ textSettings) :
    setting.get c ≠ "" ∧ strip (setting.get c) = setting.get c := by
  by_cases hsaid : ∃ s, setting.place.Says t s
  · obtain ⟨s, hs⟩ := hsaid
    obtain ⟨raw, -, rfl, hne⟩ := id hs
    rw [h.given setting hmem _ hs]
    exact ⟨hne, strip_strip raw⟩
  · have hfallbacks : ∀ setting ∈ textSettings,
        setting.fallback ≠ "" ∧ strip setting.fallback = setting.fallback := by decide
    rw [h.missing setting hmem (not_exists.mp hsaid)]
    exact hfallbacks setting hmem

end Reads

/-! ## Each table -/

/-- A table is refused for the word of its policy only. -/
theorem ofTable_eq_error_iff {refusal : Refusal} :
    ofTable t = .error refusal ↔ ∃ w, policyPlace.Says t w ∧ w ∉ policyWords.map (·.1) ∧
      refusal = .sidecarPolicy w (policyWords.map (·.1)) := by
  constructor
  · intro h
    rcases hword : SidecarPolicy.ofWord (text? t policyPlace.table policyPlace.key) with
      refusal' | policy
    · obtain rfl := Except.error.inj ((ofTable_of_refused hword).symm.trans h)
      rcases hsaid : text? t policyPlace.table policyPlace.key with _ | w
      · rw [hsaid] at hword
        cases hword
      · rw [hsaid] at hword
        exact ⟨w, text?_eq_some_iff.mp hsaid, ofWord_some_eq_error_iff.mp hword⟩
    · obtain ⟨c, hc⟩ := exists_ofTable_eq_ok hword
      cases hc.symm.trans h
  · rintro ⟨w, hsaid, hrefused⟩
    refine ofTable_of_refused ?_
    rw [text?_eq_some_iff.mpr hsaid]
    exact ofWord_some_eq_error_iff.mpr hrefused

/-- Every other table gives its settings. -/
theorem ofTable_eq_ok_iff : ofTable t = .ok c ↔ Reads t c := by
  refine ⟨reads_of_ofTable, fun h => ?_⟩
  rcases hread : ofTable t with refusal | c'
  · obtain ⟨w, hsaid, hunknown, -⟩ := ofTable_eq_error_iff.mp hread
    exact absurd (List.mem_map_of_mem (h.policy w hsaid)) hunknown
  · rw [(reads_of_ofTable hread).eq h]

/-- Tables that agree where the policy stands are refused together. -/
theorem refused_iff (hsame : policyPlace.value? t = policyPlace.value? t') {refusal : Refusal} :
    ofTable t = .error refusal ↔ ofTable t' = .error refusal := by
  simp only [ofTable_eq_error_iff, Place.Says, hsame]

theorem agreeBut {place : Place}
    (hsame : ∀ other ∈ places, other ≠ place → other.value? t = other.value? t')
    (h : ofTable t = .ok c) (h' : ofTable t' = .ok c') : AgreeBut place c c' where
  texts setting hmem hne := (reads_of_ofTable h).get_eq (reads_of_ofTable h') hmem
    (hsame _ (List.mem_append_left _ (List.mem_map_of_mem hmem)) hne)
  force hne := (reads_of_ofTable h).force_eq (reads_of_ofTable h') (hsame _ (by decide) hne)
  policy hne := (reads_of_ofTable h).policy_eq (reads_of_ofTable h') (hsame _ (by decide) hne)

/-- A table with the same values at all places gives the same. -/
theorem ofTable_congr (hsame : ∀ place ∈ places, place.value? t = place.value? t') :
    ofTable t = ofTable t' := by
  have hpolicy : policyPlace.value? t = policyPlace.value? t' := hsame _ (by decide)
  rcases h : ofTable t with refusal | c
  · exact ((refused_iff hpolicy).mp h).symm
  rcases h' : ofTable t' with refusal | c'
  · -- the word for the policy is the same, so no table is refused alone
    cases ((refused_iff hpolicy).mpr h').symm.trans h
  have hreads := reads_of_ofTable h
  have hreads' := reads_of_ofTable h'
  refine congrArg _ (ext_settings (fun setting hmem => ?_) ?_ ?_)
  · exact hreads.get_eq hreads' hmem
      (hsame _ (List.mem_append_left _ (List.mem_map_of_mem hmem)))
  · exact hreads.force_eq hreads' (hsame _ (by decide))
  · exact hreads.policy_eq hreads' hpolicy

/-- **What a table of settings gives.** A table is refused for a word that stands for no policy, and
for nothing else. Every other table gives its settings, and none of these is empty or padded. They
depend on the values at the places only; and where two tables differ at one place, nothing but the
setting of that place differs, unless it is the word for the policy that is refused. -/
theorem ofTable_exact (t : Table) :
    (∀ refusal, ofTable t = .error refusal ↔
      ∃ w, policyPlace.Says t w ∧ w ∉ policyWords.map (·.1) ∧
        refusal = .sidecarPolicy w (policyWords.map (·.1))) ∧
    (∀ c, ofTable t = .ok c ↔ Reads t c) ∧
    (∀ c, Reads t c → ∀ setting ∈ textSettings,
      setting.get c ≠ "" ∧ strip (setting.get c) = setting.get c) ∧
    (∀ t', (∀ place ∈ places, place.value? t = place.value? t') → ofTable t = ofTable t') ∧
    ∀ t' place, (∀ other ∈ places, other ≠ place → other.value? t = other.value? t') →
      (policyPlace ≠ place → ∀ refusal, ofTable t = .error refusal ↔ ofTable t' = .error refusal) ∧
      ∀ c c', ofTable t = .ok c → ofTable t' = .ok c' → AgreeBut place c c' := by
  refine ⟨fun _ => ofTable_eq_error_iff, fun _ => ofTable_eq_ok_iff,
    fun _ hreads _ hmem => hreads.stripped hmem, fun _ => ofTable_congr, fun t' place hsame => ?_⟩
  exact ⟨fun hne _ => refused_iff (hsame _ (by decide) hne), fun _ _ => agreeBut hsame⟩

end Shipyard.Config
