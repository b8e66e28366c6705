import Shipyard.Proofs.Formula.Protocol
import Shipyard.Proofs.Rehearsal
import Shipyard.Proofs.Run.Coupling
import Shipyard.Proofs.Text.Lines

/-!
# The link to the pull request

What a bump writes may hold many links. The one that is reported is the first link to a pull
request, and as long as it can be (`IsFirst`). The middle of a link may occur in it more than once;
the last place where a number stands behind it gives the longest link (`finds_longestBody?`). No
link goes beyond a blank, so the parts of a text that blanks keep apart can be searched on their own
(`firstLink?_append_blank`).
-/

namespace Shipyard

namespace Formula

open Text

variable {P Q : List Char → Prop} {cs start : List Char} {r r' : Option (List Char)}

/-! ## The longest beginning -/

/-- What is found if the longest beginning of a text is looked for that has a property. -/
inductive FindsLongest (P : List Char → Prop) (cs : List Char) : Option (List Char) → Prop
  /-- a beginning, and no longer one has the property -/
  | found {front : List Char} : P front → front <+: cs →
      (∀ other, P other → other <+: cs → other.length ≤ front.length) →
      FindsLongest P cs (some front)
  /-- no beginning has the property -/
  | missing : (∀ other, P other → ¬ other <+: cs) → FindsLongest P cs none

theorem FindsLongest.congr (h : FindsLongest P cs r)
    (hPQ : ∀ front, front <+: cs → (P front ↔ Q front)) : FindsLongest Q cs r := by
  cases h with
  | found hP hbegins hlongest =>
    exact .found ((hPQ _ hbegins).mp hP) hbegins fun other hother hbegins' =>
      hlongest other ((hPQ other hbegins').mpr hother) hbegins'
  | missing hnone =>
    exact .missing fun other hother hbegins => hnone other ((hPQ other hbegins).mpr hother) hbegins

theorem FindsLongest.eq (h : FindsLongest P cs r) (h' : FindsLongest P cs r') : r = r' := by
  cases h with
  | found hP hbegins hlongest =>
    cases h' with
    | found hP' hbegins' hlongest' =>
      have hlength := Nat.le_antisymm (hlongest' _ hP hbegins) (hlongest _ hP' hbegins')
      rw [(List.prefix_of_prefix_length_le hbegins hbegins'
        (Nat.le_of_eq hlength)).eq_of_length hlength]
    | missing hnone => exact absurd hbegins (hnone _ hP)
  | missing hnone =>
    cases h' with
    | found hP' hbegins' _ => exact absurd hbegins' (hnone _ hP')
    | missing _ => rfl

/-- Behind something that every beginning begins with, the rest is looked for. -/
theorem FindsLongest.behind (h : FindsLongest P cs r) (start : List Char) :
    FindsLongest (fun front => ∃ rest, front = start ++ rest ∧ P rest) (start ++ cs)
      (r.map (start ++ ·)) := by
  cases h with
  | found hP hbegins hlongest =>
    refine .found ⟨_, rfl, hP⟩ ((List.prefix_append_right_inj start).mpr hbegins) ?_
    rintro _ ⟨rest, rfl, hrest⟩ hbegins'
    rw [List.length_append, List.length_append]
    exact Nat.add_le_add_left
      (hlongest rest hrest ((List.prefix_append_right_inj start).mp hbegins')) _
  | missing hnone =>
    refine .missing ?_
    rintro _ ⟨rest, rfl, hrest⟩ hbegins
    exact hnone rest hrest ((List.prefix_append_right_inj start).mp hbegins)

/-- If the text begins otherwise, there is none. -/
theorem FindsLongest.otherwise (h : ¬ start <+: cs) :
    FindsLongest (fun front => ∃ rest, front = start ++ rest ∧ P rest) cs none := by
  refine .missing ?_
  rintro _ ⟨rest, rfl, -⟩ hbegins
  exact h ((List.prefix_append start rest).trans hbegins)

/-- A beginning with one property is preferred to one with another, if it is never shorter. -/
theorem FindsLongest.or (h : FindsLongest P cs r) (h' : FindsLongest Q cs r')
    (hlonger : ∀ front other, P front → Q other → front <+: cs → other <+: cs →
      other.length ≤ front.length) :
    FindsLongest (fun front => P front ∨ Q front) cs (r.or r') := by
  cases h with
  | found hP hbegins hlongest =>
    refine .found (.inl hP) hbegins fun other hother hbegins' => ?_
    rcases hother with hother | hother
    · exact hlongest other hother hbegins'
    · exact hlonger _ other hP hother hbegins hbegins'
  | missing hnone =>
    cases h' with
    | found hQ hbegins hlongest =>
      refine .found (.inr hQ) hbegins fun other hother hbegins' => ?_
      rcases hother with hother | hother
      · exact absurd hbegins' (hnone other hother)
      · exact hlongest other hother hbegins'
    | missing hnone' =>
      refine .missing fun other hother => ?_
      exact hother.elim (hnone other) (hnone' other)

/-- Only the characters of one kind at the beginning need to be looked at. -/
theorem FindsLongest.of_takeWhile {p : Char → Bool} (h : FindsLongest P (cs.takeWhile p) r) :
    FindsLongest (fun front => P front ∧ ∀ c ∈ front, p c = true) cs r := by
  cases h with
  | found hP hbegins hlongest =>
    obtain ⟨hbegins, hall⟩ := prefix_takeWhile_iff.mp hbegins
    refine .found ⟨hP, hall⟩ hbegins fun other hother hbegins' => ?_
    exact hlongest other hother.1 (prefix_takeWhile_iff.mpr ⟨hbegins', hother.2⟩)
  | missing hnone =>
    refine .missing fun other hother hbegins => ?_
    exact hnone other hother.1 (prefix_takeWhile_iff.mpr ⟨hbegins, hother.2⟩)

/-! ## Numbers and bodies -/

/-- Whether some characters are the number of a pull request. -/
def IsNumber (number : List Char) : Prop :=
  number ≠ [] ∧ ∀ c ∈ number, isDecimalDigit c = true

/-- Whether some characters are the middle of a link and a number. -/
def IsEnd (tail : List Char) : Prop := ∃ number, tail = linkMiddle ++ number ∧ IsNumber number

/-- Whether some characters are an end of a link with a repository in front of it. -/
def IsBody (body : List Char) : Prop :=
  ∃ repository tail, body = repository ++ tail ∧ repository ≠ [] ∧ IsEnd tail

theorem finds_takeWhile (cs : List Char) : FindsLongest IsNumber cs
    (if cs.takeWhile isDecimalDigit = [] then none else some (cs.takeWhile isDecimalDigit)) := by
  split
  · next hempty =>
    refine .missing fun number hnumber hbegins => ?_
    have hprefix := prefix_takeWhile_iff.mpr ⟨hbegins, hnumber.2⟩
    rw [hempty] at hprefix
    exact hnumber.1 (List.prefix_nil.mp hprefix)
  · next hne =>
    refine .found ⟨hne, fun c hc => List.mem_takeWhile_imp hc⟩ (List.takeWhile_prefix _) ?_
    exact fun number hnumber hbegins =>
      (prefix_takeWhile_iff.mpr ⟨hbegins, hnumber.2⟩).length_le

theorem finds_numberBehind? (cs : List Char) : FindsLongest IsEnd cs (numberBehind? cs) := by
  rw [numberBehind?]
  rcases hrest : afterPrefix? linkMiddle cs with _ | rest
  · exact .otherwise (afterPrefix?_eq_none_iff.mp hrest)
  · obtain rfl := afterPrefix?_eq_some_iff.mp hrest
    have hnumber := (finds_takeWhile rest).behind linkMiddle
    rw [apply_ite (Option.map _)] at hnumber
    exact hnumber

theorem IsBody.ne_nil {body : List Char} (h : IsBody body) : body ≠ [] := by
  obtain ⟨repository, tail, rfl, hne, -⟩ := h
  exact fun hnil => hne (List.append_eq_nil_iff.mp hnil).1

/-- Behind the first character of a body stands another body, or the end of a link. -/
theorem isBody_cons_iff {c : Char} {rest : List Char} :
    IsBody (c :: rest) ↔ IsBody rest ∨ IsEnd rest := by
  constructor
  · rintro ⟨repository, tail, hcons, hne, htail⟩
    obtain ⟨repository, rfl, rfl⟩ := (List.cons_eq_append_iff.mp hcons).resolve_left
      fun hnil => hne hnil.1
    by_cases hrepository : repository = []
    · rw [hrepository, List.nil_append]
      exact .inr htail
    · exact .inl ⟨repository, tail, rfl, hrepository, htail⟩
  · rintro (⟨repository, tail, rfl, -, htail⟩ | htail)
    · exact ⟨c :: repository, tail, rfl, List.cons_ne_nil _ _, htail⟩
    · exact ⟨[c], rest, rfl, List.cons_ne_nil _ _, htail⟩

/-- Of two links that begin alike, the one whose last middle comes later is longer: that middle
ends with a character that is no digit. -/
theorem length_le_of_prefix {body tail : List Char} (hbody : IsBody body) (htail : IsEnd tail)
    (hbegins : body <+: cs) (hbegins' : tail <+: cs) : tail.length ≤ body.length := by
  obtain ⟨repository, _, rfl, hne, number, rfl, -⟩ := hbody
  obtain ⟨number', rfl, hnumber'⟩ := htail
  by_contra hlonger
  obtain ⟨rest, hrest⟩ := List.prefix_of_prefix_length_le hbegins hbegins'
    (Nat.le_of_not_le hlonger)
  have hpos : 0 < repository.length := List.length_pos_iff.mpr hne
  have hslash : (linkMiddle ++ number')[repository.length + 5]? = some '/' := by
    rw [← hrest, List.append_assoc, List.getElem?_append_right (by omega), List.append_assoc]
    simp [linkMiddle]
  rw [List.getElem?_append_right (by simp [linkMiddle]; omega)] at hslash
  have hdigit := hnumber'.2 _ (List.mem_of_getElem? hslash)
  exact absurd hdigit (by decide)

theorem longestBody?_cons (c : Char) (rest : List Char) :
    longestBody? (c :: rest) = ((longestBody? rest).or (numberBehind? rest)).map ([c] ++ ·) := by
  rw [longestBody?]
  cases longestBody? rest with
  | none => rfl
  | some body => rfl

theorem finds_longestBody? (cs : List Char) : FindsLongest IsBody cs (longestBody? cs) := by
  induction cs with
  | nil => exact .missing fun body hbody hbegins => hbody.ne_nil (List.prefix_nil.mp hbegins)
  | cons c rest ih =>
    rw [longestBody?_cons]
    have hbehind := (ih.or (finds_numberBehind? rest) fun _ _ => length_le_of_prefix).behind [c]
    refine hbehind.congr fun front hfront => ⟨?_, fun hbody => ?_⟩
    · rintro ⟨tail, rfl, htail⟩
      exact isBody_cons_iff.mpr htail
    · obtain ⟨tail, rfl, -⟩ := (List.prefix_cons_iff.mp hfront).resolve_left hbody.ne_nil
      exact ⟨tail, rfl, isBody_cons_iff.mp hbody⟩

/-! ## Links -/

/-- Whether some characters are a link to a pull request. -/
def IsLink (link : List Char) : Prop :=
  ∃ repository number, link = linkStart ++ (repository ++ (linkMiddle ++ number)) ∧
    repository ≠ [] ∧ (∀ c ∈ repository, isBlank c = false) ∧ IsNumber number

/-- No link has a blank in it. -/
theorem IsLink.isBlank_eq_false {link : List Char} (h : IsLink link) :
    ∀ c ∈ link, isBlank c = false := by
  obtain ⟨repository, number, rfl, -, hrepository, -, hnumber⟩ := h
  have hfixed : ∀ c ∈ linkStart ++ linkMiddle, (!isBlank c) = true :=
    List.all_eq_true.mp (by decide)
  simp only [List.forall_mem_append, Bool.not_eq_true'] at hfixed ⊢
  exact ⟨hfixed.1, hrepository, hfixed.2, fun c hc => isBlank_of_isDecimalDigit (hnumber c hc)⟩

theorem isLink_iff {link : List Char} :
    IsLink link ↔ ∃ body, link = linkStart ++ body ∧ IsBody body ∧
      ∀ c ∈ body, (!isBlank c) = true := by
  simp only [Bool.not_eq_true']
  constructor
  · intro h
    have hblank := h.isBlank_eq_false
    obtain ⟨repository, number, rfl, hne, -, hnumber⟩ := h
    exact ⟨_, rfl, ⟨_, _, rfl, hne, number, rfl, hnumber⟩,
      (List.forall_mem_append.mp hblank).2⟩
  · rintro ⟨_, rfl, ⟨repository, _, rfl, hne, number, rfl, hnumber⟩, hblank⟩
    exact ⟨_, _, rfl, hne, (List.forall_mem_append.mp hblank).1, hnumber⟩

/-- **At a place**, the longest link that begins there is found. -/
theorem finds_linkAt? (cs : List Char) : FindsLongest IsLink cs (linkAt? cs) := by
  suffices h : FindsLongest (fun link => ∃ body, link = linkStart ++ body ∧ IsBody body ∧
      ∀ c ∈ body, (!isBlank c) = true) cs (linkAt? cs) from
    h.congr fun link _ => isLink_iff.symm
  rw [linkAt?]
  rcases hrest : afterPrefix? linkStart cs with _ | rest
  · exact .otherwise (afterPrefix?_eq_none_iff.mp hrest)
  · obtain rfl := afterPrefix?_eq_some_iff.mp hrest
    have hbody := (finds_longestBody? (rest.takeWhile fun c => !isBlank c)).of_takeWhile
    have hlink := hbody.behind linkStart
    rw [Option.map_eq_bind] at hlink
    exact hlink

/-! ## The first link -/

/-- Whether a link is the first one in a text, with something in front of it. -/
structure IsFirst (text before link : List Char) : Prop where
  /-- it is a link -/
  isLink : IsLink link
  /-- it stands there -/
  stands : before ++ link <+: text
  /-- no link begins earlier -/
  first : ∀ before' link', IsLink link' → before' ++ link' <+: text →
    before.length ≤ before'.length
  /-- no link that begins there is longer -/
  longest : ∀ link', IsLink link' → before ++ link' <+: text → link'.length ≤ link.length

variable {text before before' link link' : List Char}

/-- There is only one. -/
theorem IsFirst.eq (h : IsFirst text before link) (h' : IsFirst text before' link') :
    link = link' := by
  have hlength : before.length = before'.length :=
    Nat.le_antisymm (h.first _ _ h'.isLink h'.stands) (h'.first _ _ h.isLink h.stands)
  obtain rfl : before = before' := by
    have hbegins : before <+: text := (List.prefix_append _ _).trans h.stands
    have hbegins' : before' <+: text := (List.prefix_append _ _).trans h'.stands
    exact (List.prefix_of_prefix_length_le hbegins hbegins' (Nat.le_of_eq hlength)).eq_of_length
      hlength
  have hsame : (before ++ link).length = (before ++ link').length := by
    rw [List.length_append, List.length_append]
    exact congrArg _ (Nat.le_antisymm (h'.longest _ h.isLink h.stands)
      (h.longest _ h'.isLink h'.stands))
  exact List.append_cancel_left ((List.prefix_of_prefix_length_le h.stands h'.stands
    (Nat.le_of_eq hsame)).eq_of_length hsame)

theorem isFirst_nil (hlink : IsLink link) (hbegins : link <+: text)
    (hlongest : ∀ link', IsLink link' → link' <+: text → link'.length ≤ link.length) :
    IsFirst text [] link :=
  ⟨hlink, hbegins, fun _ _ _ _ => Nat.zero_le _, hlongest⟩

/-- A first link stays the first one if no link begins in front of it. -/
theorem IsFirst.cons {c : Char} (h : IsFirst text before link)
    (hnone : ∀ link', IsLink link' → ¬ link' <+: c :: text) :
    IsFirst (c :: text) (c :: before) link where
  isLink := h.isLink
  stands := (List.prefix_cons_inj c).mpr h.stands
  first before' link' hlink hbegins := by
    rcases before' with _ | ⟨d, before'⟩
    · exact absurd hbegins (hnone link' hlink)
    · obtain ⟨-, hbegins⟩ := List.cons_prefix_cons.mp hbegins
      exact Nat.succ_le_succ (h.first before' link' hlink hbegins)
  longest link' hlink hbegins := h.longest link' hlink ((List.prefix_cons_inj c).mp hbegins)

theorem firstLink?_cons (c : Char) (rest : List Char) :
    firstLink? (c :: rest) = (linkAt? (c :: rest)).or (firstLink? rest) := by
  rw [firstLink?]
  cases linkAt? (c :: rest) with
  | none => rfl
  | some link => rfl

theorem firstLink?_spec (text : List Char) :
    (∀ link, firstLink? text = some link → ∃ before, IsFirst text before link) ∧
      (firstLink? text = none → ∀ link, IsLink link → ¬ link <:+: text) := by
  induction text with
  | nil =>
    refine ⟨nofun, fun _ link hlink hpart => ?_⟩
    obtain ⟨repository, number, rfl, -⟩ := hlink
    cases List.infix_nil.mp hpart
  | cons c rest ih =>
    obtain ⟨hsome, hnone⟩ := ih
    have hat := finds_linkAt? (c :: rest)
    rw [firstLink?_cons]
    generalize linkAt? (c :: rest) = found? at hat
    -- a link that begins here comes before all others, and else it is the first one of the rest
    cases hat with
    | found hlink hbegins hlongest =>
      refine ⟨fun link hfound => ?_, nofun⟩
      obtain rfl := Option.some.inj hfound
      exact ⟨[], isFirst_nil hlink hbegins hlongest⟩
    | missing hmissing =>
      rw [Option.none_or]
      refine ⟨fun link hfound => ?_, fun hfound link hlink hpart => ?_⟩
      · obtain ⟨before, hfirst⟩ := hsome link hfound
        exact ⟨c :: before, hfirst.cons hmissing⟩
      · rcases List.infix_cons_iff.mp hpart with hbegins | hpart
        · exact hmissing link hlink hbegins
        · exact hnone hfound link hlink hpart

/-- **The link that is found** is the first one. -/
theorem firstLink?_eq_some_iff :
    firstLink? text = some link ↔ ∃ before, IsFirst text before link := by
  obtain ⟨hsome, hnone⟩ := firstLink?_spec text
  refine ⟨hsome link, fun ⟨before, hfirst⟩ => ?_⟩
  rcases hfound : firstLink? text with _ | found
  · have hpart : link <:+: text :=
      (List.suffix_append before link).isInfix.trans hfirst.stands.isInfix
    exact absurd hpart (hnone hfound link hfirst.isLink)
  · obtain ⟨before', hfirst'⟩ := hsome found hfound
    rw [hfirst'.eq hfirst]

/-- **None is found** if there is none. -/
theorem firstLink?_eq_none_iff :
    firstLink? text = none ↔ ∀ link, IsLink link → ¬ link <:+: text := by
  refine ⟨(firstLink?_spec text).2, fun h => ?_⟩
  rw [Option.eq_none_iff_forall_ne_some]
  intro link hfound
  obtain ⟨before, hfirst⟩ := firstLink?_eq_some_iff.mp hfound
  exact h link hfirst.isLink ((List.suffix_append before link).isInfix.trans hfirst.stands.isInfix)

/-! ## Blanks -/

section Blanks

variable {c : Char}

/-- What has no blank in it does not go beyond one. -/
theorem prefix_append_blank_iff {front rest : List Char} (hc : isBlank c = true)
    (h : ∀ d ∈ front, isBlank d = false) : front <+: text ++ c :: rest ↔ front <+: text := by
  refine ⟨fun hbegins => ?_, fun hbegins => hbegins.trans (List.prefix_append _ _)⟩
  rcases List.prefix_or_prefix_of_prefix hbegins (List.prefix_append text (c :: rest)) with
    hbegins' | ⟨tail, rfl⟩
  · exact hbegins'
  · rcases List.prefix_cons_iff.mp ((List.prefix_append_right_inj text).mp hbegins) with
      rfl | ⟨tail, rfl, -⟩
    · exact ⟨[], by rw [List.append_nil, List.append_nil]⟩
    · rw [h c (by simp)] at hc
      cases hc

theorem linkAt?_append_blank (hc : isBlank c = true) (text rest : List Char) :
    linkAt? (text ++ c :: rest) = linkAt? text := by
  refine (finds_linkAt? _).eq ?_
  have hbegins {link : List Char} (hlink : IsLink link) :
      link <+: text ++ c :: rest ↔ link <+: text :=
    prefix_append_blank_iff hc hlink.isBlank_eq_false
  have hat := finds_linkAt? text
  generalize linkAt? text = found? at hat
  cases hat with
  | found hlink hfront hlongest =>
    exact .found hlink ((hbegins hlink).mpr hfront) fun other hother hother' =>
      hlongest other hother ((hbegins hother).mp hother')
  | missing hnone =>
    exact .missing fun other hother hother' => hnone other hother ((hbegins hother).mp hother')

/-- **Parts that a blank keeps apart** are searched one after the other. -/
theorem firstLink?_append_blank (hc : isBlank c = true) (text rest : List Char) :
    firstLink? (text ++ c :: rest) = (firstLink? text).or (firstLink? rest) := by
  induction text with
  | nil =>
    have hnone : linkAt? (c :: rest) = none := linkAt?_append_blank hc [] rest
    rw [List.nil_append, firstLink?_cons, hnone]
    rfl
  | cons d text ih =>
    rw [List.cons_append, firstLink?_cons, ih, ← List.cons_append, linkAt?_append_blank hc,
      firstLink?_cons, Option.or_assoc]

end Blanks

/-! ## Bumps -/

/-- What is reported of the output of a bump. -/
structure Reports (output : String) (url : Option String) : Prop where
  /-- there is a link exactly if one stands in the output -/
  present : url.isSome = true ↔ ∃ link, IsLink link ∧ link <:+: output.toList
  /-- it is the first one, and the longest of those that begin there -/
  first : ∀ link, url = some link → ∃ before, IsFirst output.toList before link.toList
  /-- it goes beyond no blank and no end of a line -/
  solid : ∀ link, url = some link → (∀ c ∈ link.toList, isBlank c = false) ∧ Unbroken link
  /-- what stands in front of a blank and holds no link to a pull request hides none behind it -/
  apart : ∀ front c rest, output.toList = front ++ c :: rest → isBlank c = true →
    (∀ link, IsLink link → ¬ link <:+: front) →
    ∀ link, url = some link ↔ ∃ before, IsFirst rest before link.toList

theorem pullRequestUrl?_eq_some_iff {output url : String} :
    pullRequestUrl? output = some url ↔ firstLink? output.toList = some url.toList := by
  rw [pullRequestUrl?, Option.map_eq_some_iff]
  constructor
  · rintro ⟨link, hlink, rfl⟩
    rw [hlink, String.toList_ofList]
  · exact fun h => ⟨url.toList, h, String.ofList_toList⟩

/-- **The link that is reported** is the first one of the output. -/
theorem reports_pullRequestUrl? (output : String) : Reports output (pullRequestUrl? output) where
  present := by
    rw [pullRequestUrl?, Option.isSome_map, Option.isSome_iff_ne_none, ne_eq,
      firstLink?_eq_none_iff]
    simp only [not_forall, not_not, exists_prop]
  first link h := firstLink?_eq_some_iff.mp (pullRequestUrl?_eq_some_iff.mp h)
  solid link h := by
    obtain ⟨before, hfirst⟩ := firstLink?_eq_some_iff.mp (pullRequestUrl?_eq_some_iff.mp h)
    have hblank := hfirst.isLink.isBlank_eq_false
    exact ⟨hblank, fun c hc => isLineBreak_of_isBlank (hblank c hc)⟩
  apart front c rest houtput hc hfront link := by
    rw [pullRequestUrl?_eq_some_iff, houtput, firstLink?_append_blank hc,
      firstLink?_eq_none_iff.mpr hfront, Option.none_or, firstLink?_eq_some_iff]

variable {σ : Type} {c : RunContext} {request : FormulaRequest}

/-- A bump that went well is submitted with what its output shows. -/
theorem Transcript.eq_submitted {es : List (Exchange σ)}
    {r : Except Fault (Except FormulaFailure FormulaBump)} (h : Transcript c request es r)
    {x : Exchange σ} (hx : x ∈ es) (hbrew : x.command.argv.head? = some "brew") :
    r = submitted request x.answer := by
  have hlist {y : Exchange σ} {token : String} (hcommand : y.command = listCommand c request token)
      (hsame : x = y) : False := by
    rw [hsame, hcommand] at hbrew
    exact absurd hbrew (by simp [listCommand])
  cases h with
  | noToken => cases hx
  | forced => rw [List.mem_singleton.mp hx]
  | faulted _ _ hcommand | failed _ _ hcommand | skipped _ _ hcommand =>
    exact (hlist hcommand (List.mem_singleton.mp hx)).elim
  | unforced _ _ hcommand =>
    rcases List.mem_cons.mp hx with hsame | hx
    · exact (hlist hcommand hsame).elim
    · rw [List.mem_singleton.mp hx]

/-- **The link of a bump.** -/
theorem bump_reports {host : Host σ} {out : Console} {w : World σ} {x : Exchange σ}
    {output : String} (hx : x ∈ Action.exchanges (bump host.logged c request out) w.logged)
    (hbrew : x.command.argv.head? = some "brew") (hanswer : x.answer = .ok (.ok output)) :
    ∃ url, (Action.runOn (bump host c request out) w).1 =
      .ok (.ok (.submitted request url)) ∧ Reports output url := by
  have htranscript := (mirrors_bump host c request out).holds (follows_bump host c request out) w
  refine ⟨_, ?_, reports_pullRequestUrl? output⟩
  rw [htranscript.eq_submitted hx hbrew, hanswer]
  rfl

/-- A script whose bump writes about an issue, something without a number, and two pull requests. -/
def talkative : Script :=
  { Rehearsal.script with
    bumpOutput := "see https://github.com/a/b/issues/7\u00a0https://github.com/a/b/pull/x\n" ++
      "=https://github.com/a/pull/pull/3/pull/\u0661\u0662z\u2003https://github.com/a/b/pull/9" }

/-- A bump that is requested without a look. -/
def pressing : FormulaRequest := ⟨"o/homebrew-r", "replibyte", "v1", "c0ffee", true⟩

set_option maxRecDepth 100000 in
/-- The first pull request is reported, and all of its link. -/
theorem bump_reports_talkative :
    (Action.runOn (bump (Rehearsal.host talkative) Rehearsal.context pressing Console.plain)
      (Rehearsal.world [])).1 =
        .ok (.ok (.submitted pressing
          (some "https://github.com/a/pull/pull/3/pull/\u0661\u0662"))) ∧
      Reports talkative.bumpOutput (some "https://github.com/a/pull/pull/3/pull/\u0661\u0662") := by
  have hissued : ∃ x ∈ Action.exchanges (bump (Rehearsal.host talkative).logged
      Rehearsal.context pressing Console.plain) (Rehearsal.world []).logged,
      x.command.argv.head? = some "brew" ∧ x.answer = .ok (.ok talkative.bumpOutput) := by
    decide +kernel
  obtain ⟨x, hx, hbrew, hanswer⟩ := hissued
  obtain ⟨url, hrun, hreports⟩ := bump_reports hx hbrew hanswer
  have hurl : (Action.runOn (bump (Rehearsal.host talkative) Rehearsal.context pressing
      Console.plain) (Rehearsal.world [])).1 =
        .ok (.ok (.submitted pressing
          (some "https://github.com/a/pull/pull/3/pull/\u0661\u0662"))) := by decide +kernel
  obtain rfl : url = some "https://github.com/a/pull/pull/3/pull/\u0661\u0662" := by
    have hsame := hrun.symm.trans hurl
    simpa using hsame
  exact ⟨hrun, hreports⟩

end Formula

end Shipyard
