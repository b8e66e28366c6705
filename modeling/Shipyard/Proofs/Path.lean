import Shipyard.Path

/-!
# Names of paths

What the last name of a path is once the path has been written and read again. A text is cut at its
slashes, so only the part behind the last one counts, and it survives both ways if it is the name of
a file at all.
-/

namespace Shipyard

theorem Text.splitAt_eq_splitOn (c : Char) (cs : List Char) : splitAt c cs = cs.splitOn c := by
  induction cs with
  | nil => rfl
  | cons d rest ih =>
    rw [List.splitOn_cons_eq_if_modifyHead, ← ih]
    by_cases hd : d = c
    · simp [splitAt, hd]
    · simp [splitAt, hd]

namespace Path

/-- Whether a text can be the name of a file. -/
structure IsName (name : String) : Prop where
  /-- it is not empty -/
  ne_empty : name ≠ ""
  /-- it is not the name of the directory itself -/
  ne_dot : name ≠ "."
  /-- it has no slash -/
  no_slash : '/' ∉ name.toList

/-- A text without a slash has one name, if it is one. -/
theorem partsOf_of_isName {name : String} (h : IsName name) : partsOf name.toList = [name] := by
  rw [partsOf, Text.splitAt_eq_splitOn, List.splitOn_eq_singleton h.no_slash]
  simp [h.ne_empty, h.ne_dot]

/-- What is written behind a text without a slash does not change where its path starts. -/
theorem anchorOf_append {cs ds : List Char} (hslash : '/' ∉ ds) :
    anchorOf (cs ++ ds) = anchorOf cs := by
  have hend : ∀ ds : List Char, '/' ∉ ds → anchorOf ds = .relative ∧ anchorOf ('/' :: ds) = .root ∧
      anchorOf ('/' :: '/' :: ds) = .doubleRoot := by
    rintro (_ | ⟨d, ds⟩) h
    · exact ⟨rfl, rfl, rfl⟩
    · have hd : d ≠ '/' := fun heq => h (heq ▸ List.mem_cons_self ..)
      simp [anchorOf, hd]
  obtain ⟨h₀, h₁, h₂⟩ := hend ds hslash
  rcases cs with _ | ⟨c, _ | ⟨c', _ | ⟨c'', cs⟩⟩⟩
  · exact h₀
  · by_cases hc : c = '/'
    · subst hc
      exact h₁
    · simp [anchorOf, hc]
  · by_cases hc : c = '/'
    · subst hc
      by_cases hc' : c' = '/'
      · subst hc'
        exact h₂
      · simp [anchorOf, hc']
    · simp [anchorOf, hc]
  -- from the third character on nothing matters
  · by_cases hc : c = '/'
    · by_cases hc' : c' = '/'
      · by_cases hc'' : c'' = '/'
        · simp [anchorOf, hc, hc', hc'']
        · simp [anchorOf, hc, hc', hc'']
      · simp [anchorOf, hc, hc']
    · simp [anchorOf, hc]

/-- Names on both sides of a slash are read apart. -/
theorem partsOf_append_slash (cs ds : List Char) :
    partsOf (cs ++ '/' :: ds) = partsOf cs ++ partsOf ds := by
  simp only [partsOf, Text.splitAt_eq_splitOn, List.splitOn_append_cons_self, List.map_append,
    List.filter_append]

/-- A text between slashes ends with its last part. -/
theorem toList_intercalate_concat (front : List String) (last : String) :
    front = [] ∧ (String.intercalate "/" (front ++ [last])).toList = last.toList ∨
      ∃ cs, (String.intercalate "/" (front ++ [last])).toList = cs ++ '/' :: last.toList := by
  by_cases hfront : front = []
  · refine .inl ⟨hfront, ?_⟩
    rw [hfront, List.nil_append, String.intercalate_singleton]
  · refine .inr ⟨(String.intercalate "/" front).toList, ?_⟩
    rw [String.intercalate_append_of_ne_nil hfront (by simp),
      String.intercalate_singleton]
    simp

/-- A path with names is written with a slash before its last name, unless it is that name. -/
theorem toList_text_concat (anchor : Anchor) (front : List String) (last : String) :
    (Path.mk anchor (front ++ [last])).text.toList = last.toList ∨
      ∃ cs, (Path.mk anchor (front ++ [last])).text.toList = cs ++ '/' :: last.toList := by
  rcases toList_intercalate_concat front last with ⟨rfl, h⟩ | ⟨cs, h⟩
  · cases anchor with
    | relative => exact .inl (by simp [text])
    | root => exact .inr ⟨[], by simp [text]⟩
    | doubleRoot => exact .inr ⟨['/'], by simp [text]⟩
  · cases anchor with
    | relative => exact .inr ⟨cs, by simpa [text] using h⟩
    | root => exact .inr ⟨'/' :: cs, by simp [text, h]⟩
    | doubleRoot => exact .inr ⟨'/' :: '/' :: cs, by simp [text, h]⟩

/-- **The last name survives.** A path that is written and read again keeps its last name. -/
theorem name_ofText_text {p : Path} (h : IsName p.name) : (ofText p.text).name = p.name := by
  obtain ⟨anchor, parts⟩ := p
  rcases List.eq_nil_or_concat parts with rfl | ⟨front, last, hparts⟩
  · exact absurd rfl h.ne_empty
  rw [List.concat_eq_append] at hparts
  subst hparts
  have hlast : IsName last := by simpa [name] using h
  show (partsOf (Path.text _).toList).getLastD "" = _
  rcases toList_text_concat anchor front last with htext | ⟨cs, htext⟩
  · rw [htext, partsOf_of_isName hlast]
    simp [name]
  · rw [htext, partsOf_append_slash, partsOf_of_isName hlast]
    simp [name]

/-! ## Names below a directory -/

theorem name_child {p : Path} {s : String} (h : (ofText s).parts ≠ []) :
    (p.child s).name = (ofText s).name := by
  show (p.join (ofText s)).name = _
  generalize ofText s = q at h ⊢
  obtain ⟨_ | _ | _, parts⟩ := q
  · rcases List.eq_nil_or_concat parts with rfl | ⟨front, last, hparts⟩
    · exact absurd rfl h
    · rw [List.concat_eq_append] at hparts
      subst hparts
      simp [join, name]
  · rfl
  · rfl

/-- The path of a name in a directory. -/
def entry (dir : Path) (name : String) : Path := ⟨dir.anchor, dir.parts ++ [name]⟩

@[simp] theorem name_entry (dir : Path) (name : String) : (dir.entry name).name = name := by
  simp [Path.name, entry]

theorem join_entry (p q : Path) (name : String) : p / q.entry name = (p / q).entry name := by
  show p.join (q.entry name) = (p.join q).entry name
  rcases q with ⟨_ | _ | _, parts⟩ <;> simp [join, entry]

/-- A text without a slash stands for its one name, or for nothing. -/
theorem ofText_of_no_slash {s : String} (h : '/' ∉ s.toList) :
    ofText s = ⟨.relative, if s = "" ∨ s = "." then [] else [s]⟩ := by
  have hanchor : anchorOf s.toList = .relative := by
    rw [← List.nil_append s.toList, anchorOf_append h]
    rfl
  rw [ofText, hanchor]
  split
  · next hs =>
    rcases hs with rfl | rfl <;> rfl
  · next hs =>
    obtain ⟨hempty, hdot⟩ := not_or.mp hs
    rw [partsOf_of_isName ⟨hempty, hdot, h⟩]

/-- A name leads to an entry of the directory. -/
theorem child_of_isName (p : Path) {name : String} (h : IsName name) :
    p.child name = p.entry name := by
  rw [child, ofText_of_no_slash h.no_slash, if_neg (not_or.mpr ⟨h.ne_empty, h.ne_dot⟩)]
  rfl

/-- A text without a slash leads to an entry of the directory, or nowhere. -/
theorem child_of_no_slash (p : Path) {s : String} (h : '/' ∉ s.toList) :
    p.child s = p ∨ p.child s = p.entry s := by
  by_cases hs : s = "" ∨ s = "."
  · refine .inl ?_
    rw [child, ofText_of_no_slash h, if_pos hs]
    show (⟨p.anchor, p.parts ++ []⟩ : Path) = p
    rw [List.append_nil]
  · obtain ⟨hempty, hdot⟩ := not_or.mp hs
    exact .inr (p.child_of_isName ⟨hempty, hdot, h⟩)

/-- A text is cut at its last slash: what is written behind it, if it has no slash, goes to what is
behind the cut. -/
theorem exists_child (s : String) :
    ∃ (dir : Path) (front : String), ('/' ∉ s.toList → dir = ⟨.relative, []⟩ ∧ front = s) ∧
      '/' ∉ front.toList ∧
      ∀ t : String, '/' ∉ t.toList → ofText (s ++ t) = dir.child (front ++ t) := by
  by_cases hs : '/' ∈ s.toList
  · obtain ⟨a, b, hab, hb⟩ : ∃ a b, s.toList = a ++ '/' :: b ∧ '/' ∉ b := by
      obtain ⟨b, a, hba, hb⟩ := List.eq_append_cons_of_mem (List.mem_reverse.mpr hs)
      refine ⟨a.reverse, b.reverse, ?_, by simpa using hb⟩
      rw [← List.reverse_reverse s.toList, hba]
      simp
    refine ⟨⟨anchorOf s.toList, partsOf a⟩, String.ofList b, fun h => absurd hs h,
      by simpa using hb, fun t hslash => ?_⟩
    have hread : (s ++ t).toList = a ++ '/' :: (String.ofList b ++ t).toList := by simp [hab]
    have hanchor : anchorOf (s ++ t).toList = anchorOf s.toList := by
      rw [String.toList_append, anchorOf_append hslash]
    have hbehind : '/' ∉ (String.ofList b ++ t).toList := by simp [hb, hslash]
    rw [child, ofText_of_no_slash hbehind, ofText, hanchor, hread, partsOf_append_slash]
    show _ = Path.mk _ (partsOf a ++ _)
    rw [← congrArg Path.parts (ofText_of_no_slash hbehind)]
    rfl
  · refine ⟨⟨.relative, []⟩, s, fun _ => ⟨rfl, rfl⟩, hs, fun t hslash => ?_⟩
    rw [child, ofText_of_no_slash (by simp [hs, hslash])]
    rfl

/-- **What is written behind a text goes to its last name**, if it has no slash. -/
theorem exists_entry (s : String) :
    ∃ (dir : Path) (front : String), ('/' ∉ s.toList → dir = ⟨.relative, []⟩ ∧ front = s) ∧
      ∀ t : String, '/' ∉ t.toList → 2 ≤ t.length →
        ofText (s ++ t) = dir.entry (front ++ t) ∧ IsName (front ++ t) := by
  obtain ⟨dir, front, hplain, hfront, hread⟩ := exists_child s
  refine ⟨dir, front, hplain, fun t hslash hlong => ?_⟩
  have hlength : 2 ≤ (front ++ t).length := by
    rw [String.length_append]
    omega
  have hname : IsName (front ++ t) := by
    refine ⟨?_, ?_, by simp [hfront, hslash]⟩
    all_goals
      intro heq
      rw [heq] at hlength
      exact absurd hlength (by decide)
  exact ⟨by rw [hread t hslash, dir.child_of_isName hname], hname⟩

/-- A text is read by what is behind its last slash, so its name ends as the text does. -/
theorem name_ofText_append {s t : String} (hslash : '/' ∉ t.toList) (hlong : 2 ≤ t.length) :
    ∃ front, (ofText (s ++ t)).name = front ++ t ∧ IsName (front ++ t) ∧
      (ofText (s ++ t)).parts ≠ [] := by
  obtain ⟨dir, front, -, h⟩ := exists_entry s
  obtain ⟨hread, hisName⟩ := h t hslash hlong
  exact ⟨front, by rw [hread, name_entry], hisName, by simp [hread, entry]⟩

/-- A path in a directory is as much longer as its last name is. -/
theorem text_entry_append (dir : Path) (name t : String) :
    (dir.entry (name ++ t)).text = (dir.entry name).text ++ t := by
  have hnames : String.intercalate "/" (dir.parts ++ [name ++ t]) =
      String.intercalate "/" (dir.parts ++ [name]) ++ t := by
    by_cases hparts : dir.parts = []
    · rw [hparts]
      simp
    · rw [String.intercalate_append_of_ne_nil hparts (by simp),
        String.intercalate_append_of_ne_nil hparts (by simp)]
      simp [String.append_assoc]
  rcases hanchor : dir.anchor with _ | _ | _ <;> simp [text, entry, hanchor, hnames,
    String.append_assoc]

end Path

end Shipyard
