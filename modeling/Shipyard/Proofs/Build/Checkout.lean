import Shipyard.Proofs.FileSystem.Extent
import Shipyard.Step.Build

/-!
# Clearing a checkout

A branch begins by removing its old checkout and making the directory above it. Either this changes
nothing or the directory is there. Meanwhile other branches may have made the directories that all
of them share, and as far as it goes that makes no difference.
-/

namespace Shipyard.Build

open FileSystem Disk

variable {fs fs' gs gs' : FileSystem} {p dir work front : Path} {base l : Location}
  {names : List String} {platform : String} {fault : Fault}

/-- The name of the checkout in the directory of a branch. -/
def sourceName : String := "src"

theorem sourceName_plain : Plain [sourceName] := by
  rintro name hname
  obtain rfl := List.mem_singleton.mp hname
  decide

theorem hasNull_entry_sourceName (dir : Path) :
    (dir.entry sourceName).hasNull = dir.hasNull := by
  have hname : sourceName.toList.contains '\x00' = false := by decide
  rw [Path.hasNull, Path.entry, List.any_append, List.any_cons, hname]
  simp [Path.hasNull]

/-- The old checkout is removed if it is found. -/
theorem runOn_clearCheckout (p : Path) (fs : FileSystem) :
    runOn (clearCheckout p) fs =
      match fs.find? p with
      | .error fault => (.error fault, fs)
      | .ok none => runOn (makeDirectories p.parent) fs
      | .ok (some _) => runOn (removeTree p >>= fun _ => makeDirectories p.parent) fs := by
  have hlook : runOn (pathExists p) fs = ((fs.find? p).map (·.isSome), fs) := by
    rw [pathExists, runOn_bind, Disk.find?, runOn_query]
    rcases fs.find? p with fault | found
    · rfl
    · rfl
  unfold clearCheckout
  rw [runOn_bind, hlook]
  rcases fs.find? p with fault | _ | node
  · rfl
  · rfl
  · rfl

/-- It is confined to the directory of the branch and what is above it. -/
theorem confined_clearCheckout {cwd : Location} {above below : Location → Prop}
    (hdir : InReach cwd above below dir)
    (hbelow : ∀ l, Below cwd (dir.entry sourceName) l → below l)
    (hapart : ∀ l, above l → ¬ Below cwd (dir.entry sourceName) l) :
    Confined cwd above below (clearCheckout (dir.entry sourceName)) := by
  have hplace : (dir.entry sourceName).place cwd = dir.place cwd ++ [sourceName] :=
    Path.place_entry (by decide) ..
  have hpath : InReach cwd above below (dir.entry sourceName) :=
    hdir.entry (.inr (hbelow _ (List.prefix_refl _)))
  have hmake : Confined cwd above below (makeDirectories (dir.entry sourceName).parent) :=
    confined_makeDirectories hpath.parent
  refine (confined_pathExists hpath).bind fun found => ?_
  cases found with
  | false => exact hmake
  | true => exact (confined_removeTree hpath (by simp [hplace]) hbelow hapart).bind fun _ => hmake

/-! ## The directory of a branch -/

/-- It is in reach of what is confined to it. -/
theorem inReach_entry (cwd : Location) (work : Path) (platform : String) :
    InReach cwd (Above cwd work) (Below cwd (work.entry platform)) (work.entry platform) :=
  Within.entry (fun _ hl => .inl hl) (.inr (List.prefix_refl _))

/-- Whether nothing but a missing directory keeps the directory of a branch from being made, and the
way to it does not lead through its checkout. -/
structure Site (fs : FileSystem) (work : Path) (platform : String) : Prop where
  /-- its name leads down -/
  plain : Plain [platform]
  /-- nothing above it is in its checkout -/
  apart : ∀ l, Above fs.cwd work l → ¬ Below fs.cwd ((work.entry platform).entry sourceName) l
  /-- the directory of all branches can be made -/
  leads : fs.Extendable work

namespace Site

theorem ne_up (h : Site fs work platform) : platform ≠ ".." :=
  (h.plain platform (List.mem_singleton_self _)).1

theorem place (h : Site fs work platform) :
    (work.entry platform).place fs.cwd = work.place fs.cwd ++ [platform] :=
  Path.place_entry h.ne_up ..

theorem place_source (h : Site fs work platform) :
    ((work.entry platform).entry sourceName).place fs.cwd =
      work.place fs.cwd ++ [platform] ++ [sourceName] := by
  rw [Path.place_entry (by decide), h.place]

/-- The checkout is below the directory of the branch. -/
theorem below_of_source (h : Site fs work platform)
    (hl : Below fs.cwd ((work.entry platform).entry sourceName) l) :
    Below fs.cwd (work.entry platform) l := by
  rw [Below, h.place_source] at hl
  rw [Below, h.place]
  exact (List.prefix_append ..).trans hl

theorem confined (h : Site fs work platform) :
    Confined fs.cwd (Above fs.cwd work) (Below fs.cwd (work.entry platform))
      (clearCheckout ((work.entry platform).entry sourceName)) :=
  confined_clearCheckout (inReach_entry fs.cwd work platform) (fun _ => h.below_of_source) h.apart

/-- If the directory is there in the end, no file was above. -/
theorem unblocked_of_reaches (h : Site fs work platform) {r : Except Fault Unit}
    (hrun : runOn (clearCheckout ((work.entry platform).entry sourceName)) fs = (r, fs'))
    (hreaches : fs'.Reaches (work.entry platform) base) : fs.Unblocked work := by
  intro l hl
  have hdir : InReach fs.cwd (Above fs.cwd (work.entry platform))
      (Below fs.cwd ((work.entry platform).entry sourceName)) (work.entry platform) :=
    fun _ => .inl
  have hstays := (confined_clearCheckout hdir (fun _ hm => hm) fun m hm hsource => ?_).stays rfl
  · rw [hrun] at hstays
    have habove := hreaches.above (above_entry_iff.mpr (.inl (hstays.cwd ▸ hl)))
    rcases (hstays.node l).resolve_left (h.apart l hl) with hsame | ⟨-, hnone, -⟩
    · exact .inr (hsame ▸ habove)
    · exact .inl hnone
  · rcases above_entry_iff.mp hm with hm | rfl
    · exact h.apart m hm hsource
    · rw [Below, h.place_source, h.place] at hsource
      exact absurd hsource.length_le (by simp)

/-- If the directory cannot be made, nothing is. -/
theorem eq_of_makeDirectories (h : Site fs work platform) (htree : fs.IsTree)
    (hrun : runOn (makeDirectories (work.entry platform)) fs = (.error fault, fs')) : fs' = fs := by
  obtain ⟨front, base, names, rfl, hreaches, hplain | ⟨errno, herrno, hstopped⟩⟩ := h.leads
  · rw [← Path.under_concat] at hrun
    refine (of_ensureDirectories_error hreaches (hplain.append h.plain) ?_ ?_ hrun).1
    · intro l m _ hlm _ hnone f
      rw [htree.node?_eq_none hnone hlm]
      nofun
    · simp [Path.under]
  -- the walk does not get past what stops it
  · have hwalk : ((front.under names).entry platform).parts.foldlM fs.step
        (((front.under names).entry platform).start fs.cwd) = .error errno := by
      show (front.parts ++ names ++ [platform]).foldlM fs.step (front.start fs.cwd) = _
      rw [List.append_assoc, List.foldlM_append, hreaches.walk]
      show (names ++ [platform]).foldlM fs.step base = _
      rw [List.foldlM_append, hstopped]
      rfl
    obtain ⟨fault', hlocate, hfault'⟩ := exists_locate_of_stopped hwalk herrno
    rw [runOn_makeDirectories_of_lost hlocate hfault'] at hrun
    cases hrun
    rfl

/-- **Either nothing is changed, or the directory is there.** -/
theorem ensures_clearCheckout (h : Site fs work platform) (htree : fs.IsTree) :
    Ensures (· = fs) (clearCheckout ((work.entry platform).entry sourceName))
      (fun _ fs' => ∃ base, fs'.Reaches (work.entry platform) base) (fun _ fs' => fs' = fs) := by
  intro fs₁ hfs
  obtain rfl : fs = fs₁ := hfs.symm
  rw [runOn_clearCheckout, Path.parent_entry]
  rcases fs.find? ((work.entry platform).entry sourceName) with fault | _ | node
  · rfl
  · dsimp only
    rcases hmake : runOn (makeDirectories (work.entry platform)) fs with ⟨fault | u, fs'⟩
    · exact h.eq_of_makeDirectories htree hmake
    · exact (ensures_makeDirectories.of_runOn_ok rfl hmake).2
  dsimp only
  rw [runOn_bind, runOn_removeTree]
  rcases hlocate : fs.locate ((work.entry platform).entry sourceName) with fault | loc
  · rfl
  obtain ⟨base, hreaches, ⟨hnull, hshort, -⟩, rfl⟩ := reaches_of_locate (by decide) hlocate
  dsimp only
  rcases fs.node? (base ++ [sourceName]) with _ | _ | f
  · rfl
  · -- the directory above the checkout is there already, and stays
    have hstays : (fs.eraseBelow (base ++ [sourceName])).Reaches (work.entry platform) base := by
      refine hreaches.of_directories rfl fun l hl hdirectory => ?_
      rw [node?_eraseBelow _ _ (by simp), if_neg, hdirectory]
      rw [List.isPrefixOf_iff_prefix, hreaches.eq_place, h.place]
      intro hsource
      rcases above_entry_iff.mp hl with habove | rfl
      · refine h.apart l habove ?_
        rwa [Below, h.place_source]
      · rw [h.place] at hsource
        simpa using hsource.length_le
    have hshort' : (work.entry platform).text.utf8ByteSize ≤ maxPathBytes :=
      Nat.le_of_not_lt fun hlong => absurd (Path.long_entry hlong) (Nat.not_lt.mpr hshort)
    rw [hasNull_entry_sourceName] at hnull
    dsimp only
    rw [runOn_makeDirectories_of_reaches hstays hnull hshort']
    exact ⟨base, hstays⟩
  · rfl

end Site

/-! ## With and without other branches -/

/-- Why a path is refused whatever is there. -/
def refusal? (p : Path) : Option Fault :=
  if p.hasNull then some (.refused .nullCharacter)
  else if maxPathBytes < p.text.utf8ByteSize then some (osError .nameTooLong p)
  else none

/-- Where there is no file on the way and nothing below, only the path itself can be refused. -/
theorem runOn_clearCheckout_of_empty (hreaches : fs.Reaches front base) (hplain : Plain names)
    (hfile : ∀ l f, base <+: l → l <+: base ++ names → fs.node? l ≠ some (.file f))
    (hnone : fs.node? (base ++ (names ++ [sourceName])) = none) :
    let dir := front.under names
    let checkout := dir.entry sourceName
    (∃ fault, refusal? checkout = some fault ∧
        runOn (clearCheckout checkout) fs = (.error fault, fs)) ∨
      refusal? checkout = none ∧ ∃ fs', runOn (clearCheckout checkout) fs = (.ok (), fs') ∧
        GrownAbove dir fs fs' ∧ ∃ base', fs'.Reaches dir base' := by
  intro dir checkout
  have hunder : checkout = front.under (names ++ [sourceName]) := (Path.under_concat ..).symm
  have hrun := runOn_clearCheckout checkout fs
  rw [show checkout.parent = dir from Path.parent_entry ..] at hrun
  rcases hreaches.locate_under (hplain.append sourceName_plain) with
    ⟨hnull, hlocate⟩ | ⟨hlong, hlocate⟩ | ⟨⟨hnull, hshort⟩, hlocate⟩
  all_goals rw [← hunder] at *
  · refine .inl ⟨_, if_pos hnull, ?_⟩
    rw [hrun, find?_of_lost hlocate]
    rw [hasNull_entry_sourceName] at hnull
    exact runOn_makeDirectories_of_lost (if_pos hnull) nofun
  · have hnull : checkout.hasNull ≠ true := by
      intro hnull
      rw [FileSystem.locate, if_pos hnull] at hlocate
      cases hlocate
    refine .inl ⟨osError .nameTooLong checkout, ?_, ?_⟩
    · rw [refusal?, if_neg hnull, if_pos hlong]
    · rw [hrun, find?_of_lost hlocate]
      rfl
  · refine .inr ⟨?_, ?_⟩
    · rw [refusal?, hnull, if_neg Bool.false_ne_true, if_neg (Nat.not_lt.mpr hshort)]
    have hfind : fs.find? checkout = .ok none := by
      rcases hlocate with hlocate | ⟨hlocate, -⟩ | ⟨hlocate, -⟩
      · rw [find?_of_locate hlocate, hnone]
      · rw [find?_of_lost hlocate]
        rfl
      · rw [find?_of_lost hlocate]
        rfl
    rw [hrun, hfind]
    dsimp only
    rcases hmake : runOn (makeDirectories dir) fs with ⟨fault | u, fs'⟩
    · -- all that can be in the way has been excluded
      exfalso
      obtain ⟨-, hnull' | hlong | ⟨l, f, h₁, h₂, hl⟩⟩ := of_ensureDirectories_error hreaches hplain
        (fun l m hl hlm hm _ f => hfile m f (hl.trans hlm) hm) (by simp [dir, Path.under]) hmake
      · rw [hasNull_entry_sourceName, hnull'] at hnull
        cases hnull
      · exact absurd (Path.long_entry hlong) (Nat.not_lt.mpr hshort)
      · exact hfile l f h₁ h₂ hl
    · exact ⟨fs', rfl, ensures_makeDirectories.of_runOn_ok rfl hmake⟩

/-- Whether files are those of a branch before it begins, as others may have left them: of what is
above its directory everything is the same, or all directories are there now. -/
structure Beside (work : Path) (platform : String) (fs gs : FileSystem) : Prop where
  /-- the current directory is the same -/
  cwd : gs.cwd = fs.cwd
  /-- so is the directory of the branch -/
  below : ∀ l, Below fs.cwd (work.entry platform) l → gs.node? l = fs.node? l
  /-- what has become of the directories above it -/
  above : (∀ l, Above fs.cwd work l → gs.node? l = fs.node? l) ∨
    fs.Unblocked work ∧ ∃ base, gs.Reaches work base

/-- Whether a branch comes to the same end when it clears its checkout. -/
inductive ClearedAlike (work : Path) (platform : String) (fs gs : FileSystem) : Prop
  /-- either it fails and changes nothing -/
  | failed (fault : Fault) :
      runOn (clearCheckout ((work.entry platform).entry sourceName)) fs = (.error fault, fs) →
      runOn (clearCheckout ((work.entry platform).entry sourceName)) gs = (.error fault, gs) →
      ClearedAlike work platform fs gs
  /-- or its directory is there and the same -/
  | cleared (fs' gs' : FileSystem) :
      runOn (clearCheckout ((work.entry platform).entry sourceName)) fs = (.ok (), fs') →
      runOn (clearCheckout ((work.entry platform).entry sourceName)) gs = (.ok (), gs') →
      Agrees (fun l => Above fs.cwd work l ∨ Below fs.cwd (work.entry platform) l) fs' gs' →
      (∃ base, fs'.Reaches (work.entry platform) base) → ClearedAlike work platform fs gs

namespace Site

/-- Where nothing above the directory has changed, the same happens, for nothing else is seen. -/
theorem clearCheckout_same (h : Site fs work platform) (htree : fs.IsTree)
    (hseen : Agrees (fun l => Above fs.cwd work l ∨ Below fs.cwd (work.entry platform) l) fs gs) :
    ClearedAlike work platform fs gs := by
  obtain ⟨hresult, hleft⟩ := h.confined.same rfl hseen
  have hstays := h.confined.stays hseen.cwd
  have hensures := h.ensures_clearCheckout htree
  rcases hrun : runOn (clearCheckout ((work.entry platform).entry sourceName)) fs with
    ⟨fault | u, fs'⟩
  all_goals
    rcases hrun' : runOn (clearCheckout ((work.entry platform).entry sourceName)) gs with ⟨r, gs'⟩
    rw [hrun, hrun'] at hresult hleft
    rw [hrun'] at hstays
    obtain rfl := hresult
  · obtain rfl : fs' = fs := hensures.of_runOn_error rfl hrun
    have hsame : gs' = gs := by
      refine ext_node? hstays.cwd fun l => ?_
      by_cases hl : Above fs'.cwd work l ∨ Below fs'.cwd (work.entry platform) l
      · rw [hleft.node l hl, hseen.node l hl]
      · obtain ⟨habove, hbelow⟩ := not_or.mp hl
        exact hstays.node_of_not habove hbelow
    exact .failed fault hrun (hsame ▸ hrun')
  · exact .cleared fs' gs' hrun hrun' hleft (hensures.of_runOn_ok rfl hrun)

/-- Where no file was in the way and now nothing is missing, the way leads down from a directory
that was there. -/
theorem leads_down (h : Site fs work platform)
    (hclear : fs.Unblocked work)
    (hreaches : gs.Reaches work base) :
    ∃ front names, work = front.under names ∧ Plain names ∧
      fs.Reaches front (front.place fs.cwd) := by
  obtain ⟨front, base', names, rfl, hfront, hleads⟩ := h.leads
  have hbase := hfront.eq_place
  refine ⟨front, names, rfl, hleads.resolve_right ?_, hbase ▸ hfront⟩
  rintro ⟨errno, herrno, hstopped⟩
  obtain ⟨-, hfits, -⟩ := foldlM_step_eq_ok_iff.mp hreaches.walk
  refine herrno (eq_noEntry_of_foldlM_step (fun m hm => ?_) (fun name hname => ?_) hstopped)
  · exact hclear m (above_of_mem_road_under (hbase ▸ hm))
  · exact hfits name (List.mem_append_right _ hname)

/-- Then what is both above and below the directory of a branch was there. -/
theorem node?_of_above_of_below (h : Site fs work platform)
    (hclear : fs.Unblocked work)
    (hreaches : gs.Reaches work base) (habove : Above fs.cwd work l)
    (hbelow : Below fs.cwd (work.entry platform) l) : fs.node? l = some .directory := by
  obtain ⟨front, names, rfl, hplain, hfront⟩ := h.leads_down hclear hreaches
  rcases above_under hplain habove with hl | ⟨-, hl⟩
  · exact hfront.above hl
  · rw [Below, h.place, place_under hplain] at hbelow
    exact absurd (hbelow.trans hl).length_le (by simp)

/-- If a directory above is missing, then nothing is below. -/
theorem node?_eq_none (h : Site fs work platform) (htree : fs.IsTree)
    (hclear : fs.Unblocked work)
    (hreaches : gs.Reaches work base) (habove : Above fs.cwd work l) (hnone : fs.node? l = none)
    {m : Location} (hm : Below fs.cwd (work.entry platform) m) : fs.node? m = none := by
  obtain ⟨front, names, rfl, hplain, hfront⟩ := h.leads_down hclear hreaches
  rcases above_under hplain habove with hl | ⟨-, hl⟩
  · rw [hfront.above hl] at hnone
    cases hnone
  · rw [Below, h.place, place_under hplain] at hm
    exact htree.node?_eq_none hnone ((hl.trans (List.prefix_append ..)).trans hm)

/-- Where nothing was below, there is the directory of the branch and nothing else. -/
theorem node?_of_grown (hcwd : gs.cwd = fs.cwd)
    (hapart : ∀ l, Above fs.cwd work l → ¬ Below fs.cwd (work.entry platform) l)
    (hempty : ∀ m, Below fs.cwd (work.entry platform) m → gs.node? m = none)
    (hgrown : GrownAbove (work.entry platform) gs gs')
    (hreaches : gs'.Reaches (work.entry platform) base)
    (hl : Below fs.cwd (work.entry platform) l) :
    gs'.node? l = if l = (work.entry platform).place fs.cwd then some .directory else none := by
  split
  · next heq =>
    rw [heq, ← hcwd, ← hgrown.cwd, ← hreaches.eq_place]
    exact hreaches.directory
  · next hne =>
    rw [hgrown.node_of_not, hempty l hl]
    rw [hcwd]
    intro habove
    rcases above_entry_iff.mp habove with hl' | rfl
    · exact hapart l hl' hl
    · exact hne rfl

/-- If a directory above was missing and all are there now, there is nothing to be removed, and the
directory of the branch is made. -/
theorem clearCheckout_of_missing (h : Site fs work platform) (htree : fs.IsTree)
    (hbeside : Beside work platform fs gs) (hclear : fs.Unblocked work)
    (hreaches : gs.Reaches work base) (habove : Above fs.cwd work l)
    (hmissing : fs.node? l = none) : ClearedAlike work platform fs gs := by
  have hempty : ∀ m, Below fs.cwd (work.entry platform) m → fs.node? m = none :=
    fun m => h.node?_eq_none htree hclear hreaches habove hmissing
  have hempty' : ∀ m, Below fs.cwd (work.entry platform) m → gs.node? m = none :=
    fun m hm => by rw [hbeside.below m hm, hempty m hm]
  have hapart (m : Location) (hm : Above fs.cwd work m) :
      ¬ Below fs.cwd (work.entry platform) m := by
    intro hbelow
    have hnode := h.node?_of_above_of_below hclear hreaches hm hbelow
    rw [hempty m hbelow] at hnode
    cases hnode
  obtain ⟨front, names, rfl, hplain, hfront⟩ := h.leads_down hclear hreaches
  have hplace : (front.under names).place fs.cwd = front.place fs.cwd ++ names := place_under hplain
  have hbelow (rest : Location) : Below fs.cwd ((front.under names).entry platform)
      (front.place fs.cwd ++ names ++ [platform] ++ rest) := by
    rw [Below, h.place, hplace]
    exact List.prefix_append ..
  have hlone := runOn_clearCheckout_of_empty hfront (hplain.append h.plain) (fun l f hl hend => ?_)
    (hempty _ (by simpa using hbelow [sourceName]))
  have hjoint := runOn_clearCheckout_of_empty hreaches h.plain (fun l f hl hend => ?_)
    (hempty' _ (by rw [hreaches.eq_place, hbeside.cwd, hplace]; simpa using hbelow [sourceName]))
  · rw [Path.under_concat] at hlone
    rcases hlone with ⟨fault, hrefusal, hrun⟩ | ⟨hrefusal, fs', hrun, hgrown, base₁, hreaches₁⟩
    all_goals rcases hjoint with
      ⟨fault', hrefusal', hrun'⟩ | ⟨hrefusal', gs', hrun', hgrown', base₂, hreaches₂⟩
    · obtain rfl : fault' = fault := Option.some.inj (hrefusal'.symm.trans hrefusal)
      exact .failed fault' hrun hrun'
    · cases hrefusal.symm.trans hrefusal'
    · cases hrefusal'.symm.trans hrefusal
    refine .cleared fs' gs' hrun hrun' ⟨?_, ?_⟩ ⟨base₁, hreaches₁⟩
    · rw [hgrown.cwd, hgrown'.cwd, hbeside.cwd]
    rintro l (hl | hl)
    · rw [hreaches₁.above (above_entry_iff.mpr (.inl (hgrown.cwd ▸ hl))),
        hreaches₂.above (above_entry_iff.mpr (.inl (hgrown'.cwd ▸ hbeside.cwd ▸ hl)))]
    · rw [node?_of_grown rfl hapart hempty hgrown hreaches₁ hl,
        node?_of_grown hbeside.cwd hapart hempty' hgrown' hreaches₂ hl]
  -- no file is in the way now
  · rw [hreaches.eq_place, hbeside.cwd, hplace] at hl hend
    rcases List.prefix_concat_iff.mp hend with rfl | hend
    · rw [hempty' _ (by simpa using hbelow [])]
      nofun
    · obtain rfl := (hl.eq_of_length (Nat.le_antisymm hl.length_le hend.length_le)).symm
      rw [← hplace, hreaches.above (hbeside.cwd ▸ above_place ..)]
      nofun
  -- and none was before
  · rw [← List.append_assoc] at hend
    rcases List.prefix_concat_iff.mp hend with rfl | hend
    · rw [hempty _ (by simpa using hbelow [])]
      nofun
    · rcases hclear l (above_of_between hplain hl hend) with hnode | hnode
      all_goals
        rw [hnode]
        nofun

/-- **Other branches make no difference.** A branch comes to the same end, and either it changes
nothing or its directory is there and the same. -/
theorem clearCheckout_beside (h : Site fs work platform) (htree : fs.IsTree)
    (hbeside : Beside work platform fs gs) : ClearedAlike work platform fs gs := by
  have hsame (habove : ∀ l, Above fs.cwd work l → gs.node? l = fs.node? l) :=
    h.clearCheckout_same htree ⟨hbeside.cwd, fun l hl => hl.elim (habove l) (hbeside.below l)⟩
  rcases hbeside.above with habove | ⟨hclear, base, hreaches⟩
  · exact hsame habove
  by_cases hthere : ∀ l, Above fs.cwd work l → fs.node? l = some .directory
  · exact hsame fun l hl => by rw [hreaches.above (hbeside.cwd ▸ hl), hthere l hl]
  · obtain ⟨l, hl⟩ := not_forall.mp hthere
    obtain ⟨habove, hmissing⟩ := Classical.not_imp.mp hl
    exact h.clearCheckout_of_missing htree hbeside hclear hreaches habove
      ((hclear l habove).resolve_right hmissing)

end Site

end Shipyard.Build
