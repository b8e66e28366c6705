import Shipyard.Proofs.Packaging.Layout

/-!
# Names tell targets and roles

The name of a file of a packaging begins with the program and its version and ends with what the
target and the role of the file add. No such end is the end of another, so a name tells target and
role, and in front of it what program and version come to (`fileName_eq_iff`). Hence no two assets
of one program share a name, and no asset is ever called as a copy of a program is
(`names_never_collide`).
-/

namespace Shipyard.Packaging

/-! ## Ends -/

/-- No end of a name is the end of another. -/
theorem Role.eq_of_suffix :
    ∀ target ∈ BuildTarget.all, ∀ role : Role, ∀ target' ∈ BuildTarget.all, ∀ role' : Role,
      (tail target role).toList <:+ (tail target' role').toList →
        target = target' ∧ role = role' := by
  have hall : ∀ role : Role, role ∈ [Role.renamed, .archive, .sidecar] := by
    intro role
    cases role <;> decide
  have hlist : ∀ target ∈ BuildTarget.all, ∀ role ∈ [Role.renamed, .archive, .sidecar],
      ∀ target' ∈ BuildTarget.all, ∀ role' ∈ [Role.renamed, .archive, .sidecar],
        (tail target role).toList <:+ (tail target' role').toList →
          target = target' ∧ role = role' := by
    decide +kernel
  exact fun target ht role target' ht' role' =>
    hlist target ht role (hall role) target' ht' role' (hall role')

/-- **A text has one end at most**, and one beginning in front of it. -/
theorem Role.eq_of_append_eq {target target' : BuildTarget} {front front' : String}
    {role role' : Role} (ht : target ∈ BuildTarget.all) (ht' : target' ∈ BuildTarget.all)
    (h : front ++ role.tail target = front' ++ role'.tail target') :
    target = target' ∧ front = front' ∧ role = role' := by
  have hlist : front.toList ++ (role.tail target).toList =
      front'.toList ++ (role'.tail target').toList := by
    rw [← String.toList_append, h, String.toList_append]
  have hsuffix : (role.tail target).toList <:+ front'.toList ++ (role'.tail target').toList :=
    ⟨_, hlist⟩
  have hsame : target = target' ∧ role = role' := by
    rcases List.suffix_or_suffix_of_suffix hsuffix (List.suffix_append ..) with hs | hs
    · exact Role.eq_of_suffix _ ht _ _ ht' _ hs
    · obtain ⟨rfl, rfl⟩ := Role.eq_of_suffix _ ht' _ _ ht _ hs
      exact ⟨rfl, rfl⟩
  obtain ⟨rfl, rfl⟩ := hsame
  exact ⟨rfl, String.toList_injective (List.append_cancel_right hlist), rfl⟩

/-! ## Names -/

/-- What a file of a packaging is called. -/
def Role.fileName (target : BuildTarget) (program version : String) : Role → String
  | .renamed => target.binaryName program version
  | .archive => target.archiveName program version
  | .sidecar => sidecarName (target.archiveName program version)

theorem Role.fileName_eq_append (target : BuildTarget) (program version : String) (role : Role) :
    role.fileName target program version = program ++ "_" ++ version ++ role.tail target := by
  cases role with
  | renamed => simp only [fileName, tail, BuildTarget.binaryName, String.append_assoc]
  | archive => exact BuildTarget.archiveName_eq_append ..
  | sidecar =>
    rw [fileName, sidecarName, BuildTarget.archiveName_eq_append, tail_sidecar]
    exact String.append_assoc

variable {target target' : BuildTarget}

/-- **Names of files.** Two of them are the same exactly if target and role are, and program and
version come to the same text. -/
theorem fileName_eq_iff (ht : target ∈ BuildTarget.all) (ht' : target' ∈ BuildTarget.all)
    {role role' : Role} {program program' version version' : String} :
    role.fileName target program version = role'.fileName target' program' version' ↔
      target = target' ∧ role = role' ∧
        program ++ "_" ++ version = program' ++ "_" ++ version' := by
  rw [Role.fileName_eq_append, Role.fileName_eq_append]
  constructor
  · intro h
    obtain ⟨htarget, hfront, hrole⟩ := Role.eq_of_append_eq ht ht' h
    exact ⟨htarget, hrole, hfront⟩
  · rintro ⟨rfl, rfl, hfront⟩
    rw [hfront]

/-- Where the program ends is not told by a name. -/
example : BuildTarget.linux.archiveName "a_b" "c" = BuildTarget.linux.archiveName "a" "b_c" := by
  decide

/-- For one program and one role it is the versions and the targets that are the same. -/
theorem fileName_eq_iff_version (ht : target ∈ BuildTarget.all) (ht' : target' ∈ BuildTarget.all)
    (role : Role) (program version version' : String) :
    role.fileName target program version = role.fileName target' program version' ↔
      version = version' ∧ target = target' := by
  rw [fileName_eq_iff ht ht', String.append_right_inj, and_comm, eq_self_iff_true, true_and]

/-! ## Last characters -/

/-- The characters that the names of the files of a role may end with. -/
def Role.lastChars : Role → List Char
  | .renamed => ['l', 'e', 'n']
  | .archive => ['z', 'p']
  | .sidecar => ['m']

theorem Role.lastChars_disjoint {role role' : Role} (h : role ≠ role') :
    ∀ c ∈ role.lastChars, c ∉ role'.lastChars := by
  revert h
  cases role <;> cases role' <;> simp [Role.lastChars]

/-- The last character of a name tells its role. Of archives and sidecars this holds for any target,
since a format or the sidecar adds it; a copy of a program ends as its target does. -/
theorem Role.exists_getLast?_fileName {role : Role}
    (h : role = .renamed → target ∈ BuildTarget.all) (program version : String) :
    ∃ c ∈ role.lastChars, (role.fileName target program version).toList.getLast? = some c := by
  have hends : ∀ (front stop : String) (c : Char), stop.toList.getLast? = some c →
      (front ++ stop).toList.getLast? = some c := by
    intro front stop c hc
    rw [String.toList_append, List.getLast?_append, hc]
    rfl
  cases role with
  | renamed =>
    have hall : ∀ target ∈ BuildTarget.all,
        (tail target .renamed).toList.getLast?.any (['l', 'e', 'n'].contains ·) = true := by
      decide
    obtain ⟨c, hlast, hc⟩ := (Option.any_eq_true ..).mp (hall target (h rfl))
    exact ⟨c, List.contains_iff_mem.mp hc, by rw [fileName_eq_append, hends _ _ c hlast]⟩
  | archive =>
    obtain ⟨c, hc, hlast⟩ : ∃ c ∈ ['z', 'p'],
        target.archiveFormat.suffix.toList.getLast? = some c := by
      cases target.archiveFormat with
      | tarGz => exact ⟨'z', by simp, by decide⟩
      | zip => exact ⟨'p', by simp, by decide⟩
    exact ⟨c, hc, hends _ _ c hlast⟩
  | sidecar => exact ⟨'m', List.mem_singleton_self _, hends _ sidecarSuffix 'm' (by decide)⟩

/-- Files of different roles have different names, whatever they are of. -/
theorem fileName_ne {role role' : Role} (hrole : role ≠ role')
    (ht : role = .renamed → target ∈ BuildTarget.all)
    (ht' : role' = .renamed → target' ∈ BuildTarget.all)
    (program program' version version' : String) :
    role.fileName target program version ≠ role'.fileName target' program' version' := by
  intro heq
  obtain ⟨c, hc, hlast⟩ := Role.exists_getLast?_fileName ht program version
  obtain ⟨c', hc', hlast'⟩ := Role.exists_getLast?_fileName ht' program' version'
  rw [heq, hlast'] at hlast
  obtain rfl := Option.some.inj hlast
  exact Role.lastChars_disjoint hrole _ hc hc'

/-! ## No collisions -/

/-- **Names never collide.** Archives of one program have the same name exactly if version and
target are the same, and so have sidecars. An archive is never called as a sidecar is, and neither
of them as a copy of a program for a built-in target, whatever programs and versions are called. -/
theorem names_never_collide (target target' : BuildTarget)
    (program program' version version' : String) :
    (target ∈ BuildTarget.all → target' ∈ BuildTarget.all →
      (target.archiveName program version = target'.archiveName program version' ↔
        version = version' ∧ target = target') ∧
      (sidecarName (target.archiveName program version) =
          sidecarName (target'.archiveName program version') ↔
        version = version' ∧ target = target')) ∧
    target.archiveName program version ≠ sidecarName (target'.archiveName program' version') ∧
    (target' ∈ BuildTarget.all →
      target.archiveName program version ≠ target'.binaryName program' version' ∧
      sidecarName (target.archiveName program version) ≠ target'.binaryName program' version') := by
  have hroles : Role.archive ≠ .sidecar ∧ Role.archive ≠ .renamed ∧ Role.sidecar ≠ .renamed := by
    decide
  refine ⟨fun ht ht' => ⟨?_, ?_⟩, ?_, fun ht' => ⟨?_, ?_⟩⟩
  · exact fileName_eq_iff_version ht ht' .archive program version version'
  · exact fileName_eq_iff_version ht ht' .sidecar program version version'
  · exact fileName_ne hroles.1 nofun nofun program program' version version'
  · exact fileName_ne hroles.2.1 nofun (fun _ => ht') program program' version version'
  · exact fileName_ne hroles.2.2 nofun (fun _ => ht') program program' version version'

/-- Not even versions that end as the name of another target does make names collide. -/
theorem names_never_collide_nested :
    BuildTarget.windows.archiveName "p" "v_x86_64-apple-darwin.zip" ≠
        BuildTarget.macos.archiveName "p" "v_x86_64-pc-windows-gnu.exe.zip" ∧
      BuildTarget.macos.archiveName "p" "v.sha256sum" ≠
        sidecarName (BuildTarget.macos.archiveName "p" "v") ∧
      BuildTarget.windows.archiveName "p" "v" ≠ BuildTarget.windows.binaryName "p" "v.zip" := by
  have hmem : BuildTarget.windows ∈ BuildTarget.all ∧ BuildTarget.macos ∈ BuildTarget.all := by
    decide
  refine ⟨fun h => ?_, ?_, ?_⟩
  · have hiff := ((names_never_collide .windows .macos "p" "p" "v_x86_64-apple-darwin.zip"
      "v_x86_64-pc-windows-gnu.exe.zip").1 hmem.1 hmem.2).1
    exact absurd (hiff.mp h).2 (by decide)
  · exact (names_never_collide .macos .macos "p" "p" "v.sha256sum" "v").2.1
  · exact ((names_never_collide .windows .windows "p" "p" "v" "v.zip").2.2 hmem.1).1

end Shipyard.Packaging
