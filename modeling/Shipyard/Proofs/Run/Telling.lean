import Shipyard.Proofs.Asset.Name
import Shipyard.Proofs.Command.Telling
import Shipyard.Proofs.Digest.Sha256
import Shipyard.Run.Release

/-!
# What a run tells

Every step of a branch, and the bump of the formula, are told on one line each, if the texts of the
context are: nothing that a command answers is part of a message but its exit code, and the readers
of JSON say what is wrong in words of their own.
-/

namespace Shipyard

open Text Shipyard.Action

variable {σ : Type} {host : Host σ} {c : RunContext} {target : BuildTarget} {out : Console}

/-! ## Texts of a run -/

/-- Whether the texts of a context that are told hold no end of a line. -/
structure RunContext.Unbroken (c : RunContext) : Prop where
  /-- the tag of the release -/
  tag : Text.Unbroken c.event.tag
  /-- its commit -/
  revision : Text.Unbroken c.event.revision
  /-- where the source is -/
  sourceRoot : c.sourceRoot.Unbroken
  /-- where the branches work -/
  workDir : c.workDir.Unbroken
  /-- the name of the program -/
  program : Text.Unbroken c.config.project.binaryName
  /-- the repository -/
  repo : Text.Unbroken c.config.project.repo
  /-- the image of the builds -/
  image : Text.Unbroken c.config.toolchain.builderImage
  /-- the variable of the token for assets -/
  tokenName : Text.Unbroken c.config.secrets.publishTokenEnv
  /-- the formula -/
  formula : Text.Unbroken c.config.formula.name
  /-- its tap -/
  tap : Text.Unbroken c.config.formula.tap

/-- The texts of the built-in targets are unbroken. -/
theorem BuildTarget.unbroken : ∀ target ∈ BuildTarget.all, Text.Unbroken target.platform ∧
    Text.Unbroken target.triple ∧ Text.Unbroken target.exeSuffix ∧
      Text.Unbroken target.archiveFormat.suffix ∧
        ∀ entry ∈ target.containerEnv, Text.Unbroken entry.1 ∧ Text.Unbroken entry.2 := by
  decide

theorem unbroken_commandLine {argv : List String} (h : ∀ word ∈ argv, Text.Unbroken word) :
    Text.Unbroken (commandLine argv) :=
  unbroken_intercalate (by decide) h

theorem unbroken_describe (s : String) (reason : Json.Reason) (position : Nat) :
    Text.Unbroken (Json.describe s reason position) := by
  have hreason : Text.Unbroken reason.message := by cases reason <;> decide
  simp only [Json.describe, unbroken_append, and_assoc]
  exact ⟨hreason, by decide, unbroken_natToString _, by decide, unbroken_natToString _, by decide,
    unbroken_natToString _, by decide⟩

/-- What is wrong with a text that is no JSON is told on one line. -/
theorem unbroken_of_ofJson {s : String} {r : Except String Value} (h : Value.ofJson s = .ok r) :
    ∀ what, r = .error what → Text.Unbroken what := by
  rintro what rfl
  rw [Value.ofJson] at h
  split at h
  · cases h
  · cases h
    exact unbroken_describe _ _ _
  · cases h
  · cases h

namespace RunContext.Unbroken

variable (hc : c.Unbroken) (htarget : target ∈ BuildTarget.all)

include hc htarget

theorem branchDir : (c.branchDir target).Unbroken :=
  hc.workDir.child (BuildTarget.unbroken target htarget).1

theorem checkoutDir : (c.checkoutDir target).Unbroken :=
  (hc.branchDir htarget).child (by decide)

theorem stagingDir : (c.stagingDir target).Unbroken :=
  (hc.branchDir htarget).child (by decide)

theorem expectedBinary :
    (Build.expectedBinary target (c.checkoutDir target) c.config.project.binaryName).Unbroken := by
  obtain ⟨-, htriple, hsuffix, -⟩ := BuildTarget.unbroken target htarget
  exact ((((hc.checkoutDir htarget).child (by decide)).child htriple).child (by decide)).child
    (unbroken_append.mpr ⟨hc.program, hsuffix⟩)

/-- The name of the program before it is packed. -/
theorem binaryName :
    Text.Unbroken (target.binaryName c.config.project.binaryName c.event.version) := by
  obtain ⟨-, htriple, hsuffix, -⟩ := BuildTarget.unbroken target htarget
  simp only [BuildTarget.binaryName, unbroken_append]
  exact ⟨⟨⟨⟨⟨hc.program, by decide⟩, hc.tag⟩, by decide⟩, htriple⟩, hsuffix⟩

theorem archiveName :
    Text.Unbroken (target.archiveName c.config.project.binaryName c.event.version) := by
  obtain ⟨-, -, -, hformat, -⟩ := BuildTarget.unbroken target htarget
  exact unbroken_append.mpr ⟨hc.binaryName htarget, hformat⟩

end RunContext.Unbroken

/-! ## Results -/

/-- Whether a failure has its message on one line, and a value a property. -/
def ToldBy {ε α : Type} (message : ε → String) (Q : α → Prop) : Except ε α → Prop
  | .error failure => Text.Unbroken (message failure)
  | .ok a => Q a

/-! ## Builds -/

namespace Build

theorem tells_issueInOrder {commands : List Command}
    (h : ∀ command ∈ commands, Text.Unbroken (commandLine command.argv)) :
    Tells out Notice.Unbroken (issueInOrder host out commands) fun _ => True := by
  induction commands with
  | nil => exact tells_pure trivial
  | cons command rest ih =>
    obtain ⟨hcommand, hrest⟩ := List.forall_mem_cons.mp h
    refine Tells.echo_bind hcommand (Tells.issue_bind fun reply => ?_)
    cases reply with
    | error failure => exact tells_pure trivial
    | ok output => exact ih hrest

variable (hc : c.Unbroken) (htarget : target ∈ BuildTarget.all)

include hc htarget

theorem unbroken_checkoutCommands : ∀ command ∈ checkoutCommands c (c.checkoutDir target),
    Text.Unbroken (commandLine command.argv) := by
  have hroot := hc.sourceRoot.text
  have hcheckout := (hc.checkoutDir htarget).text
  simp only [checkoutCommands, List.forall_mem_cons]
  refine ⟨unbroken_commandLine ?_, unbroken_commandLine ?_, List.forall_mem_nil _⟩
  · simp only [List.forall_mem_cons]
    exact ⟨by decide, by decide, by decide, by decide, hroot, hcheckout, List.forall_mem_nil _⟩
  · simp only [List.forall_mem_cons]
    exact ⟨by decide, by decide, by decide, by decide, hc.revision, List.forall_mem_nil _⟩

theorem unbroken_compileCommands : ∀ command ∈ compileCommands c target (c.checkoutDir target),
    Text.Unbroken (commandLine command.argv) := by
  obtain ⟨-, htriple, -, -, henv⟩ := BuildTarget.unbroken target htarget
  have hcheckout := (hc.checkoutDir htarget).text
  intro command hcommand
  obtain ⟨built, hbuilt, rfl⟩ := List.mem_map.mp hcommand
  refine unbroken_commandLine fun word hword => ?_
  rw [commands] at hbuilt
  -- one command in a container, or two on the host
  split at hbuilt
  · rw [List.mem_singleton.mp hbuilt] at hword
    have hflags :
        ∀ flag ∈ target.containerEnv.flatMap fun entry => ["-e", entry.1 ++ "=" ++ entry.2],
          Text.Unbroken flag := by
      intro flag hflag
      obtain ⟨entry, hentry, hflag⟩ := List.mem_flatMap.mp hflag
      obtain ⟨hname, hvalue⟩ := henv entry hentry
      have hentries : ∀ word ∈ ["-e", entry.1 ++ "=" ++ entry.2], Text.Unbroken word := by
        simp only [List.forall_mem_cons, unbroken_append]
        exact ⟨by decide, ⟨⟨hname, by decide⟩, hvalue⟩, List.forall_mem_nil _⟩
      exact hentries flag hflag
    have hscript : Text.Unbroken (containerScript target.triple) :=
      unbroken_append.mpr ⟨by decide, unbroken_quote htriple⟩
    have hmount : Text.Unbroken ((c.checkoutDir target).text ++ ":" ++ mountPoint) := by
      simp only [unbroken_append]
      exact ⟨⟨hcheckout, by decide⟩, by decide⟩
    revert word
    simp only [BuildCommand.issued, List.forall_mem_append, List.forall_mem_cons]
    exact ⟨⟨⟨by decide, by decide, by decide, by decide, hmount, by decide, by decide,
      List.forall_mem_nil _⟩, hflags⟩, hc.image, by decide, by decide, hscript,
      List.forall_mem_nil _⟩
  · rcases List.mem_cons.mp hbuilt with rfl | hbuilt
    · revert word
      simp only [BuildCommand.issued, List.forall_mem_cons]
      exact ⟨by decide, by decide, by decide, htriple, List.forall_mem_nil _⟩
    · rw [List.mem_singleton.mp hbuilt] at hword
      revert word
      simp only [BuildCommand.issued, List.forall_mem_cons]
      exact ⟨by decide, by decide, by decide, by decide, by decide, htriple, List.forall_mem_nil _⟩

theorem tells_prepareCheckout :
    Tells out Notice.Unbroken (prepareCheckout host c target out)
      (ToldBy BuildFailure.message (· = c.checkoutDir target)) := by
  refine Tells.onFiles_bind (Q := fun _ => True) (fun _ _ _ => trivial) fun cleared _ => ?_
  cases cleared with
  | error e =>
    exact tells_pure (unbroken_append.mpr ⟨by decide, (hc.checkoutDir htarget).text⟩)
  | ok u =>
    refine (tells_issueInOrder (unbroken_checkoutCommands hc htarget)).bind fun reply _ => ?_
    cases reply with
    | error failure =>
      refine tells_pure ?_
      show Text.Unbroken ("checkout of " ++ c.event.revision ++ " failed")
      simp only [unbroken_append]
      exact ⟨⟨by decide, hc.revision⟩, by decide⟩
    | ok u => exact tells_pure rfl

theorem tells_compile :
    Tells out Notice.Unbroken (compile host c target (c.checkoutDir target) out)
      (ToldBy BuildFailure.message fun built => built.target = target ∧ built.path.Unbroken) := by
  refine (tells_issueInOrder (unbroken_compileCommands hc htarget)).bind fun reply _ => ?_
  cases reply with
  | error failure =>
    refine tells_pure ?_
    show Text.Unbroken s!"build failed (exit {failure.code})"
    simp only [unbroken_append]
    exact ⟨⟨by decide, unbroken_intToString _⟩, by decide⟩
  | ok u =>
    refine Tells.onFiles_bind (Q := fun _ => True) (fun _ _ _ => trivial) fun found _ => ?_
    cases found with
    | true => exact tells_pure ⟨rfl, hc.expectedBinary htarget⟩
    | false => exact tells_pure (unbroken_append.mpr ⟨by decide, (hc.expectedBinary htarget).text⟩)

theorem tells_run :
    Tells out Notice.Unbroken (run host c target out)
      (ToldBy BuildFailure.message fun built => built.target = target ∧ built.path.Unbroken) := by
  rw [run]
  split
  · exact tells_pure (by decide : Text.Unbroken (crossLinker ++ ": missing"))
  · refine (tells_prepareCheckout hc htarget).bind fun prepared hprepared => ?_
    cases prepared with
    | error failure => exact tells_pure hprepared
    | ok checkout =>
      cases hprepared
      exact tells_compile hc htarget

end Build

/-! ## Packagings -/

namespace Packaging

theorem unbroken_sidecarPath {archive sidecar : Path} (harchive : archive.Unbroken)
    (h : sidecarPath archive = .ok sidecar) : sidecar.Unbroken := by
  rw [sidecarPath] at h
  split at h
  · next hname =>
    cases h
    exact harchive.withName? (unbroken_append.mpr ⟨harchive.name, by decide⟩) hname
  · cases h

theorem unbroken_outputs {program version : String} {outDir : Path} {o : Outputs}
    (hdir : outDir.Unbroken) (hbinary : Text.Unbroken (target.binaryName program version))
    (harchive : Text.Unbroken (target.archiveName program version))
    (h : outputs target program version outDir = .ok o) :
    o.renamed.Unbroken ∧ o.archive.Unbroken ∧ o.sidecar.Unbroken := by
  unfold outputs at h
  rcases hsidecar : sidecarPath (outDir.child (target.archiveName program version)) with _ | sidecar
  · simp only [hsidecar] at h
    cases h
  · simp only [hsidecar] at h
    cases h
    exact ⟨hdir.child hbinary, hdir.child harchive,
      unbroken_sidecarPath (hdir.child harchive) hsidecar⟩

theorem unbroken_digest (content : Bytes) : Text.Unbroken (Sha256.digestInChunks content) := by
  intro c hc
  rw [Sha256.digestInChunks_eq] at hc
  have hdigit : (48 ≤ c.toNat ∧ c.toNat ≤ 57) ∨ (97 ≤ c.toNat ∧ c.toNat ≤ 102) :=
    Sha256.isDigit_of_mem_hex hc
  exact isLineBreak_eq_false (by omega) (by omega)

/-- The digest that is told consists of digits. -/
theorem gives_certify (mishaps : Mishaps) (format : SidecarFormat) (o : Outputs) :
    Disk.Gives (certify mishaps format o) fun checksum => Text.Unbroken checksum.digest := by
  unfold certify
  split
  · exact Disk.gives_throw
  · have hfile : Disk.Gives (Checksum.ofFile o.archive) fun checksum =>
        Text.Unbroken checksum.digest := by
      refine Disk.Gives.bind (P := Text.Unbroken) (Disk.gives_bind fun content => ?_) fun _ h =>
        Disk.gives_pure h
      exact Disk.gives_pure (unbroken_digest content)
    refine hfile.bind fun checksum hchecksum => ?_
    split
    · exact Disk.gives_bind fun _ => Disk.gives_pure hchecksum
    · exact Disk.gives_bind fun _ => Disk.gives_bind fun _ => Disk.gives_pure hchecksum

/-- What a packaging gives can be told. -/
theorem gives_told {archiver : Archiver} {built : BuiltBinary} {program version : String}
    {outDir : Path} {policy : SidecarPolicy} (mishaps : Mishaps) (hbuilt : built.path.Unbroken)
    (hdir : outDir.Unbroken) (hbinary : Text.Unbroken (built.target.binaryName program version))
    (harchive : Text.Unbroken (built.target.archiveName program version)) :
    Disk.Gives (run archiver mishaps built program version outDir policy)
      (ToldBy PackagingFailure.message fun artifact =>
        artifact.archive.Unbroken ∧ Text.Unbroken artifact.checksum.digest) := by
  unfold run
  rcases houtputs : outputs built.target program version outDir with refusal | o
  · simp only [houtputs]
    exact Disk.Gives.bind (P := fun _ => False) Disk.gives_throw fun _ h => h.elim
  -- a message holds the name of an output and no error of the operating system
  obtain ⟨hrenamed, hpacked, hsidecar⟩ := unbroken_outputs hdir hbinary harchive houtputs
  simp only [houtputs]
  refine (Disk.gives_pure (P := (· = o)) rfl).bind ?_
  rintro _ rfl
  refine Disk.gives_bind fun staged => ?_
  cases staged with
  | error e =>
    refine Disk.gives_pure ?_
    simp only [ToldBy, unbroken_append]
    exact ⟨⟨⟨by decide, hbuilt.name⟩, by decide⟩, hrenamed.name⟩
  | ok u =>
    refine Disk.gives_bind fun packed => ?_
    cases packed with
    | error fault =>
      exact Disk.gives_bind fun _ =>
        Disk.gives_pure (unbroken_append.mpr ⟨by decide, hpacked.name⟩)
    | ok u =>
      refine Disk.gives_bind fun _ => (gives_certify _ _ _).attempt.bind fun certified h => ?_
      cases certified with
      | error e =>
        exact Disk.gives_bind fun _ =>
          Disk.gives_pure (unbroken_append.mpr ⟨by decide, hsidecar.name⟩)
      | ok checksum => exact Disk.gives_pure ⟨hpacked, h checksum rfl⟩

end Packaging

/-! ## Publications -/

namespace Publication

variable {platform token : String}

theorem tells_view (hc : c.Unbroken) :
    Tells out Notice.Unbroken (view host c platform token)
      (ToldBy PublishFailure.message fun _ => True) := by
  refine Tells.issue_bind fun reply => ?_
  cases reply with
  | error failure => exact tells_pure (unbroken_append.mpr ⟨by decide, hc.tag⟩)
  | ok output =>
    refine Tells.orFault_bind (fun _ hr => unbroken_of_ofJson hr) fun answer hanswer => ?_
    cases answer with
    | error what => exact tells_pure (unbroken_append.mpr ⟨by decide, hanswer what rfl⟩)
    | ok answer =>
      dsimp only
      split
      · exact tells_pure (by decide : Text.Unbroken "unexpected payload from gh release view")
      · exact tells_pure trivial

theorem tells_deleteAttached (hc : c.Unbroken) (attached : List String) {names : List String}
    (hnames : ∀ name ∈ names, Text.Unbroken name) :
    Tells out Notice.Unbroken (deleteAttached host c token attached out names) fun _ => True := by
  induction names with
  | nil => exact tells_pure trivial
  | cons name rest ih =>
    obtain ⟨hname, hrest⟩ := List.forall_mem_cons.mp hnames
    have hcommand : Text.Unbroken (commandLine (deleteCommand c token name).argv) := by
      refine unbroken_commandLine ?_
      simp only [deleteCommand, releaseCommand, List.forall_mem_cons]
      exact ⟨by decide, by decide, by decide, hc.tag, hname, by decide, hc.repo, by decide,
        List.forall_mem_nil _⟩
    rw [deleteAttached]
    split
    · refine Tells.echo_bind hcommand (Tells.issue_bind fun reply => ?_)
      cases reply with
      | ok output => exact ih hrest
      | error failure =>
        -- an asset that stays is told, and the others are still deleted
        exact Tells.tell_bind (unbroken_append.mpr ⟨by decide, hname⟩) (ih hrest)
    · exact ih hrest

theorem tells_detach (hc : c.Unbroken) {names : List String}
    (hnames : ∀ name ∈ names, Text.Unbroken name) :
    Tells out Notice.Unbroken (detach host c platform token names out) fun _ => True := by
  refine (tells_view hc).bind fun viewed hviewed => ?_
  cases viewed with
  | error failure =>
    have hwarning : Text.Unbroken ("could not check for partial upload: " ++ failure.message) :=
      unbroken_append.mpr ⟨by decide, hviewed⟩
    exact tells_tell hwarning
  | ok release => exact tells_deleteAttached hc _ hnames

theorem tells_attachAndConfirm (hc : c.Unbroken) {files : List Path}
    (hnames : ∀ name ∈ files.map (·.name), Text.Unbroken name) :
    Tells out Notice.Unbroken (attachAndConfirm host c platform token files out)
      (ToldBy PublishFailure.message fun _ => True) := by
  -- of the assets only the names are told, not where they lie
  have hcommand : Text.Unbroken (commandLine
      ((uploadCommand c token files).argv.take 4 ++ files.map (·.name))) := by
    refine unbroken_commandLine (List.forall_mem_append.mpr ⟨?_, hnames⟩)
    show ∀ word ∈ ["gh", "release", "upload", c.event.tag], Text.Unbroken word
    simp only [List.forall_mem_cons]
    exact ⟨by decide, by decide, by decide, hc.tag, List.forall_mem_nil _⟩
  refine Tells.echo_bind hcommand (Tells.issue_bind fun reply => ?_)
  cases reply with
  | error failure =>
    refine tells_pure ?_
    simp only [ToldBy, unbroken_append]
    exact ⟨⟨by decide, hc.tag⟩, by decide⟩
  | ok output =>
    refine (tells_view hc).bind fun viewed hviewed => ?_
    cases viewed with
    | error failure => exact tells_pure hviewed
    | ok release =>
      dsimp only
      split
      · exact tells_pure trivial
      · refine tells_pure (unbroken_append.mpr ⟨by decide, unbroken_intercalate (by decide) ?_⟩)
        exact fun name hname => hnames name (List.mem_filter.mp hname).1

theorem unbroken_names {artifact : Artifact} {files : List Path}
    (harchive : artifact.archive.Unbroken) (h : artifact.assets = .ok files) :
    ∀ name ∈ files.map (·.name), Text.Unbroken name := by
  rw [Artifact.names_of_assets_eq_ok h]
  intro name hname
  rcases Artifact.mem_names.mp hname with rfl | rfl
  · exact harchive.name
  · exact unbroken_append.mpr ⟨harchive.name, by decide⟩

theorem tells_run (hc : c.Unbroken) {artifact : Artifact} (harchive : artifact.archive.Unbroken) :
    Tells out Notice.Unbroken (run host c artifact out)
      (ToldBy PublishFailure.message fun _ => True) := by
  unfold run
  rcases c.publishToken? with _ | token
  · exact tells_pure (unbroken_append.mpr ⟨hc.tokenName, by decide⟩)
  · refine Tells.orRefused_bind (fun _ h => unbroken_names harchive h) fun files hnames => ?_
    refine (tells_attachAndConfirm hc hnames).bind fun attached hattached => ?_
    cases attached with
    | ok release => exact tells_pure trivial
    | error failure => exact (tells_detach hc hnames).bind fun _ _ => tells_pure hattached

end Publication

/-! ## Branches -/

namespace Branch

theorem tells_publish (hc : c.Unbroken) {artifact : Artifact} (harchive : artifact.archive.Unbroken)
    (hdigest : Text.Unbroken artifact.checksum.digest) :
    Tells out Notice.Unbroken (publish host c target artifact out) fun _ => True := by
  have hchecksum :
      Text.Unbroken (artifact.archiveName ++ " sha256 " ++ artifact.checksum.digest) := by
    simp only [unbroken_append]
    exact ⟨⟨harchive.name, by decide⟩, hdigest⟩
  refine Tells.tell_bind hchecksum ((Publication.tells_run hc harchive).bind fun published h => ?_)
  cases published with
  | error failure => exact Tells.tell_bind h (tells_pure trivial)
  | ok release =>
    have hpublished : Text.Unbroken ("published " ++ artifact.archiveName) :=
      unbroken_append.mpr ⟨by decide, harchive.name⟩
    exact Tells.tell_bind hpublished
      (Tells.orRefused_bind (fun _ _ => trivial) fun _ _ => tells_pure trivial)

variable (hc : c.Unbroken) (htarget : target ∈ BuildTarget.all)

include hc htarget

theorem tells_package {built : BuiltBinary} (hbuilt : built.target = target ∧ built.path.Unbroken) :
    Tells out Notice.Unbroken (package host c target built out) fun _ => True := by
  obtain ⟨rfl, hpath⟩ := hbuilt
  refine Tells.onFiles_bind (Packaging.gives_told .none hpath (hc.stagingDir htarget)
    (hc.binaryName htarget) (hc.archiveName htarget)) fun packaged hpackaged => ?_
  cases packaged with
  | error failure => exact Tells.tell_bind hpackaged (tells_pure trivial)
  | ok artifact => exact tells_publish hc hpackaged.1 hpackaged.2

/-- **What a branch tells.** Whatever happens, it tells notices on one line each, under its own
tag. -/
theorem tells_run (console : Console) :
    Tells (console.within target.platform) Notice.Unbroken (run host c target console)
      fun _ => True := by
  have hbuilding : Text.Unbroken ("building " ++ target.triple ++ " at " ++ c.event.revision) := by
    simp only [unbroken_append]
    exact ⟨⟨⟨by decide, (BuildTarget.unbroken target htarget).2.1⟩, by decide⟩, hc.revision⟩
  refine Tells.tell_bind hbuilding ((Build.tells_run hc htarget).bind fun built hbuilt => ?_)
  cases built with
  | error failure => exact Tells.tell_bind hbuilt (tells_pure trivial)
  | ok built => exact tells_package hc htarget hbuilt

end Branch

/-! ## The formula -/

namespace Formula

theorem unbroken_tapName {repository : String} (h : Text.Unbroken repository) :
    Text.Unbroken (tapName repository) := by
  have hcut : Text.Unbroken (cutAt repository '/').1 ∧ Text.Unbroken (cutAt repository '/').2 := by
    refine ⟨unbroken_ofList fun c hc => h c ((List.takeWhile_subset _) hc),
      unbroken_ofList fun c hc => h c ?_⟩
    exact (List.dropWhile_subset _) (List.mem_of_mem_drop hc)
  have hname := unbroken_lower hcut.2
  simp only [tapName, unbroken_append]
  refine ⟨⟨unbroken_lower hcut.1, by decide⟩, ?_⟩
  rcases eq_append_or_dropStart_eq (lower (cutAt repository '/').2) "homebrew-" with heq | heq
  · rw [heq, unbroken_append] at hname
    exact hname.2
  · rw [heq]
    exact hname

theorem tells_submit (hc : c.Unbroken) {token : String} {force : Option Bool} :
    Tells out Notice.Unbroken (submit host c (requestOf c force) token out) fun _ => True := by
  have hcommand : Text.Unbroken (commandLine (bumpCommand c (requestOf c force) token).argv) := by
    refine unbroken_commandLine ?_
    have hforce : ∀ word ∈ if (requestOf c force).force then ["--force"] else [],
        Text.Unbroken word := by
      split
      · decide
      · exact nofun
    simp only [bumpCommand, List.forall_mem_append, List.forall_mem_cons, unbroken_append]
    exact ⟨⟨⟨by decide, by decide, by decide, ⟨by decide, hc.tag⟩, ⟨by decide, hc.revision⟩,
      List.forall_mem_nil _⟩, hforce⟩, ⟨⟨unbroken_tapName hc.tap, by decide⟩, hc.formula⟩,
      List.forall_mem_nil _⟩
  refine Tells.echo_bind hcommand (Tells.issue_bind fun reply => ?_)
  cases reply with
  | error failure => exact tells_pure trivial
  | ok output => exact tells_pure trivial

theorem tells_bump (hc : c.Unbroken) {force : Option Bool} :
    Tells out Notice.Unbroken (bump host c (requestOf c force) out) fun _ => True := by
  rw [bump]
  split
  · exact tells_pure trivial
  · split
    · exact tells_submit hc
    · refine Tells.bind (Q := fun _ => True) ?_ fun found _ => ?_
      · refine Tells.issue_bind fun reply => ?_
        cases reply with
        | error failure => exact tells_pure trivial
        | ok output =>
          refine Tells.orFault_bind (Q := fun _ => True) (fun _ _ => trivial) fun answer _ => ?_
          cases answer with
          | error what => exact tells_pure trivial
          | ok answer => exact tells_pure trivial
      · rcases found with failure | _ | url
        · exact tells_pure trivial
        · exact tells_submit hc
        · exact tells_pure trivial

end Formula

end Shipyard
