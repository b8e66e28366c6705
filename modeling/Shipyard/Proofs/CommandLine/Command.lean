import Shipyard.CommandLine.Execution
import Shipyard.Proofs.Command.Action
import Shipyard.Proofs.FileSystem.Disk

/-!
# Running the steps of a command

A step of a command gives a value, ends the program, or meets a fault. The steps in front of a run
only read files and tell what they have found: `prepare` is told here by the settings and `loadEvent`
by the event that the files hold.
-/

namespace Shipyard

variable {σ α β : Type}

/-! ## Telling -/

/-- The world in which the user was told more. -/
def World.told (w : World σ) (notices : List Notice) : World σ :=
  { w with transcript := w.transcript ++ notices.map Console.plain.deliver }

/-- Whether a world differs from another one at most in what the user was told. -/
structure Untouched (w w' : World σ) : Prop where
  /-- no file was made, changed or removed -/
  files : w'.files = w.files
  /-- no command was issued -/
  issued : w'.issued = w.issued
  /-- everything outside is the same -/
  outside : w'.outside = w.outside

theorem untouched_told (w : World σ) (notices : List Notice) : Untouched w (w.told notices) :=
  ⟨rfl, rfl, rfl⟩

/-! ## Equations -/

namespace CommandLine.CommandAction

/-- Runs a step of a command: its value, the end of the program or a fault, and the world that is
left. -/
def runOn (m : CommandAction σ α) (w : World σ) : Except Fault (Except Ending α) × World σ :=
  Action.runOn m.run w

@[simp] theorem runOn_pure (x : α) (w : World σ) : runOn (pure x) w = (.ok (.ok x), w) := rfl

@[simp] theorem runOn_get (w : World σ) :
    runOn (get : CommandAction σ (World σ)) w = (.ok (.ok w), w) := rfl

/-- A sequence stops where the program ends, and at the first fault. -/
theorem runOn_bind (m : CommandAction σ α) (f : α → CommandAction σ β) (w : World σ) :
    runOn (m >>= f) w =
      match runOn m w with
      | (.ok (.ok x), w') => runOn (f x) w'
      | (.ok (.error ending), w') => (.ok (.error ending), w')
      | (.error fault, w') => (.error fault, w') := by
  show Action.runOn (m.run >>= ExceptT.bindCont f) w = _
  rw [Action.runOn_bind]
  unfold runOn
  rcases Action.runOn m.run w with ⟨fault | ending | x, w'⟩ <;> rfl

theorem runOn_bind_ok {m : CommandAction σ α} {f : α → CommandAction σ β} {w w' : World σ} {x : α}
    (h : runOn m w = (.ok (.ok x), w')) : runOn (m >>= f) w = runOn (f x) w' := by
  rw [runOn_bind, h]

theorem runOn_bind_ended {m : CommandAction σ α} {f : α → CommandAction σ β} {w w' : World σ}
    {ending : Ending} (h : runOn m w = (.ok (.error ending), w')) :
    runOn (m >>= f) w = (.ok (.error ending), w') := by
  rw [runOn_bind, h]

theorem runOn_bind_error {m : CommandAction σ α} {f : α → CommandAction σ β} {w w' : World σ}
    {fault : Fault} (h : runOn m w = (.error fault, w')) :
    runOn (m >>= f) w = (.error fault, w') := by
  rw [runOn_bind, h]

/-- A step of a run never ends the program. -/
@[simp] theorem runOn_act (a : Action σ α) (w : World σ) :
    runOn (act a) w = ((Action.runOn a w).1.map .ok, (Action.runOn a w).2) := by
  show Action.runOn (a >>= fun x => pure (Except.ok x)) w = _
  rw [Action.runOn_bind]
  rcases Action.runOn a w with ⟨fault | x, w'⟩ <;> rfl

theorem runOn_act_onFiles {d : Disk α} (h : Disk.Reads d) (w : World σ) :
    runOn (act (Action.onFiles d)) w = ((d.runOn w.files).1.map .ok, w) := by
  rw [runOn_act, Action.runOn_onFiles, h]

@[simp] theorem runOn_tellAll (notices : List Notice) (w : World σ) :
    runOn (tellAll notices) w = (.ok (.ok ()), w.told notices) := by
  induction notices generalizing w with
  | nil => simp [tellAll, World.told]
  | cons n rest ih =>
    have htell : runOn (act (Action.tell Console.plain n)) w = (.ok (.ok ()), w.told [n]) := by
      rw [runOn_act, Action.runOn_tell]
      rfl
    show runOn (act (Action.tell Console.plain n) >>= fun _ => tellAll rest) w = _
    rw [runOn_bind_ok htell, ih]
    simp [World.told]

end CommandLine.CommandAction

/-! ## Settings -/

theorem Config.reads_readTable (path : Path) : Disk.Reads (readTable path) := by
  refine Disk.reads_readBytes.attempt.bind fun bytes => ?_
  rcases bytes with e | bytes
  · dsimp only
    split
    · exact Disk.reads_pure
    · exact Disk.reads_pure
    · exact Disk.reads_throw
  · dsimp only
    split
    · exact Disk.reads_pure
    · split
      · exact Disk.reads_throw
      · exact Disk.reads_pure
      · exact Disk.reads_pure

theorem Config.reads_load (path : Path) : Disk.Reads (load path) := by
  refine (reads_readTable path).bind fun t => ?_
  rcases t with problem | t
  · exact Disk.reads_pure
  · dsimp only
    split
    · exact Disk.reads_pure
    · exact Disk.reads_pure

namespace CommandLine

variable {homes : Homes} {environ : Environment} {w : World σ}

/-- The settings that a command works with, or why there are none. -/
def SourceOptions.settings (o : SourceOptions) (root : Path) : Disk (Except ConfigError Config) :=
  match o.config with
  | some file => Config.load (Path.ofText file)
  | none => Config.loadOrDefault (root.child configFileName)

theorem SourceOptions.reads_settings (o : SourceOptions) (root : Path) :
    Disk.Reads (o.settings root) := by
  unfold settings
  split
  · exact Config.reads_load _
  · refine Disk.reads_pathExists.bind fun found => ?_
    split
    · exact Config.reads_load _
    · exact Disk.reads_pure

/-- With a source that is found, preparing is looking for the settings. -/
theorem runOn_prepare {o : SourceOptions} {source root : Path}
    (hsource : expandHome homes environ (Path.ofText o.source) = .ok source)
    (hroot : RunContext.rootOf w.files.cwd source = .ok root) :
    CommandAction.runOn (prepare homes environ o) w =
      (match ((o.settings root).runOn w.files).1 with
      | .error fault => .error fault
      | .ok (.error e) => .ok (.error ⟨2, some ⟨true, "error: " ++ e.message⟩⟩)
      | .ok (.ok config) => .ok (.ok (root, config.withForce o.force)), w) := by
  have hexpanded : CommandAction.runOn
      (CommandAction.act (Action.orFault (expandHome homes environ (Path.ofText o.source)))) w =
        (.ok (.ok source), w) := by
    rw [CommandAction.runOn_act, Action.runOn_orFault, hsource]
    rfl
  have hfound : CommandAction.runOn
      (CommandAction.act (Action.orRefused (RunContext.rootOf w.files.cwd source))) w =
        (.ok (.ok root), w) := by
    rw [CommandAction.runOn_act, Action.runOn_orRefused, hroot]
    rfl
  unfold prepare
  rw [CommandAction.runOn_bind_ok hexpanded,
    CommandAction.runOn_bind_ok (CommandAction.runOn_get w), CommandAction.runOn_bind_ok hfound]
  have hsettings := CommandAction.runOn_act_onFiles (o.reads_settings root) w
  show CommandAction.runOn (CommandAction.act (Action.onFiles (o.settings root)) >>= _) w = _
  rcases hloaded : ((o.settings root).runOn w.files).1 with fault | e | config
  all_goals
    rw [hloaded] at hsettings
  · rw [CommandAction.runOn_bind_error hsettings]
  · rw [CommandAction.runOn_bind_ok hsettings]
    rfl
  · rw [CommandAction.runOn_bind_ok hsettings]
    rfl

/-! ## Events -/

/-- The event that a command works with, or why there is none. -/
def EventOptions.load (o : EventOptions) : Disk (Except UnrecognizedEvent ReleaseEvent) :=
  ReleaseEvent.load (Path.ofText o.event) o.name o.revision

theorem EventOptions.reads_load (o : EventOptions) : Disk.Reads o.load := by
  refine Disk.reads_readText.attempt.bind fun text => ?_
  rcases text with e | text
  · exact Disk.reads_pure
  · dsimp only
    split
    · exact Disk.reads_throw
    · exact Disk.reads_pure
    · split
      · exact Disk.reads_pure
      · exact Disk.reads_pure

/-- Loading an event is reading it, and telling what was found. -/
theorem runOn_loadEvent (o : EventOptions) (w : World σ) :
    CommandAction.runOn (loadEvent o) w =
      match (o.load.runOn w.files).1 with
      | .error fault => (.error fault, w)
      | .ok (.error e) => (.ok (.error ⟨1, none⟩), w.told (ReleaseError.event e).notices)
      | .ok (.ok event) =>
        (.ok (.ok event), w.told [.info ("release " ++ event.tag ++ " at " ++ event.revision)]) := by
  have hload := CommandAction.runOn_act_onFiles o.reads_load w
  show CommandAction.runOn (CommandAction.act (Action.onFiles o.load) >>= _) w = _
  rcases hloaded : (o.load.runOn w.files).1 with fault | e | event
  all_goals
    rw [hloaded] at hload
  · rw [CommandAction.runOn_bind_error hload]
  · rw [CommandAction.runOn_bind_ok hload]
    refine CommandAction.runOn_bind_ended ?_
    show CommandAction.runOn (CommandAction.tellAll _ >>= fun _ => CommandAction.stop _) w = _
    rw [CommandAction.runOn_bind_ok (CommandAction.runOn_tellAll _ w)]
    rfl
  · rw [CommandAction.runOn_bind_ok hload]
    show CommandAction.runOn (pure event >>= _) w = _
    rw [CommandAction.runOn_bind_ok (CommandAction.runOn_pure event w),
      CommandAction.runOn_bind_ok (CommandAction.runOn_tellAll _ w)]
    rfl

/-! ## Contexts -/

@[simp] theorem runOn_contextOf (environ : Environment) (root : Path) (config : Config)
    (event : ReleaseEvent) (w : World σ) :
    CommandAction.runOn (contextOf environ root config event) w =
      (((RunContext.create w.files.cwd event config root environ).mapError .refused).map .ok, w) := by
  unfold contextOf
  rw [CommandAction.runOn_bind_ok (CommandAction.runOn_get w), CommandAction.runOn_act,
    Action.runOn_orRefused]

/-- A command that works in a context. -/
def inContext (homes : Homes) (environ : Environment) (eventOptions : EventOptions)
    (sourceOptions : SourceOptions) (work : RunContext → CommandAction σ ExitCode) :
    CommandAction σ ExitCode := do
  let (root, config) ← prepare homes environ sourceOptions
  let event ← loadEvent eventOptions
  let c ← contextOf environ root config event
  work c

/-- With a source that is found, such a command begins its work if there are settings, an event and
a context, and nothing but the transcript has changed by then. -/
theorem runOn_inContext {eventOptions : EventOptions} {sourceOptions : SourceOptions}
    {source root : Path}
    (hsource : expandHome homes environ (Path.ofText sourceOptions.source) = .ok source)
    (hroot : RunContext.rootOf w.files.cwd source = .ok root)
    (work : RunContext → CommandAction σ ExitCode) :
    CommandAction.runOn (inContext homes environ eventOptions sourceOptions work) w =
      match ((sourceOptions.settings root).runOn w.files).1 with
      | .error fault => (.error fault, w)
      | .ok (.error e) => (.ok (.error ⟨2, some ⟨true, "error: " ++ e.message⟩⟩), w)
      | .ok (.ok config) =>
        match (eventOptions.load.runOn w.files).1 with
        | .error fault => (.error fault, w)
        | .ok (.error e) => (.ok (.error ⟨1, none⟩), w.told (ReleaseError.event e).notices)
        | .ok (.ok event) =>
          let w₁ := w.told [.info ("release " ++ event.tag ++ " at " ++ event.revision)]
          match RunContext.create w.files.cwd event (config.withForce sourceOptions.force) root
            environ with
          | .error refusal => (.error (.refused refusal), w₁)
          | .ok c => CommandAction.runOn (work c) w₁ := by
  have hprepare := runOn_prepare hsource hroot
  unfold inContext
  rcases hsettings : ((sourceOptions.settings root).runOn w.files).1 with fault | e | config
  all_goals rw [hsettings] at hprepare
  · rw [CommandAction.runOn_bind_error hprepare]
  · rw [CommandAction.runOn_bind_ended hprepare]
  have hload := runOn_loadEvent eventOptions w
  rw [CommandAction.runOn_bind_ok hprepare]
  rcases hevent : (eventOptions.load.runOn w.files).1 with fault | e | event
  all_goals
    rw [hevent] at hload
    dsimp only at hload ⊢
  · rw [CommandAction.runOn_bind_error hload]
  · rw [CommandAction.runOn_bind_ended hload]
  rw [CommandAction.runOn_bind_ok hload]
  have hcontext := runOn_contextOf environ root (config.withForce sourceOptions.force) event
    (w.told [.info ("release " ++ event.tag ++ " at " ++ event.revision)])
  rw [show World.files (w.told _) = w.files from rfl] at hcontext
  rcases hcreate : RunContext.create w.files.cwd event (config.withForce sourceOptions.force) root
    environ with refusal | c
  all_goals rw [hcreate] at hcontext
  · rw [CommandAction.runOn_bind_error hcontext]
  · rw [CommandAction.runOn_bind_ok hcontext]

/-- What is done in a context, told and turned into a code. -/
def reportOn {α : Type} (a : Action σ α) (notices : α → List Notice) (code : α → ExitCode) :
    CommandAction σ ExitCode := do
  let x ← CommandAction.act a
  CommandAction.tellAll (notices x)
  return code x

theorem runOn_reportOn {α : Type} (a : Action σ α) (notices : α → List Notice)
    (code : α → ExitCode) (w : World σ) :
    CommandAction.runOn (reportOn a notices code) w =
      match Action.runOn a w with
      | (.error fault, w') => (.error fault, w')
      | (.ok x, w') => (.ok (.ok (code x)), w'.told (notices x)) := by
  have hact := CommandAction.runOn_act a w
  unfold reportOn
  rcases hrun : Action.runOn a w with ⟨fault | x, w'⟩
  all_goals rw [hrun] at hact
  · rw [CommandAction.runOn_bind_error hact]
  · rw [CommandAction.runOn_bind_ok hact,
      CommandAction.runOn_bind_ok (CommandAction.runOn_tellAll _ w')]
    rfl

/-! ## Endings -/

/-- How the program ends whose command has ended so. -/
def endingOf : Except Ending ExitCode → Ending
  | .ok code => { code := code.number }
  | .error ending => ending

theorem runOn_execute {host : Host σ} {words : List String} {invocation : Invocation}
    (h : Invocation.ofWords environ words = .ok invocation) (w : World σ) :
    Action.runOn (execute host homes environ words) w =
      ((CommandAction.runOn (perform host homes environ invocation) w).1.map endingOf,
        (CommandAction.runOn (perform host homes environ invocation) w).2) := by
  unfold execute
  rw [h]
  show Action.runOn ((perform host homes environ invocation).run >>= _) w = _
  rw [Action.runOn_bind]
  unfold CommandAction.runOn
  rcases Action.runOn (perform host homes environ invocation).run w with
    ⟨fault | ending | code, w'⟩ <;> rfl

end CommandLine

end Shipyard
