import SelfUpdate.Proofs.CommandLine.Commands

/-!
# Single runs

A run starts a manager, does its command and shuts the manager down. What it leaves of the last
release depends on what it found, on the outcome of its check if it makes one, and on nothing else.
-/

namespace SelfUpdate

open Disk World

variable {directories : Directories} {base : Location} {disk : Disk} {found : Option Update}
  {manager : Manager} {world later : World} {update : Update}

/-! ## Starting a run -/

theorem Settings.load_silent (file : Path) : (Settings.load file).Silent :=
  .of_within (Settings.load_within Frame.silent_loose.logs file)

namespace Effect

theorem directLogTo_silent (path : Path) : (directLogTo path).Silent := by
  refine .bind (openLogFile_silent path) fun opened => ?_
  cases opened with
  | none => exact .pure _
  | some file => exact fun _ => ⟨(List.append_nil _).symm, rfl, rfl, rfl, rfl, rfl⟩

theorem startLog_silent (verbose : Bool) (limit : UInt64) :
    (startLog directories verbose limit).Silent :=
  .of_within (startLog_within Frame.silent_loose.logs (Frame.silent_loose.ofSteps _)
    (trimLogFile_within fun _ => Frame.silent_loose.ofStep _)
    (fun world _ => ⟨directLogTo_silent _ world, trivial⟩)
    (fun _ _ _ => ⟨⟨(List.append_nil _).symm, rfl, rfl, rfl, rfl, rfl⟩, trivial⟩) verbose limit)

end Effect

namespace Manager

theorem shutDown_silent : Session.Silent shutDown := .of_within unasked_bounded.shutDown

theorem shutDown_disk (quiet : world.Quiet) (manager : Manager) :
    (shutDown manager world).2.disk = world.disk := by
  rw [shutDown]
  simp only [Session.bind_run, Session.lift_run, Session.modify_run, log, Effect.log_run quiet]
  exact world.disk_recorded _ _ _

end Manager

namespace CommandLine

/-- The manager with which a run does its command. -/
def opened (directories : Directories) (invocation : Invocation) :
    Effect (Except ManagerError Manager) := do
  let settings ← Settings.load directories.settingsFile
  Effect.startLog directories (settings.debugLogging || invocation.verbose) settings.logLimit
  Effect.log .debug .commandLine ("Loaded settings: " ++ settings.describe)
  Manager.start true invocation.current settings directories.downloads
    (.file directories.policyFile)

variable {invocation : Invocation}

/-- A run does its command once its manager has started. -/
theorem runInvocation_run (directories : Directories) (invocation : Invocation) (world : World) :
    runInvocation directories invocation world =
      match opened directories invocation world with
      | (.ok manager, ready) => runCommand directories invocation.command manager ready
      | (.error error, ready) => (failed "" (.manager error), ready) := by
  simp only [runInvocation, opened, Stateful.bind_run]
  generalize Manager.start _ _ _ _ _ _ = started
  obtain ⟨_ | manager, ready⟩ := started <;> rfl

theorem opened_silent : (opened directories invocation).Silent :=
  .bind (Settings.load_silent _) fun _ => .bind (Effect.startLog_silent _ _) fun _ =>
    .bind (Effect.log_silent _ _ _) fun _ => Manager.start_silent

theorem opened_remembering (standard : directories.Standard) :
    (opened directories invocation).Within (remembering directories base found) := by
  have logs := @Effect.remembering_logs directories base found standard
  exact .bind (Settings.load_within logs _) fun _ =>
    .bind (Effect.startLog_remembering standard _ _) fun _ => .bind (logs _ _ _) fun _ =>
      Manager.start_remembering standard _ _

/-- A manager that has just started, for a build with the given version code. -/
structure Begins (directories : Directories) (current : UInt32) (manager : Manager) : Prop where
  current : manager.current = current
  settled : manager.Settled
  accepting : manager.downloader.worker.accepting = true
  lives : manager.LivesIn directories

theorem opened_begins
    (started : opened directories invocation world = (.ok manager, later)) :
    Begins directories invocation.current manager := by
  simp only [opened, Stateful.bind_run] at started
  obtain ⟨policy, rfl⟩ := Manager.start_eq_ok started
  have some_ : directories.downloads ≠ "" := by
    intro none
    have pieces := Path.pieces_join directories.data (by decide : Path.isName "updates" = true)
    rw [← Directories.downloads, none] at pieces
    have last := congrArg List.getLast? pieces
    rw [List.getLast?_concat] at last
    exact absurd last (by decide)
  exact ⟨rfl, ⟨⟨.new _, .new _, rfl, some_⟩, rfl, rfl⟩, rfl, rfl, rfl, fun _ => List.Subset.refl _⟩

/-! ## Ending a run -/

/-- A manager is shut down when its command was done. -/
theorem runCommand_run (directories : Directories) (command : Command) (manager : Manager)
    (world : World) :
    runCommand directories command manager world =
      match perform directories command "" manager world with
      | (((.ok (), output), after), done) =>
        (⟨0, output, ""⟩, (Manager.shutDown after done).2)
      | (((.error error, output), after), done) =>
        (failed output error, (Manager.shutDown after done).2) := by
  have whole : ((perform directories command).run.run "").run manager world =
      perform directories command "" manager world := rfl
  simp only [runCommand, Stateful.bind_run, whole]
  generalize perform directories command "" manager world = ran
  obtain ⟨⟨⟨_ | _, output⟩, after⟩, done⟩ := ran <;> rfl

/-! ## What a run finds -/

/-- The outcome of the check that a command completes. -/
def Command.completed? (command : Command) (manager : Manager) (world : World) :
    Option CheckOutcome :=
  match command with
  | .check force => (asks force manager world).1.1.toOption.join
  | _ => none

/-- The update that a completed check has recorded when its run succeeds. -/
def recorded? (completed : Option CheckOutcome) (outcome : Outcome) : Option Update :=
  match completed, outcome.exitCode with
  | some (.updateAvailable update), 0 => some update
  | _, _ => none

@[simp] theorem recorded?_failed (completed : Option CheckOutcome) (output : String)
    (error : Error) : recorded? completed (failed output error) = none := by
  rcases completed with _ | _ | update <;> rfl

theorem recorded?_eq_some {completed : Option CheckOutcome} {outcome : Outcome}
    (recorded : recorded? completed outcome = some update) :
    completed = some (.updateAvailable update) := by
  unfold recorded? at recorded
  split at recorded
  · cases recorded
    rfl
  · cases recorded

/-- What a check reports is newer than the build that it is made for. -/
theorem Command.completed?_newer {command : Command} (orderly : manager.checker.Orderly)
    (completed : command.completed? manager world = some (.updateAvailable update)) :
    manager.current < update.code := by
  cases command with
  | check force =>
      have reported : (asks force manager world).1.1.toOption.join =
          some (.updateAvailable update) := completed
      refine @asks_newer manager world update orderly force ?_
      cases answered : (asks force manager world).1.1 with
      | error error =>
          rw [answered] at reported
          cases reported
      | ok outcome =>
          rw [answered] at reported
          exact congrArg Except.ok reported
  | _ => cases completed

/-- A command leaves the release told that it has recorded, or else the one that was told before. -/
theorem runCommand_remembers (standard : directories.Standard) (lives : manager.LivesIn directories)
    (holds : (remembering directories base found).Holds world) (command : Command) :
    let ran := runCommand directories command manager world
    let recorded := recorded? (command.completed? manager world) ran.1
    (remembering directories base (recorded.or found)).Holds ran.2 := by
  have closes {told : Option Update} {after : Manager} {done : World}
      (lives : after.LivesIn directories) (holds : (remembering directories base told).Holds done) :
      (remembering directories base told).Holds (Manager.shutDown after done).2 :=
    ((Manager.remembering_bounded standard).shutDown after done lives holds).1.holds
  dsimp only
  rw [runCommand_run]
  by_cases check : ∃ force, command = .check force
  · obtain ⟨force, rfl⟩ := check
    obtain ⟨told, still⟩ :=
      @check_remembers directories base found manager world "" standard force lives holds
    rw [perform, Command.completed?]
    generalize check directories force "" manager world = ran at told still ⊢
    generalize (asks force manager world).1.1 = answer at told ⊢
    obtain ⟨⟨⟨error | done, output⟩, after⟩, later⟩ := ran
    · have nothing : recordedBy answer (.error error) = none := by
        rcases answer with _ | _ | _ | _ <;> rfl
      rw [recorded?_failed]
      exact closes still (nothing ▸ told)
    · have same : recorded? answer.toOption.join ⟨0, output, ""⟩ = recordedBy answer (.ok done) := by
        rcases answer with _ | _ | _ | _ <;> rfl
      dsimp only at told still ⊢
      rw [same]
      exact closes still told
  · have other : ∀ force, command ≠ .check force := fun force same => check ⟨force, same⟩
    have nothing : command.completed? manager world = none := by
      cases command with
      | check force => exact absurd rfl (other force)
      | _ => rfl
    obtain ⟨step, still⟩ := perform_remembering standard other "" manager world lives holds
    rw [nothing]
    generalize perform directories command "" manager world = ran at step still ⊢
    obtain ⟨⟨⟨_ | _, output⟩, after⟩, later⟩ := ran <;> exact closes still step.holds

/-- The outcome of the check that a run completes. -/
def Invocation.completed? (directories : Directories) (invocation : Invocation) (world : World) :
    Option CheckOutcome :=
  match opened directories invocation world with
  | (.ok manager, ready) => invocation.command.completed? manager ready
  | (.error _, _) => none

theorem Invocation.completed?_of_opened {ready : World}
    (started : opened directories invocation world = (.ok manager, ready)) :
    invocation.completed? directories world = invocation.command.completed? manager ready := by
  unfold Invocation.completed?
  rw [started]

theorem Invocation.completed?_newer (invocation : Invocation)
    (completed : invocation.completed? directories world = some (.updateAvailable update)) :
    invocation.current < update.code := by
  unfold Invocation.completed? at completed
  generalize started : opened directories invocation world = ran at completed
  obtain ⟨error | manager, ready⟩ := ran
  · cases completed
  · have begins := opened_begins started
    exact begins.current ▸ Command.completed?_newer begins.settled.checker completed

theorem runInvocation_remembers (standard : directories.Standard)
    (holds : (remembering directories base found).Holds world) :
    let ran := runInvocation directories invocation world
    let recorded := recorded? (invocation.completed? directories world) ran.1
    (remembering directories base (recorded.or found)).Holds ran.2 := by
  have step := @opened_remembering directories base found invocation standard world holds
  dsimp only
  rw [runInvocation_run]
  unfold Invocation.completed?
  generalize started : opened directories invocation world = ran at step ⊢
  obtain ⟨error | manager, ready⟩ := ran
  · dsimp only
    rw [recorded?_failed]
    exact step.holds
  · have begins := opened_begins started
    exact runCommand_remembers standard begins.lives step.holds invocation.command

/-- A run whose check has found an update succeeds once the update is recorded. -/
theorem runInvocation_records {after : Manager} {ready later : World} {force verbose : Bool}
    {current : UInt32} {disk : Disk}
    (starts : opened directories ⟨current, verbose, .check force⟩ world = (.ok manager, ready))
    (asked : asks force manager ready = ((.ok (some (.updateAvailable update)), after), later))
    (replaced : replaceFile directories.lastReleaseFile (Text.encode update.toJson.indented)
      later.disk = (.ok (), disk)) :
    ∃ text, runInvocation directories ⟨current, verbose, .check force⟩ world =
      (⟨0, text, ""⟩, (Manager.shutDown after (later.setDisk disk)).2) := by
  obtain ⟨text, checked⟩ := check_records asked replaced ""
  refine ⟨text, ?_⟩
  rw [runInvocation_run, starts]
  dsimp only
  rw [runCommand_run, perform, checked]

/-- A download transfers the release that was told, or fails without any request. -/
theorem runInvocation_download (holds : (remembering directories base found).Holds world)
    (standard : directories.Standard) (download : invocation.command = .download) :
    let ran := runInvocation directories invocation world
    ran.2.requests = world.requests ∧ ran.1.exitCode = 1 ∨
      ∃ update, found = some update ∧
        ran.2.requests = world.requests ++ [Request.stream update.url] := by
  have step := @opened_remembering directories base found invocation standard world holds
  have silent := (@opened_silent directories invocation).requests world
  dsimp only
  rw [runInvocation_run]
  generalize started : opened directories invocation world = ran at step silent ⊢
  obtain ⟨error | manager, ready⟩ := ran
  · exact .inl ⟨silent, rfl⟩
  · have begins := opened_begins started
    have asks := @download_asks directories base found manager ready "" begins.settled
      begins.accepting step.holds
    have closes := Manager.shutDown_silent
    dsimp only
    rw [runCommand_run, download, perform]
    generalize CommandLine.download directories "" manager ready = ran at asks ⊢
    obtain ⟨⟨⟨result, output⟩, after⟩, done⟩ := ran
    dsimp only at asks silent
    rcases asks with ⟨nothing, error, rfl⟩ | ⟨update, told, once⟩
    · exact .inl ⟨(closes after done).trans (nothing.trans silent), rfl⟩
    · refine .inr ⟨update, told, ?_⟩
      rw [← silent, ← once]
      cases result <;> exact closes after done

/-- What arguments lead to. -/
theorem run_of_parse {arguments : List String} (parsed : parse arguments = .ok invocation) :
    run directories arguments = runInvocation directories invocation := by
  rw [run, parsed]

end CommandLine

end SelfUpdate
