import SelfUpdate.CommandLine.Run
import SelfUpdate.Proofs.Check.Provenance
import SelfUpdate.Proofs.Download.Requests
import SelfUpdate.Proofs.Manager.Remembering

/-!
# What commands do with the last release

A check that finds an update replaces the file of the last release, or leaves it as it was when it
cannot be replaced. No other command touches that file, and a download transfers the release that
the file tells, whatever build asks for it.
-/

namespace SelfUpdate

open Disk World

variable {α β : Type} {directories : Directories} {base : Location} {found : Option Update}
  {manager : Manager} {world : World} {output : String} {update : Update}

/-! ## What checks report -/

theorem Check.newer_of_outputOf {current : UInt32} {offer : Except (Halt CheckError) Update}
    (reported : outputOf current offer = some (.ok (.updateAvailable update))) :
    current < update.code := by
  rcases offer with (error | _) | offered
  · cases reported
  · cases reported
  · rw [outputOf, Option.some.injEq, Except.ok.injEq, compare] at reported
    split at reported
    · rename_i newer
      cases reported
      exact newer
    · cases reported

theorem Checker.newer_of_check {checker : Checker} (orderly : checker.Orderly) {job : CheckJob}
    {others : List CheckJob}
    (reported : (checker.check job others world).1 = .ok (.updateAvailable update)) :
    job.current < update.code := by
  rcases check_run orderly job others world with ⟨error, failed⟩ | ⟨asked, offer, -, answered⟩
  · cases failed.symm.trans reported
  · exact Check.newer_of_outputOf (answered.trans (congrArg some reported))

/-- An endpoint that answers with the record of an update offers that update. -/
theorem Check.Offers.eq_ok_of_written {network : Network} {earlier asked : List Request}
    {now : Int64} {endpoint text : String} {offer : Except (Halt CheckError) Update}
    (offers : Offers network earlier now endpoint asked offer)
    (secure : Url.isSecure endpoint = true)
    (replied : (network.text earlier endpoint).reply = .body text)
    (written : text = update.toJson.compact ∨ text = update.toJson.indented) :
    offer = .ok update := by
  have answered := textOf_eq_ok_iff.mpr replied
  have read := update.toMetadata.parse_document written
  cases offers with
  | insecure insecure => cases insecure.symm.trans secure
  | unanswered _ missed => cases missed.symm.trans answered
  | unreadable _ other unread =>
      cases other.symm.trans answered
      cases unread.symm.trans read
  | native _ other parsed =>
      cases other.symm.trans answered
      cases parsed.symm.trans read
      exact built_eq_ok_iff.mpr (update.ofMetadata_toMetadata now)
  | hosted _ other parsed =>
      cases other.symm.trans answered
      cases parsed.symm.trans read

theorem Checker.check_offered {checker : Checker} (orderly : checker.Orderly)
    (accepting : checker.accepting = true) {job : CheckJob} {others : List CheckJob}
    (offered : ∀ asked offer, Check.Offers world.network (checker.settle world).2.requests
      (checker.settle world).2.now job.endpoint asked offer → offer = .ok update) :
    (checker.check job others world).1 = .ok (Check.compare job.current update) := by
  have waited : (checker.check job others world).1 =
      result (Worker.settle runJob (others.foldl Worker.submit (checker.submit job)) world).1
        checker.next := rfl
  obtain ⟨asked, offer, -, offers, output⟩ :=
    Check.runJob_offers checker.next job (checker.settle world).2
  rw [settle_network orderly] at offers
  rw [offered asked offer offers] at output
  rw [waited, result, Worker.answer?_accepted orderly accepting, ← settle]
  rw [output]
  rfl

namespace Manager

/-- A check is answered as its checker answers it once the attempt is noted. -/
theorem checkNow_answer (manager : Manager) (world : World) :
    (checkNow manager world).1.1 =
      (manager.checker.check ⟨manager.effectiveUrl, manager.current⟩ []
        (beginCheck manager world).2).1.mapError .check := by
  have begun := beginCheck_begun manager world
  simp only [checkNow, Session.bind_run, Session.get_run, Session.pure_run]
  generalize beginCheck manager world = ran at begun ⊢
  obtain ⟨⟨ticket, after⟩, ready⟩ := ran
  dsimp only at begun ⊢
  cases begun with
  | check checker worker =>
      rw [settle_run, checkResult, checker]
      rfl

/-- A check reports what the server has announced, when that is newer. -/
theorem checkNow_offered (quiet : world.Quiet) (orderly : manager.checker.Orderly)
    (accepting : manager.checker.accepting = true)
    (secure : Url.isSecure manager.effectiveUrl = true)
    (announced : ∀ earlier, (world.network.text earlier manager.effectiveUrl).reply =
      .body update.toJson.indented) :
    (checkNow manager world).1.1 = .ok (Check.compare manager.current update) := by
  have network := (@beginCheck_leaves manager world quiet).network
  rw [checkNow_answer]
  refine mapError_eq_ok_iff.mpr (Checker.check_offered orderly accepting fun asked offer offers => ?_)
  rw [network] at offers
  exact offers.eq_ok_of_written secure (announced _) (.inr rfl)

/-- A check that cannot note its attempt leaves the disk as it is. -/
theorem checkNow_disk (quiet : world.Quiet) (alone : world.network.Alone)
    (settled : manager.Settled)
    (fixed : ∀ path ∈ manager.store.path?, ∀ bytes,
      (replaceFile path bytes world.disk).2 = world.disk) :
    (checkNow manager world).2.disk = world.disk ∧ (checkNow manager world).2.Quiet := by
  have begun := beginCheck_begun manager world
  have leaves := @beginCheck_leaves manager world quiet
  have still := leaves.quiet quiet
  have lonely : (beginCheck manager world).2.network.Alone := leaves.network ▸ alone
  have same : (beginCheck manager world).2.disk = world.disk := by
    have replaced := leaves.disk
    generalize (beginCheck manager world).2.disk = disk at replaced
    induction replaced with
    | refl => rfl
    | tail _ step ih =>
        obtain ⟨path, bytes, kept, rfl⟩ := step
        rw [ih]
        exact fixed path kept bytes
  simp only [checkNow, Session.bind_run, Session.get_run, Session.pure_run]
  generalize beginCheck manager world = ran at begun still lonely same
  obtain ⟨⟨ticket, after⟩, ready⟩ := ran
  dsimp only at begun still lonely same ⊢
  cases begun with
  | check checker worker =>
      rw [settle_run, worker]
      have moved := Checker.runSome_unmoved still lonely (after.checker.queue.length + 1)
        after.checker
      have idle (state : World) : Worker.settle (after.downloader.runJob noteOutput)
          manager.downloader.worker state = (manager.downloader.worker, state) :=
        Worker.runSome_idle settled.worker.running settled.jobs _
      dsimp only
      rw [idle]
      exact ⟨moved.disk.trans same, moved.quiet still⟩

theorem checkNow_newer (orderly : manager.checker.Orderly)
    (reported : (checkNow manager world).1.1 = .ok (.updateAvailable update)) :
    manager.current < update.code := by
  rw [checkNow_answer] at reported
  exact Checker.newer_of_check orderly (mapError_eq_ok_iff.mp reported)

/-- A check that is made when it is due is skipped, or it is a check. -/
theorem checkIfDue_cases (manager : Manager) (world : World) :
    (checkIfDue manager world).1.1 = .ok none ∨
      checkIfDue manager world =
        (((checkNow manager world).1.1.map some, (checkNow manager world).1.2),
          (checkNow manager world).2) := by
  simp only [checkIfDue, beginDueCheck, Session.bind_run, Session.get_run]
  split
  · exact .inl rfl
  · simp only [Session.bind_run, Session.getWorld_run]
    split
    · exact .inl rfl
    · exact .inr rfl

theorem checkIfDue_newer (orderly : manager.checker.Orderly)
    (reported : (checkIfDue manager world).1.1 = .ok (some (.updateAvailable update))) :
    manager.current < update.code := by
  rcases checkIfDue_cases manager world with skipped | checked
  · cases skipped.symm.trans reported
  · rw [checked] at reported
    obtain ⟨outcome, answered, same⟩ := map_eq_ok_iff.mp reported
    exact checkNow_newer orderly (Option.some.inj same ▸ answered)

/-- A download asks for its update, or does not succeed. -/
theorem perform_fetch_asks (settled : manager.Settled)
    (accepting : manager.downloader.worker.accepting = true) (update : Update) (world : World) :
    let ran := perform (.fetch update) manager world
    ran.2.requests = world.requests ∧ (∃ error, ran.1.1.2 = .error error) ∨
      ran.2.requests = world.requests ++ [Request.stream update.url] := by
  have resting := settled.worker.running
  have unchanged : Worker.settle (manager.downloader.runJob noteOutput) manager.downloader.worker
      world = (manager.downloader.worker, world) := Worker.runSome_idle resting settled.jobs _
  have answered : (Worker.settle (manager.downloader.runJob noteOutput)
      (manager.downloader.worker.submit (.fetch update)) world).1.answer?
        manager.downloader.worker.next = some (Worker.answerOf _ _) :=
    Worker.answer?_accepted settled.worker accepting (.fetch update) []
  have left : (Worker.settle (manager.downloader.runJob noteOutput)
      (manager.downloader.worker.submit (.fetch update)) world).2 =
      (manager.downloader.runJob noteOutput manager.downloader.worker.next (.fetch update)
        world).2 := by
    rw [Worker.settle_submit resting settled.jobs accepting]
  have asks := @Downloader.runJob_fetch_asks manager.downloader noteOutput noteOutput_silent
    manager.downloader.worker.next update world
  rw [unchanged] at answered
  rw [perform_run settled]
  dsimp only at asks left ⊢
  rw [Downloader.result, answered, left]
  rcases asks with ⟨nothing, unsuccessful⟩ | once
  · refine .inl ⟨nothing.requests.trans (List.append_nil _), ?_⟩
    cases ran : (manager.downloader.runJob noteOutput manager.downloader.worker.next
        (.fetch update) world).1 with
    | none => exact ⟨_, rfl⟩
    | some result =>
        cases result with
        | error error => exact ⟨_, rfl⟩
        | ok output => exact absurd ran (unsuccessful output)
  · exact .inr once.requests

end Manager

namespace CommandLine

/-! ## Printing -/

namespace Printing

section

variable (output : String) (manager : Manager) (world : World)

/-- What follows is done after a success only. -/
theorem bind_run (first : Printing α) (next : α → Printing β) :
    (first >>= next) output manager world =
      match (first output manager world).1.1.1 with
      | .ok a => next a (first output manager world).1.1.2 (first output manager world).1.2
          (first output manager world).2
      | .error error => (((.error error, (first output manager world).1.1.2),
          (first output manager world).1.2), (first output manager world).2) := by
  change (ExceptT.bindCont next (first output manager world).1.1.1 :
    StateT String Session (Except Error β)) _ _ _ = _
  rcases first output manager world with ⟨⟨⟨_ | _, text⟩, after⟩, later⟩ <;> rfl

@[simp] theorem lift_run (session : Session α) :
    (liftM session : Printing α) output manager world =
      (((.ok (session manager world).1.1, output), (session manager world).1.2),
        (session manager world).2) := (rfl)

theorem effect_run (effect : Effect α) :
    (liftM effect : Printing α) output manager world =
      (((.ok (effect world).1, output), manager), (effect world).2) := (rfl)

@[simp] theorem printLine_run (text : String) :
    printLine text output manager world =
      (((.ok (), output ++ text ++ "\n"), manager), world) := (rfl)

@[simp] theorem getManager_run :
    (getThe Manager : Printing Manager) output manager world =
      (((.ok manager, output), manager), world) := (rfl)

end

/-- What prints at most: the manager and the world stay as they are. -/
def PrintsOnly (printing : Printing α) : Prop :=
  ∀ output manager world, ∃ result text,
    printing output manager world = (((result, text), manager), world)

namespace PrintsOnly

theorem pure (a : α) : PrintsOnly (Pure.pure a : Printing α) := fun _ _ _ => ⟨_, _, rfl⟩

theorem throw (error : Error) : PrintsOnly (MonadExcept.throw error : Printing α) :=
  fun _ _ _ => ⟨_, _, rfl⟩

theorem ofResult (result : Except ManagerError α) : PrintsOnly (ofResult result) := by
  cases result with
  | ok a => exact .pure a
  | error error => exact .throw _

theorem getManager : PrintsOnly (getThe Manager : Printing Manager) := fun _ _ _ => ⟨_, _, rfl⟩

theorem getWorld : PrintsOnly (getThe World : Printing World) := fun _ _ _ => ⟨_, _, rfl⟩

theorem printLine (text : String) : PrintsOnly (printLine text) := fun _ _ _ => ⟨_, _, rfl⟩

theorem bind {first : Printing α} {next : α → Printing β} (early : PrintsOnly first)
    (late : ∀ a, PrintsOnly (next a)) : PrintsOnly (first >>= next) := by
  intro output manager world
  obtain ⟨result, text, ran⟩ := early output manager world
  rw [bind_run, ran]
  cases result with
  | error error => exact ⟨_, _, rfl⟩
  | ok a => exact late a text manager world

/-- Going through a list. -/
theorem forIn {items : List α} {body : α → PUnit → Printing (ForInStep PUnit)}
    (each : ∀ item step, PrintsOnly (body item step)) :
    PrintsOnly (ForIn.forIn items ⟨⟩ body : Printing PUnit) := by
  induction items with
  | nil => exact .pure _
  | cons item items ih =>
      rw [List.forIn_cons]
      refine .bind (each item _) fun step => ?_
      cases step with
      | done => exact .pure _
      | yield => exact ih

end PrintsOnly

/-- A computation that stays within a frame and keeps a property of its manager. -/
def Within (keeps : Manager → Prop) (frame : Frame) (printing : Printing α) : Prop :=
  ∀ output manager world, keeps manager → frame.Holds world →
    frame.Step world (printing output manager world).2 ∧ keeps (printing output manager world).1.2

namespace Within

variable {keeps : Manager → Prop} {frame : Frame}

theorem lift {session : Session α} (within : session.Within keeps frame) :
    Within keeps frame (liftM session : Printing α) :=
  fun _ => within

theorem prints {printing : Printing α} (only : PrintsOnly printing) :
    Within keeps frame printing := by
  intro output manager world kept holds
  obtain ⟨result, text, ran⟩ := only output manager world
  rw [ran]
  exact ⟨.refl holds, kept⟩

theorem bind {first : Printing α} {next : α → Printing β} (early : Within keeps frame first)
    (late : ∀ a, Within keeps frame (next a)) : Within keeps frame (first >>= next) := by
  intro output manager world kept holds
  obtain ⟨step, still⟩ := early output manager world kept holds
  rw [bind_run]
  cases (first output manager world).1.1.1 with
  | error error => exact ⟨step, still⟩
  | ok a =>
      obtain ⟨onward, last⟩ := late a _ _ _ still step.holds
      exact ⟨step.trans onward, last⟩

end Within

end Printing

open Printing

/-! ## Commands that leave the last release as it is -/

theorem status_prints : PrintsOnly status :=
  .bind .getManager fun _ => .bind .getWorld fun _ => .bind (.printLine _) fun _ =>
    .bind (.printLine _) fun _ => .bind (.printLine _) fun _ => .bind (.printLine _) fun _ =>
      .bind (.printLine _) fun _ => .bind (.printLine _) fun _ => .printLine _

/-- What a download prints when it has ended. -/
def reportDownload (ended : Nat × Except ManagerError DownloadOutput) : Printing Unit := do
  for (number, event) in (← getThe World).progress do
    if number = ended.1 then printLine (progressLine event)
  match ← ofResult ended.2 with
  | .fetched artifact =>
    printLine s!"Verified {artifact.path} ({artifact.size} bytes)"
    printLine ("sha256 " ++ artifact.checksum)
  | .cleaned _ => return

theorem download_eq (directories : Directories) :
    download directories = (do
      match ← (loadRelease directories.lastReleaseFile : Effect _) with
      | none => throw .noRelease
      | some update =>
        let ended ← (Manager.perform (.fetch update) : Session _)
        reportDownload ended) :=
  rfl

theorem reportDownload_prints (ended : Nat × Except ManagerError DownloadOutput) :
    PrintsOnly (reportDownload ended) := by
  refine .bind .getWorld fun world => ?_
  refine .bind (.forIn fun item _ => ?_) fun _ => .bind (.ofResult _) fun done => ?_
  · dsimp only
    split
    · exact .bind (.printLine _) fun _ => .pure _
    · exact .pure _
  · cases done with
    | fetched artifact => exact .bind (.printLine _) fun _ => .printLine _
    | cleaned report => exact .pure _

/-- What fails anyway fails after anything else. -/
theorem Printing.bind_error {first : Printing α} {next : α → Printing β}
    (fails : ∀ a output manager world, ∃ error,
      (next a output manager world).1.1.1 = .error error) :
    ∃ error, ((first >>= next) output manager world).1.1.1 = .error error := by
  rw [bind_run]
  cases (first output manager world).1.1.1 with
  | error error => exact ⟨error, rfl⟩
  | ok a => exact fails a _ _ _

/-- A download that did not succeed is reported as such. -/
theorem reportDownload_error (ticket : Nat) (error : ManagerError) :
    ∃ failure, (reportDownload (ticket, .error error) output manager world).1.1.1 =
      .error failure :=
  bind_error fun _ _ _ _ => bind_error fun _ _ _ _ => ⟨_, rfl⟩

/-- A command that leaves the last release as it is. -/
abbrev Remembering (directories : Directories) (base : Location) (found : Option Update)
    (printing : Printing α) : Prop :=
  printing.Within (Manager.LivesIn directories) (remembering directories base found)

section

variable (standard : directories.Standard)

include standard

theorem download_remembering : Remembering directories base found (download directories) := by
  rw [download_eq]
  have loads : Remembering directories base found
      (liftM (loadRelease directories.lastReleaseFile) : Printing (Option Update)) := by
    refine .lift (.lift fun world holds => ?_)
    rw [loadRelease]
    simp only [Stateful.bind_run, Stateful.get_run]
    cases world.disk.readText directories.lastReleaseFile <;> exact .refl holds
  refine .bind loads fun release => ?_
  cases release with
  | none => exact .prints (.throw _)
  | some update =>
      exact .bind (.lift (Manager.perform_remembering standard _)) fun ended =>
        .prints (reportDownload_prints ended)

theorem install_remembering (path : Path) :
    Remembering directories base found (install path) := by
  refine .bind (.lift (Manager.requestInstall_remembering standard path)) fun taken => ?_
  cases taken with
  | false => exact .prints (.throw _)
  | true => exact .prints (.printLine _)

theorem cleanUp_remembering : Remembering directories base found cleanUp := by
  refine .bind (.lift (Manager.perform_remembering standard _)) fun ended => .prints ?_
  refine .bind (.ofResult _) fun done => ?_
  cases done with
  | fetched artifact => exact .pure _
  | cleaned report =>
      refine .bind .getManager fun _ => .bind (.printLine _) fun _ => ?_
      refine .bind (.forIn fun path _ => .bind (.printLine _) fun _ => .pure _) fun _ => ?_
      split
      · exact .throw _
      · exact .pure _

/-- Only a check may touch the last release. -/
theorem perform_remembering {command : Command} (other : ∀ force, command ≠ .check force) :
    Remembering directories base found (perform directories command) := by
  cases command with
  | check force => exact absurd rfl (other force)
  | download => exact download_remembering standard
  | install path => exact install_remembering standard path
  | cleanUp => exact cleanUp_remembering standard
  | dismiss code =>
      exact .bind (.lift ((Manager.remembering_bounded standard).dismiss code)) fun kept =>
        .prints (.bind (.ofResult kept) fun _ => .printLine _)
  | clearDismissal =>
      exact .bind (.lift ((Manager.remembering_bounded standard).changeReply _)) fun kept =>
        .prints (.bind (.ofResult kept) fun _ => .printLine _)
  | enableAutoCheck enabled =>
      exact .bind (.lift ((Manager.remembering_bounded standard).enableAutoCheck enabled)) fun kept =>
        .prints (.bind (.ofResult kept) fun _ => .printLine _)
  | chooseUrl wish =>
      exact .bind (.lift ((Manager.remembering_bounded standard).chooseUrl wish)) fun kept =>
        .prints (.bind (.ofResult kept) fun _ => .bind .getManager fun _ => .printLine _)
  | status => exact .prints status_prints

end

/-! ## Checks -/

/-- The check that a command makes. -/
def asks (force : Bool) : Session (Except ManagerError (Option CheckOutcome)) :=
  if force then (·.map some) <$> Manager.checkNow else Manager.checkIfDue

/-- A forced check is made even when none is due. -/
theorem asks_forced (manager : Manager) (world : World) :
    asks true manager world =
      (((Manager.checkNow manager world).1.1.map some, (Manager.checkNow manager world).1.2),
        (Manager.checkNow manager world).2) := by
  rw [asks, if_pos rfl, Session.map_run]

theorem check_eq (directories : Directories) (force : Bool) :
    check directories force = (do
      let answer ← (asks force : Session _)
      let outcome ← ofResult answer
      reportCheck directories outcome) := by
  cases force <;> rfl

theorem asks_remembering (standard : directories.Standard) (force : Bool) :
    Manager.Remembering directories base found (asks force) := by
  cases force with
  | false => exact Manager.checkIfDue_remembering standard
  | true => exact .bind (Manager.checkNow_remembering standard) fun _ => .pure _

theorem asks_newer (orderly : manager.checker.Orderly) {force : Bool}
    (reported : (asks force manager world).1.1 = .ok (some (.updateAvailable update))) :
    manager.current < update.code := by
  cases force with
  | false => exact Manager.checkIfDue_newer orderly reported
  | true =>
      rw [asks_forced] at reported
      obtain ⟨outcome, answered, same⟩ := map_eq_ok_iff.mp reported
      exact Manager.checkNow_newer orderly (Option.some.inj same ▸ answered)

/-- The release that a check has recorded, when it succeeds. -/
def recordedBy (answer : Except ManagerError (Option CheckOutcome)) (result : Except Error Unit) :
    Option Update :=
  match answer, result with
  | .ok (some (.updateAvailable update)), .ok () => some update
  | _, _ => none

/-- An update that was found is printed, and then it is recorded. -/
theorem reportUpdate_run (update : Update) (output : String) (manager : Manager) (world : World) :
    ∃ text, reportUpdate directories update output manager world =
      saveRelease directories.lastReleaseFile update text manager world := by
  have announces (text : String) : ∃ last, (do
      if (← getThe Manager).isDismissed update.code then
        printLine "This release was dismissed; `upgate clear-dismissal` to show it again"
      saveRelease directories.lastReleaseFile update : Printing Unit) text manager world =
        saveRelease directories.lastReleaseFile update last manager world := by
    rw [bind_run, getManager_run]
    dsimp only
    split
    · rw [bind_run, printLine_run]
      exact ⟨_, rfl⟩
    · exact ⟨text, rfl⟩
  rw [reportUpdate, bind_run, printLine_run]
  dsimp only
  split
  · rw [bind_run, printLine_run]
    exact announces _
  · exact announces _

/-- What is left to do when a check has found an update. -/
theorem check_available {after : Manager} {later : World} {force : Bool}
    (asked : asks force manager world = ((.ok (some (.updateAvailable update)), after), later))
    (output : String) :
    ∃ text, check directories force output manager world =
      saveRelease directories.lastReleaseFile update text after later := by
  obtain ⟨text, saves⟩ := @reportUpdate_run directories update output after later
  refine ⟨text, ?_⟩
  rw [check_eq, bind_run, lift_run, asked, ← saves]
  rfl

/-- Recording a release tells it from then on, or leaves what was told. -/
theorem saveRelease_remembers (holds : (remembering directories base found).Holds world) :
    let ran := saveRelease directories.lastReleaseFile update output manager world
    ran.1.2 = manager ∧
      (ran.1.1.1 = .ok () ∧ (remembering directories base (some update)).Holds ran.2 ∨
        (∃ error, ran.1.1.1 = .error error) ∧
          (remembering directories base found).Holds ran.2) := by
  intro ran
  obtain ⟨ready, remembers⟩ := holds
  obtain rfl := ready.workingDirectory
  have confined : Confined
      (· = destination world.disk.workingDirectory directories.lastReleaseFile) (fun _ => True)
      world.disk _ :=
    .replaceFile ready.plain (by decide) (Text.encode update.toJson.indented) rfl fun _ => trivial
  have run : ran = _ := saveRelease_run directories.lastReleaseFile update output manager world
  dsimp only at run
  have still : ran.2.Ready directories world.disk.workingDirectory := by
    rw [run]
    exact ready.of_confined confined (fun here _ same => same.trans here.symm) rfl rfl
  refine ⟨by rw [run], ?_⟩
  cases replaced : (Disk.replaceFile directories.lastReleaseFile
      (Text.encode update.toJson.indented) world.disk).1 with
  | ok done =>
      have saved : ran.1.1.1 = .ok () := by
        rw [run, replaced]
        rfl
      exact .inl ⟨saved, still, isRecorded_of_saveRelease ready.plain.tree
        (ready.plain.linkFree.straight_prepared _) saved⟩
  | error error =>
      refine .inr ⟨⟨.saveRelease directories.lastReleaseFile error, ?_⟩, still, ?_⟩
      · rw [run, replaced]
        rfl
      · rw [run]
        exact remembers.of_spares (replaceFile_spares ready.plain.tree replaced)

/-- A check that has found an update prints it and records it. -/
theorem check_records {after : Manager} {later : World} {force : Bool} {disk : Disk}
    (asked : asks force manager world = ((.ok (some (.updateAvailable update)), after), later))
    (replaced : replaceFile directories.lastReleaseFile (Text.encode update.toJson.indented)
      later.disk = (.ok (), disk)) (output : String) :
    ∃ text, check directories force output manager world =
      (((.ok (), text), after), later.setDisk disk) := by
  obtain ⟨text, saves⟩ := check_available asked output
  have saved := saveRelease_run directories.lastReleaseFile update text after later
  rw [replaced] at saved
  exact ⟨text, saves.trans saved⟩

/-- What a check leaves told: the release that it has recorded, or what was told before. -/
theorem check_remembers (standard : directories.Standard) (force : Bool)
    (lives : manager.LivesIn directories)
    (holds : (remembering directories base found).Holds world) :
    let ran := check directories force output manager world
    let recorded := recordedBy (asks force manager world).1.1 ran.1.1.1
    (remembering directories base (recorded.or found)).Holds ran.2 ∧
      ran.1.2.LivesIn directories := by
  obtain ⟨step, still⟩ := asks_remembering standard force manager world lives holds
  generalize asked : asks force manager world = ran at step still ⊢
  obtain ⟨⟨answer, after⟩, later⟩ := ran
  have ran := check_eq directories force
  rcases answer with error | _ | _ | update
  · rw [ran, bind_run, lift_run, asked]
    exact ⟨step.holds, still⟩
  · rw [ran, bind_run, lift_run, asked]
    exact ⟨step.holds, still⟩
  · rw [ran, bind_run, lift_run, asked]
    exact ⟨step.holds, still⟩
  · obtain ⟨text, saves⟩ := @check_available directories manager world update after later force
      asked output
    dsimp only
    rw [saves]
    obtain ⟨same, ⟨saved, told⟩ | ⟨⟨error, failed⟩, told⟩⟩ :=
      @saveRelease_remembers directories base found after later text update step.holds
    · rw [saved, same]
      exact ⟨told, still⟩
    · rw [failed, same]
      exact ⟨told, still⟩

/-! ## Downloads -/

/-- Without a file no release is loaded. -/
theorem loadRelease_missing (holds : (remembering directories base none).Holds world) :
    loadRelease directories.lastReleaseFile world = (none, world) := by
  obtain ⟨ready, remembers⟩ := holds
  obtain rfl := ready.workingDirectory
  rw [loadRelease]
  simp only [Stateful.bind_run, Stateful.get_run]
  cases read : world.disk.readText directories.lastReleaseFile with
  | error error => rfl
  | ok text =>
      rw [readText] at read
      obtain ⟨bytes, file, -⟩ := bind_eq_ok_iff.mp read
      obtain ⟨location, identity, mode, located, there⟩ :=
        readFile_eq_ok_iff.mp (mapError_eq_ok_iff.mp file)
      obtain rfl := locate_eq_destination ready.plain.linkFree located
      cases remembers.symm.trans (identityAt?_eq_some_iff.mpr ⟨mode, bytes, there⟩)

theorem loadRelease_remembered (holds : (remembering directories base found).Holds world) :
    loadRelease directories.lastReleaseFile world = (found, world) := by
  cases found with
  | none => exact loadRelease_missing holds
  | some update => exact loadRelease_recorded holds.2

/-- What is left to do when a release was recorded. -/
theorem download_recorded
    (loads : loadRelease directories.lastReleaseFile world = (some update, world))
    (output : String) :
    download directories output manager world =
      let ended := Manager.perform (.fetch update) manager world
      reportDownload ended.1.1 output ended.1.2 ended.2 := by
  rw [download_eq, bind_run, effect_run, loads]
  dsimp only
  rw [bind_run, lift_run]

/-- A download transfers the release that the file tells, whatever build asks for it, or it fails
without any request. -/
theorem download_asks (settled : manager.Settled)
    (accepting : manager.downloader.worker.accepting = true)
    (holds : (remembering directories base found).Holds world) :
    let ran := download directories output manager world
    ran.2.requests = world.requests ∧ (∃ error, ran.1.1.1 = .error error) ∨
      ∃ update, found = some update ∧
        ran.2.requests = world.requests ++ [Request.stream update.url] := by
  have loads := loadRelease_remembered holds
  cases found with
  | none =>
      rw [download_eq, bind_run, effect_run, loads]
      exact .inl ⟨rfl, _, rfl⟩
  | some update =>
      have asks := Manager.perform_fetch_asks settled accepting update world
      rw [download_recorded loads]
      generalize Manager.perform (.fetch update) manager world = ended at asks ⊢
      obtain ⟨⟨⟨ticket, result⟩, after⟩, later⟩ := ended
      obtain ⟨outcome, text, prints⟩ := reportDownload_prints (ticket, result) output after later
      dsimp only at asks ⊢
      rcases asks with ⟨nothing, error, rfl⟩ | once
      · obtain ⟨failure, failed⟩ := @reportDownload_error after later output ticket error
        exact .inl ⟨by rwa [prints], failure, failed⟩
      · exact .inr ⟨update, rfl, by rwa [prints]⟩

end CommandLine

end SelfUpdate
