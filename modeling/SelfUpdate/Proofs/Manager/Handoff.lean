import SelfUpdate.Proofs.Disk.Lengths
import SelfUpdate.Proofs.Manager.Installs
import SelfUpdate.Proofs.Manager.Requests
import SelfUpdate.Proofs.Worker

/-!
# What has been downloaded is installed

A download that succeeds names a file which the installer then gets, provided that nothing has changed
in the directory. The downloader takes the name from the version as a server gave it, and the manager
judges the name again: what ends like a staging file is never installed, however well it was verified.
-/

namespace SelfUpdate

namespace Disk

/-- Nothing has changed in a directory or on the way to it. -/
structure Untouched (directory : Path) (before after : Disk) : Prop where
  tree : after.IsTree
  linkFree : after.LinkFree
  workingDirectory : after.workingDirectory = before.workingDirectory
  leads : ∀ home, before.Leads directory home → after.Leads directory home
  same : ∀ home name, before.Leads directory home →
    after.get? (home ++ [name]) = before.get? (home ++ [name])

theorem Untouched.refl {directory : Path} {disk : Disk} (tree : disk.IsTree)
    (linkFree : disk.LinkFree) : disk.Untouched directory disk :=
  ⟨tree, linkFree, rfl, fun _ leads => leads, fun _ _ _ => rfl⟩

end Disk

namespace Downloader

variable {downloader : Downloader} {ticket : Nat} {update : Update} {artifact : Artifact}
  {world later : World}

/-- Nothing more is done when a transfer has succeeded. -/
theorem runJob_fetched_iff :
    (downloader.runJob Manager.noteOutput ticket (.fetch update) world).1 =
          some (.ok (.fetched artifact)) ∧
        (downloader.runJob Manager.noteOutput ticket (.fetch update) world).2 = later ↔
      Transfer.run downloader.config ticket update world = (.ok artifact, later) := by
  rw [runJob, Effect.outputOf]
  simp only [ExceptT.run, Stateful.bind_run, run, Failing.map_run]
  rcases Transfer.run downloader.config ticket update world with ⟨(error | crash) | found, after⟩
  all_goals
    constructor
    · rintro ⟨fetched, rfl⟩
      cases fetched <;> rfl
    · intro same
      cases same <;> exact ⟨rfl, rfl⟩

end Downloader

namespace Manager

variable {manager : Manager} {world later : World} {update : Update} {artifact : Artifact}

/-! ## Between calls -/

/-- A manager whose workers are in order and whose downloader keeps to the settings. -/
structure Orderly (manager : Manager) : Prop where
  checker : manager.checker.Orderly
  worker : manager.downloader.worker.Orderly
  config : manager.downloader.config = downloadConfig manager.settings manager.directory
  directory : manager.directory ≠ ""

/-- A manager between calls: its workers have nothing to do. -/
structure Settled (manager : Manager) : Prop extends manager.Orderly where
  checks : manager.checker.queue = []
  jobs : manager.downloader.worker.queue = []

theorem settle_run (manager : Manager) (world : World) :
    settle manager world =
      let checked := Worker.settle Checker.runJob manager.checker world
      let done := Worker.settle (manager.downloader.runJob noteOutput) manager.downloader.worker
        checked.2
      (((), { manager with
        checker := checked.1
        downloader := { manager.downloader with worker := done.1 } }), done.2) := (rfl)

theorem begin_orderly (call : Call) (quiet : world.Quiet) (orderly : manager.Orderly) :
    (call.begin manager world).1.2.Orderly := by
  obtain ⟨checker, worker, config, directory⟩ := orderly
  obtain ⟨handed, leaves, -⟩ := begin_leaves manager call quiet
  have begun := begin_begun call manager world
  generalize call.begin manager world = ran at begun leaves ⊢
  obtain ⟨⟨pending, after⟩, later⟩ := ran
  dsimp only at begun leaves ⊢
  have keeps : after.downloader.config = downloadConfig after.settings after.directory := by
    rw [leaves.config, leaves.settings, leaves.directory, config]
  have some_ : after.directory ≠ "" := by rwa [leaves.directory]
  generalize pending.check? = number at begun
  cases begun with
  | nothing same given => exact ⟨same ▸ checker, given ▸ worker, keeps, some_⟩
  | check submitted given => exact ⟨submitted ▸ checker.submit _, given ▸ worker, keeps, some_⟩
  | job same submitted => exact ⟨same ▸ checker, submitted ▸ worker.submit _, keeps, some_⟩
  | closed stopped closed =>
      exact ⟨stopped ▸ checker.shutDown, closed ▸ worker.shutDown, keeps, some_⟩

theorem begins_orderly (calls : List Call) (quiet : world.Quiet) (orderly : manager.Orderly) :
    (calls.mapM Call.begin manager world).1.2.Orderly := by
  refine (begins_induction (P := fun after later => later.Quiet ∧ after.Orderly) ?_ calls
    ⟨quiet, orderly⟩).2
  rintro after later call ⟨still, kept⟩
  obtain ⟨handed, leaves, -⟩ := begin_leaves after call still
  exact ⟨leaves.quiet still, begin_orderly call still kept⟩

theorem settle_settled (orderly : manager.Orderly) (world : World) :
    (settle manager world).1.2.Settled := by
  obtain ⟨checker, worker, config, directory⟩ := orderly
  rw [settle_run]
  refine ⟨⟨checker.settle world, worker.settle _, config, directory⟩, ?_, ?_⟩
  · exact Worker.queue_settle checker.running world
  · exact Worker.queue_settle worker.running _

/-- A manager has settled again when all the calls that were started together have their replies. -/
theorem together_settled (calls : List Call) (quiet : world.Quiet) (orderly : manager.Orderly) :
    (together calls manager world).1.2.Settled :=
  settle_settled (begins_orderly calls quiet orderly) _

/-- A manager that has just started has settled. -/
theorem start_settled {runtime : Bool} {current : UInt32} {settings : Settings} {directory : Path}
    {store : PolicyStore} (quiet : world.Quiet)
    (started : start runtime current settings directory store world = (.ok manager, later)) :
    manager.Settled := by
  obtain ⟨disk, made, -, rfl, -, rfl, config⟩ := start_ok quiet started
  obtain ⟨checker, worker⟩ := start_new started
  refine ⟨⟨checker ▸ .new _, worker ▸ .new _, config, Disk.ne_empty_of_makePrivateDirectory made⟩,
    ?_, ?_⟩
  · rw [checker]
    rfl
  · rw [worker]
    rfl

theorem perform_run (settled : manager.Settled) (job : DownloadJob) (world : World) :
    perform job manager world =
      let downloader := manager.downloader
      let done := Worker.settle (downloader.runJob noteOutput) (downloader.worker.submit job) world
      let after := { downloader with worker := done.1 }
      (((downloader.worker.next, (after.result downloader.worker.next).mapError .download),
        { manager with downloader := after }), done.2) := by
  have idle : Worker.settle Checker.runJob manager.checker world = (manager.checker, world) :=
    Worker.runSome_idle settled.checker.running settled.checks _
  rw [perform]
  simp only [beginJob, Session.bind_run, Session.get_run, Session.set_run, Session.pure_run,
    settle_run, idle]
  rfl

/-- A download succeeds exactly when its transfer does, which then is the last thing that is done. -/
theorem perform_fetched_iff (settled : manager.Settled) :
    (perform (.fetch update) manager world).1.1.2 = .ok (.fetched artifact) ∧
        (perform (.fetch update) manager world).2 = later ↔
      manager.downloader.worker.accepting = true ∧
        Transfer.run manager.downloader.config manager.downloader.worker.next update world =
          (.ok artifact, later) := by
  have resting := settled.worker.running
  have unchanged : Worker.settle (manager.downloader.runJob noteOutput) manager.downloader.worker
      world = (manager.downloader.worker, world) :=
    Worker.runSome_idle resting settled.jobs _
  rw [perform_run settled, ← Downloader.runJob_fetched_iff]
  cases accepting : manager.downloader.worker.accepting with
  | false =>
      have answered : (Worker.settle (manager.downloader.runJob noteOutput)
          (manager.downloader.worker.submit (.fetch update)) world).1.answer?
            manager.downloader.worker.next = some (.error (.shutDown _)) :=
        Worker.answer?_refused settled.worker accepting (.fetch update) []
      simp [Downloader.result, answered]
  | true =>
      have answered : (Worker.settle (manager.downloader.runJob noteOutput)
          (manager.downloader.worker.submit (.fetch update)) world).1.answer?
            manager.downloader.worker.next = some (Worker.answerOf _ _) :=
        Worker.answer?_accepted settled.worker accepting (.fetch update) []
      rw [unchanged] at answered
      have left : (Worker.settle (manager.downloader.runJob noteOutput)
          (manager.downloader.worker.submit (.fetch update)) world).2 =
          (manager.downloader.runJob noteOutput manager.downloader.worker.next (.fetch update)
            world).2 := by
        rw [Worker.settle_submit resting settled.jobs accepting]
      simp only [Downloader.result, answered, left, true_and]
      generalize manager.downloader.runJob noteOutput manager.downloader.worker.next (.fetch update)
        world = ran
      obtain ⟨answer, after⟩ := ran
      cases answer with
      | none => simp [Worker.answerOf]
      | some result =>
          cases result with
          | error error => simp [Worker.answerOf]
          | ok output => simp [Worker.answerOf]

/-- A download succeeds when what is delivered is accepted. -/
theorem perform_fetches {home : Location} {name : String} {content : Bytes}
    (settled : manager.Settled) (accepting : manager.downloader.worker.accepting = true)
    (quiet : world.Quiet)
    (own : Transfer.slotOf manager.downloader.config update =
      .ok (.named manager.downloader.config.directory name))
    (creatable : Disk.makeDirectories manager.downloader.config.directory world.disk =
      (.ok (), world.disk))
    (usable : Transfer.Usable manager.downloader.config.directory home name world.disk)
    (undisturbed : Transfer.Undisturbed (world.network.stream world.requests update.url))
    (accepted : Transfer.Accepted manager.downloader.config.limit.toNat update.checksum
      (world.network.stream world.requests update.url).reply content) :
    ∃ artifact, (perform (.fetch update) manager world).1.1.2 = .ok (.fetched artifact) := by
  have ends := Transfer.Ends.run manager.downloader.config manager.downloader.worker.next update quiet
  obtain ⟨-, ⟨_, -, outcome⟩ | ⟨bad, -⟩⟩ := ends.begun own creatable usable undisturbed
  · have fetched := (perform_fetched_iff settled).mpr ⟨accepting, Prod.ext outcome.1 rfl⟩
    exact ⟨_, fetched.1⟩
  · exact absurd accepted (bad content)

/-! ## After a download -/

variable {installing : Manager} {final : World}

/-- A file of a directory is still there when nothing has changed. -/
theorem houses_of_untouched {disk after : Disk} {directory : Path} {name : String}
    (linkFree : disk.LinkFree)
    (short : ∀ part ∈ disk.workingDirectory, Disk.isTooLong part = false)
    (nonempty : directory ≠ "") (named : Path.isName name = true)
    (file : disk.isFile (Path.join directory name) = true)
    (untouched : disk.Untouched directory after) :
    Disk.checkText (Path.join directory name) = .ok () ∧
      ∃ home, Houses after directory (Path.join directory name) home name := by
  obtain ⟨identity, mode, bytes, read⟩ := Disk.isFile_iff.mp file
  cases located : disk.locate (Path.join directory name) with
  | error error => simp [Disk.node?, located, Except.toOption] at read
  | ok location =>
      obtain ⟨home, leads⟩ := Disk.Leads.of_locate_join named located
      obtain ⟨rfl, -⟩ := Disk.locate_join_eq_ok named leads (linkFree _) located
      have text := (Disk.locate_eq_ok_iff.mp located).1
      have brief := Disk.isShort_of_locate short located name (by simp)
      have found : after.get? (home ++ [name]) = some (.file identity mode bytes) := by
        rw [untouched.same home name leads]
        simpa [Disk.node?, located, Except.toOption] using read
      have still := untouched.leads home leads
      exact ⟨text, home, houses_join untouched.linkFree still nonempty named text brief found⟩

/-- The name under which a manager commits an update. -/
def committedName (manager : Manager) (update : Update) : String :=
  safeName (manager.settings.artifactPrefix ++ "-" ++ update.version)

/-- What a download that succeeds has left. -/
theorem fetched_file (settled : manager.Settled) (quiet : world.Quiet) (tree : world.disk.IsTree)
    (linkFree : world.disk.LinkFree)
    (harmless : Transfer.HarmlessAnswer (world.network.stream world.requests update.url))
    (fetched : (perform (.fetch update) manager world).1.1.2 = .ok (.fetched artifact))
    (left : (perform (.fetch update) manager world).2 = later) :
    Path.isName (manager.committedName update) = true ∧
      artifact.path = Path.join manager.directory (manager.committedName update) ∧
      later.disk.isFile artifact.path = true ∧ later.disk.IsTree ∧ later.disk.LinkFree ∧
      later.disk.workingDirectory = world.disk.workingDirectory := by
  obtain ⟨-, ran⟩ := (perform_fetched_iff settled).mp ⟨fetched, left⟩
  have course := Transfer.course_run manager.downloader.config manager.downloader.worker.next update
    quiet
  rw [ran] at course
  have sound := course.sound quiet harmless ⟨tree, linkFree, rfl, nofun, nofun, trivial⟩
  obtain ⟨slot, own, delivered⟩ := sound.verdict
  rw [Transfer.slotOf, settled.config] at own
  simp only [downloadConfig] at own
  rw [committedName]
  obtain ⟨named, same⟩ := Slot.eq_named_of_ofVersion own
  have path := delivered.path
  rw [same, Slot.committed_named] at path
  refine ⟨named, path, ?_, sound.tree, sound.linkFree, sound.base⟩
  rw [delivered.path]
  exact delivered.file

/-- A download that succeeds leaves a file that can be installed, whatever version the server gave, unless
its name ends like that of a staging file or its canonical path is too long, which for an absolute path
it never is. As long as nothing has changed in the directory, the path of the artifact leads to the
installer exactly then, and the answer is that of the installer. -/
theorem fetched_handed_over (settled : manager.Settled) (quiet : world.Quiet)
    (tree : world.disk.IsTree) (linkFree : world.disk.LinkFree)
    (base : Disk.OfNames world.disk.workingDirectory)
    (short : ∀ part ∈ world.disk.workingDirectory, Disk.isTooLong part = false)
    (harmless : Transfer.HarmlessAnswer (world.network.stream world.requests update.url))
    (fetched : (perform (.fetch update) manager world).1.1.2 = .ok (.fetched artifact))
    (untouched : (perform (.fetch update) manager world).2.disk.Untouched manager.directory
      final.disk)
    (same : installing.directory = manager.directory) :
    ∃ file, final.disk.canonical artifact.path = .ok file ∧
      (Path.isAbsolute manager.directory = true → Disk.checkText file = .ok ()) ∧
      let installable := Disk.checkText file = .ok () ∧
        ¬ stagingSuffix.toList <:+ (manager.committedName update).toList
      let request : InstallRequest := ⟨file, installing.settings.mediaType⟩
      let asked := requestInstall artifact.path installing final
      (installable → asked.2.handedOver = final.handedOver ++ [request] ∧
        (asked.1.1 = true ↔ final.installer.refusal? request = none)) ∧
      (¬ installable → asked.2.handedOver = final.handedOver ∧ asked.1.1 = false) := by
  generalize left : (perform (.fetch update) manager world).2 = later at untouched
  obtain ⟨named, path, file, -, free, still⟩ :=
    fetched_file settled quiet tree linkFree harmless fetched left
  have unmoved : final.disk.workingDirectory = world.disk.workingDirectory :=
    untouched.workingDirectory.trans still
  rw [path] at file ⊢
  rw [← unmoved] at base
  obtain ⟨text, home, houses⟩ := houses_of_untouched free (by rwa [still]) settled.directory named
    file untouched
  rw [← unmoved] at short
  have brief := Disk.isShort_of_locate short houses.entry
  rw [← same] at houses text ⊢
  obtain ⟨handed, dispatched, only, accepted⟩ :=
    requestInstall_run (Path.join installing.directory (manager.committedName update)) installing final
  simp only [houses.chooses_iff untouched.tree untouched.linkFree base brief] at only
  refine ⟨Disk.pathOf (home ++ [manager.committedName update]), ?_, ?_, ?_, ?_⟩
  · rw [Disk.canonical, houses.entry]
    rfl
  · intro absolute
    rw [Disk.locate_eq_destination untouched.linkFree houses.entry]
    exact Disk.checkText_pathOf_destination _ ((Path.isAbsolute_join _ named).trans absolute) text
  · rintro ⟨readable, committed⟩
    have passed := (only ⟨Disk.pathOf (home ++ [manager.committedName update]),
      installing.settings.mediaType⟩).mpr ⟨⟨rfl, readable, committed⟩, rfl⟩
    rw [passed] at dispatched accepted
    refine ⟨dispatched.handedOver, accepted.trans ?_⟩
    simp
  · intro refused
    have nothing : handed = none := by
      rw [Option.eq_none_iff_forall_ne_some]
      intro request passed
      obtain ⟨⟨path, readable, committed⟩, -⟩ := (only request).mp passed
      exact refused ⟨path ▸ readable, committed⟩
    rw [nothing] at dispatched accepted
    exact ⟨dispatched.handedOver.trans (List.append_nil _), by simpa using accepted⟩

/-! ## One version that is installed and one that never is -/

theorem usual_settled : usual.Settled := by
  have quiet : (Transfer.worldOf privateDisk Transfer.oneChunk).Quiet := rfl
  exact start_settled quiet (start_usual _)

theorem fetched_handed_over_plain : ∃ later,
    let update := Transfer.singleOctet "1" (by decide)
    let artifact : Artifact := ⟨"updates/upgate-update-1", "1", Sha256.hexDigest [7], 1⟩
    let request : InstallRequest := ⟨"/updates/upgate-update-1", usual.settings.mediaType⟩
    let world := Transfer.worldOf privateDisk Transfer.oneChunk
    (perform (.fetch update) usual world).1.1.2 = .ok (.fetched artifact) ∧
      (perform (.fetch update) usual world).2 = later ∧
      (requestInstall artifact.path usual later).2.handedOver = later.handedOver ++ [request] ∧
      ((requestInstall artifact.path usual later).1.1 = true ↔
        later.installer.refusal? request = none) := by
  obtain ⟨later, ran, -⟩ := run_usual (by decide) slotOf_plain usable_plain
  have path : Path.join "updates" "upgate-update-1" = "updates/upgate-update-1" := by decide
  rw [path] at ran
  obtain ⟨fetched, left⟩ := (perform_fetched_iff usual_settled).mpr ⟨rfl, ran⟩
  have quiet : (Transfer.worldOf privateDisk Transfer.oneChunk).Quiet := rfl
  have base : Disk.OfNames privateDisk.workingDirectory := .root
  have root : ∀ part ∈ privateDisk.workingDirectory, Disk.isTooLong part = false :=
    fun _ listed => absurd listed List.not_mem_nil
  have harmless := Transfer.oneChunk_undisturbed.alone.harmless
  obtain ⟨-, -, -, still, free, unmoved⟩ :=
    fetched_file usual_settled quiet privateDisk_isTree privateDisk_linkFree harmless fetched left
  have untouched : (perform (.fetch (Transfer.singleOctet "1" (by decide))) usual
      (Transfer.worldOf privateDisk Transfer.oneChunk)).2.disk.Untouched "updates" later.disk := by
    rw [left]
    exact .refl still free
  have own : usual.directory = usual.directory := rfl
  obtain ⟨file, canonical, -, passes, -⟩ := fetched_handed_over usual_settled quiet
    privateDisk_isTree privateDisk_linkFree base root harmless fetched untouched own
  have same : file = "/updates/upgate-update-1" := by
    obtain ⟨location, located, found⟩ := bind_eq_ok_iff.mp canonical
    rw [Disk.locate_eq_destination free located, unmoved] at found
    cases found
    decide
  subst same
  obtain ⟨dispatched, accepted⟩ := passes ⟨by decide, by decide⟩
  exact ⟨later, fetched, left, dispatched, accepted⟩

/-- An update whose version ends like the name of a staging file is verified and committed, and then
never installed. -/
theorem fetched_refused : ∃ later,
    let update := Transfer.singleOctet "1.tmp" (by decide)
    let artifact : Artifact := ⟨"updates/upgate-update-1.tmp", "1.tmp", Sha256.hexDigest [7], 1⟩
    let world := Transfer.worldOf privateDisk Transfer.oneChunk
    (perform (.fetch update) usual world).1.1.2 = .ok (.fetched artifact) ∧
      (perform (.fetch update) usual world).2 = later ∧
      (requestInstall artifact.path usual later).2.handedOver = later.handedOver ∧
      (requestInstall artifact.path usual later).1.1 = false := by
  have own : Transfer.slotOf usual.downloader.config (Transfer.singleOctet "1.tmp" (by decide)) =
      .ok (.named "updates" "upgate-update-1.tmp") := by
    decide
  have usable : Transfer.Usable "updates" ["updates"] "upgate-update-1.tmp" privateDisk :=
    ⟨by decide, by decide, by decide, .of_entries (by decide) (by decide),
      .of_name (by decide) (by decide) rfl (by decide), by decide, by decide, by decide⟩
  obtain ⟨later, ran, -⟩ := run_usual (by decide) own usable
  have path : Path.join "updates" "upgate-update-1.tmp" = "updates/upgate-update-1.tmp" := by decide
  rw [path] at ran
  obtain ⟨fetched, left⟩ := (perform_fetched_iff usual_settled).mpr ⟨rfl, ran⟩
  have last : Path.fileName? "updates/upgate-update-1.tmp" = some "upgate-update-1.tmp" := by decide
  have staging : isStagingName "updates/upgate-update-1.tmp" = true :=
    (isStagingName_iff last).mpr (by decide)
  obtain ⟨handed, dispatched, only, accepted⟩ :=
    requestInstall_run "updates/upgate-update-1.tmp" usual later
  have nothing : handed = none := by
    rw [Option.eq_none_iff_forall_ne_some]
    intro request passed
    cases staging.symm.trans ((only request).mp passed).1.committed
  rw [nothing] at dispatched accepted
  exact ⟨later, fetched, left, dispatched.handedOver.trans (List.append_nil _), by simpa using accepted⟩

end Manager

end SelfUpdate
