import SelfUpdate.Proofs.Check.Determinacy
import SelfUpdate.Proofs.Disk.Exchanges
import SelfUpdate.Proofs.Download.Abreast
import SelfUpdate.Proofs.Manager.Gate
import SelfUpdate.Proofs.Manager.Ledgers

/-!
# Managers that differ in a dismissal

Two managers may differ in the dismissal, in memory and in what is at the place of the policy file. What
is asked of both comes to the same, and a dismissal that is asked of one of them only leaves them as much
alike as they were.
-/

namespace SelfUpdate

variable {config : DownloadConfig} {home : Location} {hidden : Option Location}

/-! ## Checks -/

namespace Checker

variable {one other : World}

/-- A check has the same result in worlds abreast, and leaves them so. -/
theorem runJob_abreast (worlds : Abreast config home hidden one other) (ticket : Nat)
    (job : CheckJob) :
    (runJob ticket job other).1 = (runJob ticket job one).1 ∧
      Abreast config home hidden (runJob ticket job one).2 (runJob ticket job other).2 := by
  obtain ⟨asked, offer, queried, offers, output⟩ := Check.runJob_offers ticket job one
  obtain ⟨askedToo, offerToo, queriedToo, offersToo, outputToo⟩ :=
    Check.runJob_offers ticket job other
  have same := worlds.queried
  have moved := runJob_unmoved worlds.quiet worlds.alone ticket job
  have movedToo := runJob_unmoved worlds.quietToo worlds.symm.alone ticket job
  rw [same.network, same.requests, List.append_nil, same.now] at offersToo
  obtain ⟨rfl, agree⟩ := offers.agree (.refl _ _) (.refl id one.now) offersToo
  rw [Except.map_id, id_eq, id_eq] at agree
  refine ⟨by rw [output, outputToo, agree], ?_⟩
  refine worlds.after queried queriedToo (moved.quiet worlds.quiet)
    (movedToo.quiet worlds.quietToo) ?_
  rw [moved.disk, movedToo.disk]
  exact worlds.likeness

theorem runSome_abreast (worlds : Abreast config home hidden one other) (count : Nat)
    (checker : Checker) :
    (Worker.runSome runJob count checker other).1 = (Worker.runSome runJob count checker one).1 ∧
      Abreast config home hidden (Worker.runSome runJob count checker one).2
        (Worker.runSome runJob count checker other).2 := by
  induction count generalizing checker one other with
  | zero => exact ⟨rfl, worlds⟩
  | succ count ih =>
      rw [Worker.runSome]
      cases (Worker.poll checker).running with
      | none => exact ⟨rfl, worlds⟩
      | some taken =>
          obtain ⟨ticket, job⟩ := taken
          obtain ⟨same, after⟩ := runJob_abreast worlds ticket job
          simp only [Stateful.bind_run, same]
          cases (runJob ticket job one).1 with
          | none => exact ih after _
          | some output => exact ih after _

end Checker

namespace Downloader

/-! ## Downloaders while something else is done -/

theorem Tends.leavesFiles {task : Task} {before after : Disk}
    (leaves : Disk.LeavesFiles home hidden before after) (tends : Tends config home before task) :
    Tends config home after task := by
  cases task with
  | fetching ticket update stage =>
      refine ⟨tends.slot, tends.alone, ?_⟩
      have staged := tends.staged
      cases stage with
      | streaming slot total status events =>
          obtain ⟨name, named, same, sole⟩ := staged
          exact ⟨name, named, same, leaves.sole _ _ sole⟩
      | received slot size | verified slot size =>
          obtain ⟨name, named, same, free⟩ := staged
          refine ⟨name, named, same, ?_⟩
          rwa [Disk.IsOffWay, Disk.isDirectoryAt, leaves.entries]
      | _ => trivial
  | _ => exact tends

end Downloader

namespace Manager

variable {manager twin : Manager} {world later : World} {call : Call} {path : Path}
  {path? : Option Path} {disk : Disk}

/-! ## What calls do, whatever was dismissed -/

/-- A manager without its dismissal, wherever it keeps its policy. -/
def undismissed (manager : Manager) : Manager :=
  { manager with
    policy := { manager.policy with dismissed := none }
    store := .memory .default }

/-- What a call makes of a manager, apart from its dismissal. -/
def Call.advance (manager : Manager) (clock : Int64) (call : Call) : Manager :=
  { manager with
    policy := ((call.edit? manager clock).map fun (edit : Edit) => edit.apply manager.policy).getD
      manager.policy
    checker := ((call.toChecker? manager clock).map manager.checker.issue).getD manager.checker
    downloader := { manager.downloader with
      worker := (call.toDownloader?.map manager.downloader.worker.issue).getD
        manager.downloader.worker } }.undismissed

theorem edit?_undismissed (call : Call) (manager : Manager) (clock : Int64) :
    call.edit? manager.undismissed clock = call.edit? manager clock := by
  cases call <;> rfl

/-- No call looks at the dismissal. -/
theorem begin_undismissed (call : Call) (manager : Manager) (world : World) :
    (call.begin manager world).1.2.undismissed = call.advance manager.undismissed world.clock := by
  obtain ⟨policy, store, after⟩ := begin_eq call manager world
  have changed := begin_policy call manager world
  have asks : call.toChecker? manager.undismissed world.clock =
      call.toChecker? manager world.clock := by
    cases call <;> rfl
  rw [after] at changed ⊢
  dsimp only at changed
  rw [Call.advance, edit?_undismissed, asks, changed]
  cases call.edit? manager world.clock with
  | none => rfl
  | some edit => cases edit <;> rfl

/-- Saving leaves the files of a directory beside the policy file alone. -/
theorem saved_leaves (keeps : Disk.Keeps home world.disk manager.store.path? hidden)
    (veiled : Disk.Veiled hidden world.disk)
    (outside : ∀ place, hidden = some place → ¬ home <+: place) (edit : Edit) :
    Disk.LeavesFiles home hidden world.disk (manager.saved world edit).disk ∧
      (manager.saved world edit).disk.veil hidden = world.disk.veil hidden := by
  rw [saved]
  cases store : manager.store with
  | memory held => exact ⟨veiled.leavesFiles home (Nat.le_refl _) _, rfl⟩
  | file path =>
      rw [store] at keeps
      exact Disk.Keeps.replaceFile keeps veiled outside _

theorem begin_leavesFiles (quiet : world.Quiet)
    (keeps : Disk.Keeps home world.disk manager.store.path? hidden)
    (veiled : Disk.Veiled hidden world.disk)
    (outside : ∀ place, hidden = some place → ¬ home <+: place) (call : Call) :
    Disk.LeavesFiles home hidden world.disk (call.begin manager world).2.disk ∧
      (call.begin manager world).2.disk.veil hidden = world.disk.veil hidden := by
  rw [begin_disk quiet]
  cases call.edit? manager world.clock with
  | none => exact ⟨veiled.leavesFiles home (Nat.le_refl _) _, rfl⟩
  | some edit => exact saved_leaves keeps veiled outside edit

/-- Only a call that installs hands something over. Apart from that a call leaves everything in the
world but the disk and the log. -/
theorem begin_queried (call : Call) (manager : Manager) (world : World)
    (holds : ∀ artifact, call ≠ .install artifact) :
    world.Queried [] (call.begin manager world).2 :=
  (silent_bounded.begin call (fun artifact installs => absurd installs (holds artifact))
    manager world trivial trivial).1.rel

/-! ## Installs -/

/-- What may be installed on a disk may be installed on one that looks alike. -/
theorem Chooses.alike {one other : Disk} {artifact file : Path}
    (likeness : Transfer.Likeness config home hidden one other)
    (base : Disk.OfNames one.workingDirectory)
    (chooses : Chooses config.directory one artifact file) :
    Chooses config.directory other artifact file := by
  have left := likeness.left
  have right := likeness.right
  have still : other.workingDirectory = one.workingDirectory :=
    (congrArg Disk.workingDirectory likeness.same).symm
  obtain ⟨committed, isFile, above, name, houses, rfl⟩ := (chooses_iff left.tree base).mp chooses
  obtain rfl : home = above :=
    Except.ok.inj ((Disk.locate_directory left.leads left.text).symm.trans houses.directory)
  have aside := left.aside name
  -- neither the artifact nor its canonical path leads to the hidden place
  have leads {path : Path} (located : one.locate path = .ok (home ++ [name])) :
      other.locate path = .ok (home ++ [name]) :=
    right.locate_of_veil (likeness.same ▸ left.locate located) aside
  obtain ⟨identity, mode, bytes, found⟩ := houses.file
  have seen := left.get?_entry name
  rw [likeness.same, right.get?_entry, found] at seen
  obtain ⟨node, there, face⟩ := Option.map_eq_some_iff.mp seen
  obtain ⟨own, rfl⟩ : ∃ own, node = .file own mode bytes := by
    cases node <;> simp_all [Node.face]
  obtain ⟨_, _, _, read⟩ := Disk.isFile_iff.mp isFile
  have canonical : one.locate (Disk.pathOf (home ++ [name])) = .ok (home ++ [name]) := by
    cases located : one.locate (Disk.pathOf (home ++ [name])) with
    | error error => simp [Disk.node?, located, Except.toOption] at read
    | ok other =>
        rw [Disk.eq_of_locate_pathOf left.tree (Disk.ofNames_of_locate base houses.entry)
          (Disk.isSolid_of_locate left.tree houses.entry) located]
  refine (chooses_iff right.tree (still ▸ base)).mpr ⟨committed, ?_, home, name,
    ⟨Disk.locate_directory right.leads right.text, leads houses.entry, own, mode, bytes, there⟩, rfl⟩
  rw [Disk.isFile, Disk.node?, leads canonical]
  simp [Except.toOption, there, Node.isFile]

/-! ## What passes the downloader by -/

/-- What was done has left the downloader and its files to themselves. -/
structure Bypasses (home : Location) (hidden : Option Location) (before after : Scene) : Prop where
  files : Disk.LeavesFiles home hidden before.world.disk after.world.disk
  sink : after.world.sink = before.world.sink
  network : after.world.network = before.world.network
  directory : after.manager.directory = before.manager.directory
  place : after.manager.store.path? = before.manager.store.path?
  config : after.manager.downloader.config = before.manager.downloader.config
  arrange : after.manager.downloader.arrange = before.manager.downloader.arrange
  task : after.task = before.task
  ledger : after.ledger = before.ledger

namespace Bypasses

variable {scene after : Scene}

theorem of_disk (files : Disk.LeavesFiles home hidden scene.world.disk scene.world.disk) :
    Bypasses home hidden scene scene :=
  ⟨files, rfl, rfl, rfl, rfl, rfl, rfl, rfl, rfl⟩

theorem begin (quiet : scene.world.Quiet)
    (keeps : Disk.Keeps home scene.world.disk scene.manager.store.path? hidden)
    (veiled : Disk.Veiled hidden scene.world.disk)
    (outside : ∀ place, hidden = some place → ¬ home <+: place) (call : Call) :
    Bypasses home hidden scene (scene.begin call) := by
  obtain ⟨handed, leaves, -⟩ := begin_leaves scene.manager call quiet
  exact ⟨(begin_leavesFiles quiet keeps veiled outside call).1, leaves.sink, leaves.network,
    leaves.directory, leaves.store, leaves.config, leaves.arrange, rfl, rfl⟩

theorem quiet (bypasses : Bypasses home hidden scene after) (quiet : scene.world.Quiet) :
    after.world.Quiet := by
  rw [World.Quiet, bypasses.sink]
  exact quiet

theorem tends (bypasses : Bypasses home hidden scene after)
    (tends : Downloader.Tends config home scene.world.disk scene.task) :
    Downloader.Tends config home after.world.disk after.task := by
  rw [bypasses.task]
  exact tends.leavesFiles bypasses.files

/-- A check does not touch the disk. -/
theorem check (quiet : scene.world.Quiet) (alone : scene.world.network.Alone)
    (veiled : Disk.Veiled hidden scene.world.disk) : Bypasses home hidden scene scene.check := by
  have moved := Checker.runSome_unmoved quiet alone 1 scene.manager.checker
  refine ⟨?_, moved.sink, moved.network, rfl, rfl, rfl, rfl, rfl, rfl⟩
  rw [Scene.check, moved.disk]
  exact veiled.leavesFiles home (Nat.le_refl _) _

end Bypasses

/-! ## Counterparts -/

/-- Managers that may differ in the dismissal and in what is at the place of the policy file, and else
are at the same. -/
structure Counterparts (config : DownloadConfig) (home : Location) (hidden : Option Location)
    (one other : Scene) : Prop where
  side : Downloader.Side config home hidden one.downloads other.downloads
  undismissed : other.manager.undismissed = one.manager.undismissed
  place : other.manager.store.path? = one.manager.store.path?
  directory : one.manager.directory = config.directory
  base : Disk.OfNames one.world.disk.workingDirectory
  keeps : Disk.Keeps home one.world.disk one.manager.store.path? hidden
  keepsToo : Disk.Keeps home other.world.disk other.manager.store.path? hidden

namespace Counterparts

variable {one other : Scene}

/-- Managers at rest that differ in the dismissal, on disks that differ in the policy file. -/
theorem of_resting (manager twin : Manager) (world : World) (ledger : List (Update × Artifact))
    (undismissed : twin.undismissed = manager.undismissed)
    (place : twin.store.path? = manager.store.path?)
    (directory : manager.downloader.config.directory = manager.directory)
    (arrange : ∀ paths, manager.downloader.arrange paths ⊆ paths) (quiet : world.Quiet)
    (alone : world.network.Alone) (base : Disk.OfNames world.disk.workingDirectory)
    (likeness : Transfer.Likeness manager.downloader.config home hidden world.disk disk)
    (keeps : Disk.Keeps home world.disk manager.store.path? hidden)
    (keepsToo : Disk.Keeps home disk manager.store.path? hidden) :
    Counterparts manager.downloader.config home hidden ⟨manager, .resting, world, ledger⟩
      ⟨twin, .resting, world.setDisk disk, ledger⟩ where
  side := {
    downloader := congrArg (fun manager => manager.downloader) undismissed
    keeps := rfl
    arrange := arrange
    task := rfl
    ledger := rfl
    worlds := ⟨quiet, quiet, alone, ⟨(List.append_nil _).symm, rfl, rfl, rfl, rfl, rfl⟩, likeness⟩
    tends := trivial
    tendsToo := trivial }
  undismissed := undismissed
  place := place
  directory := directory.symm
  base := base
  keeps := keeps
  keepsToo := place ▸ keepsToo

theorem worlds (counterparts : Counterparts config home hidden one other) :
    Abreast config home hidden one.world other.world :=
  counterparts.side.worlds

theorem workingDirectory (counterparts : Counterparts config home hidden one other) :
    other.world.disk.workingDirectory = one.world.disk.workingDirectory :=
  (congrArg Disk.workingDirectory counterparts.worlds.likeness.same).symm

theorem symm (counterparts : Counterparts config home hidden one other) :
    Counterparts config home hidden other one where
  side := counterparts.side.symm
  undismissed := counterparts.undismissed.symm
  place := counterparts.place.symm
  directory := (congrArg Manager.directory counterparts.undismissed).trans counterparts.directory
  base := by
    rw [counterparts.workingDirectory]
    exact counterparts.base
  keeps := counterparts.keepsToo
  keepsToo := counterparts.keeps

theorem chooses_iff (counterparts : Counterparts config home hidden one other)
    (artifact file : Path) :
    Chooses other.manager.directory other.world.disk artifact file ↔
      Chooses one.manager.directory one.world.disk artifact file := by
  have likeness := counterparts.worlds.likeness
  rw [counterparts.directory, counterparts.symm.directory]
  exact ⟨Chooses.alike likeness.symm counterparts.symm.base,
    Chooses.alike likeness counterparts.base⟩

/-- Whether a change can be saved is the same for both. -/
theorem changeReply_same (counterparts : Counterparts config home hidden one other)
    {eve eveToo : World} (disk : eve.disk = one.world.disk) (diskToo : eveToo.disk = other.world.disk)
    (edit : Edit) :
    (changeReply edit.apply other.manager eveToo).1.1 =
      (changeReply edit.apply one.manager eve).1.1 := by
  have likeness := counterparts.worlds.likeness
  have keeps := counterparts.keeps
  have keepsToo := counterparts.keepsToo
  have place := counterparts.place
  change Except.mapError _ (other.manager.store.save _ eveToo).1.1 =
    Except.mapError _ (one.manager.store.save _ eve).1.1
  cases store : one.manager.store with
  | memory held =>
      cases storeToo : other.manager.store with
      | memory heldToo => rfl
      | file path =>
          rw [store, storeToo] at place
          cases place
  | file path =>
      cases storeToo : other.manager.store with
      | memory held =>
          rw [store, storeToo] at place
          cases place
      | file pathToo =>
          rw [store, storeToo] at place
          cases place
          rw [store] at keeps
          rw [storeToo] at keepsToo
          rw [(PolicyStore.save_file _ _ _).1, (PolicyStore.save_file _ _ _).1, disk, diskToo,
            Disk.Keeps.replaceFile_same keeps keepsToo likeness.left.toVeiled
              likeness.right.toVeiled likeness.same]

/-- Installing hands over the same, and has the same answer. -/
theorem requestInstall_same (counterparts : Counterparts config home hidden one other)
    (artifact : Path) :
    (requestInstall artifact other.manager other.world).1.1 =
        (requestInstall artifact one.manager one.world).1.1 ∧
      (requestInstall artifact one.manager one.world).2.Queried []
        (requestInstall artifact other.manager other.world).2 := by
  have same := counterparts.worlds.queried
  have mediaType : other.manager.settings = one.manager.settings :=
    congrArg (fun manager => manager.settings) counterparts.undismissed
  obtain ⟨handed, given, only, accepted⟩ := requestInstall_run artifact one.manager one.world
  obtain ⟨handedToo, givenToo, onlyToo, acceptedToo⟩ :=
    requestInstall_run artifact other.manager other.world
  obtain rfl : handedToo = handed := by
    refine Option.ext fun request => ?_
    rw [only, onlyToo, counterparts.chooses_iff, mediaType]
  rw [same.installer, ← accepted] at acceptedToo
  refine ⟨Bool.eq_iff_iff.mpr acceptedToo, ?_⟩
  have handing : (handing one.world handedToo).Queried [] (handing other.world handedToo) :=
    ⟨same.requests, same.network, same.now, same.clock, same.installer,
      congrArg (· ++ handedToo.toList) same.handedOver⟩
  exact handing.abreast given givenToo

theorem edit?_same (counterparts : Counterparts config home hidden one other) (call : Call) :
    call.edit? other.manager other.world.clock = call.edit? one.manager one.world.clock := by
  rw [← edit?_undismissed, counterparts.undismissed, counterparts.worlds.queried.clock,
    edit?_undismissed]

/-- The same change of the policy is answered alike. -/
theorem changes_same (counterparts : Counterparts config home hidden one other) {call : Call}
    {edit : Edit} (own : call.edit? one.manager one.world.clock = some edit)
    (noCheck : ∀ clock, edit ≠ .attempted clock) :
    (call.begin other.manager other.world).1.1 = (call.begin one.manager one.world).1.1 := by
  have ownToo := (counterparts.edit?_same call).trans own
  cases call.goes one.manager one.world with
  | checks found => exact absurd (Option.some.inj (own.symm.trans found)) (noCheck _)
  | idles found => cases own.symm.trans found
  | changes found reply =>
      cases own.symm.trans found
      cases call.goes other.manager other.world with
      | checks found => exact absurd (Option.some.inj (ownToo.symm.trans found)) (noCheck _)
      | idles found => cases ownToo.symm.trans found
      | changes found replyToo =>
          cases ownToo.symm.trans found
          rw [reply, replyToo, counterparts.changeReply_same
            (eve_disk counterparts.worlds.quiet call) (eve_disk counterparts.worlds.quietToo call)]

/-- The same call is answered alike at once. -/
theorem begin_same (counterparts : Counterparts config home hidden one other) (call : Call) :
    (call.begin other.manager other.world).1.1 = (call.begin one.manager one.world).1.1 := by
  have undismissed := counterparts.undismissed
  have checks : (beginCheck other.manager other.world).1.1 =
      (beginCheck one.manager one.world).1.1 := by
    rw [(beginCheck_run _ _).1, (beginCheck_run _ _).1]
    exact congrArg (fun manager => manager.checker.next) undismissed
  have jobs : other.manager.downloader.worker.next = one.manager.downloader.worker.next :=
    congrArg (fun manager => manager.downloader.worker.next) undismissed
  have itself : other.manager.ChecksItself other.world.clock ↔
      one.manager.ChecksItself one.world.clock := by
    rw [counterparts.worlds.queried.clock]
    exact iff_of_eq (congrArg (fun manager => manager.ChecksItself one.world.clock) undismissed)
  cases call with
  | check => exact congrArg Pending.check checks
  | checkIfDue =>
      by_cases due : one.manager.ChecksItself one.world.clock
      · rw [begin_attempts due, begin_attempts (itself.mpr due)]
        exact congrArg Pending.dueCheck checks
      · obtain ⟨text, skips⟩ := begin_skips due
        obtain ⟨textToo, skipsToo⟩ := begin_skips (mt itself.mp due)
        rw [skips, skipsToo]
  | download | cleanUp => exact congrArg Pending.job jobs
  | dismiss | clearDismissal | enableAutoCheck | chooseUrl =>
      exact counterparts.changes_same rfl nofun
  | install artifact =>
      exact congrArg (fun accepted => Pending.nothing (.dispatched accepted))
        (counterparts.requestInstall_same artifact).1
  | shutDown => rfl

/-- Two managers stay counterparts while something passes both of their downloaders by. -/
theorem after (counterparts : Counterparts config home hidden one other) {oneAfter otherAfter : Scene}
    (first : Bypasses home hidden one oneAfter) (second : Bypasses home hidden other otherAfter)
    (queried : oneAfter.world.Queried [] otherAfter.world)
    (same : oneAfter.world.disk.veil hidden = otherAfter.world.disk.veil hidden)
    (undismissed : otherAfter.manager.undismissed = oneAfter.manager.undismissed) :
    Counterparts config home hidden oneAfter otherAfter := by
  have side := counterparts.side
  have likeness := counterparts.worlds.likeness
  have worlds : Abreast config home hidden oneAfter.world otherAfter.world := {
    quiet := first.quiet counterparts.worlds.quiet
    quietToo := second.quiet counterparts.worlds.quietToo
    alone := first.network ▸ counterparts.worlds.alone
    queried := queried
    likeness := ⟨first.files.beside likeness.left, second.files.beside likeness.right, same⟩ }
  refine ⟨?_, undismissed, ?_, first.directory.trans counterparts.directory, ?_, ?_, ?_⟩
  · exact {
      downloader := congrArg (fun manager => manager.downloader) undismissed
      keeps := first.config.trans side.keeps
      arrange := first.arrange ▸ side.arrange
      task := by
        rw [Scene.downloads, Scene.downloads, first.task, second.task]
        exact side.task
      ledger := second.ledger.trans (side.ledger.trans first.ledger.symm)
      worlds := worlds
      tends := first.tends side.tends
      tendsToo := second.tends side.tendsToo }
  · rw [first.place, second.place, counterparts.place]
  · rw [first.files.workingDirectory]
    exact counterparts.base
  · rw [first.place]
    exact counterparts.keeps.mono likeness.left.toVeiled first.files.toOnlyFiles
  · rw [second.place]
    exact counterparts.keepsToo.mono likeness.right.toVeiled second.files.toOnlyFiles

theorem begin_bypasses (counterparts : Counterparts config home hidden one other) (call : Call) :
    Bypasses home hidden one (one.begin call) :=
  have beside := counterparts.worlds.likeness.left
  .begin counterparts.worlds.quiet counterparts.keeps beside.toVeiled beside.outside call

theorem begin_veil (counterparts : Counterparts config home hidden one other) (call : Call) :
    (one.begin call).world.disk.veil hidden = one.world.disk.veil hidden :=
  have beside := counterparts.worlds.likeness.left
  (Manager.begin_leavesFiles counterparts.worlds.quiet counterparts.keeps beside.toVeiled
    beside.outside call).2

/-- The same call leaves both alike. -/
theorem begin (counterparts : Counterparts config home hidden one other) (call : Call) :
    Counterparts config home hidden (one.begin call) (other.begin call) := by
  have same := counterparts.worlds.queried
  refine counterparts.after (counterparts.begin_bypasses call)
    (counterparts.symm.begin_bypasses call) ?_ ?_ ?_
  · cases call with
    | install artifact => exact (counterparts.requestInstall_same artifact).2
    | _ => exact same.abreast (begin_queried _ _ _ nofun) (begin_queried _ _ _ nofun)
  · rw [counterparts.begin_veil, counterparts.symm.begin_veil, counterparts.worlds.likeness.same]
  · change (call.begin other.manager other.world).1.2.undismissed =
      (call.begin one.manager one.world).1.2.undismissed
    rw [begin_undismissed, begin_undismissed, counterparts.undismissed, same.clock]

end Counterparts

/-- A call that changes nothing but the dismissal. -/
def Call.isDismissal : Call → Bool
  | dismiss _ | clearDismissal => true
  | _ => false

namespace Counterparts

variable {one other next nextToo : Scene}

/-- A dismissal that is asked of one of them leaves them counterparts. -/
theorem dismissal (counterparts : Counterparts config home hidden one other)
    (dismissal : call.isDismissal = true) :
    Counterparts config home hidden (one.begin call) other := by
  have beside := counterparts.worlds.likeness.right
  have passed : Bypasses home hidden other other :=
    .of_disk (beside.toVeiled.leavesFiles home (Nat.le_refl _) _)
  have only : ∀ artifact, call ≠ .install artifact := by
    rintro artifact rfl
    cases dismissal
  refine counterparts.after (counterparts.begin_bypasses call) passed ?_ ?_ ?_
  · exact counterparts.worlds.queried.abreast (begin_queried _ _ _ only) (.refl _)
  · rw [counterparts.begin_veil, counterparts.worlds.likeness.same]
  · change other.manager.undismissed = (call.begin one.manager one.world).1.2.undismissed
    rw [begin_undismissed, counterparts.undismissed]
    cases call <;> first | rfl | cases dismissal

theorem check (counterparts : Counterparts config home hidden one other) :
    Counterparts config home hidden one.check other.check := by
  have worlds := counterparts.worlds
  have checker : other.manager.checker = one.manager.checker :=
    congrArg (fun manager => manager.checker) counterparts.undismissed
  obtain ⟨same, after⟩ := Checker.runSome_abreast worlds 1 one.manager.checker
  rw [← checker] at after
  refine counterparts.after (.check worlds.quiet worlds.alone worlds.likeness.left.toVeiled)
    (.check worlds.quietToo worlds.symm.alone worlds.likeness.right.toVeiled) ?_ ?_ ?_
  · rw [Scene.check, Scene.check, ← checker]
    exact after.queried
  · rw [Scene.check, Scene.check, ← checker]
    exact after.likeness.same
  · rw [Scene.check, Scene.check, checker, same]
    exact congrArg (fun manager : Manager => { manager with
      checker := (Worker.runSome Checker.runJob 1 one.manager.checker one.world).1 })
      counterparts.undismissed

/-- The same turn leaves both alike. -/
theorem turn (counterparts : Counterparts config home hidden one other)
    {next nextToo : Downloader.Scene} (turn : Downloader.Turn noteOutput one.downloads next)
    (turnToo : Downloader.Turn noteOutput other.downloads nextToo) :
    Counterparts config home hidden (one.follow next) (other.follow nextToo) := by
  have likeness := counterparts.worlds.likeness
  have side := turn.side noteOutput_discreet counterparts.side turnToo
  have only := counterparts.side.onlyFiles noteOutput_discreet turn
  have onlyToo := counterparts.side.symm.onlyFiles noteOutput_discreet turnToo
  refine ⟨side, ?_, counterparts.place, counterparts.directory, ?_, ?_, ?_⟩
  · rw [Scene.follow, Scene.follow, side.downloader]
    exact congrArg (fun manager : Manager => { manager with downloader := next.downloader })
      counterparts.undismissed
  · change Disk.OfNames next.world.disk.workingDirectory
    rw [only.workingDirectory]
    exact counterparts.base
  · exact counterparts.keeps.mono likeness.left.toVeiled only
  · exact counterparts.keepsToo.mono likeness.right.toVeiled onlyToo

end Counterparts

/-- Time has passed, and others have made some directories read-only. -/
def Scene.elapse (scene : Scene) (now clock : Int64) (sealedDirectories : List Location) : Scene :=
  { scene with
    world := { scene.world with
      now := now
      clock := clock
      disk := { scene.world.disk with sealedDirectories := sealedDirectories } } }

theorem Counterparts.elapse {one other : Scene}
    (counterparts : Counterparts config home hidden one other) (now clock : Int64)
    (sealedDirectories : List Location) :
    Counterparts config home hidden (one.elapse now clock sealedDirectories)
      (other.elapse now clock sealedDirectories) := by
  have same := counterparts.worlds.queried
  have likeness := counterparts.worlds.likeness
  have elapsed {scene : Scene} (veiled : Disk.Veiled hidden scene.world.disk) :
      Bypasses home hidden scene (scene.elapse now clock sealedDirectories) :=
    ⟨veiled.leavesFiles home (Nat.le_refl _) _, rfl, rfl, rfl, rfl, rfl, rfl, rfl, rfl⟩
  refine counterparts.after (elapsed likeness.left.toVeiled) (elapsed likeness.right.toVeiled)
    ⟨same.requests, same.network, rfl, rfl, same.installer, same.handedOver⟩ ?_
    counterparts.undismissed
  exact congrArg (fun disk : Disk => { disk with sealedDirectories := sealedDirectories })
    likeness.same

end Manager

end SelfUpdate
