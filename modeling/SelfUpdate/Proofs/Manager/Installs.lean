import SelfUpdate.Proofs.Disk.Replacement
import SelfUpdate.Proofs.Download.Specification
import SelfUpdate.Proofs.Manager.Gate
import SelfUpdate.Proofs.Manager.Scenes

/-!
# Only verified files are installed

Whatever a manager is asked for, and whatever the network answers, a file that is handed to the
installer lies in the download directory and has the digest of an update whose transfer has committed
it. All that is in the directory is accounted for at every moment, and a staging file is refused by
its name.
-/

namespace SelfUpdate

variable {config : DownloadConfig} {home base : Location} {directory : Path} {place : Option Path}
  {disk before middle after : Disk}

/-! ## Keeping the policy elsewhere -/

namespace Aside

theorem refl (tree : disk.IsTree) (leads : disk.Leads directory home) :
    Aside directory home disk disk :=
  ⟨tree, leads, fun _ _ found => found, fun _ _ found => .inl found⟩

theorem trans (early : Aside directory home before middle)
    (late : Aside directory home middle after) : Aside directory home before after where
  tree := late.tree
  leads := late.leads
  kept name node found := late.kept name node (early.kept name node found)
  new name node found := by
    rcases late.new name node found with old | fresh
    · exact early.new name node old
    · exact .inr fresh

end Aside

/-- A policy file outside the directory is replaced aside from it. -/
theorem replaceFile_aside (tree : disk.IsTree) (linkFree : disk.LinkFree)
    (leads : disk.Leads directory home) (path : Path) (bytes : Bytes)
    (outside : ¬ home <+: Disk.destination disk.workingDirectory path) :
    Aside directory home disk (Disk.replaceFile path bytes disk).2 ∧
      (Disk.replaceFile path bytes disk).2.LinkFree ∧
      (Disk.replaceFile path bytes disk).2.workingDirectory = disk.workingDirectory := by
  obtain ⟨made, digs, exchanged⟩ := Disk.replaceFile_exchanged tree linkFree path bytes
  have free := digs.changes.linkFree linkFree
  have base := exchanged.workingDirectory.trans digs.changes.workingDirectory
  have same (name : String) : (Disk.replaceFile path bytes disk).2.get? (home ++ [name]) =
      made.get? (home ++ [name]) := by
    apply exchanged.get?_of_ne
    intro inside
    exact outside (inside ▸ List.prefix_append home [name])
  refine ⟨⟨exchanged.tree, ?_, ?_, ?_⟩, exchanged.linkFree free, base⟩
  · exact leads.mono (digs.keepsWays.trans (exchanged.keepsWays free)) base
  · intro name node found
    rw [same]
    exact digs.kept found
  · intro name node found
    rw [same] at found
    exact digs.new_entry found

/-- So it is when it is replaced again and again. -/
theorem replaced_aside (tree : disk.IsTree) (linkFree : disk.LinkFree)
    (leads : disk.Leads directory home)
    (outside : ∀ path ∈ place, ¬ home <+: Disk.destination disk.workingDirectory path)
    (replaced : Relation.ReflTransGen (Replaced place) disk after) :
    Aside directory home disk after ∧ after.LinkFree ∧
      after.workingDirectory = disk.workingDirectory := by
  induction replaced with
  | refl => exact ⟨.refl tree leads, linkFree, rfl⟩
  | @tail middle after _ step ih =>
      obtain ⟨aside, free, base⟩ := ih
      obtain ⟨path, bytes, kept, rfl⟩ := step
      obtain ⟨again, still, same⟩ := replaceFile_aside aside.tree free aside.leads path bytes
        (base.symm ▸ outside path kept)
      exact ⟨aside.trans again, still, same.trans base⟩

/-! ## Turns make no links -/

theorem Downloader.Turn.changes {note : DownloadOutput → Effect Unit}
    {scene next : Downloader.Scene} (discreet : Discreet note) (turn : Turn note scene next)
    (custody : Custody config home scene) : Disk.Changes scene.world.disk next.world.disk := by
  obtain ⟨-, -, quiet, alone, -, task⟩ := custody
  cases turn with
  | take | fetched | swept => exact .refl
  | @fetch downloader ticket update stage =>
      have move := (Transfer.step_move downloader.config ticket update quiet stage).1
      have coming : Transfer.Harmless stage.events :=
        fun actions listed => absurd listed (task.alone actions)
      exact (move.changes (alone.stream _ _).harmless coming).1
  | @sweep downloader report path =>
      obtain ⟨-, same | removed⟩ := sweep_run quiet report path
      · rw [same]
      · exact .single (Disk.removeFile_change removed)
  | @close _ result =>
      rw [(conclude_run discreet quiet result).2]

namespace Manager

variable {scene next : Scene} {request : InstallRequest}

/-! ## What holds in every scene -/

/-- The directory is in custody, nothing on the disk is a link, and the manager keeps its policy at
one place. -/
structure Guarded (config : DownloadConfig) (home base : Location) (place : Option Path)
    (scene : Scene) : Prop where
  custody : Downloader.Custody config home scene.downloads
  directory : scene.manager.directory = config.directory
  store : scene.manager.store.path? = place
  linkFree : scene.world.disk.LinkFree
  workingDirectory : scene.world.disk.workingDirectory = base

/-- Nothing that can happen takes the guard away. -/
theorem Happens.guarded (outside : ∀ path ∈ place, ¬ home <+: Disk.destination base path)
    (happens : Happens home scene next) (guarded : Guarded config home base place scene) :
    Guarded config home base place next := by
  obtain ⟨custody, directory, store, linkFree, rfl⟩ := guarded
  cases happens with
  | call call =>
      obtain ⟨handed, leaves, -⟩ := begin_leaves scene.manager call custody.quiet
      have replaced := leaves.disk
      rw [store] at replaced
      obtain ⟨aside, free, base⟩ := replaced_aside custody.orderly.tree linkFree
        custody.orderly.leads outside replaced
      have kept := custody.aside aside (leaves.quiet custody.quiet)
        (leaves.network ▸ custody.alone)
      refine ⟨⟨?_, ?_, kept.quiet, kept.alone, kept.orderly, kept.task⟩, ?_, ?_, free, base⟩
      · exact leaves.config.trans custody.keeps
      · exact leaves.arrange ▸ custody.arrange
      · exact leaves.directory.trans directory
      · exact leaves.store.trans store
  | check =>
      have moved : scene.world.Unmoved scene.check.world :=
        Checker.runSome_unmoved custody.quiet custody.alone 1 scene.manager.checker
      have aside : Aside config.directory home scene.world.disk scene.check.world.disk := by
        rw [moved.disk]
        exact .refl custody.orderly.tree custody.orderly.leads
      have kept := custody.aside aside (moved.quiet custody.quiet) (moved.alone custody.alone)
      refine ⟨⟨kept.keeps, kept.arrange, kept.quiet, kept.alone, kept.orderly, kept.task⟩,
        directory, store, ?_, ?_⟩
      · rw [moved.disk]
        exact linkFree
      · rw [moved.disk]
  | turn turn =>
      have changes := turn.changes noteOutput_discreet custody
      exact ⟨turn.custody noteOutput_discreet custody, directory, store,
        changes.linkFree linkFree, changes.workingDirectory⟩
  | others apart =>
      rw [directory] at apart
      exact ⟨custody.aside apart.aside apart.quiet apart.alone, directory, store,
        apart.linkFree, apart.workingDirectory⟩

theorem History.guarded (outside : ∀ path ∈ place, ¬ home <+: Disk.destination base path)
    (guarded : Guarded config home base place scene) (history : History home scene next) :
    Guarded config home base place next := by
  induction history with
  | refl => exact guarded
  | tail _ happens ih => exact happens.guarded outside ih

/-! ## What is handed over -/

/-- A request is for a file of the download directory, whose octets have the digest of an update, and
its transfer has committed that file. -/
def Verified (directory : Path) (home : Location) (scene : Scene) (request : InstallRequest) :
    Prop :=
  scene.world.disk.Leads directory home ∧
    ∃ name bytes update artifact, Path.isName name = true ∧
      request.artifact = Disk.pathOf (home ++ [name]) ∧
      scene.world.disk.content? request.artifact = some bytes ∧
      Sha256.hexDigest bytes = update.checksum ∧
      (update, artifact) ∈ scene.ledger ∧ artifact.path = Path.join directory name

/-- What was found out about the chosen file makes it a verified one. -/
theorem Chooses.verified {artifact : Path} (base_ : Disk.OfNames base)
    (guarded : Guarded config home base place scene)
    (chooses : Chooses config.directory scene.world.disk artifact request.artifact) :
    Verified config.directory home scene request := by
  obtain ⟨custody, -, -, linkFree, rfl⟩ := guarded
  have orderly := custody.orderly
  obtain ⟨committed, file, above, name, houses, path⟩ :=
    (chooses_iff orderly.tree base_).mp chooses
  obtain rfl := Disk.locate_of_leads orderly.leads houses.directory
  obtain ⟨identity, mode, bytes, there⟩ := houses.file
  have names := Disk.ofNames_of_locate base_ houses.entry
  refine ⟨orderly.leads, ?_⟩
  rcases orderly.entries name _ there with folder | ⟨_, _, _, same, vouched | staging⟩
  · cases folder
  · cases same
    obtain ⟨update, own, listed, kept, digest⟩ := vouched
    obtain ⟨_, _, _, read⟩ := Disk.isFile_iff.mp file
    have again := Disk.get?_of_node?_pathOf orderly.tree names
      (Disk.isSolid_of_locate orderly.tree houses.entry) (path ▸ read)
    cases there.symm.trans again
    exact ⟨name, bytes, update, own, names name (by simp), path,
      Disk.content?_eq_some_iff.mpr ⟨identity, mode, read⟩, digest, listed, kept⟩
  · obtain ⟨update, other, -, rfl⟩ := staging
    have last := (houses.fileName? orderly.tree).resolve_right linkFree.not_endsInLink
    have staged : isStagingName artifact = true := by
      rw [isStagingName_iff last, String.toList_append]
      exact List.suffix_append other.toList stagingSuffix.toList
    cases staged.symm.trans committed

/-- A file of the directory may be installed, unless its name is that of a staging file or a path to it
is too long. -/
theorem Guarded.chooses {name : String} {identity mode : Nat} {bytes : Bytes}
    (base_ : Disk.OfNames base) (guarded : Guarded config home base place scene)
    (nonempty : config.directory ≠ "") (named : Path.isName name = true)
    (committed : ¬ stagingSuffix.toList <:+ name.toList)
    (text : Disk.checkText (Path.join config.directory name) = .ok ())
    (short : ∀ part ∈ home ++ [name], Disk.isTooLong part = false)
    (whole : Disk.checkText (Disk.pathOf (home ++ [name])) = .ok ())
    (found : scene.world.disk.get? (home ++ [name]) = some (.file identity mode bytes)) :
    Chooses config.directory scene.world.disk (Path.join config.directory name)
      (Disk.pathOf (home ++ [name])) := by
  obtain ⟨custody, -, -, linkFree, rfl⟩ := guarded
  have houses := houses_join linkFree custody.orderly.leads nonempty named text
    (short name (by simp)) found
  exact (houses.chooses_iff custody.orderly.tree linkFree base_ short).mpr ⟨rfl, whole, committed⟩

/-! ## From the start -/

/-- A manager that has just started; a cleanup meets the entries of its directory in some order. -/
def opening (manager : Manager) (arrange : List Path → List Path) (world : World) : Scene :=
  ⟨{ manager with downloader := { manager.downloader with arrange := arrange } }, .resting, world,
    []⟩

section

variable {runtime : Bool} {current : UInt32} {settings : Settings} {store : PolicyStore}
  {world later : World} {manager : Manager} {arrange : List Path → List Path}

/-- A manager that starts on an empty directory, or without one, guards it. -/
theorem start_guarded (quiet : world.Quiet) (alone : world.network.Alone)
    (tree : world.disk.IsTree) (linkFree : world.disk.LinkFree)
    (empty : ∀ name, world.disk.get?
      (Disk.placeOf world.disk.workingDirectory directory ++ [name]) = none)
    (permutes : ∀ paths, (arrange paths).Perm paths)
    (started : start runtime current settings directory store world = (.ok manager, later)) :
    Guarded (downloadConfig settings directory)
      (Disk.placeOf world.disk.workingDirectory directory) world.disk.workingDirectory store.path?
      (opening manager arrange later) := by
  obtain ⟨disk, made, unmoved, same, rfl, -, config⟩ := start_ok quiet started
  obtain ⟨dug, digs, change, leads, entries⟩ := Disk.makePrivateDirectory_ok linkFree made
  have known (name : String) (node : Node) (found : disk.get?
      (Disk.placeOf world.disk.workingDirectory directory ++ [name]) = some node) :
      node.isDirectory = true ∧ Path.isName name = true := by
    rw [entries] at found
    rcases digs.new_entry found with old | fresh
    · cases (empty name).symm.trans old
    · exact fresh
  have disk_eq : later.disk = disk := unmoved.disk
  have quiet : later.Quiet := unmoved.quiet quiet
  refine ⟨⟨config, fun paths => (permutes paths).subset, quiet, unmoved.alone alone, ?_, trivial⟩,
    same, rfl, ?_, ?_⟩
  · change Orderly _ _ [] later.disk
    rw [disk_eq]
    refine ⟨change.isTree (digs.changes.isTree tree), leads, ?_, ?_⟩
    · intro name present
      obtain ⟨node, found⟩ := Option.isSome_iff_exists.mp present
      exact (known name node found).2
    · intro name node found
      exact .inl (known name node found).1
  · change later.disk.LinkFree
    rw [disk_eq]
    exact change.linkFree (digs.changes.linkFree linkFree)
  · change later.disk.workingDirectory = _
    rw [disk_eq, change.workingDirectory, digs.changes.workingDirectory]

/-- Only verified files reach the installer. A manager starts on an empty directory of a disk without
links, nobody else touches that directory, and the policy is kept outside it. Then at whatever moment
something is handed to the installer, in whatever history of calls, checks and jobs, it is a file of
the directory with the digest of an update whose transfer has committed it. -/
theorem installs_verified (quiet : world.Quiet) (alone : world.network.Alone)
    (tree : world.disk.IsTree) (linkFree : world.disk.LinkFree)
    (base : Disk.OfNames world.disk.workingDirectory)
    (empty : ∀ name, world.disk.get?
      (Disk.placeOf world.disk.workingDirectory directory ++ [name]) = none)
    (outside : ∀ path, store = .file path →
      ¬ Disk.placeOf world.disk.workingDirectory directory <+:
        Disk.destination world.disk.workingDirectory path)
    (permutes : ∀ paths, (arrange paths).Perm paths)
    (started : start runtime current settings directory store world = (.ok manager, later))
    (history : History (Disk.placeOf world.disk.workingDirectory directory)
      (opening manager arrange later) scene)
    (happens : Happens (Disk.placeOf world.disk.workingDirectory directory) scene next) :
    next.world.handedOver = scene.world.handedOver ∨
      ∃ request, next.world.handedOver = scene.world.handedOver ++ [request] ∧
        Verified directory (Disk.placeOf world.disk.workingDirectory directory) next request := by
  have elsewhere : ∀ path ∈ store.path?, ¬ Disk.placeOf world.disk.workingDirectory directory <+:
      Disk.destination world.disk.workingDirectory path := by
    intro path kept
    cases store with
    | memory held => cases kept
    | file own =>
        cases kept
        exact outside _ rfl
  have opened := start_guarded quiet alone tree linkFree empty permutes started
  have guarded := History.guarded elsewhere opened history
  have later := happens.guarded elsewhere guarded
  cases happens with
  | call call =>
      have still : scene.world.Quiet := guarded.custody.quiet
      obtain ⟨handed, leaves, chosen⟩ := begin_leaves scene.manager call still
      cases handed with
      | none => exact .inl (leaves.handedOver.trans (List.append_nil _))
      | some request =>
          obtain ⟨same, artifact, found⟩ := chosen request rfl
          refine .inr ⟨request, leaves.handedOver, ?_⟩
          have same : (scene.begin call).world.disk = scene.world.disk := same
          rw [guarded.directory, ← same] at found
          have verified := Chooses.verified base later found
          exact verified
  | check =>
      have moved : scene.world.Unmoved scene.check.world :=
        Checker.runSome_unmoved guarded.custody.quiet guarded.custody.alone 1 scene.manager.checker
      exact .inl moved.handedOver
  | turn turn => exact .inl (turn.quiet noteOutput_discreet guarded.custody.quiet).2.2
  | others apart => exact .inl apart.handedOver

end

/-- A disk with a private download directory and nothing else. -/
def privateDisk : Disk :=
  { Transfer.bareDisk with entries := [(["updates"], .directory Disk.privateDirectoryMode)] }

theorem privateDisk_isTree : privateDisk.IsTree := .of_entries (by decide) (by decide)

theorem privateDisk_linkFree : privateDisk.LinkFree := .of_entries (by simp [privateDisk])

theorem privateDisk_leads : privateDisk.Leads "updates" ["updates"] :=
  .of_name (by decide) (by decide) rfl (by decide)

theorem worldOf_alone {disk : Disk} : (Transfer.worldOf disk Transfer.oneChunk).network.Alone :=
  ⟨fun _ _ => rfl, fun _ _ => Transfer.oneChunk_undisturbed.alone⟩

theorem privateDisk_prepared :
    Disk.makePrivateDirectory "updates" privateDisk = (.ok (), privateDisk) :=
  Disk.makePrivateDirectory_of_located (Disk.locate_directory privateDisk_leads (by decide))
    (by decide) rfl

theorem start_usual (answer : Answer StreamReply) :
    start true 1 .default "updates" (.memory .default) (Transfer.worldOf privateDisk answer) =
      (.ok usual, Transfer.worldOf privateDisk answer) := by
  have same : (Transfer.worldOf privateDisk answer).disk = privateDisk := rfl
  rw [start, Effect.preparePrivateDirectory]
  simp only [Stateful.bind_run, Effect.ofSteps_run, same, privateDisk_prepared]
  rfl

/-- That manager can commit what is delivered as a single octet. -/
theorem run_usual {version name : String} (present : Text.isAllBlank version = false)
    (own : Transfer.slotOf usual.downloader.config (Transfer.singleOctet version present) =
      .ok (.named "updates" name))
    (usable : Transfer.Usable "updates" ["updates"] name privateDisk) :
    ∃ later, Transfer.run usual.downloader.config 0 (Transfer.singleOctet version present)
        (Transfer.worldOf privateDisk Transfer.oneChunk) =
          (.ok ⟨Path.join "updates" name, version, Sha256.hexDigest [7], 1⟩, later) ∧
      later.disk.get? ["updates", name] = some (.file 0 Disk.fileMode [7]) := by
  let update := Transfer.singleOctet version present
  have quiet : (Transfer.worldOf privateDisk Transfer.oneChunk).Quiet := rfl
  have ends := Transfer.Ends.run usual.downloader.config 0 update quiet
  have located := Disk.locate_directory privateDisk_leads (by decide)
  have creatable := Disk.makeDirectories_of_located located (by decide)
  obtain ⟨-, done⟩ := ends.begun own creatable usable Transfer.oneChunk_undisturbed
  have accepted : Transfer.Accepted usual.downloader.config.limit.toNat update.checksum
      Transfer.oneChunk.reply [7] := by
    refine ⟨some 1, _, rfl, ?_, rfl, by decide, rfl⟩
    intro announced same
    cases same
    decide
  rcases done with ⟨content, good, outcome⟩ | ⟨bad, -⟩
  · obtain rfl := good.unique accepted
    have found := (outcome.leaves usable (["updates"] ++ [name])).trans (if_pos rfl)
    exact ⟨_, Prod.ext outcome.1 rfl, found⟩
  · exact absurd accepted (bad [7])

theorem slotOf_plain :
    Transfer.slotOf usual.downloader.config (Transfer.singleOctet "1" (by decide)) =
      .ok (.named "updates" "upgate-update-1") := by
  decide

theorem usable_plain :
    Transfer.Usable "updates" ["updates"] "upgate-update-1" privateDisk where
  named := by decide
  text := by decide
  short := by decide
  tree := .of_entries (by decide) (by decide)
  leads := .of_name (by decide) (by decide) rfl (by decide)
  unsealed := by decide
  stagingFree := by decide
  committedFree := by decide

/-- A scene of that manager in which an artifact has been committed. -/
theorem fetched_usual : ∃ scene identity mode,
    History ["updates"] (opening usual id (Transfer.worldOf privateDisk Transfer.oneChunk)) scene ∧
      scene.world.disk.get? ["updates", "upgate-update-1"] = some (.file identity mode [7]) := by
  let update := Transfer.singleOctet "1" (by decide)
  let world := Transfer.worldOf privateDisk Transfer.oneChunk
  have quiet : world.Quiet := rfl
  let first := (opening usual id world).begin (.download update)
  have asked : History ["updates"] (opening usual id world) first := .single (.call _)
  have polled : first.manager.downloader.worker.poll.running = some (0, .fetch update) := rfl
  have course := Transfer.course_run first.manager.downloader.poll.config 0 update quiet
  obtain ⟨more, turns⟩ := Downloader.course_turns noteOutput [] course
  have taken : Downloader.Turns noteOutput first.downloads _ := .head (.take polled) turns
  obtain ⟨later, ran, found⟩ := run_usual (by decide) slotOf_plain usable_plain
  refine ⟨_, 0, Disk.fileMode, asked.trans (turns_history first taken), ?_⟩
  exact (congrArg (fun ran => ran.2.disk.get? ["updates", "upgate-update-1"]) ran).trans found

/-- A committed artifact is installed. -/
theorem installs_verified_oneChunk : ∃ manager later scene request,
    start true 1 .default "updates" (.memory .default)
        (Transfer.worldOf privateDisk Transfer.oneChunk) = (.ok manager, later) ∧
      History ["updates"] (opening manager id later) scene ∧
      (scene.begin (.install "updates/upgate-update-1")).world.handedOver =
        scene.world.handedOver ++ [request] ∧
      Verified "updates" ["updates"] (scene.begin (.install "updates/upgate-update-1"))
        request := by
  obtain ⟨scene, identity, mode, history, found⟩ := fetched_usual
  have quiet : (Transfer.worldOf privateDisk Transfer.oneChunk).Quiet := rfl
  have alone : (Transfer.worldOf privateDisk Transfer.oneChunk).network.Alone := worldOf_alone
  have base : Disk.OfNames privateDisk.workingDirectory := .root
  have place : Disk.placeOf privateDisk.workingDirectory "updates" = ["updates"] := by decide
  have empty (name : String) : privateDisk.get?
      (Disk.placeOf privateDisk.workingDirectory "updates" ++ [name]) = none := by
    rw [place]
    simp [privateDisk, Disk.get?]
  have elsewhere (path : Path) : PolicyStore.memory .default = .file path →
      ¬ Disk.placeOf privateDisk.workingDirectory "updates" <+:
        Disk.destination privateDisk.workingDirectory path := by simp
  have permutes (paths : List Path) : (id paths).Perm paths := .refl paths
  -- what has been fetched may be installed
  have opened : Guarded (downloadConfig .default "updates") ["updates"] [] none
      (opening usual id (Transfer.worldOf privateDisk Transfer.oneChunk)) :=
    place ▸ start_guarded quiet alone privateDisk_isTree privateDisk_linkFree empty permutes
      (start_usual _)
  have nowhere : ∀ path ∈ (none : Option Path), ¬ ["updates"] <+: Disk.destination [] path := by simp
  have guarded := History.guarded nowhere opened history
  have chooses : Chooses "updates" scene.world.disk "updates/upgate-update-1"
      "/updates/upgate-update-1" :=
    guarded.chooses base (by decide) (by decide) (by decide) (by decide) (by decide) (by decide)
      found
  have still : scene.world.Quiet := guarded.custody.quiet
  obtain ⟨handed, leaves, -, only⟩ :=
    requestInstall_leaves scene.manager "updates/upgate-update-1" still
  obtain rfl := (only ⟨"/updates/upgate-update-1", scene.manager.settings.mediaType⟩).mpr
    ⟨guarded.directory ▸ chooses, rfl⟩
  refine ⟨usual, _, scene, _, start_usual _, history, leaves.handedOver, ?_⟩
  rw [← place] at history
  rcases installs_verified quiet alone privateDisk_isTree privateDisk_linkFree base empty elsewhere
    permutes (start_usual _) history (.call (.install "updates/upgate-update-1")) with
    nothing | ⟨request, same, verified⟩
  · cases List.append_right_eq_self.mp (leaves.handedOver.symm.trans nothing)
  · cases List.append_cancel_left (leaves.handedOver.symm.trans same)
    exact place ▸ verified

end Manager

end SelfUpdate
