import SelfUpdate.Proofs.Download.Custody

/-!
# Committed and verified

When every slot that reports a committed file holds one that was verified, and when not: a file at the
staging path of one version is at the committed path of another version whose name ends in the staging
suffix, and then that slot reports it as committed while it is still being received.
-/

namespace SelfUpdate.Downloader

open Transfer

variable {config : DownloadConfig} {arrange : List Path → List Path} {home : Location}
  {world : World} {scene next : Scene} {slot : Slot} {update : Update} {disk : Disk}

/-! ## Histories -/

/-- Others touch neither the entries of the directory nor the way to it. -/
structure Apart (directory : Path) (home : Location) (before after : World) : Prop where
  tree : after.disk.IsTree
  leads : after.disk.Leads directory home
  entries : ∀ name, after.disk.get? (home ++ [name]) = before.disk.get? (home ++ [name])
  quiet : after.Quiet
  alone : after.network.Alone

/-- What can happen to a downloader. -/
inductive Happens (home : Location) : Scene → Scene → Prop where
  | submit {scene : Scene} (job : DownloadJob) :
      Happens home scene { scene with downloader := scene.downloader.submit job }
  | shutDown {scene : Scene} :
      Happens home scene { scene with downloader := scene.downloader.shutDown }
  | turn {scene next : Scene} (turn : Turn (fun _ => pure ()) scene next) :
      Happens home scene next
  | others {scene : Scene} {world : World}
      (apart : Apart scene.downloader.config.directory home scene.world world) :
      Happens home scene { scene with world := world }

abbrev History (home : Location) : Scene → Scene → Prop := Relation.ReflTransGen (Happens home)

/-- A downloader that has done nothing yet. -/
def opening (config : DownloadConfig) (arrange : List Path → List Path) (world : World) : Scene :=
  ⟨⟨config, arrange, .new Downloader.name⟩, .resting, world, []⟩

/-- A path leads to a directory with nothing in it. -/
structure Bare (directory : Path) (home : Location) (disk : Disk) : Prop where
  tree : disk.IsTree
  leads : disk.Leads directory home
  empty : ∀ name, disk.get? (home ++ [name]) = none

theorem Apart.aside {directory : Path} {after : World} (apart : Apart directory home world after) :
    Aside directory home world.disk after.disk where
  tree := apart.tree
  leads := apart.leads
  kept name _ found := (apart.entries name).trans found
  new name _ found := .inl ((apart.entries name).symm.trans found)

theorem Bare.orderly (bare : Bare config.directory home disk) : Orderly config home [] disk where
  tree := bare.tree
  leads := bare.leads
  named name present := by
    rw [bare.empty name] at present
    cases present
  entries name node found := by
    rw [bare.empty name] at found
    cases found

theorem Bare.removeFile {directory : Path} {name : String} (bare : Bare directory home disk)
    (named : Path.isName name = true) (short : Disk.isTooLong name = false)
    (text : Disk.checkText (Path.join directory name) = .ok ()) :
    disk.removeFile (Path.join directory name) = .error .notFound := by
  rw [Disk.removeFile_join named short text bare.leads, bare.empty]

theorem discreet_silence : Discreet fun _ => pure () :=
  fun _ world _ => ⟨.refl world, rfl⟩

theorem Happens.custody (happens : Happens home scene next)
    (custody : Custody config home scene) : Custody config home next := by
  cases happens with
  | submit job | shutDown => exact { custody with keeps := custody.keeps }
  | turn turn => exact turn.custody discreet_silence custody
  | others apart =>
      rw [custody.keeps] at apart
      exact custody.aside apart.aside apart.quiet apart.alone

theorem History.custody (bare : Bare config.directory home world.disk)
    (permutes : ∀ paths, (arrange paths).Perm paths) (quiet : world.Quiet)
    (alone : world.network.Alone) (history : History home (opening config arrange world) scene) :
    Custody config home scene := by
  induction history with
  | refl => exact ⟨rfl, fun paths => (permutes paths).subset, quiet, alone, bare.orderly, trivial⟩
  | tail _ happens ih => exact happens.custody ih

/-! ## What slots report -/

/-- The file at the committed path is one that a transfer has committed after its digest was found to
be the expected one. -/
def HoldsVerified (slot : Slot) (scene : Scene) : Prop :=
  ∃ update artifact bytes, (update, artifact) ∈ scene.ledger ∧ artifact.path = slot.committed ∧
    scene.world.disk.content? slot.committed = some bytes ∧
    Sha256.hexDigest bytes = update.checksum

theorem Custody.holdsVerified (custody : Custody config home scene) {namePrefix version : String}
    (own : Slot.ofVersion config.directory namePrefix version = .ok slot)
    (apart : ∀ update other, slotOf config update = .ok other → other.staging ≠ slot.committed)
    (reported : slot.state scene.world.disk = .committed) : HoldsVerified slot scene := by
  obtain ⟨name, named, rfl⟩ := Slot.ofVersion_eq_ok own
  have file := Slot.state_eq_committed_iff.mp reported
  obtain ⟨identity, mode, bytes, read⟩ := Disk.isFile_iff.mp file
  have orderly := custody.orderly
  have there := Disk.get?_of_node?_join named orderly.leads
    (fun target found => (orderly.entries _ _ found).solid target rfl) read
  rcases orderly.entries name _ there with folder | ⟨_, _, _, same, vouched | staging⟩
  · cases folder
  · cases same
    obtain ⟨update, artifact, listed, path, digest⟩ := vouched
    exact ⟨update, artifact, bytes, listed, path,
      Disk.content?_eq_some_iff.mpr ⟨identity, mode, read⟩, digest⟩
  · obtain ⟨update, other, found, rfl⟩ := staging
    exact absurd rfl (apart update _ found)

/-! ## A slot that reports what is being received -/

/-- An answer whose stream is open and has not delivered anything. -/
def silentStream : Answer StreamReply := ⟨[], .opened none [.crash]⟩

theorem silentStream_alone : silentStream.Alone where
  opening := rfl
  streaming length events replied actions listed := by
    cases replied
    simp at listed

/-- A transfer has come to a stage and the disk to this, and nothing was committed. -/
def ComesTo (config : DownloadConfig) (arrange : List Path → List Path) (home : Location)
    (update : Update) (start disk : Disk) (stage : Stage) : Prop :=
  ∃ downloader ticket world,
    History home (opening config arrange (worldOf start silentStream))
      ⟨downloader, .fetching ticket update stage, world, []⟩ ∧
    downloader.config = config ∧ world.Quiet ∧
    world.network = (worldOf start silentStream).network ∧ world.disk = disk

theorem ComesTo.begun (config : DownloadConfig) (arrange : List Path → List Path)
    (home : Location) (update : Update) (start : Disk) :
    ComesTo config arrange home update start start .begun := by
  let first := opening config arrange (worldOf start silentStream)
  have submitted : History home first
      { first with downloader := first.downloader.submit (.fetch update) } :=
    .single (.submit (.fetch update))
  have polled : (first.downloader.submit (.fetch update)).worker.poll.running =
      some (0, .fetch update) := rfl
  have taken := submitted.tail (.turn (.take polled))
  exact ⟨_, 0, worldOf start silentStream, taken, rfl, rfl, rfl, rfl⟩

/-- The only move there is gets made. -/
theorem ComesTo.advance {start after : Disk} {stage following : Stage}
    (comes : ComesTo config arrange home update start disk stage)
    (ongoing : ∀ result, stage ≠ .ended result) (uncommitted : commits update following = [])
    (only : ∀ next final, Move config update silentStream stage disk next final →
      next = following ∧ final = after) :
    ComesTo config arrange home update start after following := by
  obtain ⟨downloader, ticket, world, history, rfl, quiet, network, rfl⟩ := comes
  obtain ⟨move, alike⟩ := Transfer.step_move downloader.config ticket update quiet stage
  rw [network] at move
  obtain ⟨stage_eq, disk_eq⟩ := only _ _ move
  have turned := history.tail (.turn (.fetch ongoing))
  rw [stage_eq, uncommitted, List.append_nil] at turned
  refine ⟨downloader, ticket, _, turned, rfl, ?_, ?_, disk_eq⟩
  · cases stage with
    | emptied slot => exact alike.quiet quiet
    | _ => exact alike.quiet quiet
  · cases stage with
    | emptied slot => exact alike.network.trans network
    | _ => exact alike.network.trans network

/-- The staging file of an update comes to be in a bare directory. -/
theorem ComesTo.streaming {start : Disk} {name : String} (arrange : List Path → List Path)
    (bare : Bare config.directory home start)
    (named : Path.isName name = true)
    (own : slotOf config update = .ok (.named config.directory name))
    (text : Disk.checkText (Path.join config.directory (name ++ stagingSuffix)) = .ok ())
    (short : Disk.isTooLong (name ++ stagingSuffix) = false)
    (unsealed : start.isSealed home = false) :
    ComesTo config arrange home update start
      (start.putNewFile (home ++ [name ++ stagingSuffix]) Disk.fileMode [])
      (.streaming (.named config.directory name) (totalOf none update)
        ⟨0, none, ⟨start.freshIdentity, 0⟩⟩ [.crash]) := by
  have committedText := Slot.checkText_committed named text
  have begun := ComesTo.begun config arrange home update start
  have made := Disk.makeDirectories_of_leads named bare.leads committedText
  have stagingMissing := bare.removeFile (Slot.isName_staging named) short text
  have committedMissing := bare.removeFile named (Slot.isTooLong_committed short) committedText
  have created := Disk.createNew_join (Slot.isName_staging named) short text bare.leads
    (bare.empty _)
  rw [unsealed, if_neg (by decide)] at created
  have ready : ComesTo config arrange home update start start
      (.ready (.named config.directory name)) := by
    refine begun.advance nofun rfl fun next final move => ?_
    cases move with
    | unnamed refused => cases own.symm.trans refused
    | barred _ barred => cases congrArg Prod.fst (made.symm.trans barred)
    | prepare found prepared =>
        cases own.symm.trans found
        cases made.symm.trans prepared
        exact ⟨rfl, rfl⟩
  have halfEmptied : ComesTo config arrange home update start start
      (.halfEmptied (.named config.directory name)) := by
    refine ready.advance nofun rfl fun next final move => ?_
    cases move with
    | keepStaging kept present =>
        cases stagingMissing.symm.trans kept
        exact absurd rfl present
    | clearStaging cleared =>
        rcases cleared with removed | ⟨-, rfl⟩
        · cases stagingMissing.symm.trans removed
        · exact ⟨rfl, rfl⟩
  have emptied : ComesTo config arrange home update start start
      (.emptied (.named config.directory name)) := by
    refine halfEmptied.advance nofun rfl fun next final move => ?_
    cases move with
    | keepCommitted kept present =>
        cases committedMissing.symm.trans kept
        exact absurd rfl present
    | clearCommitted cleared =>
        rcases cleared with removed | ⟨-, rfl⟩
        · cases committedMissing.symm.trans removed
        · exact ⟨rfl, rfl⟩
  have opened : ComesTo config arrange home update start start
      (.opened (.named config.directory name) (totalOf none update) [.crash]) := by
    refine emptied.advance nofun rfl fun next final move => ?_
    cases move with
    | connect replied short =>
        cases replied
        exact ⟨rfl, rfl⟩
    | refuse replied long => cases replied
    | unanswered replied => cases replied
    | collapse replied => cases replied
  refine opened.advance nofun rfl fun next final move => ?_
  cases move with
  | create again =>
      cases created.symm.trans again
      exact ⟨rfl, rfl⟩
  | uncreated refused => cases created.symm.trans refused

/-- Where the staging path of an update is the committed path of a slot, that slot comes to report a
file as committed when nothing was ever committed. -/
theorem exposed {start : Disk} {name : String} {other : Slot} (arrange : List Path → List Path)
    (bare : Bare config.directory home start) (unsealed : start.isSealed home = false)
    (named : Path.isName name = true) (short : Disk.isTooLong name = false)
    (text : Disk.checkText (Path.join config.directory name) = .ok ())
    (found : slotOf config update = .ok other)
    (same : other.staging = Path.join config.directory name) :
    ∃ scene, History home (opening config arrange (worldOf start silentStream)) scene ∧
      (Slot.named config.directory name).state scene.world.disk = .committed ∧
      scene.ledger = [] := by
  obtain ⟨staged, stagedNamed, rfl⟩ := Slot.ofVersion_eq_ok found
  obtain rfl := (Path.join_inj (Slot.isName_staging stagedNamed) named).mp same
  obtain ⟨downloader, ticket, world, history, rfl, -, -, disk⟩ :=
    ComesTo.streaming arrange bare stagedNamed found text short unsealed
  have change := Disk.Change.makeFile Disk.fileMode [] (by simp)
    (bare.empty (staged ++ stagingSuffix)) (by rw [List.dropLast_concat]; exact bare.leads.2)
  have leads : world.disk.Leads downloader.config.directory home := by
    rw [disk]
    exact bare.leads.mono (.putNewFile _ _ (by simp) (bare.empty _)) change.workingDirectory
  have there : world.disk.get? (home ++ [staged ++ stagingSuffix]) =
      some (.file start.freshIdentity Disk.fileMode []) := by
    rw [disk, Disk.get?_putNewFile _ _ _ _ (by simp), if_pos rfl]
  refine ⟨_, history, Slot.state_eq_committed_iff.mpr (Disk.isFile_iff.mpr ?_), rfl⟩
  exact ⟨_, _, _, (Disk.node?_join named short text leads (by simp [there])).trans there⟩

/-- The exact condition under which committed means verified. Whatever a downloader does with a bare
directory that nobody else touches, and at whatever moment one looks, a slot reports a committed file
only if that was verified; this holds if and only if the slot has its committed path for itself, that
is if it is the staging path of no update. -/
theorem committed_verified_iff (config : DownloadConfig) (arrange : List Path → List Path)
    (home : Location) (disk : Disk) (version name : String)
    (permutes : ∀ paths, (arrange paths).Perm paths) (bare : Bare config.directory home disk)
    (unsealed : disk.isSealed home = false) (named : Path.isName name = true)
    (own : Slot.ofVersion config.directory config.namePrefix version =
      .ok (.named config.directory name))
    (short : Disk.isTooLong name = false)
    (text : Disk.checkText (Path.join config.directory name) = .ok ()) :
    (∀ world : World, world.disk = disk → world.Quiet → world.network.Alone →
      ∀ scene, History home (opening config arrange world) scene →
        (Slot.named config.directory name).state scene.world.disk = .committed →
        HoldsVerified (.named config.directory name) scene) ↔
      ∀ update other, slotOf config update = .ok other →
        other.staging ≠ (Slot.named config.directory name).committed := by
  constructor
  · intro always update other found same
    obtain ⟨scene, history, reported, nothing⟩ :=
      exposed arrange bare unsealed named short text found same
    have verified := always (worldOf disk silentStream) rfl rfl ⟨fun _ _ => rfl,
      fun _ _ => silentStream_alone⟩ scene history reported
    obtain ⟨_, _, _, listed, -⟩ := verified
    rw [nothing] at listed
    cases listed
  · rintro apart world rfl quiet alone scene history reported
    exact (history.custody bare permutes quiet alone).holdsVerified own apart reported

/-- For the version 1, the slot of whose name no update receives a file at, committed means verified. -/
theorem committed_verified_iff_plain :
    let config : DownloadConfig := ⟨"updates", "a", 10⟩
    let slot := Slot.named "updates" "a-1"
    (∀ world : World, world.disk = bareDisk → world.Quiet → world.network.Alone →
      ∀ scene, History ["updates"] (opening config id world) scene →
        slot.state scene.world.disk = .committed → HoldsVerified slot scene) ↔
      ∀ update other, slotOf config update = .ok other → other.staging ≠ slot.committed :=
  committed_verified_iff ⟨"updates", "a", 10⟩ id ["updates"] bareDisk "1" "a-1"
    (fun paths => .refl paths)
    ⟨bareDisk_isTree, .of_name (by decide) (by decide) rfl (by decide), fun name => by
      simp [bareDisk, Disk.get?]⟩
    (by decide) (by decide) (by decide) (by decide) (by decide)

/-- The staging file of the version 1 is the committed file of the version 1.tmp. -/
theorem unverified_committed :
    Slot.ofVersion "updates" "a" "1.tmp" = .ok (.named "updates" "a-1.tmp") ∧
      ∃ scene, History ["updates"] (opening ⟨"updates", "a", 10⟩ id
          (worldOf bareDisk silentStream)) scene ∧
        (Slot.named "updates" "a-1.tmp").state scene.world.disk = .committed ∧
        ¬ HoldsVerified (.named "updates" "a-1.tmp") scene := by
  have bare : Bare "updates" ["updates"] bareDisk :=
    ⟨bareDisk_isTree, .of_name (by decide) (by decide) rfl (by decide), fun name => by
      simp [bareDisk, Disk.get?]⟩
  have found : slotOf ⟨"updates", "a", 10⟩ (singleOctet "1" (by decide)) =
      .ok (.named "updates" "a-1") := by
    decide
  have named : Path.isName "a-1.tmp" = true := by decide
  obtain ⟨scene, history, reported, nothing⟩ := exposed id bare (by decide) named (by decide)
    (by decide) found rfl
  refine ⟨by decide, scene, history, reported, ?_⟩
  rintro ⟨update, artifact, bytes, listed, -⟩
  rw [nothing] at listed
  cases listed

end SelfUpdate.Downloader
