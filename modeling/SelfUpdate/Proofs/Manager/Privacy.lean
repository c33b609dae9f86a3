import SelfUpdate.Proofs.Disk.Confinement
import SelfUpdate.Proofs.Manager.Installs

/-!
# Who may enter the download directory

A manager makes its download directory private when it starts, and nothing that it does later changes
the mode of a directory. But a download that finds the directory missing makes it anew, with the usual
mode. So an artifact is committed into a private directory exactly if the one that was prepared at
the start still stands.
-/

namespace SelfUpdate

variable {config : DownloadConfig} {home location : Location} {update : Update} {path : Path}
  {disk before made after : Disk} {stage next : Transfer.Stage} {answer : Answer StreamReply}

/-! ## Directories and their modes -/

namespace Disk

/-- A directory stays as it is, and one that is made there has the usual mode. -/
structure Steady (home : Location) (before after : Disk) : Prop where
  kept : ∀ mode, before.get? home = some (.directory mode) →
    after.get? home = some (.directory mode)
  new : ∀ mode, after.get? home = some (.directory mode) →
    before.get? home = some (.directory mode) ∨ mode = directoryMode

namespace Steady

theorem of_same (same : after.get? home = before.get? home) : Steady home before after :=
  ⟨fun _ found => same.trans found, fun _ found => .inl (same.symm.trans found)⟩

theorem refl (disk : Disk) : Steady home disk disk := .of_same rfl

theorem trans (early : Steady home before made) (late : Steady home made after) :
    Steady home before after where
  kept mode found := late.kept mode (early.kept mode found)
  new mode found := (late.new mode found).elim (early.new mode) .inr

theorem of_digs (digs : Digs before after) : Steady home before after where
  kept _ found := digs.kept found
  new mode found := (digs.new found).imp_right fun same => by cases same.1; rfl

/-- Nothing but a file takes the place of a path. -/
theorem of_exchanged {place : Location} (exchanged : Exchanged place before after) :
    Steady home before after := by
  rcases exchanged.lookups home with same | ⟨-, free, mode, bytes, file⟩
  · exact .of_same same
  · refine ⟨fun mode found => ?_, fun mode found => ?_⟩
    · rw [isDirectoryAt, found] at free
      cases free
    · cases file.symm.trans found

theorem replaceFile (tree : disk.IsTree) (linkFree : disk.LinkFree) (path : Path) (bytes : Bytes) :
    Steady home disk (Disk.replaceFile path bytes disk).2 := by
  obtain ⟨made, digs, exchanged⟩ := replaceFile_exchanged tree linkFree path bytes
  exact (of_digs digs).trans (of_exchanged exchanged)

theorem removeFile (tree : disk.IsTree) (removed : disk.removeFile path = .ok after) :
    Steady home disk after := by
  obtain ⟨location, node, names, found, solid, rfl⟩ := removeFile_eq_ok removed
  have free := (isDirectoryAt_of_get? found).trans solid
  refine ⟨fun mode held => ?_, fun mode held => .inl (get?_of_erase names.ne_nil held)⟩
  rw [tree.get?_erase_solid names.ne_nil free, if_neg, held]
  rintro rfl
  cases found.symm.trans held
  cases solid

theorem createNew {handle : Handle} (created : disk.createNew path = .ok (handle, after)) :
    Steady home disk after := by
  obtain ⟨location, names, vacant, -, rfl⟩ := createNew_eq_ok created
  have lookup := get?_putNewFile disk fileMode [] home names.ne_nil
  refine ⟨fun mode held => ?_, fun mode held => ?_⟩
  · rw [lookup, if_neg, held]
    rintro rfl
    cases vacant.symm.trans held
  · rw [lookup] at held
    split at held
    · cases held
    · exact .inl held

theorem write (disk : Disk) (handle : Handle) (bytes : Bytes) :
    Steady home disk (disk.write handle bytes).2 := by
  obtain ⟨change, lookup⟩ := get?_write disk handle bytes
  refine ⟨fun mode held => ?_, fun mode held => ?_⟩
  · rw [lookup, held]
    rfl
  · rw [lookup, Option.map_eq_some_iff] at held
    obtain ⟨old, there, altered⟩ := held
    cases old with
    | directory old =>
        cases altered
        exact .inl there
    | file identity old bytes =>
        rw [Node.alter] at altered
        split at altered <;> cases altered
    | link target => cases altered

/-- What is moved within a directory leaves the directory as it is. -/
theorem rename {directory : Path} {source target : String} (linkFree : disk.LinkFree)
    (sourceNamed : Path.isName source = true) (targetNamed : Path.isName target = true)
    (differ : source ≠ target)
    (renamed : disk.rename (Path.join directory source) (Path.join directory target) = .ok after) :
    Steady (placeOf disk.workingDirectory directory) disk after := by
  obtain ⟨home, node, leads, -, -, -, -, rfl⟩ :=
    rename_join_eq_ok sourceNamed targetNamed differ renamed
  obtain rfl := leads.eq_placeOf linkFree
  have above (name : String) : ¬ placeOf disk.workingDirectory directory ++ [name] <+:
      placeOf disk.workingDirectory directory := by
    intro below
    have short := below.length_le
    rw [List.length_append, List.length_singleton] at short
    omega
  refine .of_same ?_
  rw [get?_erase_move _ _ (by simp) (by simp) (append_ne _ differ) (append_ne _ differ.symm),
    if_neg (above _), if_neg (above _)]

end Steady

end Disk

/-! ## Transfers -/

namespace Transfer

/-- While nobody else acts during a stream, no interference is to come. -/
theorem Move.undisturbed (alone : answer.Alone)
    (coming : ∀ actions, StreamEvent.interference actions ∉ stage.events)
    (move : Move config update answer stage disk next after) (actions : List Disk.Action) :
    StreamEvent.interference actions ∉ next.events := by
  cases move with
  | connect replied short => exact alone.streaming _ _ replied actions
  | create made => exact coming actions
  | write fits => exact fun listed => coming actions (List.mem_cons_of_mem _ listed)
  | interfere => exact absurd List.mem_cons_self (coming _)
  | rest => exact coming actions
  | _ => exact List.not_mem_nil

/-- No step of a transfer changes the mode of the directory. -/
theorem Move.steady (tree : disk.IsTree) (linkFree : disk.LinkFree) (alone : answer.Alone)
    (slots : ∀ slot, stage.slot? = some slot → slotOf config update = .ok slot)
    (coming : ∀ actions, StreamEvent.interference actions ∉ stage.events)
    (move : Move config update answer stage disk next after) :
    Disk.Steady (Disk.placeOf disk.workingDirectory config.directory) disk after := by
  have still : disk.afterActions answer.interference = disk := by
    rw [alone.opening]
    rfl
  have clears {path : Path} (cleared : Clears path disk after) :
      Disk.Steady (Disk.placeOf disk.workingDirectory config.directory) disk after := by
    rcases cleared with removed | ⟨-, rfl⟩
    · exact .removeFile tree removed
    · exact .refl _
  cases move with
  | barred named made | prepare named made =>
      have digs := Disk.makeDirectories_digs config.directory disk
      rw [made] at digs
      exact .of_digs digs
  | clearStaging cleared | clearCommitted cleared | discard cleared => exact clears cleared
  | connect | refuse | unanswered | collapse =>
      rw [still]
      exact .refl disk
  | create made => exact .createNew made
  | write fits => exact .write disk _ _
  | interfere => exact absurd List.mem_cons_self (coming _)
  | commit renamed =>
      obtain ⟨name, named, rfl⟩ := Slot.ofVersion_eq_ok (slots _ rfl)
      exact .rename linkFree (Slot.isName_staging named) named (Slot.staging_ne name) renamed
  | _ => exact .refl disk

end Transfer

/-! ## Turns -/

namespace Downloader

/-- What a task knows, whatever becomes of the directory. -/
def Informed (config : DownloadConfig) : Task → Prop
  | .fetching _ update stage =>
      (∀ slot, stage.slot? = some slot → Transfer.slotOf config update = .ok slot) ∧
        ∀ actions, StreamEvent.interference actions ∉ stage.events
  | _ => True

theorem Informed.begin (downloader : Downloader) (ticket : Nat) (disk : Disk)
    (job : DownloadJob) : Informed config (downloader.begin ticket disk job) := by
  cases job with
  | fetch update => exact ⟨fun _ same => (by cases same), fun _ => by simp [Transfer.Stage.events]⟩
  | clean =>
      rw [Downloader.begin, beginSweep]
      cases disk.list downloader.config.directory with
      | ok paths => trivial
      | error error => cases error <;> trivial

/-- A turn makes no links, and it changes the mode of no directory in the place of its own. -/
theorem Turn.steady {note : DownloadOutput → Effect Unit} {scene next : Scene}
    (discreet : Discreet note) (quiet : scene.world.Quiet) (alone : scene.world.network.Alone)
    (tree : scene.world.disk.IsTree) (linkFree : scene.world.disk.LinkFree)
    (informed : Informed scene.downloader.config scene.task) (turn : Turn note scene next) :
    Disk.Changes scene.world.disk next.world.disk ∧
      Disk.Steady (Disk.placeOf scene.world.disk.workingDirectory scene.downloader.config.directory)
        scene.world.disk next.world.disk ∧
      next.downloader.config = scene.downloader.config ∧
      Informed next.downloader.config next.task := by
  cases turn with
  | take => exact ⟨.refl, .refl _, rfl, .begin _ _ _ _⟩
  | @fetch downloader ticket update stage =>
      obtain ⟨slots, coming⟩ := informed
      have move := (Transfer.step_move downloader.config ticket update quiet stage).1
      have harmless : Transfer.Harmless stage.events :=
        fun actions listed => absurd listed (coming actions)
      exact ⟨(move.changes (alone.stream _ _).harmless harmless).1,
        move.steady tree linkFree (alone.stream _ _) slots coming, rfl, move.slot slots,
        move.undisturbed (alone.stream _ _) coming⟩
  | fetched | swept => exact ⟨.refl, .refl _, rfl, trivial⟩
  | @sweep downloader report path =>
      obtain ⟨-, same | removed⟩ := sweep_run quiet report path
      · rw [same]
        exact ⟨.refl, .refl _, rfl, trivial⟩
      · exact ⟨.single (Disk.removeFile_change removed), .removeFile tree removed, rfl, trivial⟩
  | @close _ result =>
      rw [(conclude_run discreet quiet result).2]
      exact ⟨.refl, .refl _, rfl, trivial⟩

/-- The ledger grows when a transfer renames its staging file. -/
theorem Turn.commits {note : DownloadOutput → Effect Unit} {scene next : Scene}
    {entry : Update × Artifact} (quiet : scene.world.Quiet) (turn : Turn note scene next)
    (grown : next.ledger = scene.ledger ++ [entry]) :
    ∃ ticket slot size, scene.task = .fetching ticket entry.1 (.verified slot size) ∧
      entry.2 = Transfer.artifactOf slot entry.1 size ∧
      scene.world.disk.rename slot.staging slot.committed = .ok next.world.disk := by
  cases turn with
  | @fetch downloader ticket update stage world ledger ongoing =>
      have grown := List.append_cancel_left grown
      have move := (Transfer.step_move downloader.config ticket update quiet stage).1
      generalize Transfer.step downloader.config ticket update stage world = stepped at grown move ⊢
      obtain ⟨reached, after⟩ := stepped
      dsimp only at grown move ⊢
      generalize after.disk = final at move ⊢
      generalize world.disk = start at move ⊢
      cases reached with
      | ended result =>
          cases result with
          | error halt => cases grown
          | ok artifact =>
              obtain rfl := (List.cons.inj grown).1
              cases move with
              | @commit _ _ slot size renamed => exact ⟨ticket, slot, size, rfl, rfl, renamed⟩
              | rest => exact absurd rfl (ongoing _)
      | _ => cases grown
  | take | fetched | sweep | swept | close => simp at grown

end Downloader

/-! ## A manager and those who remove -/

namespace Manager

/-- A scene, and whether the directory that was prepared at the start still stands. -/
structure Watch where
  scene : Scene
  stands : Bool

/-- What can happen while others do nothing but remove entries and let time pass. -/
inductive Lapse (home : Location) : Watch → Watch → Prop where
  | call {scene : Scene} {stands : Bool} (call : Call) :
      Lapse home ⟨scene, stands⟩ ⟨scene.begin call, stands⟩
  | check {scene : Scene} {stands : Bool} : Lapse home ⟨scene, stands⟩ ⟨scene.check, stands⟩
  | turn {scene : Scene} {stands : Bool} {next : Downloader.Scene}
      (turn : Downloader.Turn noteOutput scene.downloads next) :
      Lapse home ⟨scene, stands⟩ ⟨scene.follow next, stands⟩
  | time {scene : Scene} {stands : Bool} (now clock : Int64) :
      Lapse home ⟨scene, stands⟩
        ⟨{ scene with world := { scene.world with now := now, clock := clock } }, stands⟩
  | removal {scene : Scene} {stands : Bool} {place : Location} (named : place ≠ []) :
      Lapse home ⟨scene, stands⟩
        ⟨{ scene with world := scene.world.setDisk (scene.world.disk.erase place) },
          stands && !place.isPrefixOf home⟩

abbrev Lapses (home : Location) : Watch → Watch → Prop := Relation.ReflTransGen (Lapse home)

/-- What holds in every scene: the directory that was prepared is private as long as it stands, and
one that was made in its place has the usual mode. -/
structure Watched (config : DownloadConfig) (base : Location) (watch : Watch) : Prop where
  keeps : watch.scene.manager.downloader.config = config
  quiet : watch.scene.world.Quiet
  alone : watch.scene.world.network.Alone
  tree : watch.scene.world.disk.IsTree
  linkFree : watch.scene.world.disk.LinkFree
  workingDirectory : watch.scene.world.disk.workingDirectory = base
  informed : Downloader.Informed config watch.scene.task
  standing : watch.stands = true → watch.scene.world.disk.get? (Disk.placeOf base config.directory) =
    some (.directory Disk.privateDirectoryMode)
  fallen : watch.stands = false → ∀ mode, watch.scene.world.disk.get?
    (Disk.placeOf base config.directory) = some (.directory mode) → mode = Disk.directoryMode

/-- Keeping the policy makes no links and changes the mode of no directory. -/
theorem replaced_steady {place : Option Path} (tree : disk.IsTree) (linkFree : disk.LinkFree)
    (replaced : Relation.ReflTransGen (Replaced place) disk after) :
    after.IsTree ∧ after.LinkFree ∧ after.workingDirectory = disk.workingDirectory ∧
      Disk.Steady home disk after := by
  induction replaced with
  | refl => exact ⟨tree, linkFree, rfl, .refl disk⟩
  | @tail middle after _ step ih =>
      obtain ⟨still, free, base, steady⟩ := ih
      obtain ⟨path, bytes, -, rfl⟩ := step
      obtain ⟨made, digs, exchanged⟩ := Disk.replaceFile_exchanged still free path bytes
      exact ⟨exchanged.tree, exchanged.linkFree (digs.changes.linkFree free),
        exchanged.workingDirectory.trans (digs.changes.workingDirectory.trans base),
        steady.trans (.replaceFile still free path bytes)⟩

section

variable {base : Location} {watch later : Watch}

/-- What keeps the modes of directories keeps the watch. -/
theorem Watched.of_steady {scene : Scene} (watched : Watched config base watch)
    (kept : scene.manager.downloader.config = config) (quiet : scene.world.Quiet)
    (alone : scene.world.network.Alone) (tree : scene.world.disk.IsTree)
    (linkFree : scene.world.disk.LinkFree) (there : scene.world.disk.workingDirectory = base)
    (informed : Downloader.Informed config scene.task)
    (steady : Disk.Steady (Disk.placeOf base config.directory) watch.scene.world.disk
      scene.world.disk) : Watched config base ⟨scene, watch.stands⟩ where
  keeps := kept
  quiet := quiet
  alone := alone
  tree := tree
  linkFree := linkFree
  workingDirectory := there
  informed := informed
  standing stands := steady.kept _ (watched.standing stands)
  fallen gone mode found := (steady.new mode found).elim (watched.fallen gone mode) id

/-- Nothing that happens takes the watch away. -/
theorem Lapse.watched (watched : Watched config base watch)
    (lapse : Lapse (Disk.placeOf base config.directory) watch later) :
    Watched config base later := by
  have still := watched
  obtain ⟨keeps, quiet, alone, tree, linkFree, there, informed, standing, fallen⟩ := watched
  cases lapse with
  | @call scene stands call =>
      obtain ⟨handed, leaves, -⟩ := begin_leaves scene.manager call quiet
      obtain ⟨whole, free, base_, steady⟩ := replaced_steady tree linkFree leaves.disk
      exact still.of_steady (leaves.config.trans keeps) (leaves.quiet quiet)
        (leaves.network ▸ alone) whole free (base_.trans there) informed steady
  | @check scene stands =>
      have moved : scene.world.Unmoved scene.check.world :=
        Checker.runSome_unmoved quiet alone 1 scene.manager.checker
      refine still.of_steady keeps (moved.quiet quiet) (moved.alone alone) ?_ ?_ ?_ informed ?_
      · exact moved.disk ▸ tree
      · exact moved.disk ▸ linkFree
      · exact moved.disk ▸ there
      · exact .of_same (congrArg (Disk.get? · _) moved.disk)
  | @turn scene stands next turn =>
      obtain ⟨calm, network, -⟩ := turn.quiet noteOutput_discreet quiet
      have told : Downloader.Informed scene.downloads.downloader.config scene.downloads.task :=
        keeps.symm ▸ informed
      obtain ⟨changes, steady, config_, informs⟩ :=
        turn.steady noteOutput_discreet quiet alone tree linkFree told
      have keeps_ : next.downloader.config = config := config_.trans keeps
      have place : Disk.placeOf scene.downloads.world.disk.workingDirectory
          scene.downloads.downloader.config.directory = Disk.placeOf base config.directory :=
        congrArg₂ Disk.placeOf there (congrArg DownloadConfig.directory keeps)
      rw [place] at steady
      rw [keeps_] at informs
      exact still.of_steady keeps_ calm (network ▸ alone) (changes.isTree tree)
        (changes.linkFree linkFree) (changes.workingDirectory.trans there) informs steady
  | time now clock => exact still.of_steady keeps quiet alone tree linkFree there informed (.refl _)
  | @removal scene stands place named =>
      have lookup := Disk.get?_erase scene.world.disk (Disk.placeOf base config.directory) named
      have removed : Disk.Change scene.world.disk (scene.world.disk.erase place) := .remove named
      refine ⟨keeps, quiet, alone, removed.isTree tree, removed.linkFree linkFree, there, informed,
        fun still => ?_, fun gone mode found => ?_⟩
      · rw [Bool.and_eq_true, Bool.not_eq_true', Bool.eq_false_iff, ne_eq,
          List.isPrefixOf_iff_prefix] at still
        exact (lookup.trans (if_neg still.2)).trans (standing still.1)
      · have found := lookup.symm.trans found
        split at found
        · cases found
        · rename_i aside
          refine fallen ?_ mode found
          rw [Bool.and_eq_false_iff, Bool.not_eq_false', List.isPrefixOf_iff_prefix] at gone
          exact gone.resolve_right aside

theorem Lapses.watched (watched : Watched config base watch)
    (lapses : Lapses (Disk.placeOf base config.directory) watch later) :
    Watched config base later := by
  induction lapses with
  | refl => exact watched
  | tail _ lapse ih => exact lapse.watched ih

/-- A transfer that commits leaves its artifact in the directory, which is the private one if that
still stands, and another one with the usual mode if not. -/
theorem Watched.commits {entry : Update × Artifact} (watched : Watched config base watch)
    (lapse : Lapse (Disk.placeOf base config.directory) watch later)
    (committed : later.scene.ledger = watch.scene.ledger ++ [entry]) :
    ∃ name, entry.2.path = Path.join config.directory name ∧
      (later.scene.world.disk.get? (Disk.placeOf base config.directory ++ [name])).isSome = true ∧
      later.scene.world.disk.get? (Disk.placeOf base config.directory) =
        some (.directory (if watch.stands then Disk.privateDirectoryMode else Disk.directoryMode)) := by
  cases lapse with
  | call | check | time | removal => simp [Scene.begin, Scene.check] at committed
  | @turn scene stands next turn =>
      obtain ⟨ticket, slot, size, task, artifact, renamed⟩ := turn.commits watched.quiet committed
      have informed := watched.informed
      rw [show scene.task = _ from task] at informed
      obtain ⟨name, named, rfl⟩ := Slot.ofVersion_eq_ok (informed.1 slot rfl)
      obtain ⟨home, node, leads, -, -, found, -, moved⟩ := Disk.rename_join_eq_ok
        (Slot.isName_staging named) named (Slot.staging_ne name) renamed
      have steady := Disk.Steady.rename watched.linkFree (Slot.isName_staging named) named
        (Slot.staging_ne name) renamed
      have there : Disk.placeOf scene.world.disk.workingDirectory config.directory =
          Disk.placeOf base config.directory :=
        congrArg (Disk.placeOf · config.directory) watched.workingDirectory
      obtain rfl : home = Disk.placeOf base config.directory :=
        (leads.eq_placeOf watched.linkFree).trans there
      obtain ⟨mode, held⟩ := Disk.isDirectoryAt_iff.mp leads.2
      refine ⟨name, congrArg Artifact.path artifact, ?_, ?_⟩
      · change (next.world.disk.get? _).isSome = true
        rw [moved, Disk.get?_erase_move _ _ (by simp) (by simp)
          (Disk.append_ne _ (Slot.staging_ne name)) (Disk.append_ne _ (Slot.staging_ne name).symm),
          if_pos (List.prefix_refl _), List.drop_length, List.append_nil, found]
        rfl
      · rw [there] at steady
        have after : next.world.disk.get? (Disk.placeOf base config.directory) =
            some (.directory mode) :=
          steady.kept mode held
        cases stands with
        | true =>
            cases held.symm.trans (watched.standing rfl)
            exact after
        | false =>
            obtain rfl := watched.fallen rfl mode held
            exact after

end

/-! ## Downloads that commit -/

theorem turns_lapses {scene : Scene} {next : Downloader.Scene} (stands : Bool)
    (turns : Downloader.Turns noteOutput scene.downloads next) :
    Lapses home ⟨scene, stands⟩ ⟨scene.follow next, stands⟩ := by
  induction turns with
  | refl => exact .refl
  | tail _ turn ih => exact ih.tail (.turn turn)

/-- A transfer that the downloader is about to run, and that delivers an artifact, comes to commit
it. -/
theorem fetch_commits {scene : Scene} {ticket : Nat} {update : Update} {artifact : Artifact}
    {after : World} (stands : Bool) (quiet : scene.world.Quiet) (resting : scene.task = .resting)
    (polled : scene.manager.downloader.worker.poll.running = some (ticket, .fetch update))
    (ran : Transfer.run scene.manager.downloader.config ticket update scene.world =
      (.ok artifact, after)) :
    ∃ watch next, Lapses home ⟨scene, stands⟩ watch ∧ Lapse home watch next ∧
      watch.stands = stands ∧ next.scene.ledger = watch.scene.ledger ++ [(update, artifact)] ∧
      next.scene.world = after := by
  have course := Transfer.course_run scene.manager.downloader.config ticket update quiet
  rw [ran] at course
  obtain ⟨stage, between, earlier, ongoing, stepped⟩ := course.last (by simp)
  obtain ⟨more, turns⟩ : ∃ more, Downloader.Turns noteOutput
      ⟨scene.manager.downloader.poll, .fetching ticket update .begun, scene.world, scene.ledger⟩
      ⟨scene.manager.downloader.poll, .fetching ticket update stage, between, more⟩ :=
    Downloader.course_turns noteOutput scene.ledger earlier
  let first : Downloader.Scene :=
    ⟨scene.manager.downloader.poll, .fetching ticket update stage, between, more⟩
  have taken : Downloader.Turns noteOutput scene.downloads first := by
    rw [Scene.downloads, resting]
    exact .head (.take polled) turns
  refine ⟨_, _, turns_lapses stands taken, .turn (.fetch ongoing), rfl, ?_, ?_⟩
  · exact congrArg (fun stepped => more ++ Downloader.commits update stepped.1) stepped
  · exact congrArg Prod.snd stepped

/-- The manager of the examples commits what is delivered to it, whether it finds its directory or it
has to make it. -/
theorem usual_commits {disk made : Disk} (stands : Bool)
    (creatable : Disk.makeDirectories "updates" disk = (.ok (), made))
    (usable : Transfer.Usable "updates" ["updates"] "upgate-update-1" made) :
    let update := Transfer.singleOctet "1" (by decide)
    let scene := (opening usual id (Transfer.worldOf disk Transfer.oneChunk)).begin
      (.download update)
    ∃ watch next entry, Lapses ["updates"] ⟨scene, stands⟩ watch ∧
      Lapse ["updates"] watch next ∧ watch.stands = stands ∧
      next.scene.ledger = watch.scene.ledger ++ [entry] := by
  intro update scene
  have quiet : (Transfer.worldOf disk Transfer.oneChunk).Quiet := rfl
  have ends := Transfer.Ends.run usual.downloader.config 0 update quiet
  obtain ⟨-, done⟩ := ends.begun slotOf_plain creatable usable Transfer.oneChunk_undisturbed
  have accepted : Transfer.Accepted usual.downloader.config.limit.toNat update.checksum
      Transfer.oneChunk.reply [7] := by
    refine ⟨some 1, _, rfl, ?_, rfl, by decide, rfl⟩
    intro announced same
    cases same
    decide
  rcases done with ⟨content, good, outcome⟩ | ⟨bad, -⟩
  · have ran : Transfer.run scene.manager.downloader.config 0 update scene.world =
        (.ok _, _) := Prod.ext outcome.1 rfl
    obtain ⟨watch, next, lapses, lapse, still, grown, -⟩ :=
      fetch_commits stands quiet rfl rfl ran
    exact ⟨watch, next, _, lapses, lapse, still, grown⟩
  · exact absurd accepted (bad [7])

/-! ## From the start -/

section

variable {runtime : Bool} {current : UInt32} {settings : Settings} {directory : Path}
  {store : PolicyStore} {world later : World} {manager : Manager}
  {arrange : List Path → List Path}

/-- The directory is private when a manager has started. -/
theorem start_watched (quiet : world.Quiet) (alone : world.network.Alone)
    (tree : world.disk.IsTree) (linkFree : world.disk.LinkFree)
    (below : Disk.placeOf world.disk.workingDirectory directory ≠ [])
    (started : start runtime current settings directory store world = (.ok manager, later)) :
    Watched (downloadConfig settings directory) world.disk.workingDirectory
      ⟨opening manager arrange later, true⟩ := by
  obtain ⟨disk, prepared, unmoved, -, -, -, config⟩ := start_ok quiet started
  obtain ⟨made, home, digs, located, inside, changed, rfl⟩ :=
    Disk.makePrivateDirectory_eq_ok prepared
  have free := digs.changes.linkFree linkFree
  have place := (Disk.Leads.of_locate located inside).eq_placeOf free
  rw [digs.changes.workingDirectory] at place
  subst place
  have change := Disk.setMode_change changed
  have disk_eq : later.disk =
      made.put (Disk.placeOf world.disk.workingDirectory directory) _ := unmoved.disk
  refine ⟨config, unmoved.quiet quiet, unmoved.alone alone, ?_, ?_, ?_, trivial, fun _ => ?_, nofun⟩
  · exact disk_eq ▸ change.isTree (digs.changes.isTree tree)
  · exact disk_eq ▸ change.linkFree free
  · change later.disk.workingDirectory = _
    rw [disk_eq, change.workingDirectory, digs.changes.workingDirectory]
  · change later.disk.get? (Disk.placeOf world.disk.workingDirectory directory) = _
    rw [disk_eq, Disk.get?_put _ _ _ below, if_pos rfl]

/-- When the directory into which an artifact is committed is private. A manager starts on a disk
without links, and others do nothing but remove entries: then at whatever moment a transfer commits,
its artifact lies in the download directory, and that directory is private if the one that was
prepared at the start still stands. If that was removed since, it has the usual mode. -/
theorem committed_private_iff (quiet : world.Quiet) (alone : world.network.Alone)
    (tree : world.disk.IsTree) (linkFree : world.disk.LinkFree)
    (below : Disk.placeOf world.disk.workingDirectory directory ≠ [])
    (started : start runtime current settings directory store world = (.ok manager, later))
    {watch next : Watch} {entry : Update × Artifact}
    (lapses : Lapses (Disk.placeOf world.disk.workingDirectory directory)
      ⟨opening manager arrange later, true⟩ watch)
    (lapse : Lapse (Disk.placeOf world.disk.workingDirectory directory) watch next)
    (committed : next.scene.ledger = watch.scene.ledger ++ [entry]) :
    ∃ name, entry.2.path = Path.join directory name ∧
      (next.scene.world.disk.get? (Disk.placeOf world.disk.workingDirectory directory ++
        [name])).isSome = true ∧
      next.scene.world.disk.get? (Disk.placeOf world.disk.workingDirectory directory) =
        some (.directory (if watch.stands then Disk.privateDirectoryMode else Disk.directoryMode)) :=
  (Lapses.watched (start_watched quiet alone tree linkFree below started) lapses).commits lapse
    committed

end

/-- A directory that nobody removes stays private. -/
theorem committed_private_iff_kept : ∃ manager later watch next entry,
    start true 1 .default "updates" (.memory .default)
        (Transfer.worldOf privateDisk Transfer.oneChunk) = (.ok manager, later) ∧
      Lapses ["updates"] ⟨opening manager id later, true⟩ watch ∧ Lapse ["updates"] watch next ∧
      next.scene.ledger = watch.scene.ledger ++ [entry] ∧
      next.scene.world.disk.get? ["updates"] = some (.directory Disk.privateDirectoryMode) := by
  have creatable := Disk.makeDirectories_of_located
    (Disk.locate_directory privateDisk_leads (by decide)) (by decide)
  obtain ⟨watch, next, entry, lapses, lapse, stands, grown⟩ :=
    usual_commits true creatable usable_plain
  have place : Disk.placeOf privateDisk.workingDirectory "updates" = ["updates"] := by decide
  have history : Lapses ["updates"]
      ⟨opening usual id (Transfer.worldOf privateDisk Transfer.oneChunk), true⟩ watch :=
    .head (.call _) lapses
  refine ⟨usual, _, watch, next, entry, start_usual _, history, lapse, grown, ?_⟩
  rw [← place] at history lapse ⊢
  obtain ⟨name, -, -, mode⟩ := committed_private_iff rfl worldOf_alone privateDisk_isTree
    privateDisk_linkFree (place ▸ List.cons_ne_nil _ _) (start_usual _) history lapse grown
  rw [stands, if_pos rfl] at mode
  exact mode

/-- Where the directory was removed, a download makes it. -/
theorem makeDirectories_updates :
    Disk.makeDirectories "updates" (privateDisk.erase ["updates"]) =
      (.ok (), Transfer.bareDisk) := by
  have ancestors : Path.ancestors "updates" = ["updates", ""] := by decide
  have pieces : Path.pieces "updates" = ["updates"] := by decide
  have text : Disk.checkText "updates" = .ok () := by decide
  have starts : Disk.origin [] "updates" = [] := by decide
  have base : (privateDisk.erase ["updates"]).workingDirectory = [] := rfl
  have short : Disk.isTooLong "updates" = false := by decide
  have vacant : (privateDisk.erase ["updates"]).get? ["updates"] = none := by decide
  have unlocked : (privateDisk.erase ["updates"]).isSealed [] = false := rfl
  have made : (privateDisk.erase ["updates"]).makeDirectory "updates" = .ok Transfer.bareDisk := by
    simp [Disk.makeDirectory, Disk.place, Disk.walk, Disk.Place.locate, pieces, text, starts, base,
      short, vacant, unlocked]
    rfl
  rw [Disk.makeDirectories, ancestors, Disk.makeDirectoriesUpTo_of_parent rfl (by simp [made])]
  simp [Disk.makeLast, made]

/-- One that is removed after the start is made anew, and is private no more. -/
theorem committed_beside_private : ∃ manager later watch next entry,
    start true 1 .default "updates" (.memory .default)
        (Transfer.worldOf privateDisk Transfer.oneChunk) = (.ok manager, later) ∧
      Lapses ["updates"] ⟨opening manager id later, true⟩ watch ∧ Lapse ["updates"] watch next ∧
      next.scene.ledger = watch.scene.ledger ++ [entry] ∧
      next.scene.world.disk.get? ["updates"] = some (.directory Disk.directoryMode) ∧
      Disk.directoryMode ≠ Disk.privateDirectoryMode := by
  have usable : Transfer.Usable "updates" ["updates"] "upgate-update-1" Transfer.bareDisk :=
    ⟨by decide, by decide, by decide, Transfer.bareDisk_isTree,
      .of_name (by decide) (by decide) rfl (by decide), by decide, by decide, by decide⟩
  obtain ⟨watch, next, entry, lapses, lapse, stands, grown⟩ := usual_commits false makeDirectories_updates usable
  have place : Disk.placeOf privateDisk.workingDirectory "updates" = ["updates"] := by decide
  have history : Lapses ["updates"]
      ⟨opening usual id (Transfer.worldOf privateDisk Transfer.oneChunk), true⟩ watch :=
    .head (.removal (List.cons_ne_nil _ _)) (.head (.call _) lapses)
  refine ⟨usual, _, watch, next, entry, start_usual _, history, lapse, grown, ?_, by decide⟩
  have opened : Watched (downloadConfig .default "updates") privateDisk.workingDirectory
      ⟨opening usual id (Transfer.worldOf privateDisk Transfer.oneChunk), true⟩ :=
    start_watched rfl worldOf_alone privateDisk_isTree privateDisk_linkFree
      (place ▸ List.cons_ne_nil _ _) (start_usual Transfer.oneChunk)
  rw [← place] at history lapse ⊢
  obtain ⟨name, -, -, mode⟩ := (Lapses.watched opened history).commits lapse grown
  rw [stands] at mode
  exact mode

end Manager

end SelfUpdate
