import SelfUpdate.Proofs.Download.Parallels
import SelfUpdate.Proofs.Requests

/-!
# Downloaders abreast

Two downloaders with the same jobs, in worlds that differ in nothing but a hidden place, the identities
of files and what was recorded, take the same turns. What the one has answered the other has, too.
-/

namespace SelfUpdate

open Transfer

variable {config : DownloadConfig} {home : Location} {hidden : Option Location} {update : Update}
  {name : String} {disk : Disk} {world one other : World} {path : Path}
  {report : CleanupReport}

/-! ## Worlds -/

/-- After requests that were the same, what was the same is still so. -/
theorem World.Queried.abreast {asked : List Request} {oneAfter otherAfter : World}
    (same : one.Queried [] other) (first : one.Queried asked oneAfter)
    (second : other.Queried asked otherAfter) : oneAfter.Queried [] otherAfter where
  requests := by
    rw [second.requests, first.requests, same.requests, List.append_nil, List.append_nil]
  network := by rw [second.network, first.network, same.network]
  now := by rw [second.now, first.now, same.now]
  clock := by rw [second.clock, first.clock, same.clock]
  installer := by rw [second.installer, first.installer, same.installer]
  handedOver := by rw [second.handedOver, first.handedOver, same.handedOver]

theorem World.Queried.symm (same : one.Queried [] other) : other.Queried [] one where
  requests := by rw [same.requests, List.append_nil, List.append_nil]
  network := same.network.symm
  now := same.now.symm
  clock := same.clock.symm
  installer := same.installer.symm
  handedOver := same.handedOver.symm

theorem World.Alike.queried (alike : one.Alike other) : one.Queried [] other :=
  ⟨by rw [alike.requests, List.append_nil], alike.network, alike.now, alike.clock,
    alike.installer, alike.handedOver⟩

/-- Worlds that differ in nothing but a hidden place, the identities of files and what was recorded. -/
structure Abreast (config : DownloadConfig) (home : Location) (hidden : Option Location)
    (one other : World) : Prop where
  quiet : one.Quiet
  quietToo : other.Quiet
  alone : one.network.Alone
  queried : one.Queried [] other
  likeness : Likeness config home hidden one.disk other.disk

namespace Abreast

/-- Two effects that ask the same keep worlds abreast when the disks stay alike. -/
theorem after (abreast : Abreast config home hidden one other) {asked : List Request}
    {oneAfter otherAfter : World} (first : one.Queried asked oneAfter)
    (second : other.Queried asked otherAfter) (quiet : oneAfter.Quiet) (quietToo : otherAfter.Quiet)
    (likeness : Likeness config home hidden oneAfter.disk otherAfter.disk) :
    Abreast config home hidden oneAfter otherAfter where
  quiet := quiet
  quietToo := quietToo
  alone := by
    rw [first.network]
    exact abreast.alone
  queried := abreast.queried.abreast first second
  likeness := likeness

theorem symm (abreast : Abreast config home hidden one other) :
    Abreast config home hidden other one where
  quiet := abreast.quietToo
  quietToo := abreast.quiet
  alone := by
    rw [abreast.queried.network]
    exact abreast.alone
  queried := abreast.queried.symm
  likeness := abreast.likeness.symm

end Abreast

namespace Downloader

variable {note : DownloadOutput → Effect Unit} {downloader : Downloader} {task : Task}
  {ledger : List (Update × Artifact)}

/-! ## Sweeping -/

theorem account_map (report : CleanupReport) (path : Path) (change : Disk → Disk)
    (result : Except IoError Disk) :
    account report path (result.map change) = account report path result := by
  cases result with
  | ok disk => rfl
  | error error => cases error <;> rfl

theorem sweep_onlyFiles (quiet : world.Quiet)
    (beside : world.disk.Beside config.directory home hidden) (named : Path.isName name = true)
    (report : CleanupReport) :
    Disk.OnlyFiles home hidden world.disk
      (Cleanup.removeFiles report [Path.join config.directory name] world).2.disk := by
  rw [(sweep_outcome quiet report _).2.2]
  split
  · cases removed : world.disk.removeFile (Path.join config.directory name) with
    | error error => exact .refl beside.toVeiled home
    | ok after => exact beside.removeFile_onlyFiles named removed
  · exact .refl beside.toVeiled home

/-- On disks that look alike a file is swept away from both or stays on both. -/
theorem sweep_abreast (abreast : Abreast config home hidden one other)
    (named : Path.isName name = true) (report : CleanupReport) :
    (Cleanup.removeFiles report [Path.join config.directory name] other).1 =
        (Cleanup.removeFiles report [Path.join config.directory name] one).1 ∧
      Abreast config home hidden (Cleanup.removeFiles report [Path.join config.directory name] one).2
        (Cleanup.removeFiles report [Path.join config.directory name] other).2 := by
  have likeness := abreast.likeness
  have quiet := abreast.quiet
  have quietToo := abreast.quietToo
  obtain ⟨alike, outcome⟩ := sweep_outcome quiet report (Path.join config.directory name)
  obtain ⟨alikeToo, outcomeToo⟩ := sweep_outcome quietToo report (Path.join config.directory name)
  have isFile : other.disk.isFile (Path.join config.directory name) =
      one.disk.isFile (Path.join config.directory name) := by
    rw [← likeness.left.isFile (likeness.left.clearOf named),
      ← likeness.right.isFile (likeness.right.clearOf named), likeness.same]
  have agree := likeness.removeFile named
  have isVeiled (result : Except IoError Disk) (disk : Disk) :
      (result.toOption.getD disk).veil hidden =
        (result.map (Disk.veil hidden)).toOption.getD (disk.veil hidden) := by
    cases result <;> rfl
  constructor
  · rw [outcome.1, outcomeToo.1, isFile, ← account_map _ _ (Disk.veil hidden), ← agree, account_map]
  · refine abreast.after alike.queried alikeToo.queried (alike.quiet quiet) (alikeToo.quiet quietToo)
      ⟨(sweep_onlyFiles quiet likeness.left named report).beside likeness.left,
        (sweep_onlyFiles quietToo likeness.right named report).beside likeness.right, ?_⟩
    rw [outcome.2, outcomeToo.2, isFile]
    split
    · rw [isVeiled, isVeiled, agree, likeness.same]
    · exact likeness.same

/-! ## Scenes -/

/-- What a downloader is at, whichever file it writes to. -/
def Task.outline : Task → Task
  | .fetching ticket update stage => .fetching ticket update stage.outline
  | task => task

/-- What holds of a task while nobody else acts in the directory. -/
def Tends (config : DownloadConfig) (home : Location) (disk : Disk) : Task → Prop
  | .fetching _ update stage => Engaged config home update disk stage
  | .sweeping _ paths => ∀ path ∈ paths, ∃ name, Path.isName name = true ∧
      path = Path.join config.directory name
  | _ => True

/-- Two downloaders at the same, abreast. -/
structure Side (config : DownloadConfig) (home : Location) (hidden : Option Location)
    (one other : Scene) : Prop where
  downloader : other.downloader = one.downloader
  keeps : one.downloader.config = config
  arrange : ∀ paths, one.downloader.arrange paths ⊆ paths
  task : other.task.outline = one.task.outline
  ledger : other.ledger = one.ledger
  worlds : Abreast config home hidden one.world other.world
  tends : Tends config home one.world.disk one.task
  tendsToo : Tends config home other.world.disk other.task

theorem Side.symm {one other : Scene} (side : Side config home hidden one other) :
    Side config home hidden other one where
  downloader := side.downloader.symm
  keeps := by
    rw [side.downloader]
    exact side.keeps
  arrange := by
    rw [side.downloader]
    exact side.arrange
  task := side.task.symm
  ledger := side.ledger.symm
  worlds := side.worlds.symm
  tends := side.tendsToo
  tendsToo := side.tends

/-- Whether a downloader has nothing to do. -/
def Scene.isIdle (scene : Scene) : Bool :=
  match scene.task with
  | .resting => scene.downloader.worker.poll.running.isNone
  | _ => false

theorem exists_turn_iff (note : DownloadOutput → Effect Unit) (scene : Scene) :
    (∃ next, Turn note scene next) ↔ scene.isIdle = false := by
  obtain ⟨downloader, task, world, ledger⟩ := scene
  constructor
  · rintro ⟨next, turn⟩
    cases turn with
    | take polled => rw [Scene.isIdle, polled]; rfl
    | fetch | fetched | sweep | swept | close => rfl
  · intro busy
    by_cases resting : task = .resting
    · subst resting
      rw [Scene.isIdle] at busy
      cases polled : downloader.worker.poll.running with
      | none => simp [polled] at busy
      | some taken => exact ⟨_, .take polled⟩
    · exact exists_turn note downloader resting world ledger

theorem commits_outline (update : Update) (stage : Stage) :
    commits update stage.outline = commits update stage := by
  cases stage <;> rfl

theorem Task.eq_of_outline {twin : Task} (same : twin.outline = task.outline)
    (idle : ∀ ticket update stage, task ≠ .fetching ticket update stage) : twin = task := by
  cases task with
  | fetching ticket update stage => exact absurd rfl (idle ticket update stage)
  | _ => cases twin <;> first | exact same | cases same

theorem Task.fetching_of_outline {ticket : Nat} {update : Update} {stage : Stage} {twin : Task}
    (same : twin.outline = (Task.fetching ticket update stage).outline) :
    ∃ other, twin = .fetching ticket update other ∧ other.outline = stage.outline := by
  cases twin with
  | fetching ticketToo updateToo other =>
      simp only [Task.outline, Task.fetching.injEq] at same
      obtain ⟨rfl, rfl, same⟩ := same
      exact ⟨other, rfl, same⟩
  | _ => cases same

theorem Tends.begin (arrange : ∀ paths, downloader.arrange paths ⊆ paths)
    (beside : disk.Beside downloader.config.directory home hidden) (ticket : Nat)
    (job : DownloadJob) :
    Tends downloader.config home disk (downloader.begin ticket disk job) := by
  cases job with
  | fetch update => exact .begun _ _ _ _
  | clean =>
      rw [Downloader.begin, beginSweep, beside.list]
      intro path member
      obtain ⟨name, child, rfl⟩ := List.mem_map.mp (arrange _ member)
      exact ⟨name, beside.entries name (Disk.mem_children_iff.mp child), rfl⟩

theorem begin_same (likeness : Likeness downloader.config home hidden one.disk other.disk)
    (ticket : Nat) (job : DownloadJob) :
    downloader.begin ticket other.disk job = downloader.begin ticket one.disk job := by
  cases job with
  | fetch update => rfl
  | clean =>
      rw [Downloader.begin, Downloader.begin, beginSweep, beginSweep, likeness.left.list,
        likeness.right.list, ← likeness.left.children, ← likeness.right.children, likeness.same]

theorem conclude_same (note : DownloadOutput → Effect Unit)
    (result : Except (Halt DownloadError) DownloadOutput) (one other : World) :
    (conclude note result other).1 = (conclude note result one).1 := by
  rcases result with (error | _) | output <;> rfl

theorem basis_queried (same : one.Queried [] other) {stage twin : Stage}
    (outline : twin.outline = stage.outline) (update : Update) :
    (stage.basis update one).Queried [] (twin.basis update other) := by
  cases stage with
  | emptied slot =>
      obtain rfl := Stage.eq_of_outline outline (by simp)
      have asked (world : World) : world.Queried [.stream update.url] (world.asked update.url) :=
        ⟨rfl, rfl, rfl, rfl, rfl, rfl⟩
      exact same.abreast (asked one) (asked other)
  | _ => cases twin <;> first | exact same | cases outline

theorem basis_quiet (quiet : world.Quiet) (stage : Stage) (update : Update) :
    (stage.basis update world).Quiet := by
  cases stage <;> exact quiet

theorem basis_network (world : World) (stage : Stage) (update : Update) :
    (stage.basis update world).network = world.network := by
  cases stage <;> rfl

theorem fetch_side {stage twin : Stage} {ticket : Nat}
    (worlds : Abreast downloader.config home hidden one other)
    (arrange : ∀ paths, downloader.arrange paths ⊆ paths)
    (engaged : Engaged downloader.config home update one.disk stage)
    (engagedToo : Engaged downloader.config home update other.disk twin)
    (outline : twin.outline = stage.outline) (ledger : List (Update × Artifact)) :
    Side downloader.config home hidden
      ⟨downloader, .fetching ticket update (step downloader.config ticket update stage one).1,
        (step downloader.config ticket update stage one).2,
        ledger ++ commits update (step downloader.config ticket update stage one).1⟩
      ⟨downloader, .fetching ticket update (step downloader.config ticket update twin other).1,
        (step downloader.config ticket update twin other).2,
        ledger ++ commits update (step downloader.config ticket update twin other).1⟩ := by
  have likeness := worlds.likeness
  have alone := worlds.alone.stream one.requests update.url
  obtain ⟨move, alike⟩ := step_move downloader.config ticket update worlds.quiet stage
  obtain ⟨moveToo, alikeToo⟩ := step_move downloader.config ticket update worlds.quietToo twin
  rw [worlds.queried.network, worlds.queried.requests, List.append_nil] at moveToo
  obtain ⟨outlines, same⟩ := move.parallel alone likeness engaged engagedToo outline moveToo
  obtain ⟨only, later⟩ := move.engaged alone likeness.left engaged
  obtain ⟨onlyToo, laterToo⟩ := moveToo.engaged alone likeness.right engagedToo
  refine ⟨rfl, rfl, arrange, by rw [Task.outline, Task.outline, outlines], ?_, ?_, later, laterToo⟩
  · dsimp only
    rw [← commits_outline, outlines, commits_outline]
  · refine ⟨alike.quiet (basis_quiet worlds.quiet stage update),
      alikeToo.quiet (basis_quiet worlds.quietToo twin update), ?_,
      (basis_queried worlds.queried outline update).abreast alike.queried alikeToo.queried,
      only.beside likeness.left, onlyToo.beside likeness.right, same⟩
    dsimp only
    rw [alike.network, basis_network]
    exact worlds.alone

theorem conclude_abreast (discreet : Discreet note)
    (worlds : Abreast config home hidden one other)
    (result : Except (Halt DownloadError) DownloadOutput) :
    Abreast config home hidden (conclude note result one).2 (conclude note result other).2 := by
  obtain ⟨alike, disk⟩ := conclude_run discreet worlds.quiet result
  obtain ⟨alikeToo, diskToo⟩ := conclude_run discreet worlds.quietToo result
  refine worlds.after alike.queried alikeToo.queried (alike.quiet worlds.quiet)
    (alikeToo.quiet worlds.quietToo) ?_
  rw [disk, diskToo]
  exact worlds.likeness

/-- Whatever turn a downloader takes, the one beside it takes it, too. -/
theorem Turn.side (discreet : Discreet note) {one other next nextToo : Scene}
    (side : Side config home hidden one other) (turn : Turn note one next)
    (turnToo : Turn note other nextToo) : Side config home hidden next nextToo := by
  obtain ⟨downloader, task, world, ledger⟩ := one
  obtain ⟨downloaderToo, taskToo, worldToo, ledgerToo⟩ := other
  obtain ⟨same, rfl, arrange, outline, ledgers, worlds, tends, tendsToo⟩ := side
  dsimp only at same arrange outline ledgers worlds tends tendsToo
  subst same ledgers
  have likeness := worlds.likeness
  cases turn with
  | take polled =>
      obtain rfl := Task.eq_of_outline outline (by simp)
      cases turnToo with
      | take polledToo =>
          cases polled.symm.trans polledToo
          exact ⟨rfl, rfl, arrange, congrArg Task.outline (begin_same likeness _ _), rfl, worlds,
            .begin arrange likeness.left _ _, .begin arrange likeness.right _ _⟩
  | @fetch _ ticket update stage _ _ ongoing =>
      obtain ⟨twin, rfl, stages⟩ := Task.fetching_of_outline outline
      cases turnToo with
      | fetch => exact fetch_side worlds arrange tends tendsToo stages ledgerToo
      | fetched =>
          cases stage with
          | ended result => exact absurd rfl (ongoing result)
          | _ => cases stages
  | @fetched _ ticket update _ result =>
      obtain ⟨twin, rfl, stages⟩ := Task.fetching_of_outline outline
      obtain rfl := Stage.eq_of_outline stages (by simp)
      cases turnToo with
      | fetch ongoing => exact absurd rfl (ongoing result)
      | fetched => exact ⟨rfl, rfl, arrange, rfl, rfl, worlds, trivial, trivial⟩
  | @sweep _ report path =>
      obtain rfl := Task.eq_of_outline outline (by simp)
      cases turnToo with
      | sweep =>
          obtain ⟨name, named, rfl⟩ := tends path List.mem_cons_self
          obtain ⟨reported, swept⟩ := sweep_abreast worlds named report
          have rest := fun other listed => tends other (List.mem_cons_of_mem _ listed)
          exact ⟨rfl, rfl, arrange, by rw [reported], rfl, swept, rest, rest⟩
  | swept =>
      obtain rfl := Task.eq_of_outline outline (by simp)
      cases turnToo with
      | swept => exact ⟨rfl, rfl, arrange, rfl, rfl, worlds, trivial, trivial⟩
  | @close _ result =>
      obtain rfl := Task.eq_of_outline outline (by simp)
      cases turnToo with
      | close =>
          exact ⟨by rw [conclude_same note result world worldToo], rfl, arrange, rfl, rfl,
            conclude_abreast discreet worlds result, trivial, trivial⟩

/-- Whatever turn a downloader takes, it keeps to the files of its directory. -/
theorem Side.onlyFiles (discreet : Discreet note) {one other next : Scene}
    (side : Side config home hidden one other) (turn : Turn note one next) :
    Disk.OnlyFiles home hidden one.world.disk next.world.disk := by
  obtain ⟨downloader, task, world, ledger⟩ := one
  obtain ⟨-, keeps, -, -, -, worlds, tends, -⟩ := side
  obtain rfl : downloader.config = config := keeps
  have beside := worlds.likeness.left
  have same := Disk.OnlyFiles.refl beside.toVeiled home
  cases turn with
  | take polled => exact same
  | @fetch _ ticket update stage _ _ ongoing =>
      obtain ⟨move, -⟩ := step_move downloader.config ticket update worlds.quiet stage
      exact (move.engaged (worlds.alone.stream world.requests update.url) beside tends).1
  | fetched => exact same
  | @sweep _ report path =>
      obtain ⟨name, named, rfl⟩ := tends path List.mem_cons_self
      exact sweep_onlyFiles worlds.quiet beside named report
  | swept => exact same
  | @close _ result =>
      rw [(conclude_run discreet worlds.quiet result).2]
      exact same

end Downloader

end SelfUpdate
