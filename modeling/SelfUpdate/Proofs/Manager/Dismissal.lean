import SelfUpdate.Proofs.Manager.Counterparts
import SelfUpdate.Proofs.Manager.Persistence

/-!
# Dismissals are advice

Two managers may differ in the dismissal, in memory and in the policy file, and either may be asked for
dismissals that the other is not asked for. While all else that happens to both is the same, nothing that
they answer, ask for, hand over or leave in the download directory differs. This needs the folder of the
policy file to be there: a dismissal that makes the folder can make a path lead somewhere.
-/

namespace SelfUpdate

variable {config : DownloadConfig} {home : Location} {hidden : Option Location}

namespace Downloader

variable {one other : Scene}

theorem Side.isIdle (side : Side config home hidden one other) : other.isIdle = one.isIdle := by
  obtain ⟨downloader, task, world, ledger⟩ := one
  obtain ⟨downloaderToo, taskToo, worldToo, ledgerToo⟩ := other
  obtain ⟨same, -, -, outline, -⟩ := side
  cases task with
  | fetching => cases taskToo <;> first | rfl | cases outline
  | resting | sweeping | closing =>
      obtain rfl := Task.eq_of_outline outline (by simp)
      rw [Scene.isIdle, Scene.isIdle, same]

/-- What turns the one can take the other can take, too. -/
theorem Side.exists_turn (side : Side config home hidden one other)
    {note : DownloadOutput → Effect Unit} {next : Scene} (turn : Turn note one next) :
    ∃ nextToo, Turn note other nextToo := by
  rw [exists_turn_iff, side.isIdle]
  exact (exists_turn_iff note one).mp ⟨next, turn⟩

end Downloader

namespace Manager

variable {one other next nextToo later laterToo scene : Scene}

/-! ## Runs -/

/-- What happens to a manager. -/
inductive Event where
  | call (call : Call)
  /-- The checker does its next job. -/
  | check
  /-- The downloader takes its next turn. -/
  | turn
  /-- Time passes, and others make directories read-only or writable. -/
  | elapse (now clock : Int64) (sealedDirectories : List Location)
  deriving DecidableEq, Repr

def Event.isDismissal : Event → Bool
  | .call begun => begun.isDismissal
  | _ => false

/-- What is answered at once to a call that is no dismissal. -/
def Event.answer? (scene : Scene) : Event → Option Pending
  | .call begun =>
    if begun.isDismissal then none else some (begun.begin scene.manager scene.world).1.1
  | _ => none

inductive Step : Scene → Event → Scene → Prop where
  | call {scene : Scene} (call : Call) : Step scene (.call call) (scene.begin call)
  | check {scene : Scene} : Step scene .check scene.check
  | turn {scene : Scene} {next : Downloader.Scene}
      (turn : Downloader.Turn noteOutput scene.downloads next) :
      Step scene .turn (scene.follow next)
  | elapse {scene : Scene} {now clock : Int64} {sealedDirectories : List Location} :
      Step scene (.elapse now clock sealedDirectories) (scene.elapse now clock sealedDirectories)

/-- What happens to a manager one after another, and what it answers at once. -/
inductive Runs : Scene → List Event → List Pending → Scene → Prop where
  | done {scene : Scene} : Runs scene [] [] scene
  | step {scene next later : Scene} {event : Event} {events : List Event} {answers : List Pending}
      (step : Step scene event next) (onward : Runs next events answers later) :
      Runs scene (event :: events) ((event.answer? scene).toList ++ answers) later

/-! ## Two runs -/

/-- What managers have in common that differ in a dismissal. -/
structure Agree (home : Location) (one other : Scene) : Prop where
  /-- All that they hold but the dismissal and the store. -/
  manager : other.manager.undismissed = one.manager.undismissed
  replies : ∀ pending, other.manager.reply pending = one.manager.reply pending
  requests : other.world.requests = one.world.requests
  handedOver : other.world.handedOver = one.world.handedOver
  ledger : other.ledger = one.ledger
  listing : other.world.disk.children home = one.world.disk.children home
  files : ∀ location, home <+: location →
    (other.world.disk.get? location).map Node.face = (one.world.disk.get? location).map Node.face
  isIdle : other.downloads.isIdle = one.downloads.isIdle

namespace Counterparts

variable {event : Event}

theorem agree (counterparts : Counterparts config home hidden one other) :
    Agree home one other where
  manager := counterparts.undismissed
  replies pending := by
    have blind (manager : Manager) : manager.undismissed.reply pending = manager.reply pending := by
      cases pending <;> rfl
    rw [← blind, counterparts.undismissed, blind]
  requests := counterparts.worlds.queried.requests.trans (List.append_nil _)
  handedOver := counterparts.worlds.queried.handedOver
  ledger := counterparts.side.ledger
  listing := by
    have likeness := counterparts.worlds.likeness
    rw [← likeness.left.children, ← likeness.right.children, likeness.same]
  files location within := by
    have likeness := counterparts.worlds.likeness
    have aside : hidden ≠ some location := fun held => likeness.left.outside _ held within
    rw [← Disk.get?_veil_of_ne likeness.left.named aside,
      ← Disk.get?_veil_of_ne likeness.right.named aside, likeness.same]
  isIdle := counterparts.side.isIdle

theorem answer?_same (counterparts : Counterparts config home hidden one other) (event : Event) :
    event.answer? other = event.answer? one := by
  cases event with
  | call call => rw [Event.answer?, Event.answer?, counterparts.begin_same]
  | _ => rfl

/-- What can happen to the one can happen to the other. -/
theorem exists_step (counterparts : Counterparts config home hidden one other)
    (step : Step one event next) : ∃ nextToo, Step other event nextToo := by
  cases step with
  | call call => exact ⟨_, .call call⟩
  | check => exact ⟨_, .check⟩
  | turn turn =>
      obtain ⟨nextToo, turnToo⟩ := counterparts.side.exists_turn turn
      exact ⟨_, .turn turnToo⟩
  | elapse => exact ⟨_, .elapse⟩

/-- The same step leaves both alike. -/
theorem step (counterparts : Counterparts config home hidden one other) (step : Step one event next)
    (stepToo : Step other event nextToo) : Counterparts config home hidden next nextToo := by
  cases step with
  | call call =>
      cases stepToo
      exact counterparts.begin call
  | check =>
      cases stepToo
      exact counterparts.check
  | turn turn =>
      cases stepToo with
      | turn turnToo => exact counterparts.turn turn turnToo
  | elapse =>
      cases stepToo
      exact counterparts.elapse _ _ _

/-- A dismissal that the one is asked for leaves them alike, and is the only step it can be. -/
theorem step_dismissal (counterparts : Counterparts config home hidden one other)
    (dismissal : event.isDismissal = true) :
    ∃ middle, Counterparts config home hidden middle other ∧ event.answer? one = none ∧
      ∀ next, Step one event next ↔ next = middle := by
  cases event with
  | call call =>
      refine ⟨one.begin call, counterparts.dismissal dismissal, if_pos dismissal, fun next => ?_⟩
      constructor
      · rintro ⟨⟩
        rfl
      · rintro rfl
        exact .call call
  | _ => cases dismissal

/-- Dismissals that the other is asked for first make no difference. -/
theorem catch_up (counterparts : Counterparts config home hidden one other) {early : List Event}
    (dismissals : ∀ event ∈ early, event.isDismissal = true) :
    ∃ middle, Counterparts config home hidden one middle ∧ ∀ events answers later,
      Runs other (early ++ events) answers later ↔ Runs middle events answers later := by
  induction early generalizing other with
  | nil => exact ⟨other, counterparts, fun _ _ _ => .rfl⟩
  | cons event early ih =>
      obtain ⟨first, rest⟩ := List.forall_mem_cons.mp dismissals
      obtain ⟨after, passed, silent, only⟩ := counterparts.symm.step_dismissal first
      obtain ⟨middle, caught, same⟩ := ih passed.symm rest
      refine ⟨middle, caught, fun events answers later => ?_⟩
      rw [← same, List.cons_append]
      constructor
      · intro runs
        cases runs with
        | step step onward =>
            rw [silent]
            rwa [(only _).mp step] at onward
      · intro onward
        have runs := Runs.step ((only _).mpr rfl) onward
        rwa [silent] at runs

end Counterparts

/-- Of two managers that are counterparts, either may be asked for dismissals that the other is not asked
for. What else happens to the one can happen to the other, and then they answer the same at once and
later, and agree in all but the dismissal. -/
theorem dismissal_advisory {events eventsToo : List Event} {answers : List Pending}
    (counterparts : Counterparts config home hidden one other) (runs : Runs one events answers later)
    (same : (eventsToo.filter fun event => !event.isDismissal) =
      events.filter fun event => !event.isDismissal) :
    (∃ answersToo laterToo, Runs other eventsToo answersToo laterToo) ∧
      ∀ answersToo laterToo, Runs other eventsToo answersToo laterToo →
        answersToo = answers ∧ Agree home later laterToo := by
  induction runs generalizing other eventsToo with
  | done =>
      have dismissals : ∀ event ∈ eventsToo, event.isDismissal = true := by
        simpa [List.filter_eq_nil_iff] using same
      obtain ⟨middle, caught, only⟩ := counterparts.catch_up dismissals
      have only := only []
      simp only [List.append_nil] at only
      refine ⟨⟨_, _, (only _ _).mpr .done⟩, fun answersToo laterToo runsToo => ?_⟩
      cases (only _ _).mp runsToo
      exact ⟨rfl, caught.agree⟩
  | @step scene next later event events answers step onward ih =>
      cases dismissal : event.isDismissal with
      | true =>
          obtain ⟨middle, passed, silent, only⟩ := counterparts.step_dismissal dismissal
          obtain rfl := (only _).mp step
          rw [List.filter_cons_of_neg (by simp [dismissal])] at same
          rw [silent]
          exact ih passed same
      | false =>
          rw [List.filter_cons_of_pos (by simp [dismissal]), List.filter_eq_cons_iff] at same
          obtain ⟨early, rest, rfl, dismissals, -, same⟩ := same
          obtain ⟨middle, caught, only⟩ :=
            counterparts.catch_up fun event listed => by simpa using dismissals event listed
          simp only [only]
          constructor
          · obtain ⟨nextToo, stepToo⟩ := caught.exists_step step
            obtain ⟨⟨answersToo, laterToo, onwardToo⟩, -⟩ := ih (caught.step step stepToo) same
            exact ⟨_, laterToo, .step stepToo onwardToo⟩
          · intro answersToo laterToo runsToo
            cases runsToo with
            | step stepToo onwardToo =>
                obtain ⟨rfl, agree⟩ := (ih (caught.step step stepToo) same).2 _ _ onwardToo
                exact ⟨by rw [caught.answer?_same], agree⟩

/-! ## Two managers of which one has dismissed a release -/

/-- A manager at rest that keeps its policy beside the download directory. -/
def keeping (dismissed : Option UInt32) (disk : Disk) : Scene where
  manager := { usualAt "policy.json" with policy := { Policy.default with dismissed := dismissed } }
  task := .resting
  world := Transfer.worldOf disk Transfer.oneChunk
  ledger := []

theorem fileIn_root : Disk.FileIn "policy.json" "" "policy.json" :=
  ⟨by decide, by decide, by decide, by decide⟩

theorem keeping_keeps {disk : Disk} (root : disk.workingDirectory = []) :
    Disk.Keeps ["updates"] disk (some "policy.json") (some ["policy.json"]) := by
  have way : (disk.unlinked ["updates"]).Leads "" [] := leads_root root
  exact .file fileIn_root way

theorem privateDisk_veiled : Disk.Veiled (some ["policy.json"]) privateDisk where
  tree := privateDisk_isTree
  fresh := by simp [Disk.Fresh, privateDisk, Node.identity?]
  free := by
    rintro place ⟨⟩
    exact .of_vacant (by decide)
  inside := by
    rintro place ⟨⟩
    rfl

theorem privateDisk_beside :
    privateDisk.Beside "updates" ["updates"] (some ["policy.json"]) :=
  privateDisk_veiled.beside privateDisk_linkFree (by decide)
    (.of_name (by decide) (by decide) rfl (by decide))
    (fun name present => by simp [privateDisk, Transfer.bareDisk, Disk.get?] at present)
    (by rintro place ⟨⟩; decide)

theorem storedDisk_likeness (bytes : Bytes) :
    Transfer.Likeness (downloadConfig .default "updates") ["updates"] (some ["policy.json"])
      privateDisk (storedDisk bytes) := by
  have keeps : Disk.Keeps ["updates"] privateDisk (some "policy.json") (some ["policy.json"]) :=
    keeping_keeps rfl
  obtain ⟨leaves, same⟩ :=
    keeps.replaceFile privateDisk_beside.toVeiled privateDisk_beside.outside bytes
  rw [replaceFile_privateDisk] at leaves same
  exact ⟨privateDisk_beside, leaves.beside privateDisk_beside, same.symm⟩

theorem keeping_counterparts (dismissed : Option UInt32) (bytes : Bytes) :
    Counterparts (downloadConfig .default "updates") ["updates"] (some ["policy.json"])
      (keeping none privateDisk) (keeping dismissed (storedDisk bytes)) :=
  .of_resting (keeping none privateDisk).manager (keeping dismissed privateDisk).manager
    (Transfer.worldOf privateDisk Transfer.oneChunk) [] rfl rfl rfl (fun _ => List.Subset.refl _)
    rfl worldOf_alone .root (storedDisk_likeness bytes) (keeping_keeps rfl) (keeping_keeps rfl)

/-- The twin has a dismissal, and has kept it. One of the two is asked for another before a cleanup, and
the other for none after it. -/
theorem dismissal_advisory_keeping :
    let bytes := Text.encode { Policy.default with dismissed := some 3 }.fileText
    let events := [.call (.dismiss 7), .call .cleanUp, .turn, .elapse 0 1 [[]], .call .check]
    let eventsToo := [.call .cleanUp, .call .clearDismissal, .turn, .elapse 0 1 [[]], .call .check]
    ((eventsToo.filter fun event : Event => !event.isDismissal) =
      events.filter fun event : Event => !event.isDismissal) ∧
    ∃ answers later laterToo, Runs (keeping none privateDisk) events answers later ∧
      Runs (keeping (some 3) (storedDisk bytes)) eventsToo answers laterToo ∧
      Agree ["updates"] later laterToo := by
  intro bytes events eventsToo
  have same : (eventsToo.filter fun event : Event => !event.isDismissal) =
      events.filter fun event : Event => !event.isDismissal :=
    rfl
  let busy := ((keeping none privateDisk).begin (.dismiss 7)).begin .cleanUp
  obtain ⟨next, turn⟩ : ∃ next, Downloader.Turn noteOutput busy.downloads next :=
    (Downloader.exists_turn_iff _ _).mpr rfl
  have runs : Runs (keeping none privateDisk) events _ _ :=
    .step (.call _) (.step (.call _) (.step (.turn turn) (.step .elapse (.step (.call _) .done))))
  obtain ⟨⟨answersToo, laterToo, runsToo⟩, agree⟩ :=
    dismissal_advisory (keeping_counterparts (some 3) bytes) runs same
  obtain ⟨rfl, agrees⟩ := agree _ _ runsToo
  exact ⟨same, _, _, laterToo, runs, runsToo, agrees⟩

/-! ## A dismissal that makes a folder -/

/-- A download directory with an artifact, and nothing beside it. -/
def artifactDisk : Disk := { privateDisk with
  entries := privateDisk.entries ++ [(["updates", "a-1"], .file 0 Disk.fileMode [7])]
  freshIdentity := 1 }

/-- The disk once the folder of the policy file was made. -/
def folderDisk : Disk := { artifactDisk with
  entries := artifactDisk.entries ++ [(["data"], .directory Disk.directoryMode)] }

theorem makeDirectories_data : Disk.makeDirectories "data" artifactDisk = (.ok (), folderDisk) := by
  have ancestors : Path.ancestors "data" = ["data", ""] := by decide
  have pieces : Path.pieces "data" = ["data"] := by decide
  have text : Disk.checkText "data" = .ok () := by decide
  have starts : Disk.origin [] "data" = [] := by decide
  have base : artifactDisk.workingDirectory = [] := rfl
  have short : Disk.isTooLong "data" = false := by decide
  have vacant : artifactDisk.get? ["data"] = none := by decide
  have unlocked : artifactDisk.isSealed [] = false := rfl
  have made : artifactDisk.makeDirectory "data" = .ok folderDisk := by
    simp [Disk.makeDirectory, Disk.place, Disk.walk, Disk.Place.locate, pieces, text, starts, base,
      short, vacant, unlocked]
    rfl
  rw [Disk.makeDirectories, ancestors, Disk.makeDirectoriesUpTo_of_parent rfl (by simp [made])]
  simp [Disk.makeLast, made]

theorem fileIn_data : Disk.FileIn "data/policy.json" "data" "policy.json" :=
  ⟨by decide, by decide, by decide, by decide⟩

theorem folderDisk_isTree : folderDisk.IsTree := .of_entries (by decide) (by decide)

theorem folderDisk_leads : folderDisk.Leads "data" ["data"] :=
  .of_name (by decide) (by decide) rfl (by decide)

theorem replaceFile_artifactDisk (bytes : Bytes) :
    Disk.replaceFile "data/policy.json" bytes artifactDisk =
      (.ok (), folderDisk.replaced ["data", "policy.json"] bytes) := by
  have parent : Path.parent? "data/policy.json" = some "data" := by decide
  have some_ : "data".isEmpty = false := by decide
  have located : folderDisk.locate "data" = .ok ["data"] :=
    Disk.locate_directory folderDisk_leads (by decide)
  have later := Disk.replaceFile_eq_replaced fileIn_data folderDisk_isTree folderDisk_leads
    (.of_vacant (by decide)) rfl bytes
  have exchanged := fileIn_data.replaceFile_eq_exchange folderDisk_leads bytes
  rw [Disk.replaceFile_eq, parent]
  simp only [Failing.bind_run, Failing.get_run, makeDirectories_data, some_, located]
  exact exchanged.symm.trans later

theorem pieces_astray : Path.pieces "data/../updates/a-1" = ["data", "..", "updates", "a-1"] := by
  decide

theorem locate_artifactDisk : artifactDisk.locate "data/../updates/a-1" = .error .notFound := by
  have text : Disk.checkText "data/../updates/a-1" = .ok () := by decide
  have starts : Disk.origin [] "data/../updates/a-1" = [] := by decide
  have base : artifactDisk.workingDirectory = [] := rfl
  have short : Disk.isTooLong "data" = false := by decide
  have vacant : artifactDisk.get? ["data"] = none := by decide
  simp [Disk.locate, Disk.spot, Disk.walk, pieces_astray, text, starts, base, short, vacant]

/-- The disk once a policy was kept in the folder. -/
def keptDisk (bytes : Bytes) : Disk := folderDisk.replaced ["data", "policy.json"] bytes

theorem keptDisk_isTree (bytes : Bytes) : (keptDisk bytes).IsTree := by
  have tree : artifactDisk.IsTree := .of_entries (by decide) (by decide)
  have kept := Disk.replaceFile_isTree tree "data/policy.json" bytes
  rwa [replaceFile_artifactDisk] at kept

theorem keptDisk_chooses (bytes : Bytes) :
    Chooses "updates" (keptDisk bytes) "data/../updates/a-1" "/updates/a-1" := by
  have folder : (keptDisk bytes).get? ["updates"] =
    some (.directory Disk.privateDirectoryMode) := rfl
  have data : (keptDisk bytes).get? ["data"] = some (.directory Disk.directoryMode) := rfl
  have file : (keptDisk bytes).get? ["updates", "a-1"] = some (.file 0 Disk.fileMode [7]) := rfl
  have base : Disk.OfNames (keptDisk bytes).workingDirectory := .root
  have tree := keptDisk_isTree bytes
  have home : (keptDisk bytes).locate "updates" = .ok ["updates"] :=
    Disk.locate_directory (.of_name (by decide) (by decide) rfl rfl) (by decide)
  have located : (keptDisk bytes).locate "data/../updates/a-1" = .ok ["updates", "a-1"] := by
    refine Disk.locate_eq_ok_iff.mpr ⟨by decide, Disk.greatestLinkCount, ?_⟩
    rw [pieces_astray]
    refine .into rfl (by decide) (by decide) data nofun (.up rfl ?_)
    exact .into rfl (by decide) (by decide) folder nofun
      (.into rfl (by decide) (by decide) file nofun (.here _ _))
  have canonical : (keptDisk bytes).locate (Disk.pathOf ["updates", "a-1"]) =
      .ok ["updates", "a-1"] :=
    Disk.locate_pathOf tree (Disk.ofNames_of_locate base located) (by decide) (by decide)
      (by rw [file]; rfl) (by rw [file]; nofun)
  have path : Disk.pathOf ["updates", "a-1"] = "/updates/a-1" := by decide
  have last : Path.fileName? "data/../updates/a-1" = some "a-1" := by decide
  have committed : isStagingName "data/../updates/a-1" = false := by
    rw [← Bool.not_eq_true, isStagingName_iff last]
    decide
  rw [← path]
  refine (chooses_iff tree base).mpr ⟨committed, ?_, ["updates"], "a-1",
    ⟨home, located, 0, Disk.fileMode, [7], file⟩, rfl⟩
  rw [Disk.isFile, Disk.node?, canonical]
  exact congrArg (Option.any Node.isFile) file

/-- A manager whose policy file lies in a folder that is not there yet. -/
def homeless : Scene where
  manager := usualAt "data/policy.json"
  task := .resting
  world := Transfer.worldOf artifactDisk Transfer.oneChunk
  ledger := []

theorem start_homeless : start true 1 .default "updates" (.file "data/policy.json") homeless.world =
    (.ok homeless.manager, homeless.world) := by
  have pieces : Path.pieces "data/policy.json" = ["data", "policy.json"] := by decide
  have text : Disk.checkText "data/policy.json" = .ok () := by decide
  have starts : Disk.origin [] "data/policy.json" = [] := by decide
  have base : artifactDisk.workingDirectory = [] := rfl
  have short : Disk.isTooLong "data" = false := by decide
  have vacant : artifactDisk.get? ["data"] = none := by decide
  have missing : artifactDisk.locate "data/policy.json" = .error .notFound := by
    simp [Disk.locate, Disk.spot, Disk.walk, pieces, text, starts, base, short, vacant]
  exact start_usualAt (makePrivateDirectory_updates rfl rfl rfl) missing _

/-- What installing comes to, once it is known which file is chosen. -/
theorem runs_install {scene : Scene} {artifact : Path} {file? : Option Path}
    (chooses : ∀ file, Chooses scene.manager.directory scene.world.disk artifact file ↔
      file? = some file) (willing : scene.world.installer = .willing) :
    ∃ later, Runs scene [.call (.install artifact)] [.nothing (.dispatched file?.isSome)] later ∧
      later.world.handedOver = scene.world.handedOver ++
        (file?.map (InstallRequest.mk · scene.manager.settings.mediaType)).toList := by
  obtain ⟨handed, given, only, accepted⟩ :=
    requestInstall_run artifact scene.manager scene.world
  obtain rfl : handed = file?.map (InstallRequest.mk · scene.manager.settings.mediaType) := by
    refine Option.ext fun request => ?_
    rw [only, chooses, Option.map_eq_some_iff]
    constructor
    · rintro ⟨chosen, mediaType⟩
      exact ⟨_, chosen, by rw [← mediaType]⟩
    · rintro ⟨file, chosen, rfl⟩
      exact ⟨chosen, rfl⟩
  have answer : (requestInstall artifact scene.manager scene.world).1.1 = file?.isSome := by
    rw [Bool.eq_iff_iff, accepted, willing, Option.isSome_iff_exists]
    simp [Installer.willing]
  have answers : ((Event.call (.install artifact)).answer? scene).toList ++ [] =
      [.nothing (.dispatched file?.isSome)] := by
    rw [← answer]
    rfl
  have step : Step scene (.call (.install artifact)) _ := .call _
  have runs := Runs.step step .done
  rw [answers] at runs
  exact ⟨_, runs, given.handedOver⟩

/-- Where the folder of the policy file is missing a dismissal makes it, and then a path through it
leads to an artifact. -/
theorem dismissal_makes_way :
    let install := Event.call (.install "data/../updates/a-1")
    start true 1 .default "updates" (.file "data/policy.json") homeless.world =
        (.ok homeless.manager, homeless.world) ∧
      (∃ later, Runs homeless [install] [.nothing (.dispatched false)] later ∧
        later.world.handedOver = []) ∧
      ∃ later, Runs homeless [.call (.dismiss 7), install] [.nothing (.dispatched true)] later ∧
        later.world.handedOver = [⟨"/updates/a-1", Settings.default.mediaType⟩] := by
  intro install
  let dismissed := homeless.begin (.dismiss 7)
  have quiet : homeless.world.Quiet := rfl
  have queried : homeless.world.Queried [] dismissed.world :=
    begin_queried _ _ _ (by simp)
  obtain ⟨bytes, kept⟩ : ∃ bytes, dismissed.world.disk = keptDisk bytes := by
    have disk : dismissed.world.disk =
        (homeless.manager.saved homeless.world (.dismissed (some 7))).disk :=
      @begin_disk homeless.manager _ quiet (.dismiss 7)
    have same : homeless.world.disk = artifactDisk := rfl
    rw [saved_disk rfl, same, replaceFile_artifactDisk] at disk
    exact ⟨_, disk⟩
  have refused (file : Path) :
      Chooses homeless.manager.directory homeless.world.disk "data/../updates/a-1" file ↔
        none = some file := by
    constructor
    · intro chooses
      have canonical := chooses.canonical
      have astray : homeless.world.disk.locate "data/../updates/a-1" = _ := locate_artifactDisk
      rw [Disk.canonical, astray] at canonical
      cases canonical
    · intro chosen
      cases chosen
  have chosen (file : Path) :
      Chooses dismissed.manager.directory dismissed.world.disk "data/../updates/a-1" file ↔
        some "/updates/a-1" = some file := by
    have chooses := keptDisk_chooses bytes
    rw [kept, Option.some.injEq]
    constructor
    · intro again
      exact Except.ok.inj (chooses.canonical.symm.trans again.canonical)
    · rintro rfl
      exact chooses
  obtain ⟨without, runs, nothing⟩ := runs_install refused rfl
  obtain ⟨later, runsToo, handedOver⟩ := runs_install chosen queried.installer
  refine ⟨start_homeless, ⟨without, runs, nothing⟩, later, .step (.call _) runsToo, ?_⟩
  rw [handedOver, queried.handedOver]
  rfl

end Manager

end SelfUpdate
