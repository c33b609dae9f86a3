import SelfUpdate.Proofs.CommandLine.Runs

/-!
# Runs one after another

Each run is a process of its own: all that a download learns from the checks before it is in the
file of the last release. So it transfers the release that was recorded last, whatever later checks
found and whatever build asks for it, and nothing is transferred before a release was recorded.
-/

namespace SelfUpdate.CommandLine

open Disk World

variable {directories : Directories} {base : Location} {start disk : Disk} {found : Option Update}
  {world : World} {update : Update} {invocation : Invocation}

/-! ## Histories -/

/-- A run: its arguments, and the world in which it begins. -/
structure Process where
  arguments : List String
  world : World

namespace Process

/-- A process has requests and a log of its own, and nobody else acts on the disk meanwhile. -/
structure Fresh (process : Process) : Prop where
  requests : process.world.requests = []
  sink : process.world.sink = .unset
  alone : process.world.network.Alone

section

variable (directories : Directories) (process : Process)

def outcome : Outcome := (run directories process.arguments process.world).1

/-- The world that a process leaves. -/
def after : World := (run directories process.arguments process.world).2

/-- The outcome of the check that a process completes. -/
def completed? : Option CheckOutcome :=
  match parse process.arguments with
  | .ok invocation => invocation.completed? directories process.world
  | .error _ => none

/-- The update that a process records. -/
def recorded? : Option Update :=
  CommandLine.recorded? (process.completed? directories) (process.outcome directories)

/-- A process that fails without any request. -/
def FailsSilently : Prop :=
  (process.after directories).requests = [] ∧ (process.outcome directories).exitCode = 1

/-- A process that asks for the artifact of an update, and for nothing else. -/
def Transfers (update : Update) : Prop :=
  (process.after directories).requests = [.stream update.url]

end

variable {process : Process}

theorem completed?_of_parse (parsed : parse process.arguments = .ok invocation) :
    process.completed? directories = invocation.completed? directories process.world := by
  rw [completed?, parsed]

/-- What a process has recorded is newer than the build that it was started for. -/
theorem recorded?_newer (recorded : process.recorded? directories = some update) :
    ∃ invocation, parse process.arguments = .ok invocation ∧ invocation.current < update.code := by
  have completed := recorded?_eq_some recorded
  cases parsed : parse process.arguments with
  | error refusal =>
      rw [completed?, parsed] at completed
      cases completed
  | ok invocation =>
      rw [completed?_of_parse parsed] at completed
      exact ⟨invocation, rfl, invocation.completed?_newer completed⟩

/-- What a process that checks finds is recorded when its file can be replaced. -/
theorem records {manager after : Manager} {ready later : World} {force verbose : Bool}
    {current : UInt32}
    (parsed : parse process.arguments = .ok ⟨current, verbose, .check force⟩)
    (starts : opened directories ⟨current, verbose, .check force⟩ process.world =
      (.ok manager, ready))
    (asked : asks force manager ready = ((.ok (some (.updateAvailable update)), after), later))
    (replaced : replaceFile directories.lastReleaseFile (Text.encode update.toJson.indented)
      later.disk = (.ok (), disk)) (quiet : later.Quiet) :
    process.completed? directories = some (.updateAvailable update) ∧
      process.recorded? directories = some update ∧ (process.after directories).disk = disk := by
  obtain ⟨text, ran⟩ := runInvocation_records starts asked replaced
  have completed : process.completed? directories = some (.updateAvailable update) := by
    rw [completed?_of_parse parsed, Invocation.completed?_of_opened starts]
    simp only [Command.completed?, asked]
    rfl
  refine ⟨completed, ?_, ?_⟩
  · rw [recorded?, completed, outcome, run_of_parse parsed, ran]
    rfl
  · have still : (later.setDisk disk).Quiet := quiet
    rw [Process.after, run_of_parse parsed, ran]
    exact (Manager.shutDown_disk still after).trans (World.disk_setDisk later disk)

/-- A process that downloads asks for the release that was recorded, when it can be fetched. -/
theorem transfers {manager : Manager} {ready : World} {verbose : Bool} {current : UInt32}
    {artifact : DownloadOutput} (fresh : process.Fresh)
    (parsed : parse process.arguments = .ok ⟨current, verbose, .download⟩)
    (starts : opened directories ⟨current, verbose, .download⟩ process.world = (.ok manager, ready))
    (recorded : update.IsRecorded ready.disk directories.lastReleaseFile)
    (fetched : (Manager.perform (.fetch update) manager ready).1.1.2 = .ok artifact) :
    process.Transfers directories update := by
  have begins := opened_begins starts
  have silent : ready.requests = [] := by
    have silent := (@opened_silent directories ⟨current, verbose, .download⟩).requests process.world
    rw [starts, fresh.requests] at silent
    exact silent
  have asks := Manager.perform_fetch_asks begins.settled begins.accepting update ready
  have downloads := @download_recorded directories manager ready update
    (loadRelease_recorded recorded) ""
  rw [Transfers, Process.after, run_of_parse parsed, runInvocation_run, starts]
  dsimp only
  rw [runCommand_run, perform, downloads]
  generalize Manager.perform (.fetch update) manager ready = ended at asks fetched ⊢
  obtain ⟨⟨⟨ticket, result⟩, after⟩, later⟩ := ended
  obtain ⟨outcome, text, prints⟩ := reportDownload_prints (ticket, result) "" after later
  dsimp only at asks fetched ⊢
  rw [prints]
  rcases asks with ⟨-, error, failed⟩ | once
  · cases fetched.symm.trans failed
  · rw [silent] at once
    cases outcome <;> exact (Manager.shutDown_silent after later).trans once

end Process

/-- The last thing that some of the processes found. -/
def latest? {α : Type} (find? : Process → Option α) (past : List Process) : Option α :=
  (past.filterMap find?).getLast?

theorem latest?_concat {α : Type} (find? : Process → Option α) (past : List Process)
    (process : Process) :
    latest? find? (past ++ [process]) = (find? process).or (latest? find? past) := by
  rw [latest?, latest?, List.filterMap_append, List.getLast?_append, List.filterMap_cons]
  cases find? process <;> rfl

theorem latest?_singleton {α : Type} (find? : Process → Option α) (process : Process) :
    latest? find? [process] = find? process :=
  (latest?_concat find? [] process).trans Option.or_none

theorem mem_of_latest? {α : Type} {find? : Process → Option α} {past : List Process} {a : α}
    (latest : latest? find? past = some a) : ∃ process ∈ past, find? process = some a :=
  List.mem_filterMap.mp (List.mem_of_getLast? latest)

/-- The disks to which processes lead, one after another. -/
inductive Reached (directories : Directories) (start : Disk) : List Process → Disk → Prop where
  | start : Reached directories start [] start
  | run {past : List Process} {process : Process} (fresh : process.Fresh)
      (reached : Reached directories start past process.world.disk) :
      Reached directories start (past ++ [process]) (process.after directories).disk

/-- A disk between runs: the log file is in its place and nowhere else, and the file of the last
release tells what it should. -/
structure Rests (directories : Directories) (base : Location) (found : Option Update)
    (disk : Disk) : Prop where
  plain : disk.Plain
  workingDirectory : disk.workingDirectory = base
  sole : Log.Sole directories base disk
  remembers : directories.Remembers base disk found

variable {past : List Process} {process : Process}

namespace Rests

theorem of_holds (holds : (remembering directories base found).Holds world) :
    Rests directories base found world.disk :=
  ⟨holds.1.plain, holds.1.workingDirectory, holds.1.sole, holds.2⟩

/-- A process begins without a log. -/
theorem holds (rests : Rests directories base found process.world.disk) (fresh : process.Fresh) :
    (remembering directories base found).Holds process.world := by
  refine ⟨⟨rests.plain, rests.workingDirectory, fresh.alone, rests.sole, ?_⟩, rests.remembers⟩
  intro file sink
  cases fresh.sink.symm.trans sink

/-- After a process the file tells what the process has recorded, or what it told before. -/
theorem run (standard : directories.Standard)
    (rests : Rests directories base found process.world.disk) (fresh : process.Fresh) :
    Rests directories base ((process.recorded? directories).or found)
      (process.after directories).disk := by
  have holds := rests.holds fresh
  rw [Process.recorded?, Process.outcome, Process.after]
  cases parsed : parse process.arguments with
  | ok invocation =>
      rw [run_of_parse parsed, Process.completed?_of_parse parsed]
      exact .of_holds (runInvocation_remembers standard holds)
  | error refusal =>
      rw [Process.completed?, CommandLine.run, parsed]
      cases refusal <;> exact rests

theorem reached (standard : directories.Standard) (rests : Rests directories base none start)
    (reached : Reached directories start past disk) :
    Rests directories base (latest? (·.recorded? directories) past) disk := by
  induction reached with
  | start => exact rests
  | run fresh _ ih =>
      rw [latest?_concat]
      exact ih.run standard fresh

end Rests

/-! ## Where no log and no policy can be kept -/

/-- A disk on which the directories are there and the files that a process reads first are not, and
where no log file can be made. -/
structure Calm (directories : Directories) (disk : Disk) : Prop where
  ensured : directories.ensure disk = (.ok (), disk)
  prepared : makePrivateDirectory directories.downloads disk = (.ok (), disk)
  settings : disk.locate directories.settingsFile = .error .notFound
  policy : disk.locate directories.policyFile = .error .notFound
  log : disk.locate directories.logFile = .error .notFound
  unlogged : disk.openForWriting directories.logFile = .error .permissionDenied

/-- The manager with which a process begins there. -/
def beginner (directories : Directories) (current : UInt32) : Manager :=
  ⟨current, .default, directories.downloads, .default, .file directories.policyFile,
    .new Checker.name,
    ⟨Manager.downloadConfig .default directories.downloads, id, .new Downloader.name⟩⟩

theorem readText_missing {disk : Disk} {path : Path}
    (missing : disk.locate path = .error .notFound) : disk.readText path = .error .notFound := by
  rw [readText, readFile, missing]
  rfl

/-- A world in which only warnings are kept. -/
def warned (world : World) : World := { world with leastLevel := some .warn }

theorem Calm.load (calm : Calm directories world.disk) :
    Settings.load directories.settingsFile world = (.default, world) := by
  rw [Settings.load]
  simp only [Stateful.bind_run, Stateful.get_run, readText_missing calm.settings]
  rfl

theorem Calm.startLog (calm : Calm directories world.disk) (limit : UInt64) :
    Effect.startLog directories false limit world = ((), warned world) := by
  have made : Effect.ofSteps directories.ensure world = (.ok (), world) := by
    rw [Effect.ofSteps_run, calm.ensured]
    rfl
  have untrimmed (limit : Nat) :
      Effect.trimLogFile directories.logFile limit world = (false, world) := by
    rw [Effect.trimLogFile]
    simp only [Stateful.bind_run, Stateful.get_run, readFile, calm.log]
    rfl
  have undirected : Effect.directLogTo directories.logFile world = ((), world) := by
    rw [Effect.directLogTo, Stateful.bind_run, Effect.openLogFile]
    simp only [Stateful.bind_run, Stateful.get_run, calm.unlogged]
    rfl
  rw [Effect.startLog]
  simp only [Stateful.bind_run, made, untrimmed, undirected]
  rfl

theorem Calm.starts (calm : Calm directories world.disk) (current : UInt32) :
    Manager.start true current .default directories.downloads (.file directories.policyFile)
      (warned world) = (.ok (beginner directories current), warned world) := by
  have same : (warned world).disk = world.disk := rfl
  have prepares : Effect.preparePrivateDirectory directories.downloads (warned world) =
      (.ok (), warned world) := by
    rw [Effect.preparePrivateDirectory]
    simp only [Stateful.bind_run, Effect.ofSteps_run, same, calm.prepared]
    rfl
  have reads : (PolicyStore.file directories.policyFile).load (warned world) =
      (.ok .default, warned world) := by
    rw [PolicyStore.load, PolicyStore.loadFile]
    simp only [Stateful.bind_run, Stateful.get_run, same, readText_missing calm.policy]
    rfl
  rw [Manager.start]
  simp only [Stateful.bind_run, prepares, reads]
  rfl

/-- A process begins there with the default settings and the default policy, and keeps no log. -/
theorem opened_calm (calm : Calm directories world.disk)
    (current : UInt32) (command : Command) :
    opened directories ⟨current, false, command⟩ world =
      (.ok (beginner directories current), warned world) := by
  rw [opened]
  simp only [Stateful.bind_run, calm.load]
  have verbose : (Settings.default.debugLogging || false) = false := rfl
  simp only [verbose, calm.startLog]
  exact calm.starts current

/-! ## A check, and a download for a later build -/

/-- Directories beside each other where the process works. -/
def beside : Directories := ⟨"config", "cache", "data"⟩

theorem beside_standard : beside.Standard := by
  have rooted : Directories.rootedAt "" = beside := by decide
  exact rooted ▸ .rooted ""

theorem spot_vacant {disk : Disk} {folder name : String} {purpose : Purpose} {mode : Nat}
    (root : disk.workingDirectory = []) (named : Path.isName folder = true)
    (fileNamed : Path.isName name = true) (short : isTooLong folder = false)
    (fileShort : isTooLong name = false) (text : checkText (Path.join folder name) = .ok ())
    (inside : disk.get? [folder] = some (.directory mode))
    (vacant : disk.get? [folder, name] = none) :
    disk.spot purpose (Path.join folder name) = .ok (.vacant [folder] name) := by
  have pieces : Path.pieces (Path.join folder name) = [folder, name] := by
    rw [Path.pieces_join folder fileNamed, Path.stem_name named]
    rfl
  have start : origin disk.workingDirectory (Path.join folder name) = [] := by
    rw [origin_join _ _ fileNamed, origin, Path.isAbsolute_name named]
    exact root
  simp [spot, walk, pieces, start, text, short, fileShort, inside, vacant, isDirectoryAt,
    Node.isDirectory, endsInSlash, Path.ne_empty named, Path.ne_dot named,
    Path.ne_dots named, Path.ne_empty fileNamed, Path.ne_dot fileNamed, Path.ne_dots fileNamed]

/-- A disk with the directories of the updater, of which the one for data cannot be written. -/
def sealedData : Disk where
  entries := [(["config"], .directory directoryMode), (["cache"], .directory directoryMode),
    (["data"], .directory directoryMode), (["data", "updates"], .directory privateDirectoryMode)]
  freshIdentity := 0
  workingDirectory := []
  sealedDirectories := [["data"]]

/-- The disk once a release was recorded. -/
def sealedDataWith (bytes : Bytes) : Disk := { sealedData with
  entries := sealedData.entries ++ [(["cache", "last_release.json"], .file 0 privateFileMode bytes)]
  freshIdentity := 1 }

theorem leads_folder {disk : Disk} {folder : String} {mode : Nat}
    (root : disk.workingDirectory = []) (named : Path.isName folder = true)
    (short : isTooLong folder = false) (found : disk.get? [folder] = some (.directory mode)) : disk.Leads folder [folder] := by
  have inside : disk.isDirectoryAt (disk.workingDirectory ++ [folder]) = true := by
    rw [root]
    exact isDirectoryAt_iff.mpr ⟨mode, found⟩
  have base : disk.isDirectoryAt disk.workingDirectory = true := by
    rw [root]
    exact isDirectoryAt_root disk
  have leads := Leads.of_name named short base inside
  rwa [root] at leads

/-- What the disk has in either state. -/
structure Furnished (disk : Disk) : Prop where
  root : disk.workingDirectory = []
  config : disk.get? ["config"] = some (.directory directoryMode)
  cache : disk.get? ["cache"] = some (.directory directoryMode)
  data : disk.get? ["data"] = some (.directory directoryMode)
  downloads : disk.get? ["data", "updates"] = some (.directory privateDirectoryMode)
  settings : disk.get? ["config", "settings.json"] = none
  policy : disk.get? ["data", "update_policy.json"] = none
  log : disk.get? ["data", "debug.log"] = none
  locked : disk.isSealed ["data"] = true
  same : disk.put ["data", "updates"] (.directory privateDirectoryMode) = disk

namespace Furnished

variable {disk : Disk} {folder name : String} {mode : Nat}

theorem missing (furnished : Furnished disk) (named : Path.isName folder = true)
    (fileNamed : Path.isName name = true) (short : isTooLong folder = false)
    (fileShort : isTooLong name = false) (text : checkText (Path.join folder name) = .ok ())
    (inside : disk.get? [folder] = some (.directory mode))
    (vacant : disk.get? [folder, name] = none) :
    disk.locate (Path.join folder name) = .error .notFound := by
  rw [locate, spot_vacant furnished.root named fileNamed short fileShort text inside vacant]
  rfl

theorem updates (furnished : Furnished disk) :
    disk.Leads (Path.join "data" "updates") ["data", "updates"] :=
  Leads.join (leads_folder furnished.root (by decide) (by decide) furnished.data) (by decide)
    (by decide) (by decide) furnished.downloads

theorem calm (furnished : Furnished disk) : Calm beside disk := by
  have made {folder : String} (leads : disk.Leads folder [folder])
      (text : checkText (Path.join folder "a") = .ok ()) :
      makeDirectories folder disk = (.ok (), disk) :=
    makeDirectories_of_leads (by decide : Path.isName "a" = true) leads text
  have data := leads_folder furnished.root (by decide) (by decide) furnished.data
  refine ⟨?_, ?_, ?_, ?_, ?_, ?_⟩
  · have config := made
      (leads_folder furnished.root (by decide) (by decide) furnished.config) (by decide)
    have cache := made
      (leads_folder furnished.root (by decide) (by decide) furnished.cache) (by decide)
    rw [Directories.ensure]
    simp only [Failing.bind_run, beside, config, cache, made data (by decide)]
  · exact makePrivateDirectory_of_located (locate_directory furnished.updates (by decide))
      furnished.updates.2
      furnished.same
  · exact furnished.missing (by decide) (by decide) (by decide) (by decide) (by decide)
      furnished.config furnished.settings
  · exact furnished.missing (by decide) (by decide) (by decide) (by decide) (by decide)
      furnished.data furnished.policy
  · exact furnished.missing (by decide) (by decide) (by decide) (by decide) (by decide)
      furnished.data furnished.log
  · have spot := @spot_vacant disk "data" "debug.log" .creation _ furnished.root (by decide)
      (by decide) (by decide) (by decide) (by decide) furnished.data furnished.log
    rw [Directories.logFile, beside, openForWriting, spot, ok_bind]
    simp only [furnished.locked, if_true]
    rfl

end Furnished

theorem sealedData_furnished : Furnished sealedData :=
  ⟨rfl, by decide, by decide, by decide, by decide, by decide, by decide, by decide, by decide, rfl⟩

theorem sealedDataWith_furnished (bytes : Bytes) : Furnished (sealedDataWith bytes) := by
  refine ⟨rfl, ?_, ?_, ?_, ?_, ?_, ?_, ?_, rfl, rfl⟩ <;> simp [sealedDataWith, sealedData, get?]

theorem sealedData_plain : sealedData.Plain :=
  .of_entries (.of_entries (by decide) (by decide)) (by simp [sealedData]) (by decide)

theorem replaceFile_sealedData (bytes : Bytes) :
    replaceFile beside.lastReleaseFile bytes sealedData = (.ok (), sealedDataWith bytes) := by
  have cache := leads_folder rfl (by decide) (by decide) sealedData_furnished.cache
  have fresh : sealedData.unusedName ["cache"] = ".tmp0" := by decide
  have replaced := replaceFile_join (by decide : Path.isName "last_release.json" = true)
    (by decide) (by decide) cache (by decide) (by decide) (by decide) bytes
  rw [fresh] at replaced
  exact replaced

theorem replaceFile_sealedData_policy (bytes : Bytes) :
    (replaceFile beside.policyFile bytes sealedData).2 = sealedData := by
  have data := leads_folder rfl (by decide) (by decide) sealedData_furnished.data
  have rejected := replaceFile_join_sealed (by decide : Path.isName "update_policy.json" = true)
    (by decide) data (by decide) bytes
  exact congrArg Prod.snd rejected

/-- A server that announces an update, and delivers one octet as its artifact. -/
def announcing (update : Update) : Network :=
  ⟨fun _ _ => ⟨[], .body update.toJson.indented⟩, fun _ _ => Transfer.oneChunk⟩

theorem announcing_alone (update : Update) : (announcing update).Alone :=
  ⟨fun _ _ => rfl, fun _ _ => Transfer.oneChunk_undisturbed.alone⟩

def beginning (update : Update) (disk : Disk) : World :=
  { Transfer.worldOf disk Transfer.oneChunk with network := announcing update, sink := .unset }

theorem beginning_disk (update : Update) (disk : Disk) : (beginning update disk).disk = disk := rfl

/-- A check for a build with the lowest version code. -/
def checking (update : Update) : Process := ⟨["check", "--force"], beginning update sealedData⟩

/-- A download for a later build. -/
def downgrading (update : Update) : Process :=
  ⟨["--current-code", "200", "download"],
    beginning update ((checking update).after beside).disk⟩

theorem beginner_begins (current : UInt32) : Begins beside current (beginner beside current) := by
  have some_ : beside.downloads ≠ "" := by decide
  exact ⟨rfl, ⟨⟨.new _, .new _, rfl, some_⟩, rfl, rfl⟩, rfl, rfl, rfl, fun _ => List.Subset.refl _⟩

theorem parse_checking : parse ["check", "--force"] = .ok ⟨0, false, .check true⟩ := by
  decide +kernel

theorem parse_downgrading :
    parse ["--current-code", "200", "download"] = .ok ⟨200, false, .download⟩ := by
  decide +kernel

/-- A check finds what the server announces, and the disk stays as it is. -/
theorem beginner_checks {update : Update} {ready : World} (newer : 0 < update.code)
    (quiet : ready.Quiet) (network : ready.network = announcing update)
    (disk : ready.disk = sealedData) :
    ∃ after later,
      asks true (beginner beside 0) ready = ((.ok (some (.updateAvailable update)), after), later) ∧
        later.disk = sealedData ∧ later.Quiet := by
  have begins := beginner_begins 0
  have alone : ready.network.Alone := network ▸ announcing_alone update
  have secure : Url.isSecure (beginner beside 0).effectiveUrl = true := by decide
  have reported : (Manager.checkNow (beginner beside 0) ready).1.1 =
      .ok (.updateAvailable update) := by
    rw [Manager.checkNow_offered quiet begins.settled.checker rfl secure fun earlier => by
      rw [network]; rfl, Check.compare, begins.current, if_pos newer]
  obtain ⟨same, still⟩ := Manager.checkNow_disk quiet alone begins.settled fun path kept bytes => by
    obtain rfl : beside.policyFile = path := Option.some.inj kept
    rw [disk]
    exact replaceFile_sealedData_policy bytes
  rw [asks_forced, reported]
  exact ⟨_, _, rfl, same.trans disk, still⟩

/-- The process records what it finds. -/
theorem checking_ran {update : Update} (newer : 0 < update.code) :
    (checking update).completed? beside = some (.updateAvailable update) ∧
      (checking update).recorded? beside = some update ∧
      ((checking update).after beside).disk =
        sealedDataWith (Text.encode update.toJson.indented) := by
  have parsed : parse (checking update).arguments = .ok ⟨0, false, .check true⟩ := parse_checking
  have starts := @opened_calm beside (checking update).world sealedData_furnished.calm 0
    (.check true)
  obtain ⟨after, later, asked, disk, quiet⟩ :=
    @beginner_checks update (warned (checking update).world) newer rfl rfl rfl
  have replaced := replaceFile_sealedData (Text.encode update.toJson.indented)
  rw [← disk] at replaced
  exact Process.records parsed starts asked replaced quiet

theorem present_first : Text.isAllBlank "1" = false := by decide

/-- An update with version code 1. -/
def first : Update := Transfer.singleOctet "1" present_first

theorem slotOf_first (current : UInt32) :
    Transfer.slotOf (beginner beside current).downloader.config first =
      .ok (.named beside.downloads "upgate-update-1") := by
  have own : Transfer.slotOf (Manager.downloadConfig .default beside.downloads) first =
      .ok (.named beside.downloads "upgate-update-1") := by
    decide
  exact own

theorem usable_first (bytes : Bytes) :
    Transfer.Usable beside.downloads ["data", "updates"] "upgate-update-1"
      (sealedDataWith bytes) where
  named := by decide
  text := by decide
  short := by decide
  tree := by
    have kept := replaceFile_isTree sealedData_plain.tree beside.lastReleaseFile bytes
    rwa [replaceFile_sealedData] at kept
  leads := by
    have data : (Transfer.vacated (sealedDataWith bytes) ["data", "updates"] "upgate-update-1").get?
        ["data"] = some (.directory directoryMode) := by
      simp [Transfer.vacated, sealedDataWith, sealedData, get?, erase]
    have updates : (Transfer.vacated (sealedDataWith bytes) ["data", "updates"]
        "upgate-update-1").get? (["data"] ++ ["updates"]) =
          some (.directory privateDirectoryMode) := by
      simp [Transfer.vacated, sealedDataWith, sealedData, get?, erase]
    exact Leads.join (leads_folder rfl (by decide) (by decide) data) (by decide) (by decide)
      (by decide) updates
  unsealed := rfl
  stagingFree := by simp [isDirectoryAt, sealedDataWith, sealedData, get?]
  committedFree := by simp [isDirectoryAt, sealedDataWith, sealedData, get?]

/-- The artifact is fetched once the update was recorded. -/
theorem first_fetched (update : Update) (current : UInt32) (bytes : Bytes) :
    ∃ artifact, (Manager.perform (.fetch first) (beginner beside current)
      (warned (beginning update (sealedDataWith bytes)))).1.1.2 = .ok (.fetched artifact) := by
  have settled := (beginner_begins current).settled
  have creatable : makeDirectories beside.downloads (sealedDataWith bytes) =
      (.ok (), sealedDataWith bytes) :=
    makeDirectories_of_leads (by decide : Path.isName "a" = true)
      (sealedDataWith_furnished bytes).updates (by decide)
  have fits : 1 ≤ Settings.default.artifactLimit.toNat := by decide
  have accepted : Transfer.Accepted Settings.default.artifactLimit.toNat first.checksum
      Transfer.oneChunk.reply [7] := by
    refine ⟨some 1, _, rfl, ?_, rfl, fits, rfl⟩
    intro announced same
    cases same
    exact fits
  exact Manager.perform_fetches settled rfl rfl (slotOf_first current) creatable
    (usable_first bytes) Transfer.oneChunk_undisturbed accepted

theorem checking_fresh (update : Update) : (checking update).Fresh :=
  ⟨rfl, rfl, announcing_alone update⟩

theorem downgrading_fresh (update : Update) : (downgrading update).Fresh :=
  ⟨rfl, rfl, announcing_alone update⟩

theorem downgrading_reached (update : Update) :
    Reached beside sealedData [checking update] (downgrading update).world.disk := by
  rw [downgrading, beginning_disk]
  exact .run (checking_fresh update) .start

theorem sealedDataWith_recorded (update : Update) :
    update.IsRecorded (sealedDataWith (Text.encode update.toJson.indented))
      beside.lastReleaseFile := by
  have replaced := replaceFile_sealedData (Text.encode update.toJson.indented)
  have read := readFile_replaceFile sealedData_plain.tree
    (sealedData_plain.linkFree.straight_prepared beside.lastReleaseFile)
    (congrArg Prod.fst replaced)
  rwa [replaced] at read

/-- A download for a later build transfers the update nevertheless. -/
theorem downgrading_transfers : (downgrading first).Transfers beside first := by
  have parsed : parse (downgrading first).arguments = .ok ⟨200, false, .download⟩ :=
    parse_downgrading
  have newer : 0 < first.code := (by decide : (0 : UInt32) < 1)
  obtain ⟨-, -, disk⟩ := checking_ran newer
  have same : (downgrading first).world =
      beginning first (sealedDataWith (Text.encode first.toJson.indented)) :=
    congrArg (beginning first) disk
  have calm := (sealedDataWith_furnished (Text.encode first.toJson.indented)).calm
  have starts := @opened_calm beside
    (beginning first (sealedDataWith (Text.encode first.toJson.indented))) calm 200 .download
  rw [← same] at starts
  obtain ⟨artifact, fetched⟩ := first_fetched first 200 (Text.encode first.toJson.indented)
  rw [← same] at fetched
  refine Process.transfers (downgrading_fresh first) parsed starts ?_ fetched
  rw [same]
  exact sealedDataWith_recorded first

/-! ## Downloads after any runs -/

/-- The command line goes forward: a download fails without any request, or it transfers the release
that the last completed check has reported, and that release is newer than the build that asks. -/
def Forward (directories : Directories) (past : List Process) (current : UInt32)
    (process : Process) : Prop :=
  process.FailsSilently directories ∨
    ∃ update, latest? (·.completed? directories) past = some (.updateAvailable update) ∧
      process.Transfers directories update ∧ current < update.code

/-- After any runs a download transfers the release that was recorded last, or fails without any
request; and that release is newer than the build for which it was recorded. So the command line
goes forward where that release is what the last completed check has reported and is newer than the
build that asks. -/
theorem download_transfers_latest (standard : directories.Standard) (plain : start.Plain)
    (sole : Log.Sole directories start.workingDirectory start)
    (missing : start.identityAt? (directories.releasePlace start.workingDirectory) = none)
    (reached : Reached directories start past process.world.disk) (fresh : process.Fresh)
    {current : UInt32} {verbose : Bool}
    (parsed : parse process.arguments = .ok ⟨current, verbose, .download⟩) :
    let recorded := latest? (·.recorded? directories) past
    (process.FailsSilently directories ∨
      ∃ update, recorded = some update ∧ process.Transfers directories update) ∧
    (∀ update, recorded = some update → ∃ earlier ∈ past,
      earlier.recorded? directories = some update ∧
        ∃ invocation, parse earlier.arguments = .ok invocation ∧ invocation.current < update.code) ∧
    ((∀ update, recorded = some update →
      latest? (·.completed? directories) past = some (.updateAvailable update) ∧
        current < update.code) → Forward directories past current process) := by
  intro recorded
  have rests : Rests directories start.workingDirectory recorded process.world.disk :=
    .reached standard ⟨plain, rfl, sole, missing⟩ reached
  have ran := runInvocation_download (rests.holds fresh) standard
    (rfl : (⟨current, verbose, .download⟩ : Invocation).command = .download)
  rw [fresh.requests] at ran
  have transfers : process.FailsSilently directories ∨
      ∃ update, recorded = some update ∧ process.Transfers directories update := by
    simp only [Process.FailsSilently, Process.Transfers, Process.outcome, Process.after,
      run_of_parse parsed]
    exact ran
  refine ⟨transfers, ?_, ?_⟩
  · intro update told
    obtain ⟨earlier, listed, own⟩ := mem_of_latest? told
    exact ⟨earlier, listed, own, Process.recorded?_newer own⟩
  · intro current
    exact transfers.imp id fun ⟨update, told, once⟩ =>
      ⟨update, (current update told).1, once, (current update told).2⟩

/-- After a check for build 0 has recorded version code 1, a download for build 200 transfers it. -/
theorem download_transfers_latest_downgrade :
    Reached beside sealedData [checking first] (downgrading first).world.disk ∧
      (downgrading first).Fresh ∧
      parse (downgrading first).arguments = .ok ⟨200, false, .download⟩ ∧
      (∃ update, latest? (·.recorded? beside) [checking first] = some update ∧
        (downgrading first).Transfers beside update) ∧
      ∃ earlier ∈ [checking first], ∃ invocation,
        parse earlier.arguments = .ok invocation ∧ invocation.current < first.code := by
  have newer : 0 < first.code := (by decide : (0 : UInt32) < 1)
  obtain ⟨-, recorded, -⟩ := checking_ran newer
  have latest : latest? (·.recorded? beside) [checking first] = some first :=
    (latest?_singleton _ _).trans recorded
  have reached := downgrading_reached first
  have fresh := downgrading_fresh first
  have parsed : parse (downgrading first).arguments = .ok ⟨200, false, .download⟩ :=
    parse_downgrading
  obtain ⟨transfers, newer, -⟩ := download_transfers_latest beside_standard sealedData_plain
    (.of_entries (by decide)) (by decide) reached fresh parsed
  refine ⟨reached, fresh, parsed, ?_, ?_⟩
  · refine transfers.resolve_left fun ⟨silent, _⟩ => ?_
    exact absurd (downgrading_transfers.symm.trans silent) (List.cons_ne_nil _ _)
  · obtain ⟨earlier, listed, -, invocation, parsed, older⟩ := newer first latest
    exact ⟨earlier, listed, invocation, parsed, older⟩

/-- The command line goes backwards: the check found version code 1 for build 0, and the download
for build 200 transfers it. -/
theorem download_goes_back :
    beside.Standard ∧ Reached beside sealedData [checking first] (downgrading first).world.disk ∧
      (downgrading first).Fresh ∧
      parse (downgrading first).arguments = .ok ⟨200, false, .download⟩ ∧
      latest? (·.completed? beside) [checking first] = some (.updateAvailable first) ∧
      (downgrading first).Transfers beside first ∧ first.code < 200 ∧
      ¬ Forward beside [checking first] 200 (downgrading first) := by
  have newer : 0 < first.code := (by decide : (0 : UInt32) < 1)
  have older : first.code < 200 := (by decide : (1 : UInt32) < 200)
  obtain ⟨completed, -, -⟩ := checking_ran newer
  have latest : latest? (·.completed? beside) [checking first] = some (.updateAvailable first) :=
    (latest?_singleton _ _).trans completed
  refine ⟨beside_standard, downgrading_reached first, downgrading_fresh first, parse_downgrading,
    latest, downgrading_transfers, older, ?_⟩
  rintro (⟨silent, _⟩ | ⟨update, found, -, forward⟩)
  · exact absurd (downgrading_transfers.symm.trans silent) (List.cons_ne_nil _ _)
  · obtain rfl : first = update :=
      CheckOutcome.updateAvailable.inj (Option.some.inj (latest.symm.trans found))
    exact absurd forward (UInt32.lt_asymm older)

end SelfUpdate.CommandLine
