import SelfUpdate.Downloader
import SelfUpdate.Proofs.Download.Endings
import SelfUpdate.Proofs.Download.Integrity
import SelfUpdate.Proofs.Worker

/-!
# What a download does

An idle downloader is given one update. When nobody else touches the disk and the directory of the
slot can be used, it is known exactly whether the download succeeds, what it returns and what every
entry of the disk is afterwards.
-/

namespace SelfUpdate

/-! ## A single job -/

namespace Worker

variable {ι ο σ : Type} {worker : Worker ι ο} {job : ι} {output : ο} {state after : σ}

/-- A worker that takes jobs and has none. -/
structure Idle (worker : Worker ι ο) : Prop where
  accepting : worker.accepting = true
  queue : worker.queue = []
  running : worker.running = none
  answers : ∀ answer ∈ worker.answers, answer.1 ≠ worker.next

theorem Idle.new (name : String) : (new name : Worker ι ο).Idle :=
  ⟨rfl, rfl, rfl, fun _ listed => absurd listed List.not_mem_nil⟩

/-- The job of an idle worker is answered. -/
theorem answer?_settle_submit (idle : worker.Idle) {run : Nat → ι → StateM σ (Option ο)}
    (ran : run worker.next job state = (some output, after)) :
    (settle run (worker.submit job) state).2 = after ∧
      (settle run (worker.submit job) state).1.answer? worker.next = some (.ok output) := by
  rw [settle_submit idle.running idle.queue idle.accepting, ran]
  exact ⟨rfl, answer?_of_prefix List.prefix_rfl idle.answers⟩

end Worker

namespace Downloader

variable {downloader : Downloader} {update : Update} {world after : World}

/-- Gives an update to a downloader and waits for the result. -/
def download (downloader : Downloader) (update : Update) :
    Effect (Except DownloadError DownloadOutput) := do
  let settled ← (downloader.submit (.fetch update)).settle fun _ => pure ()
  return settled.result downloader.worker.next

theorem worker_submit (downloader : Downloader) (job : DownloadJob) :
    (downloader.submit job).worker = downloader.worker.submit job := rfl

theorem runJob_fetch {result : Except DownloadError Artifact} {ticket : Nat}
    (ran : Transfer.run downloader.config ticket update world =
      (result.mapError .failure, after)) :
    downloader.runJob (fun _ => pure ()) ticket (.fetch update) world =
      (some (result.map .fetched), after) := by
  have output : Effect.outputOf name (downloader.run ticket (.fetch update)) world =
      (some (result.map .fetched), after) := by
    simp only [Effect.outputOf, ExceptT.run, Stateful.bind_run, run, Failing.map_run, ran]
    cases result <;> rfl
  rw [runJob, Stateful.bind_run, output]
  cases result <;> rfl

/-- An idle downloader answers with the result of the transfer. -/
theorem download_run (idle : downloader.worker.Idle) (result : Except DownloadError Artifact)
    (ran : Transfer.run downloader.config downloader.worker.next update world =
      (result.mapError .failure, after)) :
    downloader.download update world = (result.map .fetched, after) := by
  have output : (downloader.submit (.fetch update)).runJob (fun _ => pure ())
      downloader.worker.next (.fetch update) world = (some (result.map .fetched), after) :=
    runJob_fetch ran
  obtain ⟨left, answered⟩ := Worker.answer?_settle_submit idle output
  rw [download, Stateful.bind_run, settle, Stateful.bind_run]
  simp only [worker_submit, left, Stateful.pure_run, Downloader.result, answered]

end Downloader

namespace Transfer

variable {config : DownloadConfig} {update : Update} {answer : Answer StreamReply} {stage : Stage}
  {disk made final : Disk} {home : Location} {name : String} {content : Bytes}
  {result : Except (Halt DownloadError) Artifact}

/-! ## From the beginning -/

theorem Undisturbed.alone (undisturbed : Undisturbed answer) : answer.Alone where
  opening := undisturbed.opening
  streaming length events replied _ listed :=
    nomatch undisturbed.plain length events replied _ listed

theorem Ends.changes (harmless : HarmlessAnswer answer) (coming : Harmless stage.events)
    (ends : Ends config update answer stage disk result final) : Disk.Changes disk final := by
  induction ends with
  | here => exact .refl
  | move move onward ih =>
      obtain ⟨changes, coming⟩ := move.changes harmless coming
      exact changes.trans (ih coming)

theorem Ends.begun (own : slotOf config update = .ok (.named config.directory name))
    (creatable : Disk.makeDirectories config.directory disk = (.ok (), made))
    (usable : Usable config.directory home name made) (undisturbed : Undisturbed answer)
    (ends : Ends config update answer .begun disk result final) :
    final.workingDirectory = made.workingDirectory ∧
      ((∃ content, Accepted config.limit.toNat update.checksum answer.reply content ∧
          Outcome config update (vacated made home name) home name content result final) ∨
        (∀ content, ¬ Accepted config.limit.toNat update.checksum answer.reply content) ∧
          Failed (vacated made home name) result final) := by
  cases ends with
  | move move onward =>
      cases move with
      | unnamed refused => cases own.symm.trans refused
      | barred _ barred => cases congrArg Prod.fst (creatable.symm.trans barred)
      | prepare named prepared =>
          obtain rfl := Except.ok.inj (own.symm.trans named)
          obtain rfl := congrArg Prod.snd (creatable.symm.trans prepared)
          refine ⟨(onward.changes undisturbed.alone.harmless ?_).workingDirectory,
            onward.ready usable undisturbed⟩
          intro actions listed
          cases listed

/-- The entries after a download: what was at the two locations of the slot is gone, `committed` is
at the second one, and every other entry is as it was. -/
def Leaves (disk : Disk) (home : Location) (name : String) (committed : Option Node)
    (final : Disk) : Prop :=
  ∀ other, final.get? other =
    if other = home ++ [name] then committed
    else if other = home ++ [name ++ stagingSuffix] then none
    else disk.get? other

/-- The slot of a usable directory can be looked at after the download. -/
theorem Usable.leads_after (usable : Usable config.directory home name made)
    {committed : Option Node} (leaves : Leaves made home name committed final)
    (same : final.workingDirectory = made.workingDirectory) :
    final.Leads config.directory home := by
  refine usable.leads.mono (.of_lookups fun other old found _ => ?_) same
  rw [usable.get?_vacated] at found
  split at found
  · cases found
  · rename_i aside
    rw [not_or] at aside
    rw [leaves other, if_neg aside.1, if_neg aside.2]
    exact found

theorem Usable.unstaged (usable : Usable config.directory home name made)
    {committed : Option Node} (leaves : Leaves made home name committed final)
    (same : final.workingDirectory = made.workingDirectory) :
    final.node? (Path.join config.directory (name ++ stagingSuffix)) = none := by
  refine Disk.node?_join_of_vacant (Slot.isName_staging usable.named)
    (usable.leads_after leaves same) ?_
  rw [leaves, if_neg (by simp [stagingSuffix]), if_pos rfl]

theorem Usable.uncommitted (usable : Usable config.directory home name made)
    (leaves : Leaves made home name none final)
    (same : final.workingDirectory = made.workingDirectory) :
    final.node? (Path.join config.directory name) = none := by
  refine Disk.node?_join_of_vacant usable.named (usable.leads_after leaves same) ?_
  rw [leaves, if_pos rfl]

theorem Usable.content?_committed (usable : Usable config.directory home name made)
    {identity mode : Nat}
    (leaves : Leaves made home name (some (.file identity mode content)) final)
    (same : final.workingDirectory = made.workingDirectory) :
    final.content? (Path.join config.directory name) = some content := by
  have found : final.get? (home ++ [name]) = some (.file identity mode content) := by
    rw [leaves, if_pos rfl]
  rw [Disk.content?_eq_some_iff, Disk.node?_join usable.named
    (Slot.isTooLong_committed usable.short) (Slot.checkText_committed usable.named usable.text)
    (usable.leads_after leaves same) (by simp [found])]
  exact ⟨identity, mode, found⟩

theorem Accepted.unique {limit : Nat} {checksum : String} {reply : StreamReply} {other : Bytes}
    (first : Accepted limit checksum reply content) (second : Accepted limit checksum reply other) :
    content = other := by
  obtain ⟨_, _, rfl, -, delivered, -⟩ := first
  obtain ⟨_, _, same, -, again, -⟩ := second
  cases same
  exact congrArg Prod.fst (delivered.symm.trans again)

theorem Outcome.leaves (usable : Usable config.directory home name made)
    (outcome : Outcome config update (vacated made home name) home name content result final) :
    Leaves made home name (some (.file made.freshIdentity Disk.fileMode content)) final := by
  intro other
  rw [outcome.2 other, usable.get?_vacated]
  by_cases committed : other = home ++ [name]
  · rw [if_pos committed, if_pos committed]
    rfl
  · rw [if_neg committed, if_neg committed]
    simp only [committed, false_or]

theorem Failed.leaves (usable : Usable config.directory home name made)
    (failed : Failed (vacated made home name) result final) : Leaves made home name none final := by
  intro other
  rw [failed.2 other, usable.get?_vacated]
  by_cases committed : other = home ++ [name]
  · rw [if_pos (.inl committed), if_pos committed]
  · rw [if_neg committed]
    simp only [committed, false_or]

/-- The specification of a download. An idle downloader is given an update whose slot exists, its
directory can be made and used, and nobody else touches the disk. The download succeeds exactly when
the stream is accepted; then the committed path holds what was delivered and the artifact describes
it. After a failure neither path of the slot exists. All other entries are as they were, but for
directories made on the way to the download directory. -/
theorem download_spec (downloader : Downloader) (update : Update) (world : World) (made : Disk)
    (home : Location) (name : String) (quiet : world.Quiet) (idle : downloader.worker.Idle)
    (own : slotOf downloader.config update = .ok (.named downloader.config.directory name))
    (creatable : Disk.makeDirectories downloader.config.directory world.disk = (.ok (), made))
    (usable : Usable downloader.config.directory home name made)
    (undisturbed : Undisturbed (world.network.stream world.requests update.url)) :
    let slot := Slot.named downloader.config.directory name
    let accepted := Accepted downloader.config.limit.toNat update.checksum
      (world.network.stream world.requests update.url).reply
    let result := (downloader.download update world).1
    let after := (downloader.download update world).2.disk
    Disk.Digs world.disk made ∧
      ((∃ output, result = .ok output) ↔ ∃ content, accepted content) ∧
      (∀ output content, result = .ok output → accepted content →
        output = .fetched ⟨slot.committed, update.version, update.checksum, content.length⟩ ∧
        after.content? slot.committed = some content ∧ after.node? slot.staging = none ∧
        ∃ identity, Leaves made home name (some (.file identity Disk.fileMode content)) after) ∧
      ∀ error, result = .error error →
        after.node? slot.committed = none ∧ after.node? slot.staging = none ∧
        Leaves made home name none after := by
  intro slot accepted result after
  have digs := Disk.makeDirectories_digs downloader.config.directory world.disk
  rw [creatable] at digs
  have ends := Ends.run downloader.config downloader.worker.next update quiet
  cases ran : run downloader.config downloader.worker.next update world with
  | mk outcome final =>
      rw [ran] at ends
      obtain ⟨same, ends⟩ := ends.begun own creatable usable undisturbed
      refine ⟨digs, ?_⟩
      rcases ends with ⟨content, good, outcome⟩ | ⟨bad, failed⟩
      · have leaves := outcome.leaves usable
        obtain ⟨rfl, -⟩ := outcome
        have answered := Downloader.download_run idle (.ok _) ran
        have settled : result = .ok _ := congrArg Prod.fst answered
        have disk : after = final.disk := congrArg (·.2.disk) answered
        refine ⟨⟨fun _ => ⟨content, good⟩, fun _ => ⟨_, settled⟩⟩, ?_, ?_⟩
        · intro output other done delivered
          obtain rfl := Except.ok.inj (settled.symm.trans done)
          obtain rfl := good.unique delivered
          rw [disk]
          exact ⟨rfl, usable.content?_committed leaves same, usable.unstaged leaves same, _, leaves⟩
        · intro error failed
          cases settled.symm.trans failed
      · have leaves := failed.leaves usable
        obtain ⟨⟨error, rfl⟩, -⟩ := failed
        have answered := Downloader.download_run idle (.error _) ran
        have settled : result = .error _ := congrArg Prod.fst answered
        have disk : after = final.disk := congrArg (·.2.disk) answered
        refine ⟨⟨?_, ?_⟩, ?_, ?_⟩
        · rintro ⟨output, done⟩
          cases settled.symm.trans done
        · rintro ⟨content, good⟩
          exact absurd good (bad content)
        · intro output content done
          cases settled.symm.trans done
        · intro error failed
          rw [disk]
          exact ⟨usable.uncommitted leaves same, usable.unstaged leaves same, leaves⟩

/-- An answer with a stream of one chunk. -/
def oneChunk : Answer StreamReply := ⟨[], .opened (some 1) [.chunk [7]]⟩

theorem oneChunk_undisturbed : Undisturbed oneChunk where
  opening := rfl
  noCrash := nofun
  plain length events replied event listed := by
    cases replied
    rw [List.mem_singleton.mp listed]
    rfl

/-- The downloader of the examples. -/
def smallDownloader : Downloader := ⟨⟨"updates", "a", 1⟩, id, .new Downloader.name⟩

theorem download_spec_oneChunk :
    let update := singleOctet "1" (by decide)
    let world := worldOf bareDisk oneChunk
    let slot := Slot.named "updates" "a-1"
    let accepted := Accepted 1 update.checksum oneChunk.reply
    let result := (smallDownloader.download update world).1
    let after := (smallDownloader.download update world).2.disk
    Disk.Digs world.disk bareDisk ∧
      ((∃ output, result = .ok output) ↔ ∃ content, accepted content) ∧
      (∀ output content, result = .ok output → accepted content →
        output = .fetched ⟨slot.committed, update.version, update.checksum, content.length⟩ ∧
        after.content? slot.committed = some content ∧ after.node? slot.staging = none ∧
        ∃ identity,
          Leaves bareDisk ["updates"] "a-1" (some (.file identity Disk.fileMode content)) after) ∧
      ∀ error, result = .error error →
        after.node? slot.committed = none ∧ after.node? slot.staging = none ∧
        Leaves bareDisk ["updates"] "a-1" none after := by
  have leads : bareDisk.Leads "updates" ["updates"] :=
    .of_name (by decide) (by decide) rfl (by decide)
  have vacated : (vacated bareDisk ["updates"] "a-1").Leads "updates" ["updates"] :=
    .of_name (by decide) (by decide) rfl (by decide)
  have named : Path.isName "a-1" = true := by decide
  have creatable := Disk.makeDirectories_of_leads named leads (by decide)
  exact download_spec smallDownloader (singleOctet "1" (by decide)) (worldOf bareDisk oneChunk)
    bareDisk ["updates"] "a-1" rfl (.new _) (by decide) creatable
    ⟨by decide, by decide, by decide, bareDisk_isTree, vacated, by decide, by decide, by decide⟩
    oneChunk_undisturbed

/-! ## Directories that cannot be used -/

theorem Clears.unique {path : Path} {other : Disk} (first : Clears path disk final)
    (second : Clears path disk other) : final = other := by
  rcases first with removed | ⟨missing, rfl⟩
  · rcases second with again | ⟨missing, -⟩
    · exact Except.ok.inj (removed.symm.trans again)
    · cases removed.symm.trans missing
  · rcases second with removed | ⟨-, rfl⟩
    · cases missing.symm.trans removed
    · rfl

theorem Clears.not_kept {path : Path} {error : IoError} (cleared : Clears path disk final)
    (kept : disk.removeFile path = .error error) : error = .notFound := by
  rcases cleared with removed | ⟨missing, -⟩
  · cases removed.symm.trans kept
  · exact Except.error.inj (kept.symm.trans missing)

theorem Ends.of_failing {slot : Slot} {error : DownloadError}
    (ends : Ends config update answer (.failing slot error) disk result final) :
    result = .error (.failure error) := by
  cases ends with
  | move move onward =>
      cases move with
      | discard => exact onward.of_ended.1
      | leave => exact onward.of_ended.1

/-- What is left of a transfer when it asks for its stream. -/
theorem Course.onward {ticket : Nat} {slot : Slot} {world asking : World}
    (course : Course config ticket update .begun world (.emptied slot) asking)
    (quiet : world.Quiet) :
    Ends config update (world.network.stream world.requests update.url) (.emptied slot)
      asking.disk (run config ticket update world).1 (run config ticket update world).2.disk := by
  obtain ⟨still, network⟩ := course.quiet quiet
  rw [← network, ← course.requests quiet rfl]
  rcases course.linear (course_run config ticket update quiet) with onward | back
  · exact .of_course onward still (.here _ _)
  · cases back.of_ended

theorem Course.extend {ticket : Nat} {world between : World}
    (course : Course config ticket update .begun world stage between) (quiet : world.Quiet) :
    ∃ next after disk, Course config ticket update .begun world next after ∧ after.disk = disk ∧
      Move config update (world.network.stream world.requests update.url) stage between.disk next
        disk :=
  ⟨_, _, _, .next course, rfl, course.move quiet⟩

/-- A transfer asks for its stream when its directory is made and its slot is empty. -/
theorem Course.to_emptied {world : World} {slot : Slot} {halfEmptied emptied : Disk}
    (ticket : Nat) (quiet : world.Quiet) (own : slotOf config update = .ok slot)
    (creatable : Disk.makeDirectories config.directory world.disk = (.ok (), made))
    (first : Clears slot.staging made halfEmptied)
    (second : Clears slot.committed halfEmptied emptied) :
    ∃ asking, Course config ticket update .begun world (.emptied slot) asking ∧
      asking.disk = emptied := by
  obtain ⟨next, ready, disk, course, same, move⟩ :=
    (Course.here : Course config ticket update .begun world .begun world).extend quiet
  cases move with
  | unnamed absent => cases own.symm.trans absent
  | barred _ barred => cases congrArg Prod.fst (creatable.symm.trans barred)
  | prepare named prepared =>
  obtain rfl := Except.ok.inj (own.symm.trans named)
  obtain rfl := congrArg Prod.snd (creatable.symm.trans prepared)
  obtain ⟨next, half, disk, course, reached, move⟩ := course.extend quiet
  rw [same] at move
  cases move with
  | keepStaging kept present => exact absurd (first.not_kept kept) present
  | clearStaging cleared =>
  obtain rfl := first.unique cleared
  obtain ⟨next, asking, disk, course, ended, move⟩ := course.extend quiet
  rw [reached] at move
  cases move with
  | keepCommitted kept present => exact absurd (second.not_kept kept) present
  | clearCommitted cleared =>
  obtain rfl := second.unique cleared
  exact ⟨asking, course, ended⟩

/-- A stream is opened unless too much is advertised. -/
theorem Ends.connected {slot : Slot} {length : Option Nat} {events : List StreamEvent}
    (ends : Ends config update answer (.emptied slot) disk result final)
    (alone : answer.interference = []) (replied : answer.reply = .opened length events)
    (short : ∀ announced, length = some announced → announced ≤ config.limit.toNat) :
    Ends config update answer (.opened slot (totalOf length update) events) disk result final := by
  cases ends with
  | move move onward =>
  cases move with
  | collapse again => cases replied.symm.trans again
  | unanswered again => cases replied.symm.trans again
  | refuse again long =>
      cases replied.symm.trans again
      exact absurd (short _ rfl) (Nat.not_le.mpr long)
  | connect again _ =>
      cases replied.symm.trans again
      rw [alone] at onward
      exact onward

/-- A transfer fails when the staging file cannot be made. -/
theorem Ends.blocked {slot : Slot} {error : IoError} {total : Nat} {events : List StreamEvent}
    (ends : Ends config update answer (.opened slot total events) disk result final)
    (refused : disk.createNew slot.staging = .error error) :
    result = .error (.failure (.io .createStaging slot.staging error)) := by
  cases ends with
  | move move onward =>
  cases move with
  | create made => cases refused.symm.trans made
  | uncreated other =>
      obtain rfl := Except.error.inj (refused.symm.trans other)
      exact onward.of_failing

/-- A disk on which a download fails though its stream is accepted, its directory is there and
neither path of its slot is a directory. -/
def Thwarts (disk : Disk) (home : Location) : Prop :=
  disk.IsTree ∧ Disk.makeDirectories "updates" disk = (.ok (), disk) ∧
    disk.Leads "updates" home ∧ disk.isDirectoryAt (home ++ ["a-1.tmp"]) = false ∧
    disk.isDirectoryAt (home ++ ["a-1"]) = false ∧
    Accepted 1 (Sha256.hexDigest [7]) oneChunk.reply [7] ∧
    ∃ error, (smallDownloader.download (singleOctet "1" (by decide)) (worldOf disk oneChunk)).1 =
      .error error

/-- The way to the download directory passes a link at the staging path. -/
def selfCrossing : Disk where
  entries := [(["other"], .directory Disk.directoryMode),
    (["other", "inner"], .directory Disk.directoryMode), (["real"], .directory Disk.directoryMode),
    (["real", "a-1.tmp"], .link "/other/inner"), (["updates"], .link "/real/a-1.tmp/../../real")]
  freshIdentity := 0
  workingDirectory := []
  sealedDirectories := []

/-- Nobody can write to the download directory. -/
def sealedUpdates : Disk := { bareDisk with sealedDirectories := [["updates"]] }

theorem Thwarts.of_refused {emptied halfEmptied : Disk} {error : IoError} (tree : disk.IsTree)
    (made : Disk.makeDirectories "updates" disk = (.ok (), disk))
    (leads : disk.Leads "updates" home)
    (stagingFree : disk.isDirectoryAt (home ++ ["a-1.tmp"]) = false)
    (committedFree : disk.isDirectoryAt (home ++ ["a-1"]) = false)
    (first : Clears "updates/a-1.tmp" disk halfEmptied)
    (second : Clears "updates/a-1" halfEmptied emptied)
    (refused : emptied.createNew "updates/a-1.tmp" = .error error) : Thwarts disk home := by
  refine ⟨tree, made, leads, stagingFree, committedFree, ?_, ?_⟩
  · refine ⟨some 1, _, rfl, ?_, rfl, Nat.le_refl 1, rfl⟩
    intro announced same
    exact Nat.le_of_eq (Option.some.inj same).symm
  · have quiet : (worldOf disk oneChunk).Quiet := rfl
    have own : slotOf smallDownloader.config (singleOctet "1" (by decide)) =
        .ok ⟨"updates/a-1.tmp", "updates/a-1"⟩ := by
      decide
    obtain ⟨asking, course, rfl⟩ := Course.to_emptied 0 quiet own made first second
    have replied : oneChunk.reply = .opened (some 1) [.chunk [7]] := rfl
    have short : ∀ announced, some 1 = some announced →
        announced ≤ smallDownloader.config.limit.toNat := by
      rintro announced ⟨⟩
      decide
    have opened := (course.onward quiet).connected oneChunk_undisturbed.opening replied short
    have idle : smallDownloader.worker.Idle := .new _
    have answered := Downloader.download_run idle (.error _) (Prod.ext (opened.blocked refused) rfl)
    exact ⟨_, congrArg Prod.fst answered⟩

theorem selfCrossing_leads : selfCrossing.Leads "updates" ["real"] := by
  have stem : Path.stem "updates" = ["updates"] := by decide
  have outer : Path.pieces "/real/a-1.tmp/../../real" =
      ["", "real", "a-1.tmp", "..", "..", "real"] := by
    decide
  have inner : Path.pieces "/other/inner" = ["", "other", "inner"] := by decide
  refine ⟨⟨38, ?_⟩, by decide⟩
  rw [stem]
  have detour : selfCrossing.get? ["updates"] = some (.link "/real/a-1.tmp/../../real") := by
    decide
  have shortcut : selfCrossing.get? ["real", "a-1.tmp"] = some (.link "/other/inner") := by
    decide
  refine .through (by decide) (by decide) (by decide) detour ?_
  rw [outer]
  refine .idle (by decide) (by decide) ?_
  refine .folder (by decide) (by decide) (by decide) (by decide) ?_
  refine .through (by decide) (by decide) (by decide) shortcut ?_
  rw [inner]
  refine .idle (by decide) (by decide) ?_
  refine .folder (by decide) (by decide) (by decide) (by decide) ?_
  refine .folder (by decide) (by decide) (by decide) (by decide) ?_
  refine .up (by decide) (.up (by decide) ?_)
  exact .folder (by decide) (by decide) (by decide) (by decide) (.here _ _)

/-- Without that link the way ends. -/
theorem selfCrossing_astray :
    (selfCrossing.erase ["real", "a-1.tmp"]).walk .target Disk.greatestLinkCount [] ["updates"] =
      .error .notFound := by
  have target : Path.pieces "/real/a-1.tmp/../../real" =
      ["", "real", "a-1.tmp", "..", "..", "real"] := by
    decide
  have link : (selfCrossing.erase ["real", "a-1.tmp"]).get? ["updates"] =
      some (.link "/real/a-1.tmp/../../real") := by
    decide
  have real : (selfCrossing.erase ["real", "a-1.tmp"]).get? ["real"] =
      some (.directory Disk.directoryMode) := by
    decide
  have gone : (selfCrossing.erase ["real", "a-1.tmp"]).get? ["real", "a-1.tmp"] = none := by
    decide
  have start : Disk.origin [] "/real/a-1.tmp/../../real" = [] := by decide
  have short : Disk.isTooLong "updates" = false ∧ Disk.isTooLong "real" = false ∧
      Disk.isTooLong "a-1.tmp" = false := by
    decide
  simp [Disk.walk, Disk.isDirectoryAt, Disk.greatestLinkCount, Node.isDirectory, link, real, gone,
    target, start, short]

theorem selfCrossing_place {path : Path} (entry : String) (text : Disk.checkText path = .ok ())
    (start : Disk.origin [] path = [])
    (pieces : (Path.pieces path).reverse.dropWhile String.isEmpty = [entry, "updates"]) :
    (selfCrossing.erase ["real", "a-1.tmp"]).place path = .error .notFound := by
  have base : Disk.origin (selfCrossing.erase ["real", "a-1.tmp"]).workingDirectory path = [] :=
    start
  simp [Disk.place, text, base, pieces, selfCrossing_astray]

theorem isName_kept : Path.isName "a-1" = true := by decide

theorem isName_staged : Path.isName "a-1.tmp" = true := by decide

theorem selfCrossing_creatable :
    Disk.makeDirectories "updates" selfCrossing = (.ok (), selfCrossing) :=
  Disk.makeDirectories_of_leads isName_kept selfCrossing_leads (by decide)

theorem selfCrossing_removed : selfCrossing.removeFile "updates/a-1.tmp" =
    .ok (selfCrossing.erase ["real", "a-1.tmp"]) := by
  have link : selfCrossing.get? ["real", "a-1.tmp"] = some (.link "/other/inner") := by decide
  have removal := Disk.removeFile_join isName_staged (by decide) (by decide) selfCrossing_leads
  rwa [List.singleton_append, link] at removal

theorem selfCrossing_gone : (selfCrossing.erase ["real", "a-1.tmp"]).removeFile "updates/a-1" =
    .error .notFound := by
  rw [Disk.removeFile, selfCrossing_place "a-1" (by decide) (by decide) (by decide)]
  rfl

theorem selfCrossing_refused :
    (selfCrossing.erase ["real", "a-1.tmp"]).createNew "updates/a-1.tmp" = .error .notFound := by
  rw [Disk.createNew, selfCrossing_place "a-1.tmp" (by decide) (by decide) (by decide)]
  rfl

theorem thwarts_selfCrossing : Thwarts selfCrossing ["real"] :=
  .of_refused (.of_entries (by decide) (by decide)) selfCrossing_creatable selfCrossing_leads
    (by decide) (by decide) (.inl selfCrossing_removed) (.inr ⟨selfCrossing_gone, rfl⟩)
    selfCrossing_refused

theorem thwarts_sealedUpdates : Thwarts sealedUpdates ["updates"] := by
  have leads : sealedUpdates.Leads "updates" ["updates"] :=
    .of_name (by decide) (by decide) rfl (by decide)
  have creatable := Disk.makeDirectories_of_leads isName_kept leads (by decide)
  have staging := Disk.removeFile_join isName_staged (by decide) (by decide) leads
  have committed := Disk.removeFile_join isName_kept (by decide) (by decide) leads
  have refused := Disk.createNew_join isName_staged (by decide) (by decide) leads (by decide)
  exact .of_refused (.of_entries (by decide) (by decide)) creatable leads (by decide) (by decide)
    (.inr ⟨staging, rfl⟩) (.inr ⟨committed, rfl⟩) refused

/-- Neither condition on the directory can be left out: that the way to it does not pass the slot,
and that it can be written. -/
theorem download_thwarted :
    Thwarts selfCrossing ["real"] ∧ Thwarts sealedUpdates ["updates"] :=
  ⟨thwarts_selfCrossing, thwarts_sealedUpdates⟩

end Transfer

end SelfUpdate
