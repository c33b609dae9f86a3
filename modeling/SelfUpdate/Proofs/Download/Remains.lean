import SelfUpdate.Proofs.Disk.Vacancies
import SelfUpdate.Proofs.Download.Limits
import SelfUpdate.Proofs.Download.Scenes

/-!
# What a failed download leaves

A download that fails before its slot is empty leaves the committed file as it was. One that fails
later leaves nothing there, and at the staging path only what a crash of the stream has left.
-/

namespace SelfUpdate

/-- The errors with which a download ends before its slot is empty. -/
inductive DownloadError.Premature : DownloadError → Prop where
  | closed (worker : String) : Premature (.worker (.shutDown worker))
  | undirected (path : Path) (error : IoError) : Premature (.io .createDirectory path error)
  | unremoved (path : Path) (error : IoError) : Premature (.io .removePrevious path error)

namespace Transfer

variable {config : DownloadConfig} {update : Update} {answer : Answer StreamReply} {stage next : Stage}
  {disk base after final : Disk} {home : Location} {name : String} {content : Bytes}
  {result : Except (Halt DownloadError) Artifact} {directory : Path}

/-! ## Slots that were emptied -/

/-- Neither file of a slot is there. -/
structure Empty (slot : Slot) (disk : Disk) : Prop where
  committed : disk.node? slot.committed = none
  staging : disk.node? slot.staging = none

theorem Empty.of_vacant (named : Path.isName name = true)
    (staging : disk.Vacant (Path.join directory (name ++ stagingSuffix)))
    (committed : disk.Vacant (Path.join directory name)) :
    Empty (.named directory name) disk :=
  ⟨committed.node?_eq_none named, staging.node?_eq_none (Slot.isName_staging named)⟩

/-- Where a staging file could be made, and no committed file is, the slot is blank. -/
theorem Blank.of_createNew {handle : Disk.Handle} (named : Path.isName name = true)
    (tree : disk.IsTree) (committed : disk.Vacant (Path.join directory name))
    (made : disk.createNew (Path.join directory (name ++ stagingSuffix)) = .ok (handle, after)) :
    ∃ home, Blank directory home name disk ∧ handle = ⟨disk.freshIdentity, 0⟩ ∧
      after = disk.putNewFile (home ++ [name ++ stagingSuffix]) Disk.fileMode [] := by
  have stagingNamed := Slot.isName_staging named
  obtain ⟨location, names, unstaged, rfl, rfl⟩ := Disk.createNew_eq_ok made
  obtain ⟨home, leads, text, short, rfl⟩ := names.join stagingNamed
  have unsealed : disk.isSealed home = false := by
    rw [Disk.createNew_join stagingNamed short text leads unstaged] at made
    cases locked : disk.isSealed home with
    | false => rfl
    | true => simp [locked] at made
  have place := (Disk.place_join_eq_ok_iff named).mpr
    ⟨Slot.checkText_committed named text, home, leads, rfl⟩
  have uncommitted := committed _ ⟨_, name, place, rfl, Slot.isTooLong_committed short, rfl⟩
  exact ⟨home, ⟨named, text, short, tree, leads, unsealed, unstaged, uncommitted⟩, rfl, rfl⟩

/-- Where nothing is new, a blank slot is empty. -/
theorem Blank.empty (blank : Blank directory home name base)
    (same : ∀ other, final.get? other = base.get? other)
    (unmoved : final.workingDirectory = base.workingDirectory) :
    Empty (.named directory name) final := by
  have leads : final.Leads directory home :=
    blank.leads.mono (.of_lookups fun other node found _ => (same other).trans found) unmoved
  constructor
  · exact Disk.node?_join_of_vacant blank.named leads ((same _).trans blank.uncommitted)
  · exact Disk.node?_join_of_vacant (Slot.isName_staging blank.named) leads
      ((same _).trans blank.unstaged)

/-- A staging file is read at its path, and no committed file is there. -/
theorem Staged.remains (blank : Blank directory home name base)
    (staged : Staged base home name content final) :
    final.node? (Path.join directory name) = none ∧
      final.content? (Path.join directory (name ++ stagingSuffix)) = some content := by
  have leads : final.Leads directory home :=
    blank.leads_of_lookup blank.unstaged staged.lookup staged.workingDirectory
  constructor
  · refine Disk.node?_join_of_vacant blank.named leads ?_
    rw [staged.lookup, if_neg (by simp [(Slot.staging_ne name).symm])]
    exact blank.uncommitted
  · rw [Disk.content?_eq_some_iff, Disk.node?_join (Slot.isName_staging blank.named) blank.short
      blank.text leads (by simp [staged.get?_staging])]
    exact ⟨_, _, staged.get?_staging⟩

/-! ## Transfers that fail with an empty slot -/

/-- The slot of a transfer was emptied, and no error is from before that. -/
def Reset : Stage → Prop
  | .begun => False
  | .ready _ => False
  | .halfEmptied _ => False
  | .failing _ error => ¬ error.Premature
  | .ended result => ∀ error, result = .error (.failure error) → ¬ error.Premature
  | _ => True

theorem Move.reset (move : Move config update answer stage disk next after) (reset : Reset stage) :
    Reset next := by
  cases move with
  | unnamed | barred | prepare | clearStaging | keepStaging | clearCommitted | keepCommitted =>
      cases reset
  | connect | create | write | interfere | finish | accept => trivial
  | uncreated | overflow | breakOff | reject | uncommitted => exact nofun
  | refuse | unanswered =>
      rintro error ⟨⟩
      nofun
  | collapse | crash | commit => nofun
  | discard | leave =>
      rintro error ⟨⟩
      exact reset
  | rest => exact reset

theorem Ends.reset (ends : Ends config update answer stage disk result final)
    (reset : Reset stage) : Reset (.ended result) := by
  induction ends with
  | here => exact reset
  | move move _ ih => exact ih (move.reset reset)

/-- What is left of a slot when a transfer fails after the slot was emptied. -/
inductive Remnant (reply : StreamReply) (slot : Slot) (final : Disk) : Halt DownloadError → Prop where
  | discarded {error : DownloadError} (late : ¬ error.Premature) (empty : Empty slot final) :
      Remnant reply slot final (.failure error)
  | unopened (replied : reply = .crash) (empty : Empty slot final) :
      Remnant reply slot final .crash
  | stranded {length : Option Nat} {chunks : List Bytes} {rest : List StreamEvent}
      (replied : reply = .opened length (chunks.map .chunk ++ .crash :: rest))
      (committed : final.node? slot.committed = none)
      (staging : final.content? slot.staging = some chunks.flatten) :
      Remnant reply slot final .crash

namespace Ends

/-- The staging file of a stream that ends with a crash stays, with what was delivered. -/
theorem streaming_remains (blank : Blank config.directory home name base)
    (staged : Staged base home name content disk) {total : Nat} {told : Option Nat}
    {events : List StreamEvent} (alone : ∀ actions, StreamEvent.interference actions ∉ events)
    (ends : Ends config update answer (.streaming (.named config.directory name) total
      ⟨content.length, told, ⟨base.freshIdentity, content.length⟩⟩ events) disk result final) :
    (∃ artifact, result = .ok artifact) ∨ Failed base result final ∨
      result = .error .crash ∧ ∃ (chunks : List Bytes) (rest : List StreamEvent),
        events = chunks.map .chunk ++ .crash :: rest ∧
          Staged base home name (content ++ chunks.flatten) final := by
  induction events generalizing content disk told with
  | nil =>
      cases ends with
      | move move onward =>
          cases move with
          | finish =>
              rcases onward.received blank staged with ⟨-, same, -⟩ | ⟨-, failed⟩
              · exact .inl ⟨_, same⟩
              · exact .inr (.inl failed)
  | cons event events ih =>
      have later (actions : List Disk.Action) : StreamEvent.interference actions ∉ events :=
        fun listed => alone actions (List.mem_cons_of_mem _ listed)
      cases ends with
      | move move onward =>
          cases move with
          | interfere => exact absurd List.mem_cons_self (alone _)
          | breakOff | overflow =>
              obtain ⟨rfl, same⟩ := onward.failing blank staged
              exact .inr (.inl ⟨⟨_, rfl⟩, same⟩)
          | crash =>
              obtain ⟨rfl, rfl⟩ := onward.of_ended
              exact .inr (.inr ⟨rfl, [], events, rfl, by simpa using staged⟩)
          | @write _ _ _ _ bytes _ _ fits =>
              have ends := ih (staged.write blank bytes) later
                (by simpa only [Disk.write, List.length_append] using onward)
              refine ends.imp_right (.imp_right ?_)
              rintro ⟨crashed, chunks, rest, rfl, left⟩
              exact ⟨crashed, bytes :: chunks, rest, rfl, by simpa using left⟩

/-- Discarding fills no path. -/
theorem failing_vacant {slot : Slot} {error : DownloadError} (named : Path.isName name = true)
    (vacant : disk.Vacant (Path.join directory name))
    (ends : Ends config update answer (.failing slot error) disk result final) :
    final.Vacant (Path.join directory name) := by
  cases ends with
  | move move onward =>
      cases move with
      | discard cleared =>
          obtain ⟨-, rfl⟩ := onward.of_ended
          exact cleared.vacant_aside named vacant
      | leave kept present =>
          obtain ⟨-, rfl⟩ := onward.of_ended
          exact vacant

theorem collapsed {slot : Slot}
    (ends : Ends config update answer (.emptied slot) disk result final)
    (replied : answer.reply = .crash) : result = .error .crash := by
  cases ends with
  | move move onward =>
      cases move with
      | collapse => exact onward.of_ended.1
      | connect again | refuse again | unanswered again => cases replied.symm.trans again

theorem opened_remains (named : Path.isName name = true) (tree : disk.IsTree)
    (unstaged : disk.Vacant (Path.join config.directory (name ++ stagingSuffix)))
    (uncommitted : disk.Vacant (Path.join config.directory name)) {length : Option Nat} {total : Nat}
    {events : List StreamEvent} (replied : answer.reply = .opened length events)
    (alone : answer.Alone) {halt : Halt DownloadError}
    (ends : Ends config update answer (.opened (.named config.directory name) total events) disk
      (.error halt) final) :
    Remnant answer.reply (.named config.directory name) final halt := by
  have late := ends.reset trivial
  have solitary := alone.streaming _ _ replied
  have harmless : Harmless (Stage.opened (.named config.directory name) total events).events :=
    fun actions listed => absurd listed (solitary actions)
  have unmoved := (ends.changes alone.harmless harmless).workingDirectory
  cases ends with
  | move move onward =>
      cases move with
      | uncreated refused =>
          cases onward.of_failing
          exact .discarded (late _ rfl) (.of_vacant named
            (onward.failing_vacant (Slot.isName_staging named) unstaged)
            (onward.failing_vacant named uncommitted))
      | create made =>
          obtain ⟨home, blank, rfl, rfl⟩ := Blank.of_createNew named tree uncommitted made
          rcases onward.streaming_remains blank (Staged.create blank) solitary with
            ⟨artifact, same⟩ | ⟨⟨error, same⟩, kept⟩ | ⟨same, chunks, rest, rfl, left⟩
          · cases same
          · cases same
            exact .discarded (late _ rfl) (blank.empty kept unmoved)
          · cases same
            obtain ⟨committed, staging⟩ := left.remains blank
            exact .stranded replied committed staging

theorem emptied_remains (named : Path.isName name = true) (tree : disk.IsTree)
    (unstaged : disk.Vacant (Path.join config.directory (name ++ stagingSuffix)))
    (uncommitted : disk.Vacant (Path.join config.directory name)) (alone : answer.Alone)
    {halt : Halt DownloadError}
    (ends : Ends config update answer (.emptied (.named config.directory name)) disk
      (.error halt) final) :
    Remnant answer.reply (.named config.directory name) final halt := by
  have late := ends.reset trivial
  have empty : Empty (.named config.directory name) disk := .of_vacant named unstaged uncommitted
  have still : disk.afterActions answer.interference = disk := by
    rw [alone.opening]
    rfl
  cases ends with
  | move move onward =>
      cases move with
      | connect replied short =>
          rw [still] at onward
          exact onward.opened_remains named tree unstaged uncommitted replied alone
      | refuse | unanswered =>
          rw [still] at onward
          obtain ⟨same, rfl⟩ := onward.of_ended
          cases same
          exact .discarded (late _ rfl) empty
      | collapse replied =>
          rw [still] at onward
          obtain ⟨same, rfl⟩ := onward.of_ended
          cases same
          exact .unopened replied empty

/-- Unless a transfer comes to empty its slot, the committed file stays as it was. -/
theorem begun_remains {slot : Slot} (own : slotOf config update = .ok slot) (tree : disk.IsTree)
    (alone : answer.Alone) {halt : Halt DownloadError}
    (ends : Ends config update answer .begun disk (.error halt) final) :
    (∃ error, halt = .failure error ∧ error.Premature ∧
        Disk.KeepsFile slot.committed disk final) ∨
      Remnant answer.reply slot final halt := by
  obtain ⟨name, named, rfl⟩ := Slot.ofVersion_eq_ok own
  have stagingNamed := Slot.isName_staging named
  have digs := Disk.makeDirectories_digs config.directory disk
  cases ends with
  | move move onward =>
  cases move with
  | unnamed refused => cases own.symm.trans refused
  | barred _ made =>
      rw [made] at digs
      obtain ⟨same, rfl⟩ := onward.of_ended
      cases same
      exact .inl ⟨_, rfl, .undirected _ _, (Disk.Spares.of_digs digs).keepsFile⟩
  | prepare again made =>
  rw [made] at digs
  obtain rfl := Except.ok.inj (own.symm.trans again)
  have kept : Disk.KeepsFile (Path.join config.directory name) disk _ :=
    (Disk.Spares.of_digs digs).keepsFile
  have tree := digs.changes.isTree tree
  cases onward with
  | move move onward =>
  cases move with
  | keepStaging =>
      obtain ⟨same, rfl⟩ := onward.of_ended
      cases same
      exact .inl ⟨_, rfl, .unremoved _ _, kept⟩
  | clearStaging cleared =>
  cases onward with
  | move move onward =>
  cases move with
  | keepCommitted remains present =>
      obtain ⟨same, rfl⟩ := onward.of_ended
      cases same
      refine .inl ⟨_, rfl, .unremoved _ _, fun bytes read => ?_⟩
      rcases cleared with removed | ⟨-, rfl⟩
      · -- in a directory from which the staging file was removed the committed file is removed too
        exact absurd (Disk.removeFile_after_removeFile tree named stagingNamed
          (Slot.staging_ne name) removed (kept bytes read) remains) present
      · exact kept bytes read
  | clearCommitted committed =>
      have between := cleared.changes.isTree tree
      exact .inr (onward.emptied_remains named (committed.changes.isTree between)
        (committed.vacant_aside stagingNamed (cleared.vacant stagingNamed)) (committed.vacant named)
        alone)

end Ends

end Transfer

/-! ## Fetches that fail -/

namespace Downloader

variable {downloader : Downloader} {note : DownloadOutput → Effect Unit} {update : Update}
  {others : List DownloadJob} {world start : World} {error : DownloadError}

/-- The disk when a fetch is answered: its transfer has run, unless the worker takes no jobs. -/
def diskAnswering (downloader : Downloader) (update : Update) (start : World) : Disk :=
  if downloader.worker.accepting then
    (Transfer.run downloader.config downloader.worker.next update start).2.disk
  else start.disk

theorem fetch_refused (orderly : downloader.worker.Orderly)
    (closed : downloader.worker.accepting = false) :
    (downloader.fetch note update others world).1 =
      .error (.worker (.shutDown downloader.worker.name)) := by
  rw [fetch_run, Worker.answer?_refused orderly closed]

/-- When nothing else was asked for, the disk stays as it is when a fetch fails. -/
theorem disk_fetch (orderly : downloader.worker.Orderly)
    (before : (downloader.settle note world).2 = start) (quiet : start.Quiet)
    (failed : (downloader.fetch note update [] world).1 = .error error) :
    (downloader.fetch note update [] world).2.disk = downloader.diskAnswering update start := by
  have settled : (downloader.fetch note update [] world).2 =
      (Worker.settle (downloader.runJob note) (downloader.worker.submit (.fetch update)) world).2 :=
    rfl
  have first : (Worker.settle (downloader.runJob note) downloader.worker world).2 = start := before
  rw [settled, Worker.left_settle_submit orderly.running, first, diskAnswering]
  cases accepting : downloader.worker.accepting with
  | false => rfl
  | true =>
      rw [fetch_answer orderly accepting, before] at failed
      rw [if_pos rfl, if_pos rfl, runJob_run, run, Failing.map_run]
      have still := (Transfer.course_run downloader.config downloader.worker.next update quiet).quiet
        quiet
      generalize Transfer.run downloader.config downloader.worker.next update start = ran
        at failed still ⊢
      obtain ⟨(other | _) | artifact, final⟩ := ran
      · rfl
      · have logged := Effect.log_run still.1 .error .worker
          (name ++ " worker job panicked; continuing with next job")
        simp only [map_error, conclude, Stateful.bind_run, logged, Stateful.pure_run,
          World.disk_recorded]
      · cases failed

/-- What is known of a fetch that fails, from how its transfer ends. -/
theorem fetch_remains (orderly : downloader.worker.Orderly)
    (accepting : downloader.worker.accepting = true)
    (before : (downloader.settle note world).2 = start) (quiet : start.Quiet)
    (tree : start.disk.IsTree)
    (alone : (start.network.stream start.requests update.url).Alone) {slot : Slot}
    (own : Transfer.slotOf downloader.config update = .ok slot)
    (failed : (downloader.fetch note update others world).1 = .error error) :
    ∃ halt, (Transfer.run downloader.config downloader.worker.next update start).1 = .error halt ∧
      (Except.error error : Except DownloadError DownloadOutput) =
        answerTo downloader.worker.name (.error halt) ∧
      ((∃ error, halt = .failure error ∧ error.Premature ∧ Disk.KeepsFile slot.committed start.disk
          (downloader.diskAnswering update start)) ∨
        Transfer.Remnant (start.network.stream start.requests update.url).reply slot
          (downloader.diskAnswering update start) halt) := by
  rw [fetch_answer orderly accepting, before] at failed
  rw [diskAnswering, if_pos accepting]
  have ends := Transfer.Ends.run downloader.config downloader.worker.next update quiet
  cases ran : (Transfer.run downloader.config downloader.worker.next update start).1 with
  | ok artifact =>
      rw [ran] at failed
      cases failed
  | error halt =>
      rw [ran] at failed ends
      exact ⟨halt, rfl, failed.symm, ends.begun_remains own tree alone⟩

/-- A download that fails, from where the jobs before it have run, with nobody else at the disk. When
it fails because the worker takes no jobs, because the directory cannot be made or because a file of
the slot cannot be removed, a committed file that was there is still there. When it fails in any other
way, nothing is at the committed path. -/
theorem failed_fetch_leaves (downloader : Downloader) (note : DownloadOutput → Effect Unit)
    (update : Update) (others : List DownloadJob) (world start : World) (slot : Slot)
    (error : DownloadError) (orderly : downloader.worker.Orderly)
    (before : (downloader.settle note world).2 = start) (quiet : start.Quiet)
    (tree : start.disk.IsTree)
    (alone : (start.network.stream start.requests update.url).Alone)
    (own : Transfer.slotOf downloader.config update = .ok slot)
    (failed : (downloader.fetch note update others world).1 = .error error) :
    let after := downloader.diskAnswering update start
    (others = [] → (downloader.fetch note update others world).2.disk = after) ∧
      (error.Premature → Disk.KeepsFile slot.committed start.disk after) ∧
      (¬ error.Premature → after.node? slot.committed = none) := by
  intro after
  refine ⟨?_, ?_⟩
  · rintro rfl
    exact disk_fetch orderly before quiet failed
  cases accepting : downloader.worker.accepting with
  | false =>
      have same : after = start.disk := by
        simp [after, diskAnswering, accepting]
      rw [fetch_refused orderly accepting] at failed
      cases failed
      exact ⟨fun _ => same ▸ fun bytes read => read, fun late => absurd (.closed _) late⟩
  | true =>
      obtain ⟨halt, -, answered, remains⟩ :=
        fetch_remains orderly accepting before quiet tree alone own failed
      rcases remains with ⟨early, rfl, premature, kept⟩ | remnant
      · cases answered
        exact ⟨fun _ => kept, fun late => absurd premature late⟩
      · cases remnant with
        | discarded late empty =>
            cases answered
            exact ⟨fun premature => absurd premature late, fun _ => empty.committed⟩
        | unopened replied empty =>
            cases answered
            exact ⟨nofun, fun _ => empty.committed⟩
        | stranded replied committed staging =>
            cases answered
            exact ⟨nofun, fun _ => committed⟩

/-- The download directory with a file that was committed. -/
def keptUpdates : Disk where
  entries := [(["updates"], .directory Disk.directoryMode),
    (["updates", "a-1"], .file 0 Disk.fileMode [7])]
  freshIdentity := 1
  workingDirectory := []
  sealedDirectories := []

theorem keptUpdates_isTree : keptUpdates.IsTree := .of_entries (by decide) (by decide)

/-- The same with a directory at the staging path. -/
def blockedUpdates : Disk :=
  { keptUpdates with
    entries := (["updates", "a-1.tmp"], .directory Disk.directoryMode) :: keptUpdates.entries }

theorem leads_updates {disk : Disk} (base : disk.workingDirectory = [])
    (inside : disk.isDirectoryAt ["updates"] = true) : disk.Leads "updates" ["updates"] := by
  have leads := @Disk.Leads.of_name disk "updates" (by decide) (by decide)
  rw [base] at leads
  exact leads rfl inside

theorem readFile_kept {disk : Disk} (leads : disk.Leads "updates" ["updates"])
    (found : disk.get? ["updates", "a-1"] = some (.file 0 Disk.fileMode [7])) :
    disk.readFile "updates/a-1" = .ok [7] := by
  have located := Disk.locate_join Transfer.isName_kept (by decide) (by decide) leads
    (by rw [List.singleton_append, found]; rfl) (by rw [List.singleton_append, found]; nofun)
  exact Disk.readFile_eq_ok_iff.mpr ⟨_, _, _, located, found⟩

theorem isFile_kept {disk : Disk} (read : disk.readFile "updates/a-1" = .ok [7]) :
    disk.isFile "updates/a-1" = true := by
  obtain ⟨location, identity, mode, located, found⟩ := Disk.readFile_eq_ok_iff.mp read
  refine Disk.isFile_iff.mpr ⟨identity, mode, [7], ?_⟩
  rw [Disk.node?, located]
  exact found

open Transfer (singleOctet worldOf smallDownloader oneChunk slotOf_small)

/-- A crash when the stream is asked for. -/
def noAnswer : Answer StreamReply := ⟨[], .crash⟩

/-- The committed file that was there is gone after a crash. -/
theorem failed_fetch_leaves_nothing :
    let fetched := smallDownloader.fetch (fun _ => pure ()) (singleOctet "1" (by decide)) []
      (worldOf keptUpdates noAnswer)
    keptUpdates.readFile "updates/a-1" = .ok [7] ∧
      fetched.1 = .error (.worker (.aborted name)) ∧
      fetched.2.disk.node? "updates/a-1" = none := by
  intro fetched
  have leads : keptUpdates.Leads "updates" ["updates"] := leads_updates rfl (by decide)
  have aborted : fetched.1 = .error (.worker (.aborted name)) := by
    have removed := Disk.removeFile_join Transfer.isName_kept (by decide) (by decide) leads
    have staging := Disk.removeFile_join Transfer.isName_staged (by decide) (by decide) leads
    have creatable := Disk.makeDirectories_of_leads Transfer.isName_kept leads (by decide)
    have quiet : (worldOf keptUpdates noAnswer).Quiet := rfl
    obtain ⟨asking, course, -⟩ := Transfer.Course.to_emptied smallDownloader.worker.next quiet
      slotOf_small creatable (.inr ⟨staging, rfl⟩) (.inl removed)
    have crashed := (course.onward quiet).collapsed rfl
    exact (fetch_answer (.new _) rfl _ [] _).trans (congrArg _ crashed)
  obtain ⟨disk, -, gone⟩ := failed_fetch_leaves smallDownloader (fun _ => pure ())
    (singleOctet "1" (by decide)) [] (worldOf keptUpdates noAnswer) _ _ _ (.new _) rfl rfl
    keptUpdates_isTree ⟨rfl, nofun⟩ slotOf_small aborted
  refine ⟨readFile_kept leads (by decide), aborted, ?_⟩
  rw [disk rfl]
  exact gone nofun

/-- A committed file outlasts a download that a closed worker refuses, and one that does not come to
it. -/
theorem failed_fetch_keeps :
    let update := singleOctet "1" (by decide)
    let closed := smallDownloader.shutDown.fetch (fun _ => pure ()) update []
      (worldOf keptUpdates oneChunk)
    let blocked := smallDownloader.fetch (fun _ => pure ()) update []
      (worldOf blockedUpdates oneChunk)
    Transfer.slotOf smallDownloader.config update = .ok ⟨"updates/a-1.tmp", "updates/a-1"⟩ ∧
      closed.1 = .error (.worker (.shutDown name)) ∧
      closed.2.disk.isFile "updates/a-1" = true ∧
      blocked.1 = .error (.io .removePrevious "updates/a-1.tmp" .isADirectory) ∧
      blocked.2.disk.isFile "updates/a-1" = true := by
  intro update closed blocked
  have leads : keptUpdates.Leads "updates" ["updates"] := leads_updates rfl (by decide)
  have refused : closed.1 = .error (.worker (.shutDown name)) :=
    fetch_refused (Worker.Orderly.new name).shutDown rfl
  have around : blockedUpdates.Leads "updates" ["updates"] := leads_updates rfl (by decide)
  have creatable := Disk.makeDirectories_of_leads Transfer.isName_kept around (by decide)
  have staging := Disk.removeFile_join Transfer.isName_staged (by decide) (by decide) around
  have quiet : (worldOf blockedUpdates oneChunk).Quiet := rfl
  have ends := Transfer.Ends.run smallDownloader.config smallDownloader.worker.next update quiet
  have obstructed := ends.obstructed slotOf_small creatable staging nofun
  have failed : blocked.1 = .error (.io .removePrevious "updates/a-1.tmp" .isADirectory) :=
    (fetch_answer (.new _) rfl _ [] _).trans (congrArg _ obstructed)
  have tree : blockedUpdates.IsTree := .of_entries (by decide) (by decide)
  have before : (smallDownloader.settle (fun _ => pure ()) (worldOf blockedUpdates oneChunk)).2 =
      worldOf blockedUpdates oneChunk := rfl
  obtain ⟨halt, -, answered, remains⟩ := fetch_remains (.new _) rfl before quiet tree
    Transfer.oneChunk_undisturbed.alone slotOf_small failed
  refine ⟨slotOf_small, refused, ?_, failed, ?_⟩
  · rw [show closed.2.disk = _ from disk_fetch (Worker.Orderly.new name).shutDown rfl rfl refused]
    exact isFile_kept (readFile_kept leads (by decide))
  · rw [show blocked.2.disk = _ from disk_fetch (.new _) rfl rfl failed]
    rcases remains with ⟨early, rfl, premature, kept⟩ | remnant
    · exact isFile_kept (kept _ (readFile_kept around (by decide)))
    · cases remnant with
      | discarded late empty =>
          cases answered
          exact absurd (.unremoved _ _) late
      | unopened => cases answered
      | stranded => cases answered

end Downloader

end SelfUpdate
