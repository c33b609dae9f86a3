import SelfUpdate.Proofs.Digest
import SelfUpdate.Proofs.Download.Stages

/-!
# What a step does to the disk

Every step of a transfer in a quiet world is one of the moves below. A move says from which stage to
which it leads, what the disk becomes, and under which condition on the disk it is made.
-/

namespace SelfUpdate.Transfer

/-- A file is removed, or it is missing and nothing changes. -/
def Clears (path : Path) (disk after : Disk) : Prop :=
  disk.removeFile path = .ok after ∨ disk.removeFile path = .error .notFound ∧ after = disk

/-- The moves of a transfer, when `answer` is what the network has for its stream. -/
inductive Move (config : DownloadConfig) (update : Update) (answer : Answer StreamReply) :
    Stage → Disk → Stage → Disk → Prop where
  | unnamed {disk : Disk} {error : DownloadError}
      (refused : Slot.ofVersion config.directory config.namePrefix update.version = .error error) :
      Move config update answer .begun disk (.ended (.error (.failure error))) disk
  | barred {disk after : Disk} {slot : Slot} {error : IoError}
      (named : Slot.ofVersion config.directory config.namePrefix update.version = .ok slot)
      (made : Disk.makeDirectories config.directory disk = (.error error, after)) :
      Move config update answer .begun disk
        (.ended (.error (.failure (.io .createDirectory config.directory error)))) after
  | prepare {disk after : Disk} {slot : Slot}
      (named : Slot.ofVersion config.directory config.namePrefix update.version = .ok slot)
      (made : Disk.makeDirectories config.directory disk = (.ok (), after)) :
      Move config update answer .begun disk (.ready slot) after
  | clearStaging {disk after : Disk} {slot : Slot} (cleared : Clears slot.staging disk after) :
      Move config update answer (.ready slot) disk (.halfEmptied slot) after
  | keepStaging {disk : Disk} {slot : Slot} {error : IoError}
      (kept : disk.removeFile slot.staging = .error error) (present : error ≠ .notFound) :
      Move config update answer (.ready slot) disk
        (.ended (.error (.failure (.io .removePrevious slot.staging error)))) disk
  | clearCommitted {disk after : Disk} {slot : Slot} (cleared : Clears slot.committed disk after) :
      Move config update answer (.halfEmptied slot) disk (.emptied slot) after
  | keepCommitted {disk : Disk} {slot : Slot} {error : IoError}
      (kept : disk.removeFile slot.committed = .error error) (present : error ≠ .notFound) :
      Move config update answer (.halfEmptied slot) disk
        (.ended (.error (.failure (.io .removePrevious slot.committed error)))) disk
  | connect {disk : Disk} {slot : Slot} {length : Option Nat} {events : List StreamEvent}
      (replied : answer.reply = .opened length events)
      (short : ∀ announced, length = some announced → announced ≤ config.limit.toNat) :
      Move config update answer (.emptied slot) disk
        (.opened slot (totalOf length update) events) (disk.afterActions answer.interference)
  | refuse {disk : Disk} {slot : Slot} {length : Nat} {events : List StreamEvent}
      (replied : answer.reply = .opened (some length) events)
      (long : config.limit.toNat < length) :
      Move config update answer (.emptied slot) disk
        (.ended (.error (.failure (.tooLarge length config.limit.toNat))))
        (disk.afterActions answer.interference)
  | unanswered {disk : Disk} {slot : Slot} {error : Network.Error}
      (replied : answer.reply = .failure error) :
      Move config update answer (.emptied slot) disk
        (.ended (.error (.failure (.transfer error)))) (disk.afterActions answer.interference)
  | collapse {disk : Disk} {slot : Slot} (replied : answer.reply = .crash) :
      Move config update answer (.emptied slot) disk (.ended (.error .crash))
        (disk.afterActions answer.interference)
  | create {disk after : Disk} {slot : Slot} {total : Nat} {events : List StreamEvent}
      {handle : Disk.Handle} (made : disk.createNew slot.staging = .ok (handle, after)) :
      Move config update answer (.opened slot total events) disk
        (.streaming slot total ⟨0, none, handle⟩ events) after
  | uncreated {disk : Disk} {slot : Slot} {total : Nat} {events : List StreamEvent}
      {error : IoError} (refused : disk.createNew slot.staging = .error error) :
      Move config update answer (.opened slot total events) disk
        (.failing slot (.io .createStaging slot.staging error)) disk
  | write {disk : Disk} {slot : Slot} {total : Nat} {status : Status} {bytes : Bytes}
      {events : List StreamEvent} {told : Option Nat}
      (fits : status.downloaded + bytes.length ≤ config.limit.toNat) :
      Move config update answer (.streaming slot total status (.chunk bytes :: events)) disk
        (.streaming slot total
          ⟨status.downloaded + bytes.length, told, (disk.write status.handle bytes).1⟩ events)
        (disk.write status.handle bytes).2
  | overflow {disk : Disk} {slot : Slot} {total : Nat} {status : Status} {bytes : Bytes}
      {events : List StreamEvent}
      (long : config.limit.toNat < status.downloaded + bytes.length) :
      Move config update answer (.streaming slot total status (.chunk bytes :: events)) disk
        (.failing slot (.tooLarge (status.downloaded + bytes.length) config.limit.toNat)) disk
  | breakOff {disk : Disk} {slot : Slot} {total : Nat} {status : Status} {error : Network.Error}
      {events : List StreamEvent} :
      Move config update answer (.streaming slot total status (.failure error :: events)) disk
        (.failing slot (.transfer error)) disk
  | crash {disk : Disk} {slot : Slot} {total : Nat} {status : Status}
      {events : List StreamEvent} :
      Move config update answer (.streaming slot total status (.crash :: events)) disk
        (.ended (.error .crash)) disk
  | interfere {disk : Disk} {slot : Slot} {total : Nat} {status : Status}
      {actions : List Disk.Action} {events : List StreamEvent} :
      Move config update answer (.streaming slot total status (.interference actions :: events))
        disk (.streaming slot total status events) (disk.afterActions actions)
  | finish {disk : Disk} {slot : Slot} {total : Nat} {status : Status} :
      Move config update answer (.streaming slot total status []) disk
        (.received slot status.downloaded) disk
  | accept {disk : Disk} {slot : Slot} {size : Nat}
      (holds : Digest.Holds disk slot.staging update.checksum) :
      Move config update answer (.received slot size) disk (.verified slot size) disk
  | reject {disk : Disk} {slot : Slot} {size : Nat}
      (differs : ¬ Digest.Holds disk slot.staging update.checksum) :
      Move config update answer (.received slot size) disk
        (.failing slot (.checksumMismatch update.version update.checksum)) disk
  | commit {disk after : Disk} {slot : Slot} {size : Nat}
      (renamed : disk.rename slot.staging slot.committed = .ok after) :
      Move config update answer (.verified slot size) disk
        (.ended (.ok (artifactOf slot update size))) after
  | uncommitted {disk : Disk} {slot : Slot} {size : Nat} {error : IoError}
      (refused : disk.rename slot.staging slot.committed = .error error) :
      Move config update answer (.verified slot size) disk
        (.failing slot (.io .commit slot.committed error)) disk
  | discard {disk after : Disk} {slot : Slot} {error : DownloadError}
      (cleared : Clears slot.staging disk after) :
      Move config update answer (.failing slot error) disk (.ended (.error (.failure error))) after
  | leave {disk : Disk} {slot : Slot} {error : DownloadError} {reason : IoError}
      (kept : disk.removeFile slot.staging = .error reason) (present : reason ≠ .notFound) :
      Move config update answer (.failing slot error) disk (.ended (.error (.failure error))) disk
  | rest {disk : Disk} {result : Except (Halt DownloadError) Artifact} :
      Move config update answer (.ended result) disk (.ended result) disk

/-! ## Every step is a move -/

section

variable {update : Update} {world : World}

theorem removePrevious_run (quiet : world.Quiet) (path : Path) :
    (∃ after, Slot.removePrevious path world = (.ok (), after) ∧
      Clears path world.disk after.disk ∧ world.Alike after) ∨
    ∃ error, world.disk.removeFile path = .error error ∧ error ≠ .notFound ∧
      Slot.removePrevious path world = (.error (.failure (.io .removePrevious path error)), world) := by
  simp only [Slot.removePrevious, Failing.bind_run, Failing.lift_run, Effect.ofStep_run]
  cases removed : world.disk.removeFile path with
  | ok disk =>
      left
      have still : (world.setDisk disk).Quiet := quiet
      simp only [Slot.log, Failing.lift_run, Effect.log_run still]
      refine ⟨_, rfl, .inl ?_, (world.alike_setDisk disk).record _ _ _⟩
      simpa using removed
  | error error =>
      by_cases missing : error = .notFound
      · subst missing
        exact .inl ⟨world, rfl, .inr ⟨removed, rfl⟩, .refl world⟩
      · right
        refine ⟨error, rfl, missing, ?_⟩
        cases error with
        | notFound => exact absurd rfl missing
        | _ => rfl

theorem digestVerify_run (update : Update) (quiet : world.Quiet) (path : Path) :
    ∃ answer after, Digest.verify path update.checksum world = (answer, after) ∧
      (answer = true ↔ Digest.Holds world.disk path update.checksum) ∧
      after.disk = world.disk ∧ world.Alike after := by
  simp only [Digest.verify, Stateful.bind_run, Stateful.get_run,
    Digest.holds_iff update.checksum_canonical]
  cases Digest.ofFile world.disk path with
  | ok actual => exact ⟨_, world, rfl, by simp, rfl, .refl world⟩
  | error error =>
      simp only [Stateful.bind_run, Effect.log_run quiet]
      exact ⟨_, _, rfl, by simp, by simp, (World.Alike.refl world).record _ _ _⟩

theorem discardStaging_run (quiet : world.Quiet) (slot : Slot) :
    ∃ after, slot.discardStaging world = ((), after) ∧ world.Alike after ∧
      (Clears slot.staging world.disk after.disk ∨
        after.disk = world.disk ∧
          ∃ error, world.disk.removeFile slot.staging = .error error ∧ error ≠ .notFound) := by
  simp only [Slot.discardStaging, Stateful.bind_run, Effect.ofStep_run]
  cases removed : world.disk.removeFile slot.staging with
  | ok disk =>
      have still : (world.setDisk disk).Quiet := quiet
      simp only [Slot.log, Effect.log_run still]
      exact ⟨_, rfl, (world.alike_setDisk disk).record _ _ _, .inl (.inl (by simpa using removed))⟩
  | error error =>
      by_cases missing : error = .notFound
      · subst missing
        exact ⟨world, rfl, .refl world, .inl (.inr ⟨removed, rfl⟩)⟩
      · have logged : ∀ text, Slot.log .warn text world =
            ((), world.recorded .warn .downloader text) := fun text => Effect.log_run quiet _ _ _
        refine ⟨world.recorded .warn .downloader
          ("Failed to discard staging file " ++ slot.staging ++ ": " ++ error.message), ?_,
          (World.Alike.refl world).record _ _ _, .inr ⟨by simp, error, rfl, missing⟩⟩
        cases error with
        | notFound => exact absurd rfl missing
        | _ => exact logged _

theorem openStream_run (url : String) (world : World) :
    openStream url world =
      ((match (world.network.stream world.requests url).reply with
        | .opened length events => .ok (length, events)
        | .failure error => .error (.failure (.transfer error))
        | .crash => .error .crash), world.asked url) := by
  simp only [openStream, Failing.bind_run, Failing.lift_run, Effect.openStream_run]
  cases (world.network.stream world.requests url).reply <;> rfl

/-- What a request for a stream comes to. -/
def answerTo (limit : Nat) (update : Update) :
    StreamReply → Except (Halt DownloadError) (Nat × List StreamEvent)
  | .opened none events => .ok (totalOf none update, events)
  | .opened (some length) events =>
    if limit < length then .error (.failure (.tooLarge length limit))
    else .ok (totalOf (some length) update, events)
  | .failure error => .error (.failure (.transfer error))
  | .crash => .error .crash

theorem request_run (quiet : world.Quiet) (limit : Nat) (update : Update) :
    ∃ after, after.disk = world.disk.afterActions
        (world.network.stream world.requests update.url).interference ∧
      (world.asked update.url).Alike after ∧
      request limit update world =
        (answerTo limit update (world.network.stream world.requests update.url).reply, after) := by
  -- the stream is asked for after a record of the log, which leaves disk and network alone
  have logged := world.alike_recorded .info .downloader
    ("Downloading update " ++ update.version ++ " from " ++ update.url)
  have asked := logged.asked update.url
  have still := asked.quiet quiet
  simp only [request, Failing.bind_run, log_run, Effect.log_run quiet, openStream_run,
    World.requests_recorded, World.network_recorded]
  cases (world.network.stream world.requests update.url).reply with
  | failure error => exact ⟨_, by simp, asked, rfl⟩
  | crash => exact ⟨_, by simp, asked, rfl⟩
  | opened length events =>
      cases length with
      | none => exact ⟨_, by simp, asked, rfl⟩
      | some length =>
          by_cases long : limit < length
          · simp only [gt_iff_lt, if_pos long, Failing.bind_run, log_run, Effect.log_run still,
              answerTo, Job.fail_run]
            exact ⟨_, by simp, asked.record _ _ _, rfl⟩
          · simp only [gt_iff_lt, if_neg long, answerTo]
            exact ⟨_, by simp, asked, rfl⟩

theorem report_run (ticket total downloaded : Nat) (told : Option Nat) (world : World) :
    ∃ next after, report ticket total downloaded told world = (next, after) ∧
      after.disk = world.disk ∧ world.Alike after := by
  rw [report]
  cases percent? downloaded total with
  | none => exact ⟨told, world, rfl, rfl, .refl world⟩
  | some percent =>
      simp only [Stateful.ite_run]
      split
      · exact ⟨_, _, rfl, rfl, ⟨rfl, rfl, rfl, rfl, rfl, rfl, rfl, rfl⟩⟩
      · exact ⟨_, _, rfl, rfl, .refl world⟩

/-- A chunk that fits is written at the handle. -/
theorem take_chunk_run (ticket total : Nat) {limit : Nat} {status : Status} {bytes : Bytes}
    (fits : ¬ limit < status.downloaded + bytes.length) (world : World) :
    ∃ told after, take ticket total limit status (.chunk bytes) world =
        (.ok ⟨status.downloaded + bytes.length, told, (world.disk.write status.handle bytes).1⟩,
          after) ∧
      after.disk = (world.disk.write status.handle bytes).2 ∧ world.Alike after := by
  obtain ⟨told, after, ran, disk, alike⟩ := report_run ticket total
    (status.downloaded + bytes.length) status.told
    (world.setDisk (world.disk.write status.handle bytes).2)
  refine ⟨told, after, ?_, disk, (world.alike_setDisk _).trans alike⟩
  simp only [World.setDisk] at ran
  simp only [take, gt_iff_lt, if_neg fits, Failing.bind_run, Failing.get_run, Failing.set_run, Failing.lift_run,
    Failing.pure_run, ran]

theorem verify_run (quiet : world.Quiet) (ticket : Nat) (slot : Slot) (update : Update) :
    ∃ after, after.disk = world.disk ∧ world.Alike after ∧
      (Digest.Holds world.disk slot.staging update.checksum ∧
          verify ticket slot update world = (.ok (), after) ∨
        ¬ Digest.Holds world.disk slot.staging update.checksum ∧
          verify ticket slot update world =
            (.error (.failure (.checksumMismatch update.version update.checksum)), after)) := by
  -- the listener and the log are told first
  have told : world.Alike (Effect.tell ticket .verifying world).2 :=
    ⟨rfl, rfl, rfl, rfl, rfl, rfl, rfl, rfl⟩
  have ready := told.record .debug .downloader ("Verifying checksum of " ++ slot.staging)
  obtain ⟨right, after, ran, decides, disk, alike⟩ :=
    digestVerify_run update (ready.quiet quiet) slot.staging
  have still := (ready.trans alike).quiet quiet
  simp only [verify, isEmpty_checksum, Bool.false_eq_true, if_false, Failing.bind_run, Failing.lift_run,
    log_run, Effect.log_run (told.quiet quiet), ran]
  rw [World.disk_recorded] at decides disk
  cases right with
  | true => exact ⟨after, disk, ready.trans alike, .inl ⟨decides.mp rfl, rfl⟩⟩
  | false =>
      have differs : ¬ Digest.Holds world.disk slot.staging update.checksum :=
        decides.not.mp Bool.false_ne_true
      simp only [Bool.not_false, if_true, Failing.bind_run, log_run, Effect.log_run still,
        Job.fail_run]
      refine ⟨after.recorded .warn .downloader
        ("Checksum verification failed for " ++ update.version), ?_,
        (ready.trans alike).record _ _ _, .inr ⟨differs, rfl⟩⟩
      rw [World.disk_recorded]
      exact disk

/-- The world that a step starts from, once it has asked what it asks. -/
def Stage.basis (update : Update) (world : World) : Stage → World
  | .emptied _ => world.asked update.url
  | _ => world

/-- A step is a move, and beside what it asks it changes the disk only. -/
def Moves (config : DownloadConfig) (ticket : Nat) (update : Update) (stage : Stage)
    (world : World) : Prop :=
  Move config update (world.network.stream world.requests update.url) stage world.disk
      (step config ticket update stage world).1 (step config ticket update stage world).2.disk ∧
    (stage.basis update world).Alike (step config ticket update stage world).2

theorem begun_moves (config : DownloadConfig) (ticket : Nat) (update : Update) (world : World) :
    Moves config ticket update .begun world := by
  simp only [Moves, step, ending_run, prepare, update.url_secure, Bool.not_true,
    Bool.false_eq_true, if_false, Failing.bind_run, Failing.lift_run, Effect.ofSteps_run]
  cases named : Slot.ofVersion config.directory config.namePrefix update.version with
  | error error => exact ⟨.unnamed named, .refl world⟩
  | ok slot =>
      rcases made : Disk.makeDirectories config.directory world.disk with ⟨error | _, after⟩
      · simp only [Job.ofExcept_ok, Failing.pure_run, Job.fail_run, made]
        exact ⟨.barred named made, world.alike_setDisk after⟩
      · simp only [Job.ofExcept_ok, Failing.pure_run, made]
        exact ⟨.prepare named made, world.alike_setDisk after⟩

theorem emptied_moves (config : DownloadConfig) (ticket : Nat) (update : Update)
    (quiet : world.Quiet) (slot : Slot) : Moves config ticket update (.emptied slot) world := by
  obtain ⟨after, disk, alike, ran⟩ := request_run quiet config.limit.toNat update
  simp only [Moves, step, ending_run, Failing.bind_run, ran]
  cases replied : (world.network.stream world.requests update.url).reply with
  | failure error => exact ⟨disk ▸ .unanswered replied, alike⟩
  | crash => exact ⟨disk ▸ .collapse replied, alike⟩
  | opened length events =>
      cases length with
      | none => exact ⟨disk ▸ .connect replied (fun _ same => by cases same), alike⟩
      | some length =>
          by_cases long : config.limit.toNat < length
          · simp only [answerTo, if_pos long]
            exact ⟨disk ▸ .refuse replied long, alike⟩
          · simp only [answerTo, if_neg long]
            refine ⟨disk ▸ .connect replied (fun _ same => ?_), alike⟩
            cases same
            exact Nat.not_lt.mp long

theorem streaming_moves (config : DownloadConfig) (ticket : Nat) (update : Update)
    (quiet : world.Quiet) (slot : Slot) (total : Nat) (status : Status)
    (events : List StreamEvent) :
    Moves config ticket update (.streaming slot total status events) world := by
  cases events with
  | nil =>
      simp only [Moves, step, discarding_run, Failing.bind_run, log_run, Effect.log_run quiet,
        Failing.pure_run]
      refine ⟨?_, world.alike_recorded _ _ _⟩
      simpa using Move.finish
  | cons event events =>
      simp only [Moves, step, discarding_run, Failing.bind_run]
      cases event with
      | chunk bytes =>
          by_cases long : config.limit.toNat < status.downloaded + bytes.length
          · simp only [take, gt_iff_lt, if_pos long, Failing.bind_run, log_run,
              Effect.log_run quiet, Job.fail_run]
            refine ⟨?_, world.alike_recorded _ _ _⟩
            simpa using Move.overflow long
          · obtain ⟨told, after, ran, disk, alike⟩ := take_chunk_run ticket total long world
            simp only [ran, Failing.pure_run]
            exact ⟨disk ▸ .write (Nat.not_lt.mp long), alike⟩
      | failure error => exact ⟨.breakOff, .refl world⟩
      | crash => exact ⟨.crash, .refl world⟩
      | interference actions => exact ⟨.interfere, world.alike_setDisk _⟩

theorem verified_moves (config : DownloadConfig) (ticket : Nat) (update : Update)
    (quiet : world.Quiet) (slot : Slot) (size : Nat) :
    Moves config ticket update (.verified slot size) world := by
  simp only [Moves, step, discarding_run, promote, Failing.bind_run, Slot.promote,
    Failing.lift_run, Effect.ofStep_run]
  cases renamed : world.disk.rename slot.staging slot.committed with
  | error error => exact ⟨.uncommitted renamed, .refl world⟩
  | ok disk =>
      have still : (world.setDisk disk).Quiet := quiet
      simp only [announce, Failing.bind_run, log_run, Failing.pure_run, Effect.log_run still]
      refine ⟨?_, (world.alike_setDisk disk).record _ _ _⟩
      simpa using Move.commit renamed

/-- In a quiet world every step is a move, and beside what it asks it changes the disk only. -/
theorem step_move (config : DownloadConfig) (ticket : Nat) (update : Update)
    (quiet : world.Quiet) (stage : Stage) :
    Move config update (world.network.stream world.requests update.url) stage world.disk
        (step config ticket update stage world).1 (step config ticket update stage world).2.disk ∧
      (stage.basis update world).Alike (step config ticket update stage world).2 := by
  cases stage with
  | begun => exact begun_moves config ticket update world
  | ready slot =>
      simp only [step, ending_run, Failing.bind_run]
      rcases removePrevious_run quiet slot.staging with
        ⟨after, ran, cleared, alike⟩ | ⟨error, kept, present, ran⟩
      · simp only [ran, Failing.pure_run]
        exact ⟨.clearStaging cleared, alike⟩
      · simp only [ran]
        exact ⟨.keepStaging kept present, .refl world⟩
  | halfEmptied slot =>
      simp only [step, ending_run, Failing.bind_run]
      rcases removePrevious_run quiet slot.committed with
        ⟨after, ran, cleared, alike⟩ | ⟨error, kept, present, ran⟩
      · simp only [ran, Failing.pure_run]
        exact ⟨.clearCommitted cleared, alike⟩
      · simp only [ran]
        exact ⟨.keepCommitted kept present, .refl world⟩
  | emptied slot => exact emptied_moves config ticket update quiet slot
  | opened slot total events =>
      simp only [step, discarding_run, create, Failing.bind_run, Failing.get_run]
      cases made : world.disk.createNew slot.staging with
      | error error => exact ⟨.uncreated made, .refl world⟩
      | ok result =>
          obtain ⟨handle, disk⟩ := result
          exact ⟨.create made, world.alike_setDisk disk⟩
  | streaming slot total status events =>
      exact streaming_moves config ticket update quiet slot total status events
  | received slot size =>
      obtain ⟨after, disk, alike, ⟨holds, ran⟩ | ⟨differs, ran⟩⟩ :=
        verify_run quiet ticket slot update
      · simp only [step, discarding_run, Failing.bind_run, ran, Failing.pure_run]
        rw [disk]
        exact ⟨.accept holds, alike⟩
      · simp only [step, discarding_run, Failing.bind_run, ran]
        rw [disk]
        exact ⟨.reject differs, alike⟩
  | verified slot size => exact verified_moves config ticket update quiet slot size
  | failing slot error =>
      obtain ⟨after, ran, alike, cleared | ⟨same, reason, kept, present⟩⟩ :=
        discardStaging_run quiet slot
      · simp only [step, Stateful.bind_run, ran, Stateful.pure_run]
        exact ⟨.discard cleared, alike⟩
      · simp only [step, Stateful.bind_run, ran, Stateful.pure_run, same]
        exact ⟨.leave kept present, alike⟩
  | ended result => exact ⟨.rest, .refl world⟩

section

variable {config : DownloadConfig} {answer other : Answer StreamReply} {stage next : Stage}
  {disk after : Disk}

/-- Whether the stream is still to be asked for. -/
def Stage.isWaiting : Stage → Bool
  | .begun => true
  | .ready _ => true
  | .halfEmptied _ => true
  | .emptied _ => true
  | _ => false

theorem Move.isWaiting (move : Move config update answer stage disk next after)
    (waiting : next.isWaiting = true) :
    stage.isWaiting = true ∧ ∀ slot, stage ≠ .emptied slot := by
  cases move with
  | prepare | clearStaging | clearCommitted => exact ⟨rfl, fun slot same => by cases same⟩
  | _ => cases waiting

/-- The answer of the network counts only where the stream is asked for. -/
theorem Move.anyAnswer (elsewhere : ∀ slot, stage ≠ .emptied slot)
    (move : Move config update answer stage disk next after) :
    Move config update other stage disk next after := by
  cases move with
  | connect | refuse | unanswered | collapse => exact absurd rfl (elsewhere _)
  | unnamed refused => exact .unnamed refused
  | barred named made => exact .barred named made
  | prepare named made => exact .prepare named made
  | clearStaging cleared => exact .clearStaging cleared
  | keepStaging kept present => exact .keepStaging kept present
  | clearCommitted cleared => exact .clearCommitted cleared
  | keepCommitted kept present => exact .keepCommitted kept present
  | create made => exact .create made
  | uncreated refused => exact .uncreated refused
  | write fits => exact .write fits
  | overflow long => exact .overflow long
  | breakOff => exact .breakOff
  | crash => exact .crash
  | interfere => exact .interfere
  | finish => exact .finish
  | accept holds => exact .accept holds
  | reject differs => exact .reject differs
  | commit renamed => exact .commit renamed
  | uncommitted refused => exact .uncommitted refused
  | discard cleared => exact .discard cleared
  | leave kept present => exact .leave kept present
  | rest => exact .rest

end

end

end SelfUpdate.Transfer
