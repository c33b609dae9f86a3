import SelfUpdate.Proofs.Download.Frames
import SelfUpdate.Proofs.Download.Moves
import SelfUpdate.Proofs.Download.Percentages

/-!
# What a download tells

Until the staging file is there a download tells nothing. Then it tells the marks of what it takes in, and
that it verifies the file when the whole stream was taken in. What the log does, and what others do to the
disk, makes no difference.
-/

namespace SelfUpdate

variable {α ε : Type} {frame : Frame} {world : World}

/-! ## Parts that tell nothing -/

/-- Worlds between which nothing was asked or told. -/
structure World.Untold (before after : World) : Prop where
  network : after.network = before.network
  requests : after.requests = before.requests
  progress : after.progress = before.progress

def Frame.untold : Frame where
  Holds _ := True
  Rel := World.Untold
  refl _ := ⟨rfl, rfl, rfl⟩
  trans early late := ⟨late.network.trans early.network, late.requests.trans early.requests,
    late.progress.trans early.progress⟩

theorem Frame.untold_loose : Frame.untold.Loose :=
  fun _ _ _ _ _ => ⟨⟨rfl, rfl, rfl⟩, trivial⟩

namespace Job

/-- What comes after a step tells nothing more. -/
theorem progress_bind {β : Type} {first : Job ε α} {next : α → Job ε β}
    (quiet : ∀ a, (next a).Within .untold) :
    ((first >>= next) world).2.progress = (first world).2.progress := by
  rw [Failing.bind_run]
  cases (first world).1 with
  | ok a => exact (quiet a _ trivial).rel.progress
  | error halt => rfl

end Job

namespace Transfer

open StreamEvent (chunks isWhole)

variable {config : DownloadConfig} {ticket : Nat} {update : Update} {slot : Slot}

/-- What is done about a failure is not told. -/
theorem progress_discardingOnFailure (slot : Slot) (job : Job DownloadError α) (world : World) :
    (discardingOnFailure slot job world).2.progress = (job world).2.progress := by
  have calm := slot.discardStaging_within Frame.untold_loose (job world).2 trivial
  rw [discardingOnFailure_run]
  rcases (job world).1 with (error | _) | a
  · exact calm.rel.progress
  · rfl
  · rfl

/-- What follows a step that discards the staging file when it fails. -/
theorem progress_discarding_bind {β : Type} (slot : Slot) (job : Job DownloadError α)
    (next : α → Job DownloadError β) (world : World) :
    ((discardingOnFailure slot job >>= next) world).2.progress =
      match (job world).1 with
      | .ok a => (next a (job world).2).2.progress
      | .error _ => (job world).2.progress := by
  have calm := slot.discardStaging_within Frame.untold_loose (job world).2 trivial
  rw [Failing.bind_run, discardingOnFailure_run]
  rcases (job world).1 with (error | _) | a
  · exact calm.rel.progress
  · rfl
  · rfl

/-! ## Until the staging file is there -/

/-- The part of a transfer that leads to an open stream and an empty staging file. -/
def opening (config : DownloadConfig) (update : Update) :
    Job DownloadError (Slot × Nat × Status × List StreamEvent) := do
  let slot ← prepare config update
  slot.reset
  let (total, events) ← request config.limit.toNat update
  let status ← discardingOnFailure slot (create slot)
  return (slot, total, status, events)

theorem discardingOnFailure_bind {β : Type} (slot : Slot) (first : Job DownloadError α)
    (next : α → Job DownloadError β) :
    discardingOnFailure slot (first >>= next) = (do
      let a ← discardingOnFailure slot first
      discardingOnFailure slot (next a)) := by
  funext world
  simp only [discardingOnFailure_run, Failing.bind_run]
  rcases (first world).1 with (error | _) | a <;> rfl

/-- A transfer is its opening and what is left of it then. -/
theorem run_eq_opening (config : DownloadConfig) (ticket : Nat) (update : Update) :
    run config ticket update = (do
      let (slot, total, status, events) ← opening config update
      rest config ticket update (.streaming slot total status events)) := by
  simp only [run_eq, opening, rest.fromEmptied, stage_eq, discardingOnFailure_bind, bind_assoc,
    pure_bind, rest]

/-- Wherever the log goes, a request comes to what the network answers, and it is not told. -/
theorem request_calm (limit : Nat) (update : Update) (world : World) :
    (request limit update world).1 =
        answerTo limit update (world.network.stream world.requests update.url).reply ∧
      (request limit update world).2.progress = world.progress := by
  obtain ⟨network, requests, progress⟩ := (log_within Frame.untold_loose.logs .info
    ("Downloading update " ++ update.version ++ " from " ++ update.url) world trivial).rel
  rw [← network, ← requests, ← progress]
  simp only [request, Failing.bind_run, log_run, openStream_run]
  generalize (Effect.log .info .downloader
    ("Downloading update " ++ update.version ++ " from " ++ update.url) world).2 = asking
  cases (asking.network.stream asking.requests update.url).reply with
  | failure error => exact ⟨rfl, rfl⟩
  | crash => exact ⟨rfl, rfl⟩
  | opened length events =>
      cases length with
      | none => exact ⟨rfl, rfl⟩
      | some length =>
          by_cases long : limit < length
          · have calm := log_within Frame.untold_loose.logs .warn
              s!"Update artifact too large: {length} bytes" (asking.asked update.url) trivial
            simp only [gt_iff_lt, if_pos long, Failing.bind_run, log_run, Job.fail_run, answerTo]
            exact ⟨trivial, calm.rel.progress⟩
          · simp only [gt_iff_lt, if_neg long, answerTo]
            exact ⟨rfl, rfl⟩

theorem answerTo_eq_ok {limit total : Nat} {reply : StreamReply} {events : List StreamEvent}
    (answered : answerTo limit update reply = .ok (total, events)) :
    ∃ length, reply = .opened length events ∧ total = totalOf length update := by
  cases reply with
  | failure error => cases answered
  | crash => cases answered
  | opened length others =>
      cases length with
      | none =>
          cases answered
          exact ⟨none, rfl, rfl⟩
      | some length =>
          rw [answerTo] at answered
          split at answered
          · cases answered
          · cases answered
            exact ⟨some length, rfl, rfl⟩

/-- A new staging file is empty. -/
theorem create_eq_ok {status : Status}
    (created : (discardingOnFailure slot (create slot) world).1 = .ok status) :
    status.downloaded = 0 ∧ status.told = none := by
  rw [discardingOnFailure_run] at created
  cases made : world.disk.createNew slot.staging with
  | error error => simp [create, made] at created
  | ok opened =>
      simp [create, made] at created
      exact created ▸ ⟨rfl, rfl⟩

/-- Up to the staging file nothing is told, and the stream is the one that the network has for the update
after all that was asked before. -/
theorem opening_calm (config : DownloadConfig) (update : Update) (world : World) :
    (opening config update world).2.progress = world.progress ∧
      ∀ slot total status events,
        (opening config update world).1 = .ok (slot, total, status, events) →
          (status.downloaded = 0 ∧ status.told = none) ∧
          ∃ length, (world.network.stream world.requests update.url).reply = .opened length events ∧
            total = totalOf length update := by
  have prepared := prepare_within Frame.untold_loose config update world trivial
  simp only [opening, Failing.bind_run]
  cases (prepare config update world).1 with
  | error halt => exact ⟨prepared.rel.progress, nofun⟩
  | ok slot =>
  have emptied := prepared.trans (slot.reset_within Frame.untold_loose _ trivial)
  generalize (prepare config update world).2 = middle at emptied ⊢
  dsimp only
  cases (slot.reset middle).1 with
  | error halt => exact ⟨emptied.rel.progress, nofun⟩
  | ok _ =>
  generalize (slot.reset middle).2 = asking at emptied ⊢
  obtain ⟨answered, silent⟩ := request_calm config.limit.toNat update asking
  obtain ⟨network, requests, progress⟩ := emptied.rel
  rw [network, requests] at answered
  dsimp only
  generalize (request config.limit.toNat update asking) = reply at answered silent ⊢
  obtain ⟨(halt | ⟨total, events⟩), after⟩ := reply
  · exact ⟨silent.trans progress, nofun⟩
  · have calm := create_within Frame.untold_loose slot after trivial
    have kept := progress_discardingOnFailure slot (create slot) after
    have same := kept.trans (calm.rel.progress.trans (silent.trans progress))
    dsimp only
    cases created : (discardingOnFailure slot (create slot) after).1 with
    | error halt => exact ⟨same, nofun⟩
    | ok status =>
        refine ⟨same, ?_⟩
        rintro _ _ _ _ ⟨⟩
        exact ⟨create_eq_ok created, answerTo_eq_ok answered.symm⟩

/-! ## While the stream comes -/

/-- The last percentage that was told. -/
def lastTold (total : Nat) (taken : List Bytes) : Option Nat :=
  if total = 0 ∨ taken = [] then none else some (percentAt total taken)

/-- The last percentage that was told is exceeded when a mark is reached. -/
theorem all_lastTold_iff {total : Nat} (known : total ≠ 0) (taken : List Bytes) (bytes : Bytes) :
    ((lastTold total taken).all (· < percentAt total (taken ++ [bytes]))) = true ↔
      IsMark total (taken ++ [bytes]) := by
  rw [isMark_concat_iff, lastTold]
  by_cases first : taken = []
  · simp [first]
  · simp [first, known]

/-- A chunk is told of when it brings a mark about. -/
theorem report_concat (ticket total : Nat) (taken : List Bytes) (bytes : Bytes) (world : World) :
    let reported := report ticket total (octets (taken ++ [bytes])) (lastTold total taken) world
    reported.1 = lastTold total (taken ++ [bytes]) ∧
      ∃ news, announced total (taken ++ [bytes]) = announced total taken ++ news ∧
        reported.2.progress = world.progress ++ news.map (ticket, ·) := by
  intro reported
  have ran : reported = report ticket total (octets (taken ++ [bytes])) (lastTold total taken) world :=
    rfl
  rw [report, percent?_octets] at ran
  by_cases known : total = 0
  · subst known
    rw [ran]
    exact ⟨rfl, [], rfl, (List.append_nil _).symm⟩
  · have exceeds := all_lastTold_iff known taken bytes
    rw [if_neg known] at ran
    dsimp only at ran
    rw [Stateful.ite_run] at ran
    refine ⟨?_, _, announced_concat known taken bytes, ?_⟩
    · by_cases mark : IsMark total (taken ++ [bytes])
      · rw [ran, if_pos (exceeds.mpr mark)]
        simp [lastTold, known]
      · rw [ran, if_neg (mt exceeds.mp mark)]
        rw [isMark_concat_iff, Classical.not_imp, Nat.not_lt] at mark
        have same : percentAt total taken = percentAt total (taken ++ [bytes]) :=
          Nat.le_antisymm (percentAt_mono (List.prefix_append _ _)) mark.2
        simp [lastTold, known, mark.1, same]
    · by_cases mark : IsMark total (taken ++ [bytes])
      · rw [ran, if_pos (exceeds.mpr mark), if_pos mark]
        rfl
      · rw [ran, if_neg (mt exceeds.mp mark), if_neg mark]
        exact (List.append_nil _).symm

section Taking

variable {limit : Nat} {taken : List Bytes} {bytes : Bytes}

/-- What is known of a transfer by the chunks that it has taken in. -/
def statusAfter (total : Nat) (taken : List Bytes) (handle : Disk.Handle) : Status :=
  ⟨octets taken, lastTold total taken, handle⟩

/-- A chunk that fits is taken in, and told of when it brings a mark about. -/
theorem take_fitting (ticket total : Nat) (handle : Disk.Handle) (world : World)
    (fits : octets (taken ++ [bytes]) ≤ limit) :
    ∃ next after news,
      take ticket total limit (statusAfter total taken handle) (.chunk bytes) world =
        (.ok (statusAfter total (taken ++ [bytes]) next), after) ∧
      announced total (taken ++ [bytes]) = announced total taken ++ news ∧
      after.progress = world.progress ++ news.map (ticket, ·) := by
  obtain ⟨told, news, grown, heard⟩ := report_concat ticket total taken bytes
    (world.setDisk (world.disk.write handle bytes).2)
  refine ⟨(world.disk.write handle bytes).1, _, news, ?_, grown, heard⟩
  simp only [take, statusAfter, ← octets_concat, gt_iff_lt, if_neg (Nat.not_lt.mpr fits),
    Failing.bind_run, Failing.get_run, Failing.set_run, Failing.lift_run, Failing.pure_run, ← told]
  rfl

/-- A chunk that does not fit ends the transfer, and nothing is told of it. -/
theorem take_exceeding (ticket total : Nat) (handle : Disk.Handle) (world : World)
    (long : limit < octets (taken ++ [bytes])) :
    ∃ after,
      take ticket total limit (statusAfter total taken handle) (.chunk bytes) world =
        (.error (.failure (.tooLarge (octets (taken ++ [bytes])) limit)), after) ∧
      after.progress = world.progress := by
  have calm := log_within Frame.untold_loose.logs .warn
    s!"Update artifact exceeded {limit} bytes while streaming" world trivial
  refine ⟨_, ?_, calm.rel.progress⟩
  simp only [take, statusAfter, ← octets_concat, gt_iff_lt, if_pos long, Failing.bind_run, log_run,
    Job.fail_run]

end Taking

/-- What is told while a stream is taken in, after what was taken in before. -/
theorem receive_tells (ticket total limit : Nat) (events : List StreamEvent) (taken : List Bytes)
    (handle : Disk.Handle) (world : World) (fits : octets taken ≤ limit) :
    let received := receive ticket total limit (statusAfter total taken handle) events world
    ∃ all news, Intake limit (taken ++ chunks events) all ∧
      announced total all = announced total taken ++ news ∧
      received.2.progress = world.progress ++ news.map (ticket, ·) ∧
      ((∃ size, received.1 = .ok size) ↔ isWhole events = true ∧ all = taken ++ chunks events) := by
  induction events generalizing taken handle world with
  | nil =>
      exact ⟨taken, [], .of_end fits, (List.append_nil _).symm, (List.append_nil _).symm,
        by simp [receive, isWhole, chunks]⟩
  | cons event events ih =>
      cases event with
      | failure error =>
          exact ⟨taken, [], .of_end fits, (List.append_nil _).symm, (List.append_nil _).symm,
            by simp [receive, isWhole]⟩
      | crash =>
          exact ⟨taken, [], .of_end fits, (List.append_nil _).symm, (List.append_nil _).symm,
            by simp [receive, isWhole]⟩
      | interference actions => exact ih taken handle (world.setDisk _) fits
      | chunk bytes =>
          rw [receive_cons, Failing.bind_run]
          by_cases long : limit < octets (taken ++ [bytes])
          · obtain ⟨after, ran, silent⟩ := take_exceeding ticket total handle world long
            rw [ran]
            exact ⟨taken, [], .of_excess fits long, (List.append_nil _).symm,
              silent.trans (List.append_nil _).symm, by simp [chunks]⟩
          · have fits := Nat.not_lt.mp long
            obtain ⟨next, after, news, ran, grown, heard⟩ :=
              take_fitting ticket total handle world fits
            obtain ⟨all, more, intake, whole, later, complete⟩ :=
              ih (taken ++ [bytes]) next after fits
            rw [List.append_assoc, List.singleton_append] at intake complete
            rw [ran]
            refine ⟨all, news ++ more, intake, ?_, ?_, complete⟩
            · rw [whole, grown, List.append_assoc]
            · rw [List.map_append, ← List.append_assoc, ← heard]
              exact later

/-! ## When the stream has come -/

/-- The part of committing a file that comes after it was told. -/
def check (slot : Slot) (update : Update) : Job DownloadError Unit := do
  log .debug ("Verifying checksum of " ++ slot.staging)
  if !(← Digest.verify slot.staging update.checksum) then
    log .warn ("Checksum verification failed for " ++ update.version)
    Job.fail (.checksumMismatch update.version update.checksum)
  promote slot

theorem check_within (loose : frame.Loose) (slot : Slot) (update : Update) :
    (check slot update).Within frame := by
  refine .bind (log_within loose.logs _ _) fun _ => ?_
  refine .bind (.lift (Digest.verify_within loose.logs _ _)) fun right => ?_
  cases right with
  | true => exact promote_within loose slot
  | false => exact .bind (log_within loose.logs _ _) fun _ => .fail_bind _ _

theorem commit_eq_check (ticket : Nat) (slot : Slot) (update : Update) :
    commit ticket slot update = (do
      Effect.tell ticket .verifying
      check slot update) := by
  simp only [commit, isEmpty_checksum, Bool.false_eq_true, if_false]
  rfl

/-- That the file is verified is told once, whatever comes of it. -/
theorem fromReceived_tells (ticket : Nat) (update : Update) (slot : Slot) (size : Nat)
    (world : World) :
    (rest.fromReceived ticket update slot size world).2.progress =
      world.progress ++ [(ticket, .verifying)] := by
  have committed : (discardingOnFailure slot (commit ticket slot update) world).2.progress =
      world.progress ++ [(ticket, .verifying)] := by
    rw [progress_discardingOnFailure, commit_eq_check, Failing.bind_run]
    exact ((check_within Frame.untold_loose slot update) _ trivial).rel.progress
  rw [rest.fromReceived, ← committed]
  exact Job.progress_bind fun _ => announce_within Frame.untold_loose _ _ _

/-- What is left of a transfer when the staging file is there tells the marks of what it takes in, and that
the file is verified when the whole stream was taken in. -/
theorem rest_tells (config : DownloadConfig) (ticket : Nat) (update : Update) (slot : Slot)
    (total : Nat) (status : Status) (events : List StreamEvent) (world : World)
    (begins : status.downloaded = 0 ∧ status.told = none) :
    ∃ taken, Intake config.limit.toNat (chunks events) taken ∧
      (rest config ticket update (.streaming slot total status events) world).2.progress =
        world.progress ++ (announced total taken ++
          if isWhole events = true ∧ taken = chunks events then [Progress.verifying] else []).map
            (ticket, ·) := by
  have empty : status = statusAfter total [] status.handle := by
    obtain ⟨downloaded, told, handle⟩ := status
    obtain ⟨rfl, rfl⟩ := begins
    simp [statusAfter, octets, lastTold]
  obtain ⟨taken, news, intake, all, heard, complete⟩ := receive_tells ticket total
    config.limit.toNat events [] status.handle world (Nat.zero_le _)
  rw [← empty] at heard complete
  rw [List.nil_append] at intake complete
  have none_ : announced total [] = [] := by
    simp [announced, marks]
  rw [none_, List.nil_append] at all
  refine ⟨taken, intake, ?_⟩
  rw [rest, progress_discarding_bind, Failing.bind_run]
  cases came : (receive ticket total config.limit.toNat status events world).1 with
  | error halt =>
      have broken : ¬ (isWhole events = true ∧ taken = chunks events) := by
        rw [← complete, came]
        rintro ⟨size, same⟩
        cases same
      rw [if_neg broken, List.append_nil, all]
      exact heard
  | ok downloaded =>
      have calm := log_within Frame.untold_loose.logs .debug s!"Staged {downloaded} bytes at {slot.staging}"
        (receive ticket total config.limit.toNat status events world).2 trivial
      simp only [Failing.bind_run, log_run, Failing.pure_run, fromReceived_tells]
      rw [if_pos (complete.mp ⟨downloaded, came⟩), List.map_append, ← List.append_assoc, all, ← heard]
      exact congrArg (· ++ _) calm.rel.progress

/-! ## A download from its begin to its end -/

/-- What a download tells, whatever is on the disk, wherever the log goes and however the stream is cut
into chunks. The percentage is computed exactly. Until the staging file is there nothing is told. From then
on exactly the marks of what is taken in are told, against the advertised length or else the stated size:
the beginnings with a larger percentage than all earlier ones. Behind them it is told once that the file
is verified, when the stream has come to its end and all of it was taken in, and not otherwise. When as much
was taken in as was advertised, the last percentage is a hundred. -/
theorem progress_told (config : DownloadConfig) (ticket : Nat) (update : Update) (world : World) :
    (∀ downloaded total : UInt64, (percentBits? downloaded total).map UInt8.toNat =
      percent? downloaded.toNat total.toNat) ∧
    match (opening config update world).1 with
    | .error _ => (run config ticket update world).2.progress = world.progress
    | .ok (_, _, _, events) => ∃ length taken,
        let told := announced (totalOf length update) taken
        let verifying := if isWhole events = true ∧ taken = chunks events
          then [Progress.verifying] else []
        (world.network.stream world.requests update.url).reply = .opened length events ∧
          Intake config.limit.toNat (chunks events) taken ∧
          (run config ticket update world).2.progress =
            world.progress ++ (told ++ verifying).map (ticket, ·) ∧
          Mounting (totalOf length update) taken told ∧
          (length = some (octets taken) ∧ 0 < octets taken →
            (told.filterMap Progress.percent?).getLast? = some 100) := by
  refine ⟨percentBits?_eq, ?_⟩
  obtain ⟨silent, streams⟩ := opening_calm config update world
  rw [run_eq_opening, Failing.bind_run]
  cases opened : (opening config update world).1 with
  | error halt => exact silent
  | ok result =>
      obtain ⟨slot, total, status, events⟩ := result
      obtain ⟨begins, length, replied, rfl⟩ := streams slot total status events opened
      obtain ⟨taken, intake, heard⟩ := rest_tells config ticket update slot (totalOf length update)
        status events (opening config update world).2 begins
      refine ⟨length, taken, replied, intake, ?_, mounting_announced _ _, ?_⟩
      · rw [← silent]
        exact heard
      · rintro ⟨rfl, some_⟩
        have total : totalOf (some (octets taken)) update = octets taken := if_pos some_
        have present : taken ≠ [] := by
          rintro rfl
          cases some_
        rw [total, (mounting_announced _ _).last (Nat.ne_of_gt some_) present,
          percentAt_octets some_]

end Transfer

end SelfUpdate
