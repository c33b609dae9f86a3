import SelfUpdate.Proofs.Computation
import SelfUpdate.Proofs.Disk.Directories
import SelfUpdate.Checker
import SelfUpdate.Digest

/-!
# Frames

A frame says what holds of a world and how later worlds may differ from it. What stays within a frame
does so in any order and any number: it is enough to look at the single effects.
-/

namespace SelfUpdate

variable {α β ε ι ο : Type}

/-- A property of worlds, and a preorder on the worlds that have it. -/
structure Frame where
  Holds : World → Prop
  Rel : World → World → Prop
  refl : ∀ {world}, Holds world → Rel world world
  trans : ∀ {first second third}, Rel first second → Rel second third → Rel first third

variable {frame : Frame} {world : World}

/-- A later world is as the frame allows. -/
structure Frame.Step (frame : Frame) (before after : World) : Prop where
  rel : frame.Rel before after
  holds : frame.Holds after

namespace Frame.Step

variable {first second third : World}

theorem refl (holds : frame.Holds world) : frame.Step world world := ⟨frame.refl holds, holds⟩

theorem trans (early : frame.Step first second) (late : frame.Step second third) :
    frame.Step first third :=
  ⟨frame.trans early.rel late.rel, late.holds⟩

end Frame.Step

namespace Effect

/-- An effect that stays within a frame. -/
def Within (frame : Frame) (effect : Effect α) : Prop :=
  ∀ world, frame.Holds world → frame.Step world (effect world).2

namespace Within

theorem pure (a : α) : Within frame (Pure.pure a : Effect α) := fun _ holds => .refl holds

theorem get : Within frame (MonadState.get : Effect World) := fun _ holds => .refl holds

theorem bind {first : Effect α} {next : α → Effect β} (early : Within frame first)
    (late : ∀ a, Within frame (next a)) : Within frame (first >>= next) := by
  intro world holds
  have step := early world holds
  exact step.trans (late _ _ step.holds)

end Within

end Effect

namespace Job

/-- A job that stays within a frame, however it ends. -/
def Within (frame : Frame) (job : Job ε α) : Prop :=
  ∀ world, frame.Holds world → frame.Step world (job world).2

namespace Within

theorem lift {effect : Effect α} (within : effect.Within frame) :
    Within frame (liftM effect : Job ε α) := within

theorem pure (a : α) : Within frame (Pure.pure a : Job ε α) := fun _ holds => .refl holds

theorem get : Within frame (MonadState.get : Job ε World) := fun _ holds => .refl holds

theorem fail (error : ε) : Within frame (Job.fail error : Job ε α) := fun _ holds => .refl holds

theorem crash : Within frame (throw .crash : Job ε α) := fun _ holds => .refl holds

theorem ofExcept {δ : Type} (wrap : δ → ε) (result : Except δ α) :
    Within frame (Job.ofExcept wrap result) := by
  cases result with
  | ok a => exact .pure a
  | error error => exact .fail (wrap error)

/-- What comes after a step. -/
theorem step_bind {first : Job ε α} {next : α → Job ε β} (step : frame.Step world (first world).2)
    (late : ∀ a, Within frame (next a)) : frame.Step world ((first >>= next) world).2 := by
  rw [Failing.bind_run]
  cases (first world).1 with
  | ok a => exact step.trans (late a _ step.holds)
  | error error => exact step

theorem bind {first : Job ε α} {next : α → Job ε β} (early : Within frame first)
    (late : ∀ a, Within frame (next a)) : Within frame (first >>= next) :=
  fun world holds => step_bind (early world holds) late

/-- What follows a look at the world may use what holds then. -/
theorem get_bind {next : World → Job ε α}
    (late : ∀ world, frame.Holds world → frame.Step world (next world world).2) :
    Within frame (MonadState.get >>= next) :=
  late

theorem map (f : α → β) {job : Job ε α} (within : Within frame job) : Within frame (f <$> job) := by
  intro world holds
  rw [Failing.map_run]
  exact within world holds

theorem fail_bind (error : ε) (next : α → Job ε β) :
    Within frame (Job.fail error >>= next) := fun _ holds => .refl holds

end Within

end Job

/-- That the log stays within a frame. -/
def Frame.Logs (frame : Frame) : Prop :=
  ∀ level source text, (Effect.log level source text).Within frame

/-! ## What most frames leave out of account -/

/-- A frame in which the disk may change step by step, and the records and the place they go to may become
anything. -/
def Frame.Roomy (frame : Frame) : Prop :=
  ∀ (world : World) (disk : Disk) (records : List Log.Record) (sink : LogSink), frame.Holds world →
    Disk.Changes world.disk disk →
      frame.Step world { world with disk := disk, records := records, sink := sink }

namespace Frame.Roomy

variable (roomy : frame.Roomy)

include roomy

theorem disk {disk : Disk} (changes : Disk.Changes world.disk disk) (holds : frame.Holds world) :
    frame.Step world { world with disk := disk } :=
  roomy world disk world.records world.sink holds changes

theorem ofSteps {steps : Disk.Steps Unit} (changes : ∀ disk, Disk.Changes disk (steps disk).2) :
    (Effect.ofSteps steps).Within frame :=
  fun world holds => roomy.disk (changes world.disk) holds

theorem openLogFile (path : Path) : (Effect.openLogFile path).Within frame := by
  intro world holds
  simp only [Effect.openLogFile, Stateful.bind_run, Stateful.get_run]
  cases opened : world.disk.openForWriting path with
  | ok found => exact roomy.disk (Disk.openForWriting_changes opened) holds
  | error error => exact .refl holds

theorem liveLogFile (file : LogFile) : (Effect.liveLogFile file).Within frame := by
  refine .bind .get fun world => ?_
  dsimp only
  split
  · exact .pure _
  · cases Path.parent? file.path with
    | none => exact roomy.openLogFile _
    | some parent =>
        have makes := roomy.ofSteps fun disk => (Disk.makeDirectories_digs parent disk).changes
        refine .bind makes fun made => ?_
        cases made with
        | ok done => exact roomy.openLogFile _
        | error error => exact .pure _

theorem appendToLogFile (record : Log.Record) : (Effect.appendToLogFile record).Within frame := by
  refine .bind .get fun world => ?_
  cases world.sink with
  | unset => exact .pure _
  | host => exact .pure _
  | file file =>
      refine .bind (roomy.liveLogFile file) fun live => ?_
      cases live with
      | none => exact .pure _
      | some file =>
          exact fun world holds => roomy world _ world.records _ holds (.single (.alter _ _))

/-- The log stays within such a frame, wherever its records go. -/
theorem logs : frame.Logs := by
  intro level source text world holds
  simp only [Effect.log, Stateful.bind_run, Stateful.get_run, Stateful.ite_run]
  split
  · exact .refl holds
  · have noted := roomy world world.disk (world.records ++ [⟨level, source, text⟩]) world.sink holds
      .refl
    exact noted.trans (roomy.appendToLogFile _ _ noted.holds)

end Frame.Roomy

/-- A frame in which the disk, the records and the place they go to may become anything. -/
def Frame.Loose (frame : Frame) : Prop :=
  ∀ (world : World) (disk : Disk) (records : List Log.Record) (sink : LogSink), frame.Holds world →
    frame.Step world { world with disk := disk, records := records, sink := sink }

namespace Frame.Loose

variable (loose : frame.Loose)

include loose

theorem roomy : frame.Roomy :=
  fun world disk records sink holds _ => loose world disk records sink holds

theorem disk (disk : Disk) (holds : frame.Holds world) :
    frame.Step world { world with disk := disk } :=
  loose world disk world.records world.sink holds

theorem ofStep (operation : Disk → Except IoError Disk) :
    (Effect.ofStep operation).Within frame := by
  intro world holds
  simp only [Effect.ofStep, Stateful.bind_run, Stateful.get_run]
  cases operation world.disk with
  | ok disk => exact loose.disk disk holds
  | error error => exact .refl holds

theorem ofSteps (steps : Disk.Steps Unit) : (Effect.ofSteps steps).Within frame :=
  fun _ holds => loose.disk _ holds

theorem interfere (actions : List Disk.Action) : (Effect.interfere actions).Within frame :=
  fun _ holds => loose.disk _ holds

theorem logs : frame.Logs := loose.roomy.logs

end Frame.Loose

/-! ## Workers -/

theorem Effect.outputOf_within (logs : frame.Logs) (worker : String) {job : Job ε α}
    (within : job.Within frame) : (Effect.outputOf worker job).Within frame := by
  intro world holds
  have step := within world holds
  rw [Effect.outputOf, Stateful.bind_run]
  rw [show job.run world = job world from rfl]
  rcases (job world).1 with (error | _) | a
  · exact step
  · exact step.trans (logs _ _ _ _ step.holds)
  · exact step

theorem Worker.runSome_within {run : Nat → ι → Effect (Option ο)}
    (within : ∀ ticket job, (run ticket job).Within frame) (count : Nat) (worker : Worker ι ο) :
    Effect.Within frame (Worker.runSome run count worker) := by
  induction count generalizing worker with
  | zero => exact .pure worker
  | succ count ih =>
      rw [runSome]
      cases worker.poll.running with
      | none => exact .pure _
      | some taken =>
          obtain ⟨ticket, job⟩ := taken
          refine .bind (within ticket job) fun output => ?_
          cases output with
          | some done => exact ih _
          | none => exact ih _

theorem Worker.settle_within {run : Nat → ι → Effect (Option ο)}
    (within : ∀ ticket job, (run ticket job).Within frame) (worker : Worker ι ο) :
    Effect.Within frame (Worker.settle run worker) :=
  runSome_within within _ worker

/-! ## Checks -/

namespace Check

variable (logs : frame.Logs) (asks : ∀ url, (Effect.getText url).Within frame)

include asks in
theorem fetch_within (url : String) : (fetch url).Within frame := by
  refine .bind (.lift (asks url)) fun reply => ?_
  cases reply with
  | body text => exact .pure text
  | failure error => exact .fail _
  | crash => exact .crash

include logs

theorem log_within (level : Log.Level) (text : String) : (log level text).Within frame :=
  .lift (logs level .checker text)

include asks

theorem fetchChecksum_within (version artifact url : String) :
    (fetchChecksum version artifact url).Within frame := by
  rw [fetchChecksum]
  split
  · exact .bind (log_within logs _ _) fun _ => .fail_bind _ _
  · refine .bind (fetch_within asks url) fun contents => ?_
    cases Checksum.ofDocument? contents artifact with
    | some checksum => exact .pure checksum
    | none => exact .bind (log_within logs _ _) fun _ => .fail _

theorem resolveChecksum_within (release : Release.Hosted) (artifact : Release.Asset) :
    (resolveChecksum release artifact).Within frame := by
  rw [resolveChecksum]
  cases release.checksumAsset? artifact with
  | some asset => exact fetchChecksum_within logs asks _ _ _
  | none =>
      cases artifact.digest.bind Checksum.ofDigestField? with
      | some checksum => exact .bind (log_within logs _ _) fun _ => .pure checksum
      | none => exact .bind (log_within logs _ _) fun _ => .fail _

theorem resolveHosted_within (release : Release.Hosted) : (resolveHosted release).Within frame := by
  refine .bind (.ofExcept _ _) fun _ => ?_
  cases release.artifact? with
  | none => exact .fail _
  | some artifact =>
      dsimp only
      split
      · exact .bind (log_within logs _ _) fun _ => .fail_bind _ _
      · exact .bind (resolveChecksum_within logs asks _ _) fun checksum =>
          .bind .get fun world => .ofExcept _ _

theorem resolve_within (endpoint : String) : (resolve endpoint).Within frame := by
  rw [resolve]
  split
  · exact .bind (log_within logs _ _) fun _ => .fail_bind _ _
  · refine .bind (log_within logs _ _) fun _ => .bind (fetch_within asks _) fun body => ?_
    refine .bind (.ofExcept _ _) fun document => ?_
    cases document with
    | native metadata => exact .bind .get fun world => .ofExcept _ _
    | hosted release => exact resolveHosted_within logs asks release

theorem run_within (endpoint : String) (current : UInt32) :
    (run endpoint current).Within frame := by
  refine .bind (resolve_within logs asks endpoint) fun update => ?_
  dsimp only
  cases compare current update with
  | updateAvailable newer => exact .bind (log_within logs _ _) fun _ => .pure _
  | noUpdate => exact .bind (log_within logs _ _) fun _ => .pure _

end Check

theorem Checker.runJob_within (logs : frame.Logs) (asks : ∀ url, (Effect.getText url).Within frame)
    (ticket : Nat) (job : CheckJob) : (Checker.runJob ticket job).Within frame :=
  Effect.outputOf_within logs _ (Check.run_within logs asks job.endpoint job.current)

theorem Checker.settle_within (logs : frame.Logs) (asks : ∀ url, (Effect.getText url).Within frame)
    (checker : Checker) : Effect.Within frame (Checker.settle checker) :=
  Worker.settle_within (fun ticket job => Checker.runJob_within logs asks ticket job) checker

/-! ## Digests -/

/-- The digest of a file is read without any change but records of the log. -/
theorem Digest.verify_within (logs : frame.Logs) (path : Path) (expected : String) :
    (Digest.verify path expected).Within frame := by
  refine .bind .get fun world => ?_
  cases Digest.ofFile world.disk path with
  | ok actual => exact .pure _
  | error error => exact .bind (logs _ _ _) fun _ => .pure _

end SelfUpdate
