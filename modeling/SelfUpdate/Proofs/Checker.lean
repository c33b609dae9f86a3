import SelfUpdate.Checker
import SelfUpdate.Proofs.Download.Custody

/-!
# What checks leave alone

A check asks the network and writes to the log. While nobody else acts it leaves the disk as it is.
-/

namespace SelfUpdate

variable {ε α β : Type}

namespace World.Unmoved

variable {first second : World}

theorem alone (unmoved : first.Unmoved second) (alone : first.network.Alone) :
    second.network.Alone :=
  unmoved.network ▸ alone

end World.Unmoved

/-- A job moves nothing while nobody else acts. -/
def Job.Still (job : Job ε α) : Prop :=
  ∀ world : World, world.Quiet → world.network.Alone → world.Unmoved (job world).2

namespace Job.Still

theorem pure (a : α) : Still (Pure.pure a : Job ε α) := fun world _ _ => .refl world

theorem fail (error : ε) : Still (Job.fail error : Job ε α) := fun world _ _ => .refl world

theorem fail_bind (error : ε) (next : α → Job ε β) : Still (Job.fail error >>= next) := by
  rw [Job.fail_bind]
  exact fail error

theorem bind {first : Job ε α} {next : α → Job ε β} (early : Still first)
    (late : ∀ a, Still (next a)) : Still (first >>= next) := by
  intro world quiet alone
  have moved := early world quiet alone
  rw [Failing.bind_run]
  cases (first world).1 with
  | ok a => exact moved.trans (late a _ (moved.quiet quiet) (moved.alone alone))
  | error error => exact moved

theorem ofExcept {δ : Type} (wrap : δ → ε) (result : Except δ α) :
    Still (Job.ofExcept wrap result) := by
  cases result with
  | ok a => exact pure a
  | error error => exact fail (wrap error)

theorem get : Still (MonadState.get : Job ε World) := fun world _ _ => .refl world

end Job.Still

namespace Check

open Job.Still

theorem log_still (level : Log.Level) (text : String) : (log level text).Still := by
  intro world quiet alone
  change world.Unmoved (Effect.log level .checker text world).2
  rw [Effect.log_run quiet]
  exact .recorded world _ _ _

theorem fetch_still (url : String) : (fetch url).Still := by
  refine bind ?_ fun reply => ?_
  · intro world quiet alone
    refine ⟨?_, rfl, rfl, rfl⟩
    change world.disk.afterActions (world.network.text world.requests url).interference = world.disk
    rw [alone.text]
    rfl
  · cases reply with
    | body text => exact pure text
    | failure error => exact fail _
    | crash => exact fun world _ _ => .refl world

theorem fetchChecksum_still (version artifact url : String) :
    (fetchChecksum version artifact url).Still := by
  rw [fetchChecksum]
  split
  · exact bind (log_still _ _) fun _ => fail_bind _ _
  · refine bind (fetch_still url) fun contents => ?_
    cases Checksum.ofDocument? contents artifact with
    | some checksum => exact pure checksum
    | none => exact bind (log_still _ _) fun _ => fail _

theorem resolveChecksum_still (release : Release.Hosted) (artifact : Release.Asset) :
    (resolveChecksum release artifact).Still := by
  rw [resolveChecksum]
  cases release.checksumAsset? artifact with
  | some asset => exact fetchChecksum_still _ _ _
  | none =>
      cases artifact.digest.bind Checksum.ofDigestField? with
      | some checksum => exact bind (log_still _ _) fun _ => pure checksum
      | none => exact bind (log_still _ _) fun _ => fail _

theorem resolveHosted_still (release : Release.Hosted) : (resolveHosted release).Still := by
  refine bind (ofExcept _ _) fun _ => ?_
  cases release.artifact? with
  | none => exact fail _
  | some artifact =>
      dsimp only
      split
      · exact bind (log_still _ _) fun _ => fail_bind _ _
      · exact bind (resolveChecksum_still _ _) fun checksum => bind get fun world => ofExcept _ _

theorem resolve_still (endpoint : String) : (resolve endpoint).Still := by
  rw [resolve]
  split
  · exact bind (log_still _ _) fun _ => fail_bind _ _
  · refine bind (log_still _ _) fun _ => bind (fetch_still _) fun body => ?_
    refine bind (ofExcept _ _) fun document => ?_
    cases document with
    | native metadata => exact bind get fun world => ofExcept _ _
    | hosted release => exact resolveHosted_still release

theorem run_still (endpoint : String) (current : UInt32) : (run endpoint current).Still := by
  refine bind (resolve_still endpoint) fun update => ?_
  dsimp only
  cases compare current update with
  | updateAvailable newer => exact bind (log_still _ _) fun _ => pure _
  | noUpdate => exact bind (log_still _ _) fun _ => pure _

end Check

namespace Checker

/-- A job of the checker moves nothing. -/
theorem runJob_unmoved {world : World} (quiet : world.Quiet) (alone : world.network.Alone)
    (ticket : Nat) (job : CheckJob) : world.Unmoved (runJob ticket job world).2 := by
  have still := Check.run_still job.endpoint job.current world quiet alone
  have after := still.quiet quiet
  rw [runJob, Effect.outputOf, Stateful.bind_run]
  rw [show (Check.run job.endpoint job.current).run world =
    Check.run job.endpoint job.current world from rfl]
  generalize Check.run job.endpoint job.current world = ran at still after ⊢
  obtain ⟨(error | _) | output, later⟩ := ran
  · exact still
  · simp only [Stateful.bind_run, Effect.log_run after, Stateful.pure_run]
    exact still.trans (.recorded later _ _ _)
  · exact still

/-- No number of them does. -/
theorem runSome_unmoved {world : World} (quiet : world.Quiet) (alone : world.network.Alone)
    (count : Nat) (checker : Checker) :
    world.Unmoved (Worker.runSome runJob count checker world).2 := by
  induction count generalizing checker world with
  | zero => exact .refl world
  | succ count ih =>
      rw [Worker.runSome]
      cases (Worker.poll checker).running with
      | none => exact .refl world
      | some taken =>
          obtain ⟨ticket, job⟩ := taken
          have moved := runJob_unmoved quiet alone ticket job
          simp only [Stateful.bind_run]
          cases (runJob ticket job world).1 with
          | none => exact moved.trans (ih (moved.quiet quiet) (moved.alone alone) _)
          | some output => exact moved.trans (ih (moved.quiet quiet) (moved.alone alone) _)

end Checker

end SelfUpdate
