import SelfUpdate.Checker
import SelfUpdate.Proofs.Frame
import SelfUpdate.Proofs.World

/-!
# What effects ask of the network

Wherever the records of the log go, most effects ask for nothing and leave the network, the clocks,
the installer and what it was handed as they are.
-/

namespace SelfUpdate

variable {ε α β : Type}

namespace World

/-- The world after some requests. Only the disk, and what the log and the listeners were told, may
have changed besides. -/
structure Queried (before : World) (asked : List Request) (after : World) : Prop where
  requests : after.requests = before.requests ++ asked
  network : after.network = before.network
  now : after.now = before.now
  clock : after.clock = before.clock
  installer : after.installer = before.installer
  handedOver : after.handedOver = before.handedOver

namespace Queried

variable {first second third : World} {asked more : List Request}

theorem refl (world : World) : world.Queried [] world :=
  ⟨(List.append_nil _).symm, rfl, rfl, rfl, rfl, rfl⟩

theorem trans (early : first.Queried asked second) (late : second.Queried more third) :
    first.Queried (asked ++ more) third where
  requests := by rw [late.requests, early.requests, List.append_assoc]
  network := late.network.trans early.network
  now := late.now.trans early.now
  clock := late.clock.trans early.clock
  installer := late.installer.trans early.installer
  handedOver := late.handedOver.trans early.handedOver

end Queried

end World

/-- The frame of what asks for nothing. -/
def Frame.silent : Frame where
  Holds _ := True
  Rel before after := before.Queried [] after
  refl _ := .refl _
  trans early late := early.trans late

theorem Frame.silent_loose : Frame.silent.Loose :=
  fun _ _ _ _ _ => ⟨⟨(List.append_nil _).symm, rfl, rfl, rfl, rfl, rfl⟩, trivial⟩

namespace Effect

/-- An effect that asks for nothing. -/
def Silent (effect : Effect α) : Prop := ∀ world : World, world.Queried [] (effect world).2

namespace Silent

theorem pure (a : α) : Silent (Pure.pure a : Effect α) := fun world => .refl world

theorem bind {first : Effect α} {next : α → Effect β} (early : Silent first)
    (late : ∀ a, Silent (next a)) : Silent (first >>= next) := by
  intro world
  exact (early world).trans (late _ _)

theorem of_within {effect : Effect α} (within : effect.Within .silent) : Silent effect :=
  fun world => (within world trivial).rel

theorem requests {effect : Effect α} (silent : Silent effect) (world : World) :
    (effect world).2.requests = world.requests :=
  (silent world).requests.trans (List.append_nil _)

end Silent

theorem setDisk_queried (world : World) (disk : Disk) : world.Queried [] (world.setDisk disk) :=
  ⟨(List.append_nil _).symm, rfl, rfl, rfl, rfl, rfl⟩

theorem ofStep_silent (operation : Disk → Except IoError Disk) :
    (Effect.ofStep operation).Silent :=
  .of_within (Frame.silent_loose.ofStep operation)

theorem ofSteps_silent (steps : Disk.Steps Unit) : (Effect.ofSteps steps).Silent :=
  .of_within (Frame.silent_loose.ofSteps steps)

theorem interfere_silent (actions : List Disk.Action) : (Effect.interfere actions).Silent :=
  .of_within (Frame.silent_loose.interfere actions)

theorem tell_silent (ticket : Nat) (event : Progress) : (Effect.tell ticket event).Silent :=
  fun _ => ⟨(List.append_nil _).symm, rfl, rfl, rfl, rfl, rfl⟩

/-! ## The log -/

theorem openLogFile_silent (path : Path) : (openLogFile path).Silent :=
  .of_within (Frame.silent_loose.roomy.openLogFile path)

theorem log_silent (level : Log.Level) (source : Log.Source) (text : String) :
    (Effect.log level source text).Silent :=
  .of_within (Frame.silent_loose.logs level source text)

end Effect

/-! ## Jobs -/

namespace Job

/-- A job that asks for nothing. -/
def Silent (job : Job ε α) : Prop := ∀ world : World, world.Queried [] (job world).2

namespace Silent

theorem of_within {job : Job ε α} (within : job.Within .silent) : Silent job :=
  fun world => (within world trivial).rel

theorem lift {effect : Effect α} (silent : effect.Silent) :
    Silent (liftM effect : Job ε α) := silent

theorem pure (a : α) : Silent (Pure.pure a : Job ε α) := fun world => .refl world

theorem get : Silent (MonadState.get : Job ε World) := fun world => .refl world

theorem fail (error : ε) : Silent (Job.fail error : Job ε α) := fun world => .refl world

theorem crash : Silent (throw .crash : Job ε α) := fun world => .refl world

theorem ofExcept {δ : Type} (wrap : δ → ε) (result : Except δ α) :
    Silent (Job.ofExcept wrap result) := by
  cases result with
  | ok a => exact pure a
  | error error => exact fail (wrap error)

theorem bind {first : Job ε α} {next : α → Job ε β} (early : Silent first)
    (late : ∀ a, Silent (next a)) : Silent (first >>= next) := by
  intro world
  rw [Failing.bind_run]
  cases (first world).1 with
  | ok a => exact (early world).trans (late a _)
  | error error => exact early world

end Silent

/-- A job that makes the given request once, or asks for nothing and does not succeed. -/
def AsksOnce (request : Request) (job : Job ε α) : Prop :=
  ∀ world : World, world.Queried [] (job world).2 ∧ (∃ halt, (job world).1 = .error halt) ∨
    world.Queried [request] (job world).2

namespace AsksOnce

variable {request : Request}

theorem fail (error : ε) : AsksOnce request (Job.fail error : Job ε α) :=
  fun world => .inl ⟨.refl world, _, rfl⟩

/-- Before the request the job is silent. -/
theorem bind_silent {first : Job ε α} {next : α → Job ε β} (early : Silent first)
    (late : ∀ a, AsksOnce request (next a)) : AsksOnce request (first >>= next) := by
  intro world
  rw [Failing.bind_run]
  cases (first world).1 with
  | error halt => exact .inl ⟨early world, halt, rfl⟩
  | ok a =>
      rcases late a (first world).2 with ⟨nothing, halted⟩ | once
      · exact .inl ⟨(early world).trans nothing, halted⟩
      · exact .inr ((early world).trans once)

/-- After the request the job is silent. -/
theorem bind {first : Job ε α} {next : α → Job ε β} (early : AsksOnce request first)
    (late : ∀ a, Silent (next a)) : AsksOnce request (first >>= next) := by
  intro world
  rw [Failing.bind_run]
  rcases early world with ⟨nothing, halt, failed⟩ | once
  · rw [failed]
    exact .inl ⟨nothing, halt, rfl⟩
  · cases (first world).1 with
    | error halt => exact .inr once
    | ok a => exact .inr (once.trans (late a _))

end AsksOnce

end Job

/-- Behind a job there is at most a record. -/
theorem Effect.outputOf_queried (worker : String) (job : Job ε α) (world : World) :
    (job world).2.Queried [] (Effect.outputOf worker job world).2 := by
  rw [Effect.outputOf, Stateful.bind_run]
  rw [show job.run world = job world from rfl]
  rcases (job world).1 with (error | _) | a
  · exact .refl _
  · exact Effect.log_silent _ _ _ _
  · exact .refl _

end SelfUpdate
