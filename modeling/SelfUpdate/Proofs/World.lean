import SelfUpdate.Proofs.Computation
import SelfUpdate.World

/-!
# Effects on a world

How effects and jobs run, and what the log does. In a quiet world records of the log go to no file:
the host takes them, and what its logger writes to the disk counts as done by others.
-/

namespace SelfUpdate

variable {ε α β : Type} {world : World}

/-- The world with another disk. -/
def World.setDisk (world : World) (disk : Disk) : World := { world with disk := disk }

/-- The world once the stream at an address has been asked for. -/
def World.asked (world : World) (url : String) : World :=
  { world with
    requests := world.requests ++ [.stream url]
    disk := world.disk.afterActions (world.network.stream world.requests url).interference }

/-! ## Running -/

namespace Effect

theorem ofStep_run (operation : Disk → Except IoError Disk) (world : World) :
    Effect.ofStep operation world =
      match operation world.disk with
      | .ok disk => (.ok (), world.setDisk disk)
      | .error error => (.error error, world) := by
  change (match operation world.disk with | .ok disk => _ | .error error => _ : Effect _) world = _
  cases operation world.disk <;> rfl

theorem ofSteps_run (steps : Disk.Steps Unit) (world : World) :
    Effect.ofSteps steps world = ((steps world.disk).1, world.setDisk (steps world.disk).2) := (rfl)

theorem openStream_run (url : String) (world : World) :
    Effect.openStream url world =
      ((world.network.stream world.requests url).reply, world.asked url) := (rfl)

end Effect

namespace Job

@[simp] theorem fail_run (error : ε) (world : World) :
    (Job.fail error : Job ε α) world = (.error (.failure error), world) := (rfl)

/-- Nothing is done after a failure. -/
@[simp] theorem fail_bind (error : ε) (next : α → Job ε β) :
    (Job.fail error >>= next) = Job.fail error := (rfl)

@[simp] theorem ofExcept_ok {δ : Type} (wrap : δ → ε) (a : α) :
    Job.ofExcept wrap (.ok a) = pure a := (rfl)

@[simp] theorem ofExcept_error {δ : Type} (wrap : δ → ε) (error : δ) :
    Job.ofExcept wrap (.error error : Except δ α) = Job.fail (wrap error) := (rfl)

end Job

/-! ## Records -/

/-- Whether records go to a file. -/
def LogSink.isFile : LogSink → Bool
  | file _ => true
  | _ => false

namespace World

/-- No record of the log goes to the disk. -/
abbrev Quiet (world : World) : Prop := world.sink.isFile = false

/-- Worlds that differ at most in their disk and in what the log and the listeners were told. -/
structure Alike (before after : World) : Prop where
  network : after.network = before.network
  requests : after.requests = before.requests
  leastLevel : after.leastLevel = before.leastLevel
  sink : after.sink = before.sink
  now : after.now = before.now
  clock : after.clock = before.clock
  installer : after.installer = before.installer
  handedOver : after.handedOver = before.handedOver

/-- A world after a record, which is kept unless its level is too low. -/
def recorded (world : World) (level : Log.Level) (source : Log.Source) (text : String) : World :=
  if world.leastLevel.any (·.isKept level) then
    { world with records := world.records ++ [⟨level, source, text⟩] }
  else world

section

variable (world : World) (level : Log.Level) (source : Log.Source) (text : String)

@[simp] theorem disk_recorded : (world.recorded level source text).disk = world.disk := by
  rw [recorded]
  split <;> rfl

@[simp] theorem requests_recorded :
    (world.recorded level source text).requests = world.requests := by
  rw [recorded]
  split <;> rfl

@[simp] theorem sink_recorded : (world.recorded level source text).sink = world.sink := by
  rw [recorded]
  split <;> rfl

@[simp] theorem network_recorded :
    (world.recorded level source text).network = world.network := by
  rw [recorded]
  split <;> rfl

theorem alike_recorded : world.Alike (world.recorded level source text) := by
  rw [recorded]
  split <;> exact ⟨rfl, rfl, rfl, rfl, rfl, rfl, rfl, rfl⟩

end

namespace Alike

variable {first second third : World}

theorem refl (world : World) : world.Alike world := ⟨rfl, rfl, rfl, rfl, rfl, rfl, rfl, rfl⟩

theorem trans (early : first.Alike second) (late : second.Alike third) : first.Alike third where
  network := late.network.trans early.network
  requests := late.requests.trans early.requests
  leastLevel := late.leastLevel.trans early.leastLevel
  sink := late.sink.trans early.sink
  now := late.now.trans early.now
  clock := late.clock.trans early.clock
  installer := late.installer.trans early.installer
  handedOver := late.handedOver.trans early.handedOver

theorem record (alike : first.Alike second) (level : Log.Level) (source : Log.Source)
    (text : String) : first.Alike (second.recorded level source text) :=
  alike.trans (alike_recorded second level source text)

theorem asked (alike : first.Alike second) (url : String) :
    (first.asked url).Alike (second.asked url) where
  network := alike.network
  requests := congrArg (· ++ [Request.stream url]) alike.requests
  leastLevel := alike.leastLevel
  sink := alike.sink
  now := alike.now
  clock := alike.clock
  installer := alike.installer
  handedOver := alike.handedOver

theorem quiet (alike : first.Alike second) (held : first.Quiet) : second.Quiet := by
  rw [Quiet, alike.sink]
  exact held

end Alike

/-- Worlds that differ at most in what was asked, told or recorded. -/
structure Unmoved (before after : World) : Prop where
  disk : after.disk = before.disk
  network : after.network = before.network
  sink : after.sink = before.sink
  handedOver : after.handedOver = before.handedOver

namespace Unmoved

variable {first second third : World}

theorem refl (world : World) : world.Unmoved world := ⟨rfl, rfl, rfl, rfl⟩

theorem trans (early : first.Unmoved second) (late : second.Unmoved third) :
    first.Unmoved third where
  disk := late.disk.trans early.disk
  network := late.network.trans early.network
  sink := late.sink.trans early.sink
  handedOver := late.handedOver.trans early.handedOver

theorem recorded (world : World) (level : Log.Level) (source : Log.Source) (text : String) :
    world.Unmoved (world.recorded level source text) :=
  have alike := world.alike_recorded level source text
  ⟨world.disk_recorded level source text, alike.network, alike.sink, alike.handedOver⟩

theorem quiet (unmoved : first.Unmoved second) (quiet : first.Quiet) : second.Quiet := by
  rw [Quiet, unmoved.sink]
  exact quiet

end Unmoved

@[simp] theorem disk_setDisk (world : World) (disk : Disk) : (world.setDisk disk).disk = disk := rfl

@[simp] theorem sink_setDisk (world : World) (disk : Disk) :
    (world.setDisk disk).sink = world.sink := rfl

@[simp] theorem requests_setDisk (world : World) (disk : Disk) :
    (world.setDisk disk).requests = world.requests := rfl

@[simp] theorem network_setDisk (world : World) (disk : Disk) :
    (world.setDisk disk).network = world.network := rfl

@[simp] theorem disk_asked (world : World) (url : String) :
    (world.asked url).disk = world.disk.afterActions
      (world.network.stream world.requests url).interference := rfl

@[simp] theorem sink_asked (world : World) (url : String) :
    (world.asked url).sink = world.sink := rfl

theorem alike_setDisk (world : World) (disk : Disk) : world.Alike (world.setDisk disk) :=
  ⟨rfl, rfl, rfl, rfl, rfl, rfl, rfl, rfl⟩

end World

/-- In a quiet world a record changes nothing but the records. -/
theorem Effect.log_run (quiet : world.sink.isFile = false) (level : Log.Level) (source : Log.Source)
    (text : String) :
    Effect.log level source text world = ((), world.recorded level source text) := by
  simp only [Effect.log, Stateful.bind_run, Stateful.get_run, World.recorded, Stateful.ite_run]
  by_cases kept : world.leastLevel.any (·.isKept level) = true
  · simp only [kept, Bool.not_true, Bool.false_eq_true, if_false, Stateful.bind_run,
      Stateful.set_run, if_true, appendToLogFile, Stateful.get_run]
    cases found : world.sink with
    | unset => rfl
    | host => rfl
    | file file => simp [found, LogSink.isFile] at quiet
  · simp [kept]

end SelfUpdate
