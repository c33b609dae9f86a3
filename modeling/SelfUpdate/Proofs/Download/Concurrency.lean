import SelfUpdate.Proofs.Download.Scenes
import SelfUpdate.Proofs.Worker.Calls

/-!
# Concurrent use of a downloader

Callers that begin their calls one after another, each without waiting for those before, get the
replies, and leave the world, of callers that take turns. Whenever one looks, the downloader is where
it is at some moment of calls made in turn: after some of the calls, or within the next one.
-/

namespace SelfUpdate.Downloader

open Worker (Call)

variable {note : DownloadOutput → Effect Unit} {downloader : Downloader} {ticket : Nat}
  {job : DownloadJob} {task after : Task} {world before late : World}

/-! ## Calls made in turn -/

def issue (downloader : Downloader) (call : Call DownloadJob) : Downloader :=
  { downloader with worker := downloader.worker.issue call }

/-- Shutting down is done at once. -/
inductive Reply where
  | finished (result : Except DownloadError DownloadOutput)
  | closed

/-- What a call gets, by the number under which it is answered. -/
def reply (downloader : Downloader) : Option Nat → Reply
  | some ticket => .finished (downloader.result ticket)
  | none => .closed

/-- Makes one call after another, each when the one before has its reply. -/
def inTurn (note : DownloadOutput → Effect Unit) :
    Downloader → List (Call DownloadJob) → Effect (Downloader × List Reply)
  | downloader, [] => return (downloader, [])
  | downloader, call :: calls => do
    let settled ← (downloader.issue call).settle note
    let (last, replies) ← inTurn note settled calls
    return (last, settled.reply (downloader.worker.numberOf call) :: replies)

/-- Begins all calls, and waits for their replies only then. -/
def together (note : DownloadOutput → Effect Unit) (downloader : Downloader)
    (calls : List (Call DownloadJob)) : Effect (Downloader × List Reply) := do
  let settled ← (calls.foldl issue downloader).settle note
  return (settled, (downloader.worker.numbersOf calls).map settled.reply)

/-! ## Calls made concurrently -/

/-- What a call that was begun waits for, or has got. -/
inductive Pending where
  | awaited (ticket : Nat)
  | replied (reply : Reply)

def Pending.of : Option Nat → Pending
  | some ticket => .awaited ticket
  | none => .replied .closed

structure Joint where
  /-- The calls that are still to be begun. -/
  waiting : List (Call DownloadJob)
  /-- What became of the calls that were begun, in the same order. -/
  pending : List Pending
  scene : Scene

namespace Joint

/-- Calls are begun in their order, and the downloader takes its turns. A caller hears of the answer to
its call at some time after it was given. -/
inductive Step (note : DownloadOutput → Effect Unit) : Joint → Joint → Prop where
  | begin {call : Call DownloadJob} {calls : List (Call DownloadJob)} {pending : List Pending}
      {scene : Scene} :
      Step note ⟨call :: calls, pending, scene⟩
        ⟨calls, pending ++ [.of (scene.downloader.worker.numberOf call)],
          { scene with downloader := scene.downloader.issue call }⟩
  | turn {calls : List (Call DownloadJob)} {pending : List Pending} {scene next : Scene}
      (turn : Turn note scene next) : Step note ⟨calls, pending, scene⟩ ⟨calls, pending, next⟩
  | hear {calls : List (Call DownloadJob)} {earlier later : List Pending} {ticket : Nat}
      {scene : Scene} {answer : Except WorkerError (Except DownloadError DownloadOutput)}
      (answered : scene.downloader.worker.answer? ticket = some answer) :
      Step note ⟨calls, earlier ++ .awaited ticket :: later, scene⟩
        ⟨calls, earlier ++ .replied (.finished (scene.downloader.result ticket)) :: later, scene⟩

abbrev Steps (note : DownloadOutput → Effect Unit) : Joint → Joint → Prop :=
  Relation.ReflTransGen (Step note)

def start (downloader : Downloader) (calls : List (Call DownloadJob)) (world : World)
    (ledger : List (Update × Artifact)) : Joint :=
  ⟨calls, [], ⟨downloader, .resting, world, ledger⟩⟩

/-- Every call was begun and has its reply. -/
def Finished (joint : Joint) : Prop :=
  joint.waiting = [] ∧ ∀ pending ∈ joint.pending, ∃ reply, pending = .replied reply

end Joint

/-- What a job comes to by turns of its own, from the world that it finds. -/
def Pursued (note : DownloadOutput → Effect Unit) (downloader : Downloader) (ticket : Nat)
    (job : DownloadJob) (before : World) (task : Task) (world : World) : Prop :=
  ∃ ledger later, Turns note ⟨downloader, downloader.begin ticket before.disk job, before, ledger⟩
    ⟨downloader, task, world, later⟩

/-- A moment of calls that are made in turn. -/
inductive Moment (note : DownloadOutput → Effect Unit) (downloader : Downloader)
    (calls : List (Call DownloadJob)) (first : World) : Task → World → Prop where
  /-- Some calls are done. -/
  | between {done rest : List (Call DownloadJob)} (split : done ++ rest = calls) :
      Moment note downloader calls first .resting (inTurn note downloader done first).2
  /-- Some calls are done, and the next one is under way. -/
  | within {done rest : List (Call DownloadJob)} {job : DownloadJob} {task : Task} {world : World}
      (split : done ++ .submit job :: rest = calls)
      (own : let idle := (inTurn note downloader done first).1.1
        Pursued note (idle.issue (.submit job)).poll idle.worker.next job
          (inTurn note downloader done first).2 task world) :
      Moment note downloader calls first task world

/-! ## The turns of one job -/

/-- What a task ends with, when it is a job's, and the world then. -/
def Task.outcome (downloader : Downloader) (world : World) :
    Task → Option (Except (Halt DownloadError) DownloadOutput × World)
  | .resting => none
  | .fetching ticket update stage =>
    some ((.fetched <$> Transfer.rest downloader.config ticket update stage : Job _ _) world)
  | .sweeping report paths =>
    some (.ok (.cleaned (Cleanup.removeFiles report paths world).1),
      (Cleanup.removeFiles report paths world).2)
  | .closing result => some (result, world)

theorem begin_outcome (downloader : Downloader) (ticket : Nat) (world : World)
    (job : DownloadJob) :
    (downloader.begin ticket world.disk job).outcome downloader world =
      some (downloader.run ticket job world) := by
  cases job with
  | fetch update => rfl
  | clean =>
      rw [run, Failing.map_run, begin, beginSweep, Cleanup.run]
      simp only [Failing.bind_run, Failing.get_run]
      cases world.disk.list downloader.config.directory with
      | ok paths => rfl
      | error error => cases error <;> rfl

theorem outcome_worker (downloader : Downloader)
    (worker : Worker DownloadJob (Except DownloadError DownloadOutput)) (world : World)
    (task : Task) :
    task.outcome { downloader with worker := worker } world = task.outcome downloader world := by
  cases task <;> rfl

theorem begin_worker (downloader : Downloader)
    (worker : Worker DownloadJob (Except DownloadError DownloadOutput)) (ticket : Nat)
    (disk : Disk) (job : DownloadJob) :
    ({ downloader with worker := worker } : Downloader).begin ticket disk job =
      downloader.begin ticket disk job := by
  cases job <;> rfl

theorem begin_ne_resting (downloader : Downloader) (ticket : Nat) (disk : Disk)
    (job : DownloadJob) : downloader.begin ticket disk job ≠ .resting := by
  intro resting
  cases job with
  | fetch update => cases resting
  | clean =>
      rw [begin, beginSweep] at resting
      cases listed : disk.list downloader.config.directory with
      | ok paths =>
          rw [listed] at resting
          cases resting
      | error error =>
          rw [listed] at resting
          cases error <;> cases resting

/-- A turn within a job. What is submitted meanwhile does not matter to it. -/
structure Inner (note : DownloadOutput → Effect Unit) (downloader : Downloader) (task : Task)
    (world : World) (after : Task) (late : World) : Prop where
  started : task ≠ .resting
  busy : after ≠ .resting
  outcome : after.outcome downloader late = task.outcome downloader world
  turn : ∀ worker ledger, ∃ later,
    Turn note ⟨{ downloader with worker := worker }, task, world, ledger⟩
      ⟨{ downloader with worker := worker }, after, late, later⟩

/-- A turn takes up a job, or it is one within a job, or it closes one. -/
theorem Turn.kinds {ledger : List (Update × Artifact)} {next : Scene}
    (turn : Turn note ⟨downloader, task, world, ledger⟩ next) :
    (task = .resting ∧ ∃ ticket job, downloader.worker.poll.running = some (ticket, job) ∧
        next = ⟨downloader.poll, downloader.begin ticket world.disk job, world, ledger⟩) ∨
      (∃ after late later, Inner note downloader task world after late ∧
        next = ⟨downloader, after, late, later⟩) ∨
      ∃ result, task = .closing result ∧
        next = ⟨{ downloader with
            worker := downloader.worker.conclude (conclude note result world).1 },
          .resting, (conclude note result world).2, ledger⟩ := by
  cases turn with
  | @take _ ticket job _ _ polled =>
      exact .inl ⟨rfl, ticket, job, polled, by rw [poll, begin_worker]⟩
  | @fetch _ ticket update stage _ _ ongoing =>
      refine .inr (.inl ⟨_, _, _, ⟨nofun, ?_, ?_, fun worker ledger => ⟨_, .fetch ongoing⟩⟩, rfl⟩)
      · exact nofun
      · rw [Task.outcome, Task.outcome, Failing.map_run, Failing.map_run, ← Transfer.rest_step]
  | @fetched _ ticket update _ result =>
      refine .inr (.inl ⟨_, _, _, ⟨nofun, ?_, ?_, fun worker ledger => ⟨_, .fetched⟩⟩, rfl⟩)
      · exact nofun
      · rw [Task.outcome, Task.outcome, Failing.map_run]
        rfl
  | @sweep _ report path paths =>
      refine .inr (.inl ⟨_, _, _, ⟨nofun, ?_, ?_, fun worker ledger => ⟨_, .sweep⟩⟩, rfl⟩)
      · exact nofun
      · rw [Task.outcome, Task.outcome, ← removeFiles_cons]
  | swept =>
      refine .inr (.inl ⟨_, _, _, ⟨nofun, ?_, ?_, fun worker ledger => ⟨_, .swept⟩⟩, rfl⟩)
      · exact nofun
      · rfl
  | @close _ result => exact .inr (.inr ⟨result, rfl, rfl⟩)

theorem Pursued.tail (own : Pursued note downloader ticket job before task world)
    (inner : Inner note downloader task world after late) :
    Pursued note downloader ticket job before after late := by
  obtain ⟨ledger, later, turns⟩ := own
  obtain ⟨last, turn⟩ := inner.turn downloader.worker later
  exact ⟨ledger, last, turns.tail turn⟩

/-! ## What holds in every concurrent execution -/

/-- A scene of a downloader whose worker would be at `mid`, and the world `before`, if nobody had begun
a call since its jobs ended. It rests there, or it is at the next job. -/
inductive Stands (note : DownloadOutput → Effect Unit) (downloader : Downloader)
    (mid : Worker DownloadJob (Except DownloadError DownloadOutput)) (before : World) :
    Scene → Prop where
  | resting {worker : Worker DownloadJob (Except DownloadError DownloadOutput)}
      {ledger : List (Update × Artifact)} (agrees : mid.Agrees worker) :
      Stands note downloader mid before
        ⟨{ downloader with worker := worker }, .resting, before, ledger⟩
  | busy {worker : Worker DownloadJob (Except DownloadError DownloadOutput)} {ticket : Nat}
      {job : DownloadJob} {task : Task} {world : World} {ledger : List (Update × Artifact)}
      (taken : mid.poll.running = some (ticket, job)) (agrees : mid.poll.Agrees worker)
      (busy : task ≠ .resting)
      (outcome : task.outcome downloader world = some (downloader.run ticket job before))
      (own : ∀ worker, Pursued note { downloader with worker := worker } ticket job before task
        world) :
      Stands note downloader mid before
        ⟨{ downloader with worker := worker }, task, world, ledger⟩

namespace Stands

variable {mid other : Worker DownloadJob (Except DownloadError DownloadOutput)} {scene next : Scene}

theorem issue (rests : mid.running = none) (stands : Stands note downloader mid before scene)
    (call : Call DownloadJob) (agrees : (mid.issue call).Agrees other) :
    Stands note downloader other before
      { scene with downloader := scene.downloader.issue call } := by
  cases stands with
  | resting same => exact .resting (agrees.symm.trans (same.issue call))
  | busy taken same busy outcome own =>
      have polled := agrees.poll
      rw [Worker.poll_issue rests taken] at polled
      refine .busy ?_ (polled.symm.trans (same.issue call)) busy outcome own
      rw [polled.running, Worker.issue_running, taken]

theorem turn (stands : Stands note downloader mid before scene)
    (turn : Turn note scene next) :
    Stands note downloader mid before next ∨
      ∃ ticket job, mid.poll.running = some (ticket, job) ∧
        Stands note downloader
          (mid.poll.close (Worker.answerOf mid.name (downloader.runJob note ticket job before).1))
          (downloader.runJob note ticket job before).2 next := by
  cases stands with
  | @resting worker _ agrees =>
      rcases turn.kinds with ⟨_, ticket, job, taken, rfl⟩ | ⟨_, _, _, inner, _⟩ | ⟨_, same, _⟩
      · left
        have polled := agrees.poll
        refine .busy (polled.running.symm.trans taken) polled ?_ ?_ fun worker => ?_
        · exact begin_ne_resting _ _ _ _
        · rw [begin_worker]
          exact begin_outcome downloader ticket before job
        · rw [begin_worker]
          exact ⟨[], [], by rw [begin_worker]⟩
      · exact absurd rfl inner.started
      · cases same
  | @busy worker ticket job task world _ taken agrees busy outcome own =>
      rcases turn.kinds with ⟨idle, _⟩ | ⟨after, late, later, inner, rfl⟩ | ⟨result, rfl, rfl⟩
      · exact absurd idle busy
      · left
        refine .busy taken agrees inner.busy ?_ fun worker => (own worker).tail ?_
        · rw [← outcome, ← outcome_worker _ worker, inner.outcome, outcome_worker]
        · refine ⟨busy, inner.busy, ?_, inner.turn⟩
          have same := inner.outcome
          rwa [outcome_worker, outcome_worker] at same ⊢
      · right
        refine ⟨ticket, job, taken, ?_⟩
        rw [runJob_run, ← Option.some.inj outcome]
        have named := agrees.name.trans mid.poll_name
        have closed := agrees.close (Worker.answerOf mid.name (conclude note result world).1)
        refine .resting (closed.trans ?_)
        rw [← named]
        cases (conclude note result world).1 <;> exact .refl _

theorem next_eq (stands : Stands note downloader mid before scene) :
    scene.downloader.worker.next = mid.next := by
  cases stands with
  | resting agrees => exact agrees.next
  | busy taken agrees busy outcome own => exact agrees.next.trans mid.poll_next

theorem answers (stands : Stands note downloader mid before scene) :
    scene.downloader.worker.answers.Perm mid.answers := by
  cases stands with
  | resting agrees => exact agrees.answers
  | busy taken agrees busy outcome own => exact mid.poll_answers ▸ agrees.answers

end Stands

/-- What a call that was begun may wait for or have got, by its number. -/
inductive Fits (downloader : Downloader) : Option Nat → Pending → Prop where
  | closed : Fits downloader none (.replied .closed)
  | awaited {ticket : Nat} : Fits downloader (some ticket) (.awaited ticket)
  | replied {ticket : Nat} {answer : Except WorkerError (Except DownloadError DownloadOutput)}
      (answered : downloader.worker.answer? ticket = some answer) :
      Fits downloader (some ticket) (.replied (.finished (downloader.result ticket)))

theorem Fits.of (downloader : Downloader) (number : Option Nat) :
    Fits downloader number (.of number) := by
  cases number with
  | none => exact .closed
  | some ticket => exact .awaited

theorem result_congr {other : Downloader}
    (same : other.worker.answer? ticket = downloader.worker.answer? ticket) :
    other.result ticket = downloader.result ticket := by
  rw [result, result, same]

theorem Fits.mono {other : Downloader} {number : Option Nat} {pending : Pending}
    (more : downloader.worker.answers <+: other.worker.answers)
    (fits : Fits downloader number pending) : Fits other number pending := by
  cases fits with
  | closed => exact .closed
  | awaited => exact .awaited
  | replied answered =>
      have still := Worker.answer?_mono more answered
      rw [← result_congr (still.trans answered.symm)]
      exact .replied still

theorem Fits.hear {answer : Except WorkerError (Except DownloadError DownloadOutput)}
    (answered : downloader.worker.answer? ticket = some answer) {earlier later : List Pending}
    {numbers : List (Option Nat)}
    (fits : List.Forall₂ (Fits downloader) numbers (earlier ++ .awaited ticket :: later)) :
    List.Forall₂ (Fits downloader) numbers
      (earlier ++ .replied (.finished (downloader.result ticket)) :: later) := by
  induction earlier generalizing numbers with
  | nil =>
      cases fits with
      | cons first rest =>
          cases first
          exact .cons (.replied answered) rest
  | cons pending earlier ih =>
      cases fits with
      | cons first rest => exact .cons first (ih rest)

theorem Turn.answers {scene next : Scene} (turn : Turn note scene next) :
    scene.downloader.worker.answers <+: next.downloader.worker.answers := by
  obtain ⟨downloader, task, world, ledger⟩ := scene
  rcases turn.kinds with ⟨_, _, _, _, rfl⟩ | ⟨_, _, _, _, rfl⟩ | ⟨result, _, rfl⟩
  · rw [poll, Worker.poll]
    split <;> exact List.prefix_rfl
  · exact List.prefix_rfl
  · cases (conclude note result world).1 <;>
    · simp only [Worker.conclude, Worker.finish, Worker.crash, Worker.close]
      split
      · exact List.prefix_rfl
      · exact List.prefix_append _ _

/-- The worker and the world when calls are begun at once and some jobs are done then. -/
def doneSome (note : DownloadOutput → Effect Unit) (downloader : Downloader)
    (begun : List (Call DownloadJob)) (count : Nat) :
    Effect (Worker DownloadJob (Except DownloadError DownloadOutput)) :=
  Worker.runSome (downloader.runJob note) count (begun.foldl Worker.issue downloader.worker)

/-- Where a concurrent execution is when some calls are begun and some jobs done. -/
structure Follows (note : DownloadOutput → Effect Unit) (downloader : Downloader)
    (calls : List (Call DownloadJob)) (world : World) (begun : List (Call DownloadJob))
    (count : Nat) (joint : Joint) : Prop where
  split : begun ++ joint.waiting = calls
  queued : count ≤ (begun.foldl Worker.issue downloader.worker).queue.length
  stands : Stands note downloader (doneSome note downloader begun count world).1
    (doneSome note downloader begun count world).2 joint.scene
  pending : List.Forall₂ (Fits joint.scene.downloader) (downloader.worker.numbersOf begun)
    joint.pending

namespace Follows

variable {calls begun : List (Call DownloadJob)} {count : Nat} {joint next : Joint}
  (rests : downloader.worker.running = none)

include rests in
theorem doneSome_running (note : DownloadOutput → Effect Unit) (begun : List (Call DownloadJob))
    (count : Nat) (world : World) :
    (doneSome note downloader begun count world).1.running = none := by
  have still := (Worker.foldl_issue_running downloader.worker begun).trans rests
  rw [doneSome, Worker.runSome_eq still]
  exact still

theorem start (calls : List (Call DownloadJob)) (world : World)
    (ledger : List (Update × Artifact)) :
    Follows note downloader calls world [] 0 (.start downloader calls world ledger) where
  split := rfl
  queued := Nat.zero_le _
  stands := .resting (.refl _)
  pending := .nil

theorem hear {waiting : List (Call DownloadJob)} {earlier later : List Pending} {scene : Scene}
    {answer : Except WorkerError (Except DownloadError DownloadOutput)}
    (follows : Follows note downloader calls world begun count
      ⟨waiting, earlier ++ .awaited ticket :: later, scene⟩)
    (answered : scene.downloader.worker.answer? ticket = some answer) :
    Follows note downloader calls world begun count
      ⟨waiting, earlier ++ .replied (.finished (scene.downloader.result ticket)) :: later,
        scene⟩ :=
  ⟨follows.split, follows.queued, follows.stands, Fits.hear answered follows.pending⟩

include rests

theorem begin {call : Call DownloadJob} {later : List (Call DownloadJob)} {pending : List Pending}
    {scene : Scene}
    (follows : Follows note downloader calls world begun count ⟨call :: later, pending, scene⟩) :
    Follows note downloader calls world (begun ++ [call]) count
      ⟨later, pending ++ [.of (scene.downloader.worker.numberOf call)],
        { scene with downloader := scene.downloader.issue call }⟩ := by
  obtain ⟨split, queued, stands, fits⟩ := follows
  have still := (Worker.foldl_issue_running downloader.worker begun).trans rests
  obtain ⟨agrees, same⟩ := Worker.issue_runSome (downloader.runJob note) still queued call world
  have concat : (begun ++ [call]).foldl Worker.issue downloader.worker =
      (begun.foldl Worker.issue downloader.worker).issue call := by
    rw [List.foldl_append]
    rfl
  refine ⟨?_, ?_, ?_, ?_⟩
  · rw [List.append_assoc]
    exact split
  · rw [concat]
    exact Nat.le_trans queued (Worker.queue_foldl_issue _ [call]).length_le
  · have onward := stands.issue (doneSome_running rests note begun count world) call agrees
    rw [doneSome, concat, same]
    exact onward
  · have number : scene.downloader.worker.next =
        (begun.foldl Worker.issue downloader.worker).next := by
      rw [stands.next_eq, doneSome, Worker.runSome_eq still]
    rw [Worker.numbersOf_concat, ← Worker.numberOf_congr number]
    have more : scene.downloader.worker.answers <+:
        (scene.downloader.issue call).worker.answers :=
      Worker.answers_issue scene.downloader.worker call
    exact List.rel_append (fits.imp fun _ _ => Fits.mono more) (.cons (.of _ _) .nil)

theorem turn {waiting : List (Call DownloadJob)} {pending : List Pending} {scene next : Scene}
    (follows : Follows note downloader calls world begun count ⟨waiting, pending, scene⟩)
    (turn : Turn note scene next) :
    ∃ count, Follows note downloader calls world begun count ⟨waiting, pending, next⟩ := by
  obtain ⟨split, queued, stands, fits⟩ := follows
  have fits := fits.imp fun _ _ => Fits.mono turn.answers
  have still := (Worker.foldl_issue_running downloader.worker begun).trans rests
  have idle := doneSome_running rests note begun count world
  rcases stands.turn turn with onward | ⟨ticket, job, taken, onward⟩
  · exact ⟨count, split, queued, onward, fits⟩
  · refine ⟨count + 1, split, ?_, ?_, fits⟩
    · have left : (begun.foldl Worker.issue downloader.worker).queue.drop count ≠ [] := by
        obtain ⟨queue, waits⟩ := (Worker.taken_iff idle).mp taken
        rw [doneSome, Worker.runSome_eq still] at waits
        exact fun none_ => List.cons_ne_nil _ _ (waits.symm.trans none_)
      exact Nat.lt_of_not_le fun enough => left (List.drop_eq_nil_of_le enough)
    · rw [doneSome, Worker.runSome_last still taken]
      have named : (doneSome note downloader begun count world).1.name =
          (begun.foldl Worker.issue downloader.worker).name := by
        rw [doneSome, Worker.runSome_eq still]
      rw [named] at onward
      exact onward

end Follows

/-- Whatever happens, an execution keeps to its calls. -/
theorem Joint.Step.follows {calls begun : List (Call DownloadJob)} {count : Nat}
    {joint next : Joint} (step : Joint.Step note joint next)
    (rests : downloader.worker.running = none)
    (follows : Follows note downloader calls world begun count joint) :
    ∃ begun count, Follows note downloader calls world begun count next := by
  cases step with
  | begin => exact ⟨_, _, follows.begin rests⟩
  | turn turn =>
      obtain ⟨count, onward⟩ := follows.turn rests turn
      exact ⟨begun, count, onward⟩
  | hear answered => exact ⟨_, _, follows.hear answered⟩

theorem Joint.Steps.follows {calls : List (Call DownloadJob)}
    {ledger : List (Update × Artifact)} {joint : Joint}
    (steps : Joint.Steps note (.start downloader calls world ledger) joint)
    (rests : downloader.worker.running = none) :
    ∃ begun count, Follows note downloader calls world begun count joint := by
  induction steps with
  | refl => exact ⟨[], 0, Follows.start calls world ledger⟩
  | tail _ step ih =>
      obtain ⟨begun, count, follows⟩ := ih
      exact step.follows rests follows

/-! ## In turn and together -/

theorem runJob_worker (downloader : Downloader)
    (worker : Worker DownloadJob (Except DownloadError DownloadOutput)) :
    ({ downloader with worker := worker } : Downloader).runJob note = downloader.runJob note := by
  funext ticket job
  cases job <;> rfl

theorem foldl_issue (downloader : Downloader) (calls : List (Call DownloadJob)) :
    calls.foldl issue downloader =
      { downloader with worker := calls.foldl Worker.issue downloader.worker } := by
  induction calls generalizing downloader with
  | nil => rfl
  | cons call calls ih => exact ih (downloader.issue call)

/-- Settling is what the worker does. -/
theorem settle_run {worker last : Worker DownloadJob (Except DownloadError DownloadOutput)}
    {world late : World}
    (settled : Worker.settle (downloader.runJob note) worker world = (last, late)) :
    ({ downloader with worker := worker } : Downloader).settle note world =
      ({ downloader with worker := last }, late) := by
  rw [settle, Stateful.bind_run, runJob_worker, settled]
  rfl

theorem together_run {calls : List (Call DownloadJob)}
    {last : Worker DownloadJob (Except DownloadError DownloadOutput)} {world late : World}
    (settled : Worker.settle (downloader.runJob note)
      (calls.foldl Worker.issue downloader.worker) world = (last, late)) :
    together note downloader calls world =
      (({ downloader with worker := last },
        (downloader.worker.numbersOf calls).map { downloader with worker := last }.reply), late) := by
  rw [together, foldl_issue, Stateful.bind_run, settle_run settled]
  rfl

theorem inTurn_cons {call : Call DownloadJob} {calls : List (Call DownloadJob)}
    {mid : Worker DownloadJob (Except DownloadError DownloadOutput)} {world late : World}
    (settled : Worker.settle (downloader.runJob note) (downloader.worker.issue call) world =
      (mid, late)) :
    inTurn note downloader (call :: calls) world =
      let rest := inTurn note { downloader with worker := mid } calls late
      ((rest.1.1,
        { downloader with worker := mid }.reply (downloader.worker.numberOf call) :: rest.1.2),
        rest.2) := by
  rw [inTurn, Stateful.bind_run, issue, settle_run settled]
  rfl

/-- What in the end is the same whether calls are made in turn or together. -/
structure Accords (downloader : Downloader) (turns atOnce : (Downloader × List Reply) × World) :
    Prop where
  downloader : turns.1.1 = { downloader with worker := turns.1.1.worker }
  worker : atOnce.1.1.worker.Agrees turns.1.1.worker
  replies : turns.1.2 = atOnce.1.2
  world : turns.2 = atOnce.2

/-- A downloader without jobs, as it can come to be. -/
structure Idle (downloader : Downloader) : Prop where
  reached : ∃ name events, Worker.Run name events downloader.worker
  running : downloader.worker.running = none
  queue : downloader.worker.queue = []

/-- A downloader has no jobs when it starts. -/
theorem Idle.start {runtime : Bool} {config : DownloadConfig}
    (started : Downloader.start runtime config = .ok downloader) : downloader.Idle := by
  cases runtime with
  | false => cases started
  | true =>
      cases started
      exact ⟨⟨name, [], .start⟩, rfl, rfl⟩

/-- A worker is without jobs when it has settled. -/
theorem Idle.settled {name : String}
    {events : List (Worker.Event DownloadJob (Except DownloadError DownloadOutput))}
    {worker last : Worker DownloadJob (Except DownloadError DownloadOutput)} {world late : World}
    (run : Worker.Run name events worker) (rests : worker.running = none)
    (settled : Worker.settle (downloader.runJob note) worker world = (last, late)) :
    Idle { downloader with worker := last } := by
  obtain ⟨later, reached⟩ := run.settle (downloader.runJob note) world
  rw [settled] at reached
  rw [Worker.settle_eq rests] at settled
  obtain ⟨rfl, _⟩ := Prod.mk.inj settled
  exact ⟨⟨name, later, reached⟩, rests, rfl⟩

theorem reply_congr {other : Downloader} {number : Option Nat}
    (same : ∀ ticket, number = some ticket →
      other.worker.answer? ticket = downloader.worker.answer? ticket) :
    other.reply number = downloader.reply number := by
  cases number with
  | none => rfl
  | some ticket => exact congrArg Reply.finished (result_congr (same ticket rfl))

/-- The number of a call is answered when the worker has settled, and stays so. -/
theorem Idle.answered {mid : Worker DownloadJob (Except DownloadError DownloadOutput)}
    (settled : Idle { downloader with worker := mid }) (given : ticket < mid.next) :
    ∃ answer, mid.answer? ticket = some answer := by
  obtain ⟨⟨name, events, run⟩, rests, empty⟩ := settled
  obtain ⟨answer, listed⟩ := run.keeps.answered_of_idle rests empty given
  exact ⟨answer, run.keeps.answer?_of_mem listed⟩

theorem inTurn_together (note : DownloadOutput → Effect Unit) (idle : downloader.Idle)
    (calls : List (Call DownloadJob)) (world : World) :
    Accords downloader (inTurn note downloader calls world)
      (together note downloader calls world) := by
  induction calls generalizing downloader world with
  | nil =>
      have rests : (List.foldl Worker.issue downloader.worker []).running = none := idle.running
      rw [together_run (Worker.settle_eq rests)]
      refine ⟨rfl, ?_, rfl, ?_⟩
      · simp only [List.foldl_nil, idle.queue, Worker.answersTo, List.append_nil]
        obtain ⟨config, arrange, name, accepting, next, queue, running, answers⟩ := downloader
        cases idle.queue
        exact .refl _
      · rw [List.foldl_nil, idle.queue]
        rfl
  | cons call calls ih =>
      obtain ⟨⟨name, events, run⟩, rests, _⟩ := idle
      have issued := run.next (Worker.issue_step downloader.worker call)
      have still := (Worker.issue_running downloader.worker call).trans rests
      obtain ⟨agrees, same⟩ :=
        Worker.settle_foldl_issue (downloader.runJob note) still calls world
      rcases first : Worker.settle (downloader.runJob note) (downloader.worker.issue call) world
        with ⟨mid, between⟩
      have settled := Idle.settled issued still first
      have accords := ih settled between
      have next := Worker.settle_next (downloader.runJob note) still world
      rw [first] at agrees same next
      rcases one : Worker.settle (downloader.runJob note) (calls.foldl Worker.issue mid) between
        with ⟨last, late⟩
      rcases other : Worker.settle (downloader.runJob note)
        ((call :: calls).foldl Worker.issue downloader.worker) world with ⟨final, end_⟩
      rw [List.foldl_cons] at other
      simp only [one, other] at agrees same
      obtain ⟨_, _, early⟩ := settled.reached
      obtain ⟨_, begun⟩ := early.foldl_issue calls
      obtain ⟨_, all⟩ := issued.foldl_issue calls
      have alike (ticket : Nat) : last.answer? ticket = final.answer? ticket := by
        obtain ⟨_, _, done⟩ := (Idle.settled begun
          ((Worker.foldl_issue_running mid calls).trans settled.running) one).reached
        obtain ⟨_, _, whole⟩ := (Idle.settled all
          ((Worker.foldl_issue_running _ calls).trans still) other).reached
        exact whole.keeps.answer?_congr done.keeps agrees.answers.symm
      rw [← runJob_worker downloader mid] at one
      rw [together_run one] at accords
      rw [inTurn_cons first, together_run other]
      refine ⟨?_, ?_, ?_, ?_⟩
      · exact accords.downloader
      · exact agrees.symm.trans accords.worker
      · have numbers : mid.numbersOf calls = (downloader.worker.issue call).numbersOf calls :=
          Worker.numbersOf_congr next calls
        rw [Worker.numbersOf, List.map_cons, ← numbers]
        refine congrArg₂ List.cons (reply_congr fun ticket asked => ?_) (accords.replies.trans ?_)
        · have more := (Worker.answers_foldl_issue mid calls).trans
            (Worker.answers_settle (downloader.runJob note)
              ((Worker.foldl_issue_running mid calls).trans settled.running) between)
          rw [← runJob_worker downloader mid, one] at more
          obtain ⟨answer, got⟩ := settled.answered (next ▸ Worker.numberOf_lt asked)
          exact got.trans ((Worker.answer?_mono more got).symm.trans (alike ticket))
        · exact List.map_congr_left fun number _ => reply_congr fun ticket _ => alike ticket
      · exact accords.world.trans same

/-! ## Where a concurrent execution is -/

/-- When all that were begun have their replies, these are by their numbers. -/
theorem Fits.all_replied {numbers : List (Option Nat)} {pending : List Pending}
    (fits : List.Forall₂ (Fits downloader) numbers pending)
    (replied : ∀ entry ∈ pending, ∃ reply, entry = .replied reply) :
    pending = numbers.map fun number => .replied (downloader.reply number) := by
  induction fits with
  | nil => rfl
  | @cons number entry numbers pending fits _ ih =>
      have rest := ih fun entry listed => replied entry (List.mem_cons_of_mem _ listed)
      obtain ⟨reply, same⟩ := replied entry List.mem_cons_self
      rw [List.map_cons, ← rest]
      cases fits with
      | awaited => cases same
      | closed | replied => rfl

theorem Fits.awaits {numbers : List (Option Nat)} {pending : List Pending}
    (fits : List.Forall₂ (Fits downloader) numbers pending) (listed : .awaited ticket ∈ pending) :
    some ticket ∈ numbers := by
  induction fits with
  | nil => cases listed
  | @cons number entry numbers pending fits _ ih =>
      rcases List.mem_cons.mp listed with rfl | later
      · cases fits
        exact List.mem_cons_self
      · exact List.mem_cons_of_mem _ (ih later)

/-- Who awaits nothing was answered. -/
theorem Fits.answered {numbers : List (Option Nat)} {pending : List Pending}
    (fits : List.Forall₂ (Fits downloader) numbers pending)
    (replied : ∀ entry ∈ pending, ∃ reply, entry = .replied reply)
    (listed : some ticket ∈ numbers) : ∃ answer, downloader.worker.answer? ticket = some answer := by
  induction fits with
  | nil => cases listed
  | @cons number entry numbers pending fits _ ih =>
      rcases List.mem_cons.mp listed with rfl | later
      · obtain ⟨reply, same⟩ := replied entry List.mem_cons_self
        cases fits with
        | awaited => cases same
        | replied answered => exact ⟨_, answered⟩
      · exact ih (fun entry listed => replied entry (List.mem_cons_of_mem _ listed)) later

namespace Follows

variable {calls begun : List (Call DownloadJob)} {count : Nat} {joint : Joint}

/-- The jobs of an idle downloader are those of its calls. -/
theorem mem_queue (idle : downloader.Idle) {entry : Nat × DownloadJob}
    (queued : entry ∈ (begun.foldl Worker.issue downloader.worker).queue) :
    some entry.1 ∈ downloader.worker.numbersOf begun := by
  cases accepting : downloader.worker.accepting with
  | false =>
      rw [Worker.foldl_issue_closed accepting, idle.queue] at queued
      cases queued
  | true =>
      rw [Worker.foldl_issue_accepting accepting, idle.queue] at queued
      exact Worker.some_mem_numbersOf queued

/-- When every caller has its reply there is nothing left to do. -/
theorem drained (idle : downloader.Idle)
    (follows : Follows note downloader calls world begun count joint)
    (replied : ∀ entry ∈ joint.pending, ∃ reply, entry = .replied reply) :
    (doneSome note downloader begun count world).1.queue = [] := by
  obtain ⟨⟨name, events, run⟩, rests, empty⟩ := idle
  obtain ⟨_, begins⟩ := run.foldl_issue begun
  obtain ⟨_, runs⟩ := begins.runSome (downloader.runJob note) count world
  refine List.eq_nil_iff_forall_not_mem.mpr fun entry queued => ?_
  have listed : entry ∈ (begun.foldl Worker.issue downloader.worker).queue := by
    rw [doneSome, Worker.runSome_eq ((Worker.foldl_issue_running _ begun).trans rests)] at queued
    exact List.mem_of_mem_drop queued
  obtain ⟨answer, got⟩ := Fits.answered follows.pending replied
    (mem_queue ⟨⟨name, events, run⟩, rests, empty⟩ listed)
  have known := follows.stands.answers.mem_iff.mp (Worker.mem_of_answer? got)
  exact runs.keeps.answered_once known (List.mem_append_right _ (List.mem_map_of_mem queued))

/-- In the end all is as when the calls are begun at once. -/
theorem finished (idle : downloader.Idle)
    (follows : Follows note downloader calls world begun count joint) (finished : joint.Finished) :
    joint.pending = (together note downloader calls world).1.2.map .replied ∧
      joint.scene.world = (together note downloader calls world).2 := by
  have empty := follows.drained idle finished.2
  obtain ⟨⟨name, events, run⟩, rests, _⟩ := idle
  obtain ⟨_, issued⟩ := run.foldl_issue calls
  obtain ⟨_, last⟩ := issued.settle (downloader.runJob note) world
  obtain ⟨split, _, stands, fits⟩ := follows
  rw [finished.1, List.append_nil] at split
  subst split
  have still := (Worker.foldl_issue_running downloader.worker begun).trans rests
  have settled := Worker.settle_of_runSome still empty
  rw [← doneSome] at settled
  rw [settled] at last
  rw [together_run settled]
  have replies := Fits.all_replied fits finished.2
  obtain ⟨waiting, pending, scene⟩ := joint
  cases stands with
  | busy taken =>
      rw [Worker.taken_iff (doneSome_running rests note begun count world), empty] at taken
      obtain ⟨_, none_⟩ := taken
      cases none_
  | resting agrees =>
      refine ⟨?_, rfl⟩
      rw [List.map_map]
      refine replies.trans (List.map_congr_left fun number _ => congrArg Pending.replied ?_)
      exact reply_congr fun ticket _ =>
        last.keeps.answer?_congr (last.keeps.agrees agrees) agrees.answers

/-- Whenever one looks, calls that are made in turn could be as far. -/
theorem moment (idle : downloader.Idle)
    (follows : Follows note downloader calls world begun count joint) :
    Moment note downloader calls world joint.scene.task joint.scene.world := by
  obtain ⟨split, queued, stands, _⟩ := follows
  have rests (some_ : List (Call DownloadJob)) :
      (some_.foldl Worker.issue downloader.worker).running = none :=
    (Worker.foldl_issue_running _ some_).trans idle.running
  have first := Worker.foldl_issue_take idle.queue queued
  have accords := inTurn_together note idle (begun.take count) world
  rw [together_run (Worker.settle_eq (rests _)), first] at accords
  have found : (inTurn note downloader (begun.take count) world).2 =
      (doneSome note downloader begun count world).2 := by
    rw [accords.world, doneSome, Worker.runSome_eq (rests begun)]
  obtain ⟨waiting, pending, scene⟩ := joint
  generalize place : doneSome note downloader begun count world = stand at stands found
  obtain ⟨mid, before⟩ := stand
  cases stands with
  | resting agrees =>
      rw [← found]
      have parts : begun.take count ++ (begun.drop count ++ waiting) = calls := by
        rw [← List.append_assoc, List.take_append_drop]
        exact split
      exact .between parts
  | @busy worker ticket job _ _ _ taken agrees busy outcome own =>
      have mid_running : mid.running = none := by
        rw [← show _ = mid from congrArg Prod.fst place]
        exact doneSome_running idle.running note begun count world
      obtain ⟨queue, waits⟩ := (Worker.taken_iff mid_running).mp taken
      rw [← show _ = mid from congrArg Prod.fst place, doneSome,
        Worker.runSome_eq (rests begun)] at waits
      obtain ⟨next, more, later⟩ := Worker.foldl_issue_drop idle.queue waits
      have number : ticket = (inTurn note downloader (begun.take count) world).1.1.worker.next :=
        next.trans accords.worker.next.symm
      have parts : begun.take count ++ .submit job :: (more ++ waiting) = calls := by
        rw [← List.cons_append, ← later, ← List.append_assoc, List.take_append_drop]
        exact split
      refine .within parts ?_
      simp only
      rw [found, ← number, accords.downloader]
      exact own _

end Follows

end SelfUpdate.Downloader
