import Mathlib.Order.RelClasses
import SelfUpdate.Proofs.Download.Concurrency
import SelfUpdate.Proofs.Download.Specification

/-!
# Concurrent calls are serial

Concurrent use of a downloader comes to an end, whichever way it goes, and then it is use in turn.
-/

namespace SelfUpdate.Downloader

open Worker (Call)

variable {note : DownloadOutput → Effect Unit} {downloader : Downloader} {ticket : Nat}
  {task : Task} {world : World}

/-! ## Nearer to the end -/

/-- How far a stage is from the end: its place, and the events that are still to come. -/
def stageRank : Transfer.Stage → Nat × Nat
  | .begun => (9, 0)
  | .ready _ => (8, 0)
  | .halfEmptied _ => (7, 0)
  | .emptied _ => (6, 0)
  | .opened _ _ _ => (5, 0)
  | .streaming _ _ _ events => (4, events.length)
  | .received _ _ => (3, 0)
  | .verified _ _ => (2, 0)
  | .failing _ _ => (1, 0)
  | .ended _ => (0, 0)

def Task.rank : Task → Nat × Nat
  | .resting => (0, 0)
  | .closing _ => (1, 0)
  | .sweeping _ paths => (2, paths.length)
  | .fetching _ _ stage => ((stageRank stage).1 + 2, (stageRank stage).2)

/-- Nearer to the end. -/
def Below (one other : Nat × Nat) : Prop := one.1 < other.1 ∨ one.1 = other.1 ∧ one.2 < other.2

section

variable {β : Type} {slot : Slot} {rank : Nat × Nat}

theorem ending_rank (stageOf : β → Transfer.Stage) (job : Job DownloadError β)
    (onward : ∀ b, Below (stageRank (stageOf b)) rank) (positive : 0 < rank.1) (world : World) :
    Below (stageRank (Transfer.ending (do return stageOf (← job)) world).1) rank := by
  rw [bind_pure_comp, Transfer.ending_run, Failing.map_run]
  cases (job world).1 with
  | ok b => exact onward b
  | error halt => exact .inl positive

theorem discarding_rank (stageOf : β → Transfer.Stage) (job : Job DownloadError β)
    (onward : ∀ b, Below (stageRank (stageOf b)) rank) (later : 1 < rank.1) (world : World) :
    Below (stageRank (Transfer.discarding slot (do return stageOf (← job)) world).1) rank := by
  rw [bind_pure_comp, Transfer.discarding_run, Failing.map_run]
  rcases (job world).1 with (error | _) | b
  · exact .inl later
  · exact .inl (Nat.lt_of_succ_lt later)
  · exact onward b

end

/-- Every step of a transfer leads nearer to its end. -/
theorem step_rank (config : DownloadConfig) (ticket : Nat) (update : Update)
    {stage : Transfer.Stage} (ongoing : ∀ result, stage ≠ .ended result) (world : World) :
    Below (stageRank (Transfer.step config ticket update stage world).1) (stageRank stage) := by
  have nearer {one other more less : Nat} (lower : one < other) : Below (one, less) (other, more) :=
    .inl lower
  cases stage with
  | begun => exact ending_rank .ready _ (fun _ => nearer (by decide)) (by decide) world
  | ready slot =>
      exact ending_rank (fun _ => .halfEmptied slot) _ (fun _ => nearer (by decide))
        (by decide) world
  | halfEmptied slot =>
      exact ending_rank (fun _ => .emptied slot) _ (fun _ => nearer (by decide))
        (by decide) world
  | emptied slot =>
      exact ending_rank (fun opened : Nat × List StreamEvent => .opened slot opened.1 opened.2) _
        (fun _ => nearer (by decide)) (by decide) world
  | opened slot total events =>
      exact discarding_rank (.streaming slot total · events) _
        (fun _ => nearer (by decide)) (by decide) world
  | streaming slot total status events =>
      cases events with
      | nil =>
          exact discarding_rank (fun _ => .received slot status.downloaded) _
            (fun _ => nearer (by decide)) (by decide) world
      | cons event events =>
          refine discarding_rank (.streaming slot total · events) _ (fun _ => ?_) ?_
            world
          · exact .inr ⟨rfl, Nat.lt_succ_self _⟩
          · exact Nat.succ_lt_succ (by decide)
  | received slot size =>
      exact discarding_rank (fun _ => .verified slot size) _
        (fun _ => nearer (by decide)) (by decide) world
  | verified slot size =>
      have whole : Transfer.step config ticket update (.verified slot size) =
          Transfer.discarding slot do
            return .ended (.ok (← (do
              Transfer.promote slot
              Transfer.announce slot update size))) := by
        rw [Transfer.step, bind_assoc]
      rw [whole]
      exact discarding_rank (fun artifact => .ended (.ok artifact)) _
        (fun _ => nearer (by decide)) (by decide) world
  | failing slot error => exact nearer (by decide)
  | ended result => exact absurd rfl (ongoing result)

/-- Whichever turn is taken, a job of the queue is taken up or the task is nearer to its end. -/
theorem Turn.nearer {scene next : Scene} (turn : Turn note scene next)
    (rests : scene.task = .resting → scene.downloader.worker.running = none) :
    next.downloader.worker.queue.length < scene.downloader.worker.queue.length ∨
      next.downloader.worker.queue.length = scene.downloader.worker.queue.length ∧
        Below next.task.rank scene.task.rank := by
  cases turn with
  | @take downloader _ _ _ _ polled =>
      have rests : downloader.worker.running = none := rests rfl
      obtain ⟨queue, queued⟩ := (Worker.taken_iff rests).mp polled
      left
      simp only [poll, Worker.poll, rests, queued, List.length_cons]
      exact Nat.lt_succ_self _
  | @fetch downloader ticket update stage world _ ongoing =>
      refine .inr ⟨rfl, ?_⟩
      rcases step_rank downloader.config ticket update ongoing world with lower | ⟨same, fewer⟩
      · exact .inl (Nat.add_lt_add_right lower 2)
      · exact .inr ⟨congrArg (· + 2) same, fewer⟩
  | fetched | swept => exact .inr ⟨rfl, .inl (Nat.lt_succ_self 1)⟩
  | sweep => exact .inr ⟨rfl, .inr ⟨rfl, Nat.lt_succ_self _⟩⟩
  | @close downloader result world =>
      refine .inr ⟨?_, .inl Nat.zero_lt_one⟩
      rcases (conclude note result world).1 with _ | output
      · simp only [Worker.conclude, Worker.crash, Worker.close]
        split <;> rfl
      · simp only [Worker.conclude, Worker.finish, Worker.close]
        split <;> rfl

def Pending.isAwaited : Pending → Bool
  | awaited _ => true
  | replied _ => false

namespace Joint

/-- The calls to begin, the jobs to take up, the place of the task, what it has still to go through
there, and the callers that have no reply. -/
def rank (joint : Joint) : Nat × Nat × (Nat × Nat) × Nat :=
  (joint.waiting.length, joint.scene.downloader.worker.queue.length, joint.scene.task.rank,
    joint.pending.countP Pending.isAwaited)

abbrev Nearer : Nat × Nat × (Nat × Nat) × Nat → Nat × Nat × (Nat × Nat) × Nat → Prop :=
  Prod.Lex (· < ·) (Prod.Lex (· < ·) (Prod.Lex (Prod.Lex (· < ·) (· < ·)) (· < ·)))

theorem nearer_wellFounded : WellFounded Nearer := IsWellFounded.wf

theorem Step.nearer {joint next : Joint} (step : Step note joint next)
    (rests : joint.scene.task = .resting → joint.scene.downloader.worker.running = none) :
    Nearer next.rank joint.rank := by
  cases step with
  | begin => exact .left _ _ (Nat.lt_succ_self _)
  | turn turn =>
      refine .right _ ?_
      rcases turn.nearer rests with fewer | ⟨same, lower⟩
      · exact .left _ _ fewer
      · rw [Prod.lex_def]
        exact .inr ⟨same, .left _ _ (Prod.lex_def.mpr lower)⟩
  | hear answered =>
      refine .right _ (.right _ (.right _ ?_))
      simp only [List.countP_append, List.countP_cons, Pending.isAwaited]
      exact Nat.add_lt_add_left (Nat.lt_succ_self _) _

end Joint

/-! ## Serial use -/

namespace Follows

variable {calls begun : List (Call DownloadJob)} {count : Nat} {joint : Joint}

/-- A downloader between two jobs runs none. -/
theorem resting (rests : downloader.worker.running = none)
    (follows : Follows note downloader calls world begun count joint)
    (idle : joint.scene.task = .resting) : joint.scene.downloader.worker.running = none := by
  obtain ⟨_, _, stands, _⟩ := follows
  have none_ := doneSome_running rests note begun count world
  obtain ⟨waiting, pending, scene⟩ := joint
  cases stands with
  | resting agrees => exact agrees.running.trans none_
  | busy _ _ busy => exact absurd idle busy

/-- A resting downloader that can take up no job has answered all its numbers. -/
theorem answered (ticket : Nat) (idle : downloader.Idle)
    (follows : Follows note downloader calls world begun count joint)
    (rests : joint.scene.task = .resting) (empty : joint.scene.downloader.worker.queue = [])
    (listed : some ticket ∈ downloader.worker.numbersOf begun) :
    ∃ answer, joint.scene.downloader.worker.answer? ticket = some answer := by
  have none_ := follows.resting idle.running rests
  obtain ⟨⟨name, events, run⟩, running, _⟩ := idle
  obtain ⟨_, begins⟩ := run.foldl_issue begun
  obtain ⟨_, runs⟩ := begins.runSome (downloader.runJob note) count world
  obtain ⟨_, _, stands, _⟩ := follows
  obtain ⟨waiting, pending, scene⟩ := joint
  cases stands with
  | busy _ _ busy => exact absurd rests busy
  | resting agrees =>
      have keeps := runs.keeps.agrees agrees
      have given := Worker.numbersOf_lt listed
      have next := agrees.next
      rw [doneSome, Worker.runSome_eq ((Worker.foldl_issue_running _ begun).trans running)] at next
      rw [← show _ = _ from next] at given
      obtain ⟨answer, known⟩ := keeps.answered_of_idle none_ empty given
      exact ⟨answer, keeps.answer?_of_mem known⟩

/-- Only when every caller has its reply nothing more can happen. -/
theorem onward (idle : downloader.Idle)
    (follows : Follows note downloader calls world begun count joint)
    (stuck : ∀ next, ¬ Joint.Step note joint next) : joint.Finished := by
  have rests := follows.resting idle.running
  have answered (ticket : Nat) := follows.answered ticket idle
  have fits := follows.pending
  obtain ⟨waiting, pending, downloader, task, world, ledger⟩ := joint
  have still (next : Scene) (turn : Turn note ⟨downloader, task, world, ledger⟩ next) : False :=
    stuck _ (.turn turn)
  have resting : task = .resting := Classical.byContradiction fun busy =>
    have ⟨next, turn⟩ := exists_turn note downloader busy world ledger
    still next turn
  have empty : downloader.worker.queue = [] := by
    cases queued : downloader.worker.queue with
    | nil => rfl
    | cons entry queue =>
        subst resting
        exact (still _ (.take ((Worker.taken_iff (rests rfl)).mpr ⟨queue, queued⟩))).elim
  refine ⟨?_, fun entry listed => ?_⟩
  · cases waiting with
    | nil => rfl
    | cons call calls => exact absurd .begin (stuck _)
  · cases entry with
    | replied reply => exact ⟨reply, rfl⟩
    | awaited ticket =>
        obtain ⟨answer, got⟩ := answered ticket resting empty (Fits.awaits fits listed)
        obtain ⟨earlier, later, rfl⟩ := List.append_of_mem listed
        exact absurd (.hear got) (stuck _)

end Follows

/-- Concurrent use of a downloader that comes to the same as use in turn. -/
structure Serial (note : DownloadOutput → Effect Unit) (downloader : Downloader)
    (calls : List (Call DownloadJob)) (world : World) (first : Joint) : Prop where
  /-- Whenever one looks, calls that are made in turn could be as far. -/
  moment : ∀ joint, Joint.Steps note first joint →
    Moment note downloader calls world joint.scene.task joint.scene.world
  /-- In the end the replies and the world are those of calls that are made in turn. -/
  finished : ∀ joint, Joint.Steps note first joint → joint.Finished →
    joint.pending = (inTurn note downloader calls world).1.2.map .replied ∧
      joint.scene.world = (inTurn note downloader calls world).2
  /-- An end comes: nothing goes on for ever, and only at the end nothing can happen. -/
  ends : ∀ moments : Nat → Joint, moments 0 = first →
    ∃ time, ¬ Joint.Step note (moments time) (moments (time + 1))
  onward : ∀ joint, Joint.Steps note first joint → (∀ next, ¬ Joint.Step note joint next) →
    joint.Finished
  /-- Nor does it matter when all calls are begun before the first job is taken up. -/
  together : (together note downloader calls world).1.2 = (inTurn note downloader calls world).1.2 ∧
    (together note downloader calls world).2 = (inTurn note downloader calls world).2

/-- An execution does not go on for ever. -/
theorem exists_stuck (idle : downloader.Idle) {calls : List (Call DownloadJob)} (joint : Joint)
    {begun : List (Call DownloadJob)} {count : Nat}
    (follows : Follows note downloader calls world begun count joint) (moments : Nat → Joint)
    (time : Nat) (now : moments time = joint) :
    ∃ time, ¬ Joint.Step note (moments time) (moments (time + 1)) := by
  induction joint using (InvImage.wf Joint.rank Joint.nearer_wellFounded).induction
    generalizing begun count time with
  | _ joint ih =>
      by_cases step : Joint.Step note (moments time) (moments (time + 1))
      · rw [now] at step
        obtain ⟨begun, count, onward⟩ := step.follows idle.running follows
        exact ih _ (step.nearer (follows.resting idle.running)) onward (time + 1) rfl
      · exact ⟨time, step⟩

/-- Calls that are begun one after another come, whatever happens meanwhile, to what they come to in
turn. -/
theorem calls_serial (note : DownloadOutput → Effect Unit) (idle : downloader.Idle)
    (calls : List (Call DownloadJob)) (world : World) (ledger : List (Update × Artifact)) :
    Serial note downloader calls world (.start downloader calls world ledger) := by
  have accords := inTurn_together note idle calls world
  refine ⟨fun joint steps => ?_, fun joint steps finished => ?_, fun moments first => ?_,
    fun joint steps stuck => ?_, accords.replies.symm, accords.world.symm⟩
  · obtain ⟨begun, count, follows⟩ := steps.follows idle.running
    exact follows.moment idle
  · obtain ⟨begun, count, follows⟩ := steps.follows idle.running
    rw [accords.replies, accords.world]
    exact follows.finished idle finished
  · exact exists_stuck idle _ (Follows.start calls world ledger) moments 0 first
  · obtain ⟨begun, count, follows⟩ := steps.follows idle.running
    exact follows.onward idle stuck

/-- A download, two cleanups of which one comes too late, and a second download of the same version. -/
theorem calls_serial_crowded :
    let update := Transfer.singleOctet "1" (by decide)
    let calls := [.submit (.fetch update), .submit .clean, .submit (.fetch update), .shutDown,
      .submit .clean]
    let world := Transfer.worldOf Transfer.bareDisk Transfer.oneChunk
    Transfer.smallDownloader.Idle ∧
      Serial (fun _ => pure ()) Transfer.smallDownloader calls world
        (.start Transfer.smallDownloader calls world []) := by
  have idle : Transfer.smallDownloader.Idle := ⟨⟨name, [], .start⟩, rfl, rfl⟩
  exact ⟨idle, calls_serial _ idle _ _ _⟩

end SelfUpdate.Downloader
