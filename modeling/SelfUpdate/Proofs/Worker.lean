import Mathlib.Data.List.Basic
import SelfUpdate.Proofs.Computation
import SelfUpdate.Worker

/-!
# The order of a worker

A worker does the jobs of its queue one after another, those that were submitted first before the
others. So each job finds what the jobs before it left, and its number gets its answer.
-/

namespace SelfUpdate.Worker

variable {ι ο σ : Type} {run : Nat → ι → StateM σ (Option ο)} {worker : Worker ι ο}
  {queue : List (Nat × ι)} {ticket : Nat} {job : ι} {state : σ}

/-- What is answered when a job has run. -/
def answerOf (name : String) : Option ο → Except WorkerError ο
  | some output => .ok output
  | none => .error (.aborted name)

/-- What jobs leave that run one after another. -/
def left (run : Nat → ι → StateM σ (Option ο)) : List (Nat × ι) → σ → σ
  | [], state => state
  | (ticket, job) :: queue, state => left run queue (run ticket job state).2

/-- What is answered to jobs that run one after another. -/
def answersTo (run : Nat → ι → StateM σ (Option ο)) (name : String) :
    List (Nat × ι) → σ → List (Nat × Except WorkerError ο)
  | [], _ => []
  | (ticket, job) :: queue, state =>
    (ticket, answerOf name (run ticket job state).1) ::
      answersTo run name queue (run ticket job state).2

theorem answersTo_append (name : String) (first second : List (Nat × ι)) (state : σ) :
    answersTo run name (first ++ second) state =
      answersTo run name first state ++ answersTo run name second (left run first state) := by
  induction first generalizing state with
  | nil => rfl
  | cons entry first ih =>
      rw [List.cons_append, answersTo, ih]
      rfl

theorem left_append (first second : List (Nat × ι)) (state : σ) :
    left run (first ++ second) state = left run second (left run first state) := by
  induction first generalizing state with
  | nil => rfl
  | cons entry first ih => exact ih _

/-- Answers bear the numbers of their jobs. -/
theorem map_fst_answersTo (name : String) (queue : List (Nat × ι)) (state : σ) :
    (answersTo run name queue state).map Prod.fst = queue.map Prod.fst := by
  induction queue generalizing state with
  | nil => rfl
  | cons entry queue ih => rw [answersTo, List.map_cons, List.map_cons, ih]

/-! ## Running jobs -/

theorem runSome_idle (rests : worker.running = none) (empty : worker.queue = []) (count : Nat) :
    runSome run count worker state = (worker, state) := by
  cases count with
  | zero => rfl
  | succ count => simp [runSome, poll, rests, empty]

theorem runSome_busy (rests : worker.running = none)
    (busy : worker.queue = (ticket, job) :: queue) (count : Nat) :
    runSome run (count + 1) worker state =
      runSome run count
        { worker with
          queue := queue
          answers := worker.answers ++ [(ticket, answerOf worker.name (run ticket job state).1)] }
        (run ticket job state).2 := by
  have polled : worker.poll = { worker with running := some (ticket, job), queue := queue } := by
    simp [poll, rests, busy]
  rw [runSome, polled]
  simp only [Stateful.bind_run]
  cases (run ticket job state).1 <;> simp only [finish, crash, close, answerOf, rests]

/-- What a resting worker is when it has done some of its jobs, and what they leave. -/
theorem runSome_eq (rests : worker.running = none) (count : Nat) :
    runSome run count worker state =
      ({ worker with
          queue := worker.queue.drop count
          answers := worker.answers ++
            answersTo run worker.name (worker.queue.take count) state },
        left run (worker.queue.take count) state) := by
  obtain ⟨name, accepting, next, queue, running, answers⟩ := worker
  cases rests
  induction count generalizing queue answers state with
  | zero => simp [runSome, answersTo, left]
  | succ count ih =>
      cases queue with
      | nil =>
          rw [runSome_idle rfl rfl]
          simp [answersTo, left]
      | cons entry queue =>
          rw [runSome_busy rfl rfl, ih]
          simp [answersTo, left]

/-- A worker that finds no job stays as it is. -/
theorem poll_of_rest (resting : worker.poll.running = none) : worker.poll = worker := by
  rw [poll] at resting ⊢
  split
  · rename_i none_ queued
    rw [none_, queued] at resting
    cases resting
  · rfl

/-- Running jobs one after another. -/
theorem runSome_succ (count : Nat) (worker : Worker ι ο) (state : σ) :
    runSome run (count + 1) worker state =
      runSome run count (runSome run 1 worker state).1 (runSome run 1 worker state).2 := by
  rw [runSome, runSome]
  cases polled : worker.poll.running with
  | some taken =>
      obtain ⟨ticket, job⟩ := taken
      simp only [Stateful.bind_run]
      cases (run ticket job state).1 <;> rfl
  | none =>
      have idle := poll_of_rest polled
      simp only [Stateful.pure_run]
      cases count with
      | zero => rfl
      | succ count =>
          rw [runSome, idle, polled, idle]
          rfl

/-- What each job keeps that a resting worker does, all of them keep. -/
theorem runSome_induction {P : Worker ι ο → σ → Prop}
    (keeps : ∀ {worker : Worker ι ο} {state : σ} {ticket : Nat} {job : ι} {queue : List (Nat × ι)},
      worker.running = none → worker.queue = (ticket, job) :: queue → P worker state →
        P (runSome run 1 worker state).1 (runSome run 1 worker state).2)
    (count : Nat) {worker : Worker ι ο} {state : σ} (rests : worker.running = none)
    (holds : P worker state) :
    P (runSome run count worker state).1 (runSome run count worker state).2 := by
  induction count generalizing worker state with
  | zero => exact holds
  | succ count ih =>
      cases queued : worker.queue with
      | nil => rwa [runSome_idle rests queued]
      | cons entry queue =>
          have still : (runSome run 1 worker state).1.running = none := by
            rw [runSome_eq rests]
            exact rests
          rw [runSome_succ]
          exact ih still (keeps rests queued holds)

/-- Settling is doing all the jobs of the queue. -/
theorem settle_eq (rests : worker.running = none) :
    settle run worker state =
      ({ worker with
          queue := []
          answers := worker.answers ++ answersTo run worker.name worker.queue state },
        left run worker.queue state) := by
  have enough : worker.queue.length ≤ worker.queue.length + 1 := Nat.le_succ _
  rw [settle, runSome_eq rests, List.drop_eq_nil_of_le enough, List.take_of_length_le enough]

/-- Nothing is left to do when a worker has settled. -/
theorem queue_settle (rests : worker.running = none) (state : σ) :
    (settle run worker state).1.queue = [] := by
  rw [settle_eq rests]

/-! ## Submitting jobs -/

theorem submit_accepted (accepting : worker.accepting = true) (job : ι) :
    worker.submit job =
      { worker with next := worker.next + 1, queue := worker.queue ++ [(worker.next, job)] } := by
  rw [submit, if_pos accepting]

theorem submit_refused (closed : worker.accepting = false) (job : ι) :
    worker.submit job =
      { worker with
        next := worker.next + 1
        answers := worker.answers ++ [(worker.next, .error (.shutDown worker.name))] } := by
  rw [submit, if_neg (by simp [closed])]

/-- A worker without jobs does what is submitted to it at once. -/
theorem settle_submit (rests : worker.running = none) (empty : worker.queue = [])
    (accepting : worker.accepting = true) (job : ι) :
    settle run (worker.submit job) state =
      ({ worker with
          next := worker.next + 1
          answers := worker.answers ++
            [(worker.next, answerOf worker.name (run worker.next job state).1)] },
        (run worker.next job state).2) := by
  rw [submit_accepted accepting, settle_eq (by exact rests), empty]
  obtain ⟨name, _, next, queue, running, answers⟩ := worker
  cases empty
  rfl

/-- What is submitted last runs last, unless it is refused. -/
theorem left_settle_submit (rests : worker.running = none) (job : ι) (state : σ) :
    (settle run (worker.submit job) state).2 =
      if worker.accepting then (run worker.next job (settle run worker state).2).2
      else (settle run worker state).2 := by
  cases accepting : worker.accepting with
  | true =>
      rw [submit_accepted accepting, settle_eq (by exact rests), settle_eq rests, left_append]
      rfl
  | false =>
      rw [submit_refused accepting, settle_eq (by exact rests), settle_eq rests]
      rfl

theorem submit_next (worker : Worker ι ο) (job : ι) :
    (worker.submit job).next = worker.next + 1 := by
  rw [submit]
  split <;> rfl

/-- A worker after more was submitted to it. That goes behind all the rest, and only a worker that was
shut down answers to it at once. -/
structure Follows (worker after : Worker ι ο) : Prop where
  name : after.name = worker.name
  running : after.running = worker.running
  queue : worker.queue <+: after.queue
  answers : worker.answers <+: after.answers
  accepting : worker.accepting = true → after.accepting = true ∧ after.answers = worker.answers

theorem follows_submit (worker : Worker ι ο) (job : ι) : worker.Follows (worker.submit job) := by
  cases accepting : worker.accepting with
  | true =>
      rw [submit_accepted accepting]
      exact ⟨rfl, rfl, List.prefix_append _ _, List.prefix_rfl, fun _ => ⟨accepting, rfl⟩⟩
  | false =>
      rw [submit_refused accepting]
      exact ⟨rfl, rfl, List.prefix_rfl, List.prefix_append _ _, fun accepts =>
        absurd (accepting.symm.trans accepts) Bool.false_ne_true⟩

theorem follows_foldl_submit (worker : Worker ι ο) (jobs : List ι) :
    worker.Follows (jobs.foldl submit worker) := by
  induction jobs generalizing worker with
  | nil => exact ⟨rfl, rfl, List.prefix_rfl, List.prefix_rfl, fun accepts => ⟨accepts, rfl⟩⟩
  | cons job jobs ih =>
      obtain ⟨name, running, queue, answers, accepting⟩ := follows_submit worker job
      have after := ih (worker.submit job)
      refine ⟨after.name.trans name, after.running.trans running, queue.trans after.queue,
        answers.trans after.answers, fun accepts => ?_⟩
      obtain ⟨still, same⟩ := accepting accepts
      obtain ⟨yet, again⟩ := after.accepting still
      exact ⟨yet, again.trans same⟩

/-! ## Waiting for an answer -/

/-- A worker that rests and has given every number only once. -/
structure Orderly (worker : Worker ι ο) : Prop where
  running : worker.running = none
  queue : ∀ entry ∈ worker.queue, entry.1 < worker.next
  answers : ∀ answer ∈ worker.answers, answer.1 < worker.next

theorem Orderly.new (name : String) : (new name : Worker ι ο).Orderly := ⟨rfl, nofun, nofun⟩

theorem Orderly.shutDown (orderly : worker.Orderly) : worker.shutDown.Orderly :=
  ⟨orderly.running, orderly.queue, orderly.answers⟩

theorem Orderly.submit (orderly : worker.Orderly) (job : ι) : (worker.submit job).Orderly := by
  obtain ⟨running, queue, answers⟩ := orderly
  have sooner {number : Nat} (given : number < worker.next) : number < worker.next + 1 :=
    Nat.lt_succ_of_lt given
  cases accepting : worker.accepting with
  | true =>
      rw [submit_accepted accepting]
      refine ⟨running, fun entry listed => ?_, fun answer listed => sooner (answers answer listed)⟩
      rcases List.mem_append.mp listed with old | new
      · exact sooner (queue entry old)
      · cases List.mem_singleton.mp new
        exact Nat.lt_succ_self worker.next
  | false =>
      rw [submit_refused accepting]
      refine ⟨running, fun entry listed => sooner (queue entry listed), fun answer listed => ?_⟩
      rcases List.mem_append.mp listed with old | new
      · exact sooner (answers answer old)
      · cases List.mem_singleton.mp new
        exact Nat.lt_succ_self worker.next

theorem Orderly.answersTo (orderly : worker.Orderly) (run : Nat → ι → StateM σ (Option ο))
    (state : σ) (queued : ∀ entry ∈ queue, entry ∈ worker.queue) :
    ∀ answer ∈ worker.answers ++ Worker.answersTo run worker.name queue state,
      answer.1 < worker.next := by
  intro answer listed
  rcases List.mem_append.mp listed with old | new
  · exact orderly.answers answer old
  · have number := List.mem_map_of_mem (f := Prod.fst) new
    rw [map_fst_answersTo, List.mem_map] at number
    obtain ⟨entry, listed, same⟩ := number
    exact same ▸ orderly.queue entry (queued entry listed)

theorem Orderly.runSome (orderly : worker.Orderly) (count : Nat) (state : σ) :
    (runSome run count worker state).1.Orderly := by
  rw [runSome_eq orderly.running]
  refine ⟨orderly.running, fun entry listed => ?_, ?_⟩
  · exact orderly.queue entry (List.mem_of_mem_drop listed)
  · exact orderly.answersTo run state fun entry => List.mem_of_mem_take

theorem Orderly.settle (orderly : worker.Orderly) (state : σ) :
    (settle run worker state).1.Orderly :=
  orderly.runSome _ state

/-- The first answer with a number is the one that it gets. -/
theorem answer?_of_prefix {before : List (Nat × Except WorkerError ο)}
    {answer : Except WorkerError ο} (known : before ++ [(ticket, answer)] <+: worker.answers)
    (fresh : ∀ other ∈ before, other.1 ≠ ticket) : worker.answer? ticket = some answer := by
  obtain ⟨after, answers⟩ := known
  have earlier : before.find? (fun other => other.1 == ticket) = none := by
    rw [List.find?_eq_none]
    intro other listed
    simpa using fresh other listed
  rw [answer?, ← answers, List.find?_append, List.find?_append, earlier]
  simp

/-- A job runs when all that were submitted before it have run, whatever is submitted after it. -/
theorem answer?_accepted (orderly : worker.Orderly) (accepting : worker.accepting = true) (job : ι)
    (others : List ι) :
    (settle run (others.foldl submit (worker.submit job)) state).1.answer? worker.next =
      some (answerOf worker.name (run worker.next job (settle run worker state).2).1) := by
  have follows := follows_foldl_submit (worker.submit job) others
  rw [submit_accepted accepting] at follows ⊢
  obtain ⟨more, queue⟩ := follows.queue
  refine answer?_of_prefix ?_ fun other listed =>
    Nat.ne_of_lt (orderly.answersTo run state (fun _ => id) other listed)
  rw [settle_eq orderly.running, settle_eq (follows.running.trans orderly.running)]
  rw [← queue, (follows.accepting accepting).2, follows.name]
  simp only [answersTo_append, List.append_assoc]
  rw [List.prefix_append_right_inj, List.prefix_append_right_inj]
  exact List.prefix_append _ _

theorem answer?_refused (orderly : worker.Orderly) (closed : worker.accepting = false) (job : ι)
    (others : List ι) :
    (settle run (others.foldl submit (worker.submit job)) state).1.answer? worker.next =
      some (.error (.shutDown worker.name)) := by
  have follows := follows_foldl_submit (worker.submit job) others
  rw [submit_refused closed] at follows ⊢
  refine answer?_of_prefix ?_ fun other listed => Nat.ne_of_lt (orderly.answers other listed)
  rw [settle_eq (follows.running.trans orderly.running)]
  exact follows.answers.trans (List.prefix_append _ _)

end SelfUpdate.Worker
