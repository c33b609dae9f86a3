import Mathlib.Data.List.Induction
import Mathlib.Data.List.Nodup
import Mathlib.Data.List.Perm.Basic
import SelfUpdate.Proofs.Worker

/-!
# The protocol of a worker

Callers submit jobs and wait, the worker takes up jobs and ends them, and somebody shuts it down, all in
any order. What is seen of a worker determines who has been answered what: no job is lost, none is done
twice, and nobody gets the answer of another.
-/

namespace SelfUpdate.Worker

variable {ι ο σ : Type} {name : String} {worker after other : Worker ι ο} {ticket : Nat} {job : ι}


/-- What is seen of a worker. -/
inductive Event (ι ο : Type) where
  | submitted (ticket : Nat) (job : ι)
  | started (ticket : Nat) (job : ι)
  /-- A job has ended, without an output when it crashed. -/
  | ended (ticket : Nat) (output : Option ο)
  | closed

namespace Event

def submission? : Event ι ο → Option (Nat × ι)
  | submitted ticket job => some (ticket, job)
  | _ => none

def start? : Event ι ο → Option (Nat × ι)
  | started ticket job => some (ticket, job)
  | _ => none

def ending? : Event ι ο → Option (Nat × Option ο)
  | ended ticket output => some (ticket, output)
  | _ => none

def isClosed : Event ι ο → Bool
  | closed => true
  | _ => false

end Event

/-- The steps of a worker. Only the job that is running can end. -/
inductive Step : Worker ι ο → Event ι ο → Worker ι ο → Prop where
  | submit {worker : Worker ι ο} (job : ι) :
      Step worker (.submitted worker.next job) (worker.submit job)
  | poll {worker : Worker ι ο} {ticket : Nat} {job : ι} {queue : List (Nat × ι)}
      (rests : worker.running = none) (queued : worker.queue = (ticket, job) :: queue) :
      Step worker (.started ticket job) worker.poll
  | finish {worker : Worker ι ο} {ticket : Nat} {job : ι}
      (busy : worker.running = some (ticket, job)) (output : ο) :
      Step worker (.ended ticket (some output)) (worker.finish output)
  | crash {worker : Worker ι ο} {ticket : Nat} {job : ι}
      (busy : worker.running = some (ticket, job)) :
      Step worker (.ended ticket none) worker.crash
  | shutDown {worker : Worker ι ο} : Step worker .closed worker.shutDown

/-- The runs of a worker from its start, with what was seen, the oldest first. -/
inductive Run (name : String) : List (Event ι ο) → Worker ι ο → Prop where
  | start : Run name [] (new name)
  | next {events : List (Event ι ο)} {event : Event ι ο} {worker after : Worker ι ο}
      (run : Run name events worker) (step : Step worker event after) :
      Run name (events ++ [event]) after

/-! ## What was seen -/

/-- All jobs that were submitted, in order. -/
def submissions (events : List (Event ι ο)) : List (Nat × ι) := events.filterMap Event.submission?

/-- The jobs that were submitted before the worker was first shut down. -/
def accepted (events : List (Event ι ο)) : List (Nat × ι) :=
  submissions (events.takeWhile fun event => !event.isClosed)

/-- The jobs that were submitted afterwards. -/
def refused (events : List (Event ι ο)) : List (Nat × ι) :=
  submissions (events.dropWhile fun event => !event.isClosed)

def started (events : List (Event ι ο)) : List (Nat × ι) := events.filterMap Event.start?

def ended (events : List (Event ι ο)) : List (Nat × Option ο) := events.filterMap Event.ending?

def wasClosed (events : List (Event ι ο)) : Bool := events.any Event.isClosed

variable (events : List (Event ι ο)) (event : Event ι ο)

theorem submissions_concat :
    submissions (events ++ [event]) = submissions events ++ event.submission?.toList := by
  rw [submissions, List.filterMap_append]
  cases event <;> rfl

theorem started_concat : started (events ++ [event]) = started events ++ event.start?.toList := by
  rw [started, List.filterMap_append]
  cases event <;> rfl

theorem ended_concat : ended (events ++ [event]) = ended events ++ event.ending?.toList := by
  rw [ended, List.filterMap_append]
  cases event <;> rfl

theorem wasClosed_concat : wasClosed (events ++ [event]) = (wasClosed events || event.isClosed) := by
  rw [wasClosed, List.any_append]
  simp [wasClosed]

/-- Every submission was accepted or refused. -/
theorem accepted_append_refused : accepted events ++ refused events = submissions events := by
  rw [accepted, refused, submissions, submissions, ← List.filterMap_append,
    List.takeWhile_append_dropWhile]
  rfl

theorem accepted_concat :
    accepted (events ++ [event]) =
      accepted events ++ if wasClosed events then [] else event.submission?.toList := by
  induction events with
  | nil => cases event <;> rfl
  | cons first events ih =>
      cases first with
      | closed => rfl
      | submitted ticket job => exact congrArg ((ticket, job) :: ·) ih
      | started | ended => exact ih

theorem refused_concat :
    refused (events ++ [event]) =
      refused events ++ if wasClosed events then event.submission?.toList else [] := by
  induction events with
  | nil => cases event <;> rfl
  | cons first events ih =>
      cases first with
      | closed => exact submissions_concat (.closed :: events) event
      | submitted | started | ended => exact ih

/-! ## What holds in every run -/

/-- What holds of a worker and of all that was seen of it. -/
structure Keeps (name : String) (events : List (Event ι ο)) (worker : Worker ι ο) : Prop where
  named : worker.name = name
  accepting : worker.accepting = !wasClosed events
  numbered : (submissions events).map Prod.fst = List.range worker.next
  /-- Jobs that were accepted have started in their order, or wait for it in their order. -/
  order : accepted events = started events ++ worker.queue
  /-- All jobs that have started have ended, but the one that is running. -/
  single : (started events).map Prod.fst =
    (ended events).map Prod.fst ++ (worker.running.map Prod.fst).toList
  answered : ∀ ticket answer, (ticket, answer) ∈ worker.answers ↔
    (∃ output, (ticket, output) ∈ ended events ∧ answer = answerOf name output) ∨
      ticket ∈ (refused events).map Prod.fst ∧ answer = .error (.shutDown name)
  /-- Every job was answered, is running or waits, and only one of them. -/
  once : (worker.answers.map Prod.fst ++ (worker.running.map Prod.fst).toList ++
    worker.queue.map Prod.fst).Perm (List.range worker.next)

variable {events}

namespace Keeps

theorem start (name : String) : Keeps name ([] : List (Event ι ο)) (new name) :=
  ⟨rfl, rfl, rfl, rfl, rfl, by simp [new, ended, refused, submissions], .nil⟩

variable (keeps : Keeps name events worker)
include keeps

theorem submit (job : ι) :
    Keeps name (events ++ [.submitted worker.next job]) (worker.submit job) := by
  obtain ⟨named, accepting, numbered, order, single, answered, once⟩ := keeps
  have numbered : (submissions (events ++ [.submitted worker.next job])).map Prod.fst =
      List.range (worker.next + 1) := by
    rw [submissions_concat, List.map_append, numbered, List.range_succ]
    rfl
  cases closed : wasClosed events with
  | false =>
      rw [closed] at accepting
      rw [submit_accepted accepting]
      refine ⟨named, ?_, numbered, ?_, ?_, ?_, ?_⟩
      · rw [wasClosed_concat, closed, accepting]
        rfl
      · rw [accepted_concat, started_concat, closed, order]
        simp [Event.submission?, Event.start?]
      · rw [started_concat, ended_concat]
        simpa [Event.start?, Event.ending?] using single
      · rw [ended_concat, refused_concat, closed]
        simpa [Event.ending?] using answered
      · rw [List.range_succ, List.map_append, ← List.append_assoc]
        exact once.append_right _
  | true =>
      rw [closed] at accepting
      rw [submit_refused accepting, named]
      refine ⟨rfl, ?_, numbered, ?_, ?_, ?_, ?_⟩
      · rw [wasClosed_concat, closed, accepting]
        rfl
      · rw [accepted_concat, started_concat, closed, order]
        simp [Event.start?]
      · rw [started_concat, ended_concat]
        simpa [Event.start?, Event.ending?] using single
      · intro ticket answer
        rw [ended_concat, refused_concat, closed, List.mem_append, answered]
        simp only [Event.submission?, Event.ending?, Option.toList_some, Option.toList_none,
          List.append_nil, List.map_append, List.mem_append, List.map_cons, List.map_nil,
          List.mem_singleton, Prod.mk.injEq, if_true, or_and_right, or_assoc]
      · rw [List.range_succ, List.map_append]
        refine .trans ?_ (once.append_right [worker.next])
        simp only [List.append_assoc, List.map_cons, List.map_nil]
        exact (List.perm_append_comm.append_left _).trans (by simp)

/-- The job that has waited longest is taken up. -/
theorem take {queue : List (Nat × ι)} (rests : worker.running = none)
    (queued : worker.queue = (ticket, job) :: queue) :
    Keeps name (events ++ [.started ticket job])
      { worker with running := some (ticket, job), queue := queue } := by
  obtain ⟨named, accepting, numbered, order, single, answered, once⟩ := keeps
  refine ⟨named, ?_, ?_, ?_, ?_, ?_, ?_⟩
  · rw [wasClosed_concat, accepting]
    simp [Event.isClosed]
  · rw [submissions_concat]
    simpa [Event.submission?] using numbered
  · rw [accepted_concat, started_concat, order, queued]
    simp [Event.submission?, Event.start?]
  · rw [started_concat, ended_concat, List.map_append, single, rests]
    simp [Event.start?, Event.ending?]
  · rw [ended_concat, refused_concat]
    simpa [Event.ending?, Event.submission?] using answered
  · rw [rests, queued] at once
    simpa using once

/-- The job that is running ends, in one way or the other. -/
theorem close (busy : worker.running = some (ticket, job)) (output : Option ο) :
    Keeps name (events ++ [.ended ticket output])
      { worker with
        running := none
        answers := worker.answers ++ [(ticket, answerOf name output)] } := by
  obtain ⟨named, accepting, numbered, order, single, answered, once⟩ := keeps
  refine ⟨named, ?_, ?_, ?_, ?_, ?_, ?_⟩
  · rw [wasClosed_concat, accepting]
    simp [Event.isClosed]
  · rw [submissions_concat]
    simpa [Event.submission?] using numbered
  · rw [accepted_concat, started_concat]
    simpa [Event.submission?, Event.start?] using order
  · rw [started_concat, ended_concat, List.map_append, List.map_append, single, busy]
    simp [Event.start?, Event.ending?]
  · intro number answer
    rw [ended_concat, refused_concat, List.mem_append, answered]
    simp only [Event.ending?, Event.submission?, Option.toList_some, Option.toList_none, ite_self,
      List.append_nil, List.mem_append, List.mem_singleton, Prod.mk.injEq]
    grind
  · rw [busy] at once
    simpa using once

theorem shutDown : Keeps name (events ++ [.closed]) worker.shutDown := by
  obtain ⟨named, accepting, numbered, order, single, answered, once⟩ := keeps
  refine ⟨named, ?_, ?_, ?_, ?_, ?_, once⟩
  · rw [wasClosed_concat]
    simp [Event.isClosed, Worker.shutDown]
  · rw [submissions_concat]
    simpa [Event.submission?, Worker.shutDown] using numbered
  · rw [accepted_concat, started_concat]
    simpa [Event.submission?, Event.start?, Worker.shutDown] using order
  · rw [started_concat, ended_concat]
    simpa [Event.start?, Event.ending?, Worker.shutDown] using single
  · rw [ended_concat, refused_concat]
    simpa [Event.ending?, Event.submission?, Worker.shutDown] using answered

end Keeps

variable {event : Event ι ο} {output : Option ο}

/-- The end of a job is an answer to its number. -/
theorem Step.of_ended (step : Step worker (.ended ticket output) after) :
    ∃ job, worker.running = some (ticket, job) ∧
      after = { worker with
        running := none
        answers := worker.answers ++ [(ticket, answerOf worker.name output)] } := by
  cases step with
  | @finish _ job busy output =>
      refine ⟨job, busy, ?_⟩
      rw [Worker.finish, Worker.close, busy]
      rfl
  | @crash _ job busy =>
      refine ⟨job, busy, ?_⟩
      rw [Worker.crash, Worker.close, busy]
      rfl

theorem Step.keeps (step : Step worker event after) (keeps : Keeps name events worker) :
    Keeps name (events ++ [event]) after := by
  cases event with
  | submitted ticket job =>
      cases step
      exact keeps.submit job
  | started ticket job =>
      cases step with
      | poll rests queued =>
          rw [Worker.poll, rests, queued]
          exact keeps.take rests queued
  | ended ticket output =>
      obtain ⟨job, busy, rfl⟩ := step.of_ended
      have closed := keeps.close busy output
      rwa [← keeps.named] at closed ⊢
  | closed =>
      cases step
      exact keeps.shutDown

theorem Run.keeps (run : Run name events worker) : Keeps name events worker := by
  induction run with
  | start => exact .start name
  | next _ step ih => exact step.keeps ih

/-! ## Jobs do not answer for each other -/

/-- Workers that differ at most in what they have answered. -/
structure Matches (worker other : Worker ι ο) : Prop where
  accepting : other.accepting = worker.accepting
  next : other.next = worker.next
  queue : other.queue = worker.queue
  running : other.running = worker.running

/-- What a worker does next does not depend on its answers. -/
theorem Step.imitate (step : Step worker event after) (same : worker.Matches other) :
    ∃ late, Step other event late ∧ after.Matches late := by
  obtain ⟨accepting, next, queue, running⟩ := same
  cases step with
  | submit job =>
      refine ⟨other.submit job, next ▸ .submit job, ?_⟩
      rw [Worker.submit, Worker.submit, accepting]
      split <;> exact ⟨rfl, by simp [next], by simp [queue, next], running⟩
  | poll rests queued =>
      refine ⟨other.poll, .poll (running.trans rests) (queue.trans queued), ?_⟩
      rw [Worker.poll, Worker.poll, rests, running, rests, queue, queued]
      exact ⟨accepting, next, rfl, rfl⟩
  | finish busy output =>
      refine ⟨other.finish output, .finish (running.trans busy) output, ?_⟩
      rw [Worker.finish, Worker.finish, Worker.close, Worker.close, running, busy]
      exact ⟨accepting, next, queue, rfl⟩
  | crash busy =>
      refine ⟨other.crash, .crash (running.trans busy), ?_⟩
      rw [Worker.crash, Worker.crash, Worker.close, Worker.close, running, busy]
      exact ⟨accepting, next, queue, rfl⟩
  | shutDown => exact ⟨other.shutDown, .shutDown, rfl, next, queue, running⟩

/-- Each job could have ended in any way. -/
theorem Step.otherwise (step : Step worker (.ended ticket output) after) (result : Option ο) :
    ∃ late, Step worker (.ended ticket result) late ∧ after.Matches late := by
  obtain ⟨job, busy, rfl⟩ := step.of_ended
  have step : ∃ late, Step worker (.ended ticket result) late := by
    cases result with
    | some output => exact ⟨_, .finish busy output⟩
    | none => exact ⟨_, .crash busy⟩
  obtain ⟨late, step⟩ := step
  obtain ⟨_, _, rfl⟩ := step.of_ended
  exact ⟨_, step, rfl, rfl, rfl, rfl⟩

theorem Run.of_concat (run : Run name (events ++ [event]) after) :
    ∃ worker, Run name events worker ∧ Step worker event after := by
  generalize same : events ++ [event] = seen at run
  cases run with
  | start => simp at same
  | next run step =>
      obtain ⟨rfl, alike⟩ := List.append_inj' same rfl
      cases alike
      exact ⟨_, run, step⟩

/-- Whichever way a job ends, all that was seen afterwards could have been seen as well. -/
theorem Run.otherwise {before later : List (Event ι ο)}
    (run : Run name (before ++ .ended ticket output :: later) worker) (result : Option ο) :
    ∃ other, Run name (before ++ .ended ticket result :: later) other ∧ worker.Matches other := by
  induction later using List.reverseRecOn generalizing worker with
  | nil =>
      obtain ⟨busy, run, step⟩ := run.of_concat
      obtain ⟨other, step, same⟩ := step.otherwise result
      exact ⟨other, run.next step, same⟩
  | append_singleton later event ih =>
      rw [← List.cons_append, ← List.append_assoc] at run ⊢
      obtain ⟨worker, run, step⟩ := run.of_concat
      obtain ⟨other, onward, same⟩ := ih run
      obtain ⟨late, step, same⟩ := step.imitate same
      exact ⟨late, onward.next step, same⟩

/-- A worker that is asked for its next job rests, or has one to run. -/
theorem Run.polled (run : Run name events worker) :
    worker.poll = worker ∧ worker.running = none ∨
      ∃ more ticket job, Run name (events ++ more) worker.poll ∧
        worker.poll.running = some (ticket, job) := by
  rw [Worker.poll]
  cases rests : worker.running with
  | some entry => exact .inr ⟨[], entry.1, entry.2, by simpa using run, by simpa using rests⟩
  | none =>
      cases queued : worker.queue with
      | nil => exact .inl ⟨rfl, rfl⟩
      | cons entry queue =>
          have step := Step.poll rests queued
          rw [Worker.poll, rests, queued] at step
          exact .inr ⟨_, entry.1, entry.2, run.next step, rfl⟩

/-- Doing jobs one after another is a run. -/
theorem Run.runSome (run : Run name events worker) (work : Nat → ι → StateM σ (Option ο))
    (count : Nat) (state : σ) :
    ∃ more, Run name (events ++ more) (runSome work count worker state).1 := by
  induction count generalizing events worker state with
  | zero => exact ⟨[], (List.append_nil events).symm ▸ run⟩
  | succ count ih =>
      rw [Worker.runSome]
      rcases run.polled with ⟨same, rests⟩ | ⟨more, ticket, job, run, busy⟩
      · rw [same, rests]
        exact ⟨[], by simpa using run⟩
      · rw [busy]
        simp only [Stateful.bind_run]
        cases (work ticket job state).1 with
        | some output =>
            obtain ⟨later, run⟩ := ih (run.next (.finish busy output)) (work ticket job state).2
            exact ⟨more ++ [.ended ticket (some output)] ++ later, by simpa using run⟩
        | none =>
            obtain ⟨later, run⟩ := ih (run.next (.crash busy)) (work ticket job state).2
            exact ⟨more ++ [.ended ticket none] ++ later, by simpa using run⟩

/-! ## What follows -/

namespace Keeps

variable (keeps : Keeps name events worker)
include keeps

/-- No two submissions have the same number. -/
theorem distinct : ((submissions events).map Prod.fst).Nodup :=
  keeps.numbered ▸ List.nodup_range

/-- A job that was refused does not start. -/
theorem not_started {entry : Nat × ι} (late : entry ∈ refused events) :
    entry.1 ∉ (started events).map Prod.fst := by
  have apart := keeps.distinct
  rw [← accepted_append_refused, List.map_append, List.nodup_append'] at apart
  intro listed
  rw [keeps.order, List.map_append] at apart
  exact apart.2.2 (List.mem_append_left _ listed) (List.mem_map_of_mem late)

/-- An answer that was given is the one that is got. -/
theorem answer?_of_mem {answer : Except WorkerError ο} (given : (ticket, answer) ∈ worker.answers) :
    worker.answer? ticket = some answer := by
  obtain ⟨before, rest, split⟩ := List.append_of_mem given
  have apart := keeps.once.nodup_iff.mpr List.nodup_range
  rw [split, List.append_assoc, List.map_append, List.append_assoc] at apart
  have known : before ++ [(ticket, answer)] <+: worker.answers := ⟨rest, by simp [split]⟩
  refine answer?_of_prefix known fun other earlier same => ?_
  exact (List.nodup_append'.mp apart).2.2 (List.mem_map_of_mem earlier) (by simp [same])

/-- A worker is drained when it was shut down and all that it had accepted has ended. -/
theorem isDrained_iff :
    worker.isDrained = true ↔ wasClosed events = true ∧
      (accepted events).map Prod.fst = (ended events).map Prod.fst := by
  obtain ⟨named, accepting, numbered, order, single, answered, once⟩ := keeps
  rw [order, List.map_append, single, isDrained, accepting]
  constructor
  · intro drained
    obtain ⟨⟨closed, empty⟩, rests⟩ : (wasClosed events = true ∧ worker.queue = []) ∧
        worker.running = none := by
      simpa using drained
    simp [closed, empty, rests]
  · rintro ⟨closed, same⟩
    have rest : worker.running = none ∧ worker.queue = [] := by simpa using same
    simp [closed, rest]

end Keeps

end SelfUpdate.Worker
