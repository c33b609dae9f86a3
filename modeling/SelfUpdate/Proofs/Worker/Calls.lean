import SelfUpdate.Proofs.Worker.Protocol

/-!
# Calls of a worker

A call submits a job, or it shuts the worker down. Whether a call comes before or after jobs that were
submitted earlier have run makes no difference to those jobs, to its own, or to what is answered: only
the order of the answers may differ.
-/

namespace SelfUpdate.Worker

variable {ι ο σ : Type} {name : String} {run : Nat → ι → StateM σ (Option ο)}
  {events later : List (Event ι ο)} {worker other third : Worker ι ο} {ticket : Nat} {state : σ}

inductive Call (ι : Type) where
  | submit (job : ι)
  | shutDown
  deriving DecidableEq, Repr

def issue (worker : Worker ι ο) : Call ι → Worker ι ο
  | .submit job => worker.submit job
  | .shutDown => worker.shutDown

/-- The number by which a call is answered. Shutting down is not answered. -/
def numberOf (worker : Worker ι ο) : Call ι → Option Nat
  | .submit _ => some worker.next
  | .shutDown => none

/-- The numbers of calls that are issued one after another. -/
def numbersOf : Worker ι ο → List (Call ι) → List (Option Nat)
  | _, [] => []
  | worker, call :: calls => worker.numberOf call :: (worker.issue call).numbersOf calls

/-- What is seen of a worker when a call is issued. -/
def eventOf (worker : Worker ι ο) : Call ι → Event ι ο
  | .submit job => .submitted worker.next job
  | .shutDown => .closed

theorem issue_step (worker : Worker ι ο) (call : Call ι) :
    Step worker (worker.eventOf call) (worker.issue call) := by
  cases call with
  | submit job => exact .submit job
  | shutDown => exact .shutDown

theorem issue_running (worker : Worker ι ο) (call : Call ι) :
    (worker.issue call).running = worker.running := by
  cases call with
  | submit job => exact (follows_submit worker job).running
  | shutDown => rfl

theorem answers_issue (worker : Worker ι ο) (call : Call ι) :
    worker.answers <+: (worker.issue call).answers := by
  cases call with
  | submit job => exact (follows_submit worker job).answers
  | shutDown => exact List.prefix_rfl

theorem foldl_issue_running (worker : Worker ι ο) (calls : List (Call ι)) :
    (calls.foldl issue worker).running = worker.running := by
  induction calls generalizing worker with
  | nil => rfl
  | cons call calls ih => exact (ih (worker.issue call)).trans (issue_running worker call)

theorem answers_foldl_issue (worker : Worker ι ο) (calls : List (Call ι)) :
    worker.answers <+: (calls.foldl issue worker).answers := by
  induction calls generalizing worker with
  | nil => exact List.prefix_rfl
  | cons call calls ih => exact (answers_issue worker call).trans (ih (worker.issue call))

theorem numbersOf_concat (worker : Worker ι ο) (calls : List (Call ι)) (call : Call ι) :
    worker.numbersOf (calls ++ [call]) =
      worker.numbersOf calls ++ [(calls.foldl issue worker).numberOf call] := by
  induction calls generalizing worker with
  | nil => rfl
  | cons first calls ih => exact congrArg (_ :: ·) (ih (worker.issue first))

theorem numberOf_lt {call : Call ι} (number : worker.numberOf call = some ticket) :
    ticket < (worker.issue call).next := by
  cases call with
  | submit job =>
      cases number
      rw [issue, submit_next]
      exact Nat.lt_succ_self _
  | shutDown => cases number

theorem numberOf_congr (same : other.next = worker.next) (call : Call ι) :
    other.numberOf call = worker.numberOf call := by
  cases call with
  | submit job => exact congrArg some same
  | shutDown => rfl

/-- Numbers are given out one after another. -/
theorem numbersOf_congr (same : other.next = worker.next) (calls : List (Call ι)) :
    other.numbersOf calls = worker.numbersOf calls := by
  induction calls generalizing worker other with
  | nil => rfl
  | cons call calls ih =>
      have next : (other.issue call).next = (worker.issue call).next := by
        cases call with
        | submit job => rw [issue, issue, submit_next, submit_next, same]
        | shutDown => exact same
      rw [numbersOf, numbersOf, numberOf_congr same, ih next]

/-- Runs go on with calls. -/
theorem Run.foldl_issue (run : Run name events worker) (calls : List (Call ι)) :
    ∃ later, Run name later (calls.foldl issue worker) := by
  induction calls generalizing events worker with
  | nil => exact ⟨events, run⟩
  | cons call calls ih => exact ih (run.next (issue_step worker call))

theorem Run.settle (reached : Run name events worker) (work : Nat → ι → StateM σ (Option ο))
    (state : σ) : ∃ later, Run name later (settle work worker state).1 :=
  have ⟨_, reached⟩ := reached.runSome work (worker.queue.length + 1) state
  ⟨_, reached⟩

theorem poll_name (worker : Worker ι ο) : worker.poll.name = worker.name := by
  rw [poll]
  split <;> rfl

theorem poll_answers (worker : Worker ι ο) : worker.poll.answers = worker.answers := by
  rw [poll]
  split <;> rfl

theorem poll_next (worker : Worker ι ο) : worker.poll.next = worker.next := by
  rw [poll]
  split <;> rfl

theorem settle_next (run : Nat → ι → StateM σ (Option ο)) (rests : worker.running = none)
    (state : σ) :
    (Worker.settle run worker state).1.next = worker.next := by
  rw [settle_eq rests]

/-! ## Workers that agree -/

/-- Workers that differ at most in the order of their answers. -/
structure Agrees (worker other : Worker ι ο) : Prop extends Matches worker other where
  name : other.name = worker.name
  answers : other.answers.Perm worker.answers

namespace Agrees

theorem refl (worker : Worker ι ο) : worker.Agrees worker := ⟨⟨rfl, rfl, rfl, rfl⟩, rfl, .refl _⟩

theorem trans (one : worker.Agrees other) (two : other.Agrees third) : worker.Agrees third where
  accepting := two.accepting.trans one.accepting
  next := two.next.trans one.next
  queue := two.queue.trans one.queue
  running := two.running.trans one.running
  name := two.name.trans one.name
  answers := two.answers.trans one.answers

theorem symm (agrees : worker.Agrees other) : other.Agrees worker where
  accepting := agrees.accepting.symm
  next := agrees.next.symm
  queue := agrees.queue.symm
  running := agrees.running.symm
  name := agrees.name.symm
  answers := agrees.answers.symm

theorem submit (agrees : worker.Agrees other) (job : ι) :
    (worker.submit job).Agrees (other.submit job) := by
  obtain ⟨⟨accepting, next, queue, running⟩, name, answers⟩ := agrees
  rw [Worker.submit, Worker.submit, accepting, next, queue, name]
  split
  · exact ⟨⟨rfl, rfl, rfl, running⟩, rfl, answers⟩
  · exact ⟨⟨rfl, rfl, rfl, running⟩, rfl, answers.append_right _⟩

theorem issue (agrees : worker.Agrees other) (call : Call ι) :
    (worker.issue call).Agrees (other.issue call) := by
  cases call with
  | submit job => exact agrees.submit job
  | shutDown =>
      exact ⟨⟨rfl, agrees.next, agrees.queue, agrees.running⟩, agrees.name, agrees.answers⟩

theorem poll (agrees : worker.Agrees other) : worker.poll.Agrees other.poll := by
  obtain ⟨⟨accepting, next, queue, running⟩, name, answers⟩ := agrees
  rw [Worker.poll, Worker.poll, running, queue]
  split
  · exact ⟨⟨accepting, next, rfl, rfl⟩, name, answers⟩
  · exact ⟨⟨accepting, next, queue, running⟩, name, answers⟩

theorem close (agrees : worker.Agrees other) (answer : Except WorkerError ο) :
    (worker.close answer).Agrees (other.close answer) := by
  obtain ⟨⟨accepting, next, queue, running⟩, name, answers⟩ := agrees
  rw [Worker.close, Worker.close, running]
  split
  · exact ⟨⟨accepting, next, queue, running⟩, name, answers⟩
  · exact ⟨⟨accepting, next, queue, rfl⟩, name, answers.append_right _⟩

end Agrees

theorem mem_of_answer? {answer : Except WorkerError ο}
    (got : worker.answer? ticket = some answer) : (ticket, answer) ∈ worker.answers := by
  obtain ⟨given, found, rfl⟩ := Option.map_eq_some_iff.mp got
  have same := List.find?_some found
  rw [← beq_iff_eq.mp same]
  exact List.mem_of_find?_eq_some found

/-- An answer can be got exactly when it was given. -/
theorem Keeps.answer?_iff (keeps : Keeps name events worker) {answer : Except WorkerError ο} :
    worker.answer? ticket = some answer ↔ (ticket, answer) ∈ worker.answers :=
  ⟨mem_of_answer?, keeps.answer?_of_mem⟩

/-- What an answer says stays so when more is answered. -/
theorem answer?_mono (more : worker.answers <+: other.answers) {answer : Except WorkerError ο}
    (got : worker.answer? ticket = some answer) : other.answer? ticket = some answer := by
  obtain ⟨given, found, rfl⟩ := Option.map_eq_some_iff.mp got
  obtain ⟨rest, split⟩ := more
  rw [answer?, ← split, List.find?_append, found]
  rfl

/-- What is seen of a worker does not tell the order of its answers. -/
theorem Keeps.agrees (keeps : Keeps name events worker) (agrees : worker.Agrees other) :
    Keeps name events other := by
  obtain ⟨named, accepting, numbered, order, single, answered, once⟩ := keeps
  obtain ⟨⟨accepts, next, queue, running⟩, name, answers⟩ := agrees
  refine ⟨name.trans named, accepts.trans accepting, next ▸ numbered, queue ▸ order,
    running ▸ single, fun ticket answer => answers.mem_iff.trans (answered ticket answer), ?_⟩
  rw [next, queue, running]
  exact (((answers.map Prod.fst).append_right _).append_right _).trans once

/-- A number that was answered does not wait for its turn. -/
theorem Keeps.answered_once (keeps : Keeps name events worker) {answer : Except WorkerError ο}
    (given : (ticket, answer) ∈ worker.answers) :
    ticket ∉ (worker.running.map Prod.fst).toList ++ worker.queue.map Prod.fst := by
  have apart := keeps.once.nodup_iff.mpr List.nodup_range
  rw [List.append_assoc] at apart
  exact (List.nodup_append'.mp apart).2.2 (List.mem_map_of_mem given)

/-- The order of the answers does not matter to who gets which. -/
theorem Keeps.answer?_congr {label : String} (keeps : Keeps name events worker)
    (others : Keeps label later other) (same : other.answers.Perm worker.answers) :
    other.answer? ticket = worker.answer? ticket := by
  refine Option.ext fun answer => ?_
  rw [others.answer?_iff, keeps.answer?_iff, same.mem_iff]

/-- When no job is left, each number that was given out has its answer. -/
theorem Keeps.answered_of_idle (keeps : Keeps name events worker) (rests : worker.running = none)
    (empty : worker.queue = []) (given : ticket < worker.next) :
    ∃ answer, (ticket, answer) ∈ worker.answers := by
  have once := keeps.once
  rw [rests, empty] at once
  have listed : ticket ∈ worker.answers.map Prod.fst := by
    simpa using once.mem_iff.mpr (List.mem_range.mpr given)
  obtain ⟨entry, known, rfl⟩ := List.mem_map.mp listed
  exact ⟨entry.2, known⟩

/-! ## Jobs that are accepted -/

/-- The jobs that are submitted before the worker is shut down, numbered from a number on. -/
def jobsOf : Nat → List (Call ι) → List (Nat × ι)
  | number, .submit job :: calls => (number, job) :: jobsOf (number + 1) calls
  | _, _ => []

theorem foldl_issue_closed (closed : worker.accepting = false) (calls : List (Call ι)) :
    (calls.foldl issue worker).queue = worker.queue := by
  induction calls generalizing worker with
  | nil => rfl
  | cons call calls ih =>
      cases call with
      | submit job =>
          rw [List.foldl_cons, issue, submit_refused closed]
          exact ih closed
      | shutDown => exact ih rfl

theorem foldl_issue_accepting (accepting : worker.accepting = true) (calls : List (Call ι)) :
    (calls.foldl issue worker).queue = worker.queue ++ jobsOf worker.next calls := by
  induction calls generalizing worker with
  | nil => exact (List.append_nil _).symm
  | cons call calls ih =>
      cases call with
      | submit job =>
          rw [List.foldl_cons, issue, submit_accepted accepting, ih (by exact accepting)]
          simp [jobsOf]
      | shutDown => exact (foldl_issue_closed rfl calls).trans (List.append_nil _).symm

theorem jobsOf_take (number count : Nat) (calls : List (Call ι))
    (enough : count ≤ (jobsOf number calls).length) :
    jobsOf number (calls.take count) = (jobsOf number calls).take count := by
  induction calls generalizing number count with
  | nil => simp [jobsOf]
  | cons call calls ih =>
      cases call with
      | submit job =>
          cases count with
          | zero => rfl
          | succ count => exact congrArg (_ :: ·) (ih _ _ (Nat.le_of_succ_le_succ enough))
      | shutDown =>
          cases Nat.le_zero.mp enough
          rfl

/-- Only jobs were submitted while they were accepted. -/
theorem foldl_issue_next {count : Nat} {calls : List (Call ι)}
    (enough : count ≤ (jobsOf worker.next calls).length) :
    ((calls.take count).foldl issue worker).next = worker.next + count := by
  induction calls generalizing worker count with
  | nil =>
      cases Nat.le_zero.mp enough
      rfl
  | cons call calls ih =>
      cases count with
      | zero => rfl
      | succ count =>
          cases call with
          | submit job =>
              have next := worker.submit_next job
              rw [List.take_succ_cons, List.foldl_cons, issue, ih, next]
              · omega
              · rw [next]
                exact Nat.le_of_succ_le_succ enough
          | shutDown => cases Nat.le_zero.mp enough

/-- The job that is accepted next is the one of the next call. -/
theorem jobsOf_drop {number count : Nat} {calls : List (Call ι)} {job : ι}
    {rest : List (Nat × ι)} (split : (jobsOf number calls).drop count = (ticket, job) :: rest) :
    ticket = number + count ∧ ∃ more, calls.drop count = .submit job :: more := by
  induction calls generalizing number count with
  | nil => simp [jobsOf] at split
  | cons call calls ih =>
      cases call with
      | submit first =>
          cases count with
          | zero =>
              cases split
              exact ⟨rfl, calls, rfl⟩
          | succ count =>
              have later : (jobsOf (number + 1) calls).drop count = (ticket, job) :: rest := split
              obtain ⟨same, more⟩ := ih later
              exact ⟨by omega, more⟩
      | shutDown => simp [jobsOf] at split

theorem next_le_foldl_issue (worker : Worker ι ο) (calls : List (Call ι)) :
    worker.next ≤ (calls.foldl issue worker).next := by
  induction calls generalizing worker with
  | nil => exact Nat.le_refl _
  | cons call calls ih =>
      refine Nat.le_trans ?_ (ih (worker.issue call))
      cases call with
      | submit job => exact (submit_next worker job).symm ▸ Nat.le_succ _
      | shutDown => exact Nat.le_refl _

theorem numbersOf_lt {calls : List (Call ι)} (listed : some ticket ∈ worker.numbersOf calls) :
    ticket < (calls.foldl issue worker).next := by
  induction calls generalizing worker with
  | nil => cases listed
  | cons call calls ih =>
      rcases List.mem_cons.mp listed with first | later
      · exact Nat.lt_of_lt_of_le (numberOf_lt first.symm) (next_le_foldl_issue _ calls)
      · exact ih later

/-- The jobs that are accepted are numbered as their calls are. -/
theorem some_mem_numbersOf {entry : Nat × ι} {calls : List (Call ι)}
    (listed : entry ∈ jobsOf worker.next calls) : some entry.1 ∈ worker.numbersOf calls := by
  induction calls generalizing worker with
  | nil => cases listed
  | cons call calls ih =>
      cases call with
      | submit job =>
          rcases List.mem_cons.mp listed with rfl | later
          · exact List.mem_cons_self
          · refine List.mem_cons_of_mem _ (ih ?_)
            rwa [issue, submit_next]
      | shutDown => cases listed

/-- The first jobs of a worker that had none are those of its first calls. -/
theorem foldl_issue_take (empty : worker.queue = []) {count : Nat} {calls : List (Call ι)}
    (enough : count ≤ (calls.foldl issue worker).queue.length) :
    ((calls.take count).foldl issue worker).queue =
      (calls.foldl issue worker).queue.take count := by
  cases accepting : worker.accepting with
  | false => rw [foldl_issue_closed accepting, foldl_issue_closed accepting, empty, List.take_nil]
  | true =>
      rw [foldl_issue_accepting accepting, empty, List.nil_append] at enough ⊢
      rw [foldl_issue_accepting accepting, empty, List.nil_append, jobsOf_take _ _ _ enough]

/-- The job behind them is the one of the next call. -/
theorem foldl_issue_drop (empty : worker.queue = []) {count : Nat} {calls : List (Call ι)}
    {job : ι} {rest : List (Nat × ι)}
    (split : (calls.foldl issue worker).queue.drop count = (ticket, job) :: rest) :
    ticket = ((calls.take count).foldl issue worker).next ∧
      ∃ more, calls.drop count = .submit job :: more := by
  cases accepting : worker.accepting with
  | false =>
      rw [foldl_issue_closed accepting, empty, List.drop_nil] at split
      cases split
  | true =>
      rw [foldl_issue_accepting accepting, empty, List.nil_append] at split
      obtain ⟨rfl, more⟩ := jobsOf_drop split
      refine ⟨(foldl_issue_next (Nat.le_of_not_le fun short => ?_)).symm, more⟩
      rw [List.drop_eq_nil_of_le short] at split
      cases split

/-! ## Calls between jobs -/

/-- Jobs that are already in the queue run alike before a call and after it. -/
theorem issue_runSome (run : Nat → ι → StateM σ (Option ο)) (rests : worker.running = none)
    {count : Nat} (queued : count ≤ worker.queue.length) (call : Call ι) (state : σ) :
    ((runSome run count worker state).1.issue call).Agrees
        (runSome run count (worker.issue call) state).1 ∧
      (runSome run count (worker.issue call) state).2 = (runSome run count worker state).2 := by
  rw [runSome_eq rests, runSome_eq ((issue_running worker call).trans rests)]
  cases call with
  | shutDown => exact ⟨.refl _, rfl⟩
  | submit job =>
      obtain ⟨name, accepting, next, queue, running, answers⟩ := worker
      cases accepting with
      | true =>
          simp only [issue, submit, if_true, List.drop_append_of_le_length queued,
            List.take_append_of_le_length queued]
          exact ⟨.refl _, trivial⟩
      | false =>
          refine ⟨⟨⟨rfl, rfl, rfl, rfl⟩, rfl, ?_⟩, rfl⟩
          simp only [issue, submit, Bool.false_eq_true, if_false, List.append_assoc]
          exact List.perm_append_comm.append_left _

theorem queue_foldl_issue (worker : Worker ι ο) (calls : List (Call ι)) :
    worker.queue <+: (calls.foldl issue worker).queue := by
  induction calls generalizing worker with
  | nil => exact List.prefix_rfl
  | cons call calls ih =>
      refine .trans ?_ (ih (worker.issue call))
      cases call with
      | submit job => exact (follows_submit worker job).queue
      | shutDown => exact List.prefix_rfl

theorem foldl_issue_runSome (run : Nat → ι → StateM σ (Option ο))
    (rests : worker.running = none) {count : Nat} (queued : count ≤ worker.queue.length)
    (calls : List (Call ι)) (state : σ) :
    (calls.foldl issue (runSome run count worker state).1).Agrees
        (runSome run count (calls.foldl issue worker) state).1 ∧
      (runSome run count (calls.foldl issue worker) state).2 =
        (runSome run count worker state).2 := by
  induction calls using List.reverseRecOn with
  | nil => exact ⟨.refl _, rfl⟩
  | append_singleton calls call ih =>
      simp only [List.foldl_append, List.foldl_cons, List.foldl_nil]
      obtain ⟨agrees, same⟩ := ih
      have enough : count ≤ (calls.foldl issue worker).queue.length :=
        Nat.le_trans queued (queue_foldl_issue worker calls).length_le
      obtain ⟨onward, still⟩ := issue_runSome run
        ((foldl_issue_running worker calls).trans rests) enough call state
      exact ⟨(agrees.issue call).trans onward, still.trans same⟩

/-- A resting worker takes up the first job of its queue. -/
theorem taken_iff (rests : worker.running = none) {entry : Nat × ι} :
    worker.poll.running = some entry ↔ ∃ queue, worker.queue = entry :: queue := by
  rw [poll, rests]
  cases worker.queue with
  | nil => simp [rests]
  | cons first queue => simp

/-- Taking up a job does not hinder calls. -/
theorem poll_issue (rests : worker.running = none) {entry : Nat × ι}
    (taken : worker.poll.running = some entry) (call : Call ι) :
    (worker.issue call).poll = worker.poll.issue call := by
  obtain ⟨queue, queued⟩ := (taken_iff rests).mp taken
  obtain ⟨name, accepting, next, _, running, answers⟩ := worker
  cases rests
  cases queued
  cases call with
  | submit job => cases accepting <;> rfl
  | shutDown => rfl

/-- After one more job the worker has done that job where it stood before. -/
theorem runSome_last (rests : worker.running = none) {count : Nat} {job : ι}
    (taken : (runSome run count worker state).1.poll.running = some (ticket, job)) :
    runSome run (count + 1) worker state =
      ((runSome run count worker state).1.poll.close
          (answerOf worker.name (run ticket job (runSome run count worker state).2).1),
        (run ticket job (runSome run count worker state).2).2) := by
  simp only [runSome_eq rests] at taken ⊢
  rw [taken_iff (by exact rests)] at taken
  obtain ⟨queue, queued⟩ := taken
  simp only at queued
  have last : worker.queue.take (count + 1) = worker.queue.take count ++ [(ticket, job)] := by
    rw [List.take_add_one, ← List.head?_drop, queued]
    rfl
  have rest : worker.queue.drop (count + 1) = queue := by
    rw [← List.drop_drop, queued]
    rfl
  rw [last, rest, answersTo_append, left_append, poll, rests, queued]
  simp [close, answersTo, left]

/-- Settling after some of the jobs have run is doing the others. -/
theorem settle_runSome (rests : worker.running = none) (count : Nat) (state : σ) :
    settle run (runSome run count worker state).1 (runSome run count worker state).2 =
      settle run worker state := by
  rw [runSome_eq rests, settle_eq rests, settle_eq (by exact rests)]
  simp only [List.append_assoc, ← answersTo_append, ← left_append, List.take_append_drop]

theorem settle_eq_runSome (rests : worker.running = none) (state : σ) :
    settle run worker state = runSome run worker.queue.length worker state := by
  rw [settle_eq rests, runSome_eq rests, List.drop_length, List.take_length]

/-- A worker that has done all its jobs has settled. -/
theorem settle_of_runSome (rests : worker.running = none) {count : Nat}
    (empty : (runSome run count worker state).1.queue = []) :
    settle run worker state = runSome run count worker state := by
  rw [runSome_eq rests] at empty ⊢
  simp only at empty
  rw [settle_eq rests, List.take_of_length_le (List.drop_eq_nil_iff.mp empty), empty]

/-- Workers that agree do so when their jobs are done. -/
theorem Agrees.settle (run : Nat → ι → StateM σ (Option ο)) (agrees : worker.Agrees other)
    (rests : worker.running = none) (state : σ) :
    (settle run worker state).1.Agrees (settle run other state).1 ∧
      (settle run other state).2 = (settle run worker state).2 := by
  rw [settle_eq rests, settle_eq (agrees.running.trans rests)]
  simp only [agrees.queue, agrees.name]
  exact ⟨⟨⟨agrees.accepting, agrees.next, rfl, agrees.running⟩, rfl,
    agrees.answers.append_right _⟩, trivial⟩

/-- Settling before more calls makes no difference when the worker settles afterwards too. -/
theorem settle_foldl_issue (run : Nat → ι → StateM σ (Option ο))
    (rests : worker.running = none) (calls : List (Call ι)) (state : σ) :
    (settle run (calls.foldl issue (settle run worker state).1) (settle run worker state).2).1.Agrees
        (settle run (calls.foldl issue worker) state).1 ∧
      (settle run (calls.foldl issue (settle run worker state).1)
          (settle run worker state).2).2 = (settle run (calls.foldl issue worker) state).2 := by
  have idle : (settle run worker state).1.running = none := by rw [settle_eq rests]; exact rests
  obtain ⟨agrees, same⟩ :=
    foldl_issue_runSome run rests (Nat.le_refl worker.queue.length) calls state
  rw [← settle_eq_runSome rests] at agrees same
  obtain ⟨onward, late⟩ := agrees.settle run
    ((foldl_issue_running _ calls).trans idle) (settle run worker state).2
  have still := (foldl_issue_running worker calls).trans rests
  rw [← same] at onward late
  rw [settle_runSome still] at onward late
  rw [same] at onward late
  exact ⟨onward, late.symm⟩

theorem answers_settle (run : Nat → ι → StateM σ (Option ο)) (rests : worker.running = none)
    (state : σ) :
    worker.answers <+: (settle run worker state).1.answers := by
  rw [settle_eq rests]
  exact List.prefix_append _ _

end SelfUpdate.Worker
