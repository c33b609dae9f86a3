/-!
# Workers

A worker takes jobs in a queue and runs them one at a time, in the order of submission. After it was
shut down it takes no more jobs, and those in the queue still run. Each job has a number, and each
submission gets one answer.
-/

namespace SelfUpdate

inductive WorkerError where
  | noRuntime (worker : String)
  | shutDown (worker : String)
  | aborted (worker : String)
  deriving DecidableEq, Repr

def WorkerError.message : WorkerError → String
  | noRuntime worker => worker ++ " worker requires a running Tokio runtime"
  | shutDown worker => worker ++ " worker has been shut down"
  | aborted worker => worker ++ " worker job aborted before producing a result"

structure Worker (ι ο : Type) where
  name : String
  accepting : Bool
  /-- The number of the next submission. -/
  next : Nat
  queue : List (Nat × ι)
  running : Option (Nat × ι)
  answers : List (Nat × Except WorkerError ο)

namespace Worker

variable {ι ο σ : Type}

def new (name : String) : Worker ι ο := ⟨name, true, 0, [], none, []⟩

/-- A worker can be made where its jobs can be run. -/
def start (runtime : Bool) (name : String) : Except WorkerError (Worker ι ο) :=
  if runtime then .ok (new name) else .error (.noRuntime name)

def submit (worker : Worker ι ο) (job : ι) : Worker ι ο :=
  if worker.accepting then
    { worker with next := worker.next + 1, queue := worker.queue ++ [(worker.next, job)] }
  else
    { worker with
      next := worker.next + 1
      answers := worker.answers ++ [(worker.next, .error (.shutDown worker.name))] }

/-- Takes the first job of the queue, unless one is running. -/
def poll (worker : Worker ι ο) : Worker ι ο :=
  match worker.running, worker.queue with
  | none, job :: queue => { worker with running := some job, queue := queue }
  | _, _ => worker

/-- The running job ends with an answer. -/
def close (worker : Worker ι ο) (answer : Except WorkerError ο) : Worker ι ο :=
  match worker.running with
  | none => worker
  | some (ticket, _) =>
    { worker with running := none, answers := worker.answers ++ [(ticket, answer)] }

def finish (worker : Worker ι ο) (output : ο) : Worker ι ο := worker.close (.ok output)

def crash (worker : Worker ι ο) : Worker ι ο := worker.close (.error (.aborted worker.name))

def shutDown (worker : Worker ι ο) : Worker ι ο := { worker with accepting := false }

def isDrained (worker : Worker ι ο) : Bool :=
  !worker.accepting && worker.queue.isEmpty && worker.running.isNone

def answer? (worker : Worker ι ο) (ticket : Nat) : Option (Except WorkerError ο) :=
  (worker.answers.find? (fun answer => answer.1 == ticket)).map Prod.snd

/-- Runs the first `count` jobs of the queue. A job yields its output, or nothing when it
crashes. -/
def runSome (run : Nat → ι → StateM σ (Option ο)) : Nat → Worker ι ο → StateM σ (Worker ι ο)
  | 0, worker => return worker
  | count + 1, worker => do
    let worker := worker.poll
    match worker.running with
    | none => return worker
    | some (ticket, job) =>
      match ← run ticket job with
      | some output => runSome run count (worker.finish output)
      | none => runSome run count worker.crash

/-- Runs all jobs of the queue. -/
def settle (run : Nat → ι → StateM σ (Option ο)) (worker : Worker ι ο) : StateM σ (Worker ι ο) :=
  runSome run (worker.queue.length + 1) worker

end Worker

end SelfUpdate
