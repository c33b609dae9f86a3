import SelfUpdate.Failure
import SelfUpdate.Proofs.Worker.Calls
import SelfUpdate.Proofs.Worker.Progress

/-!
# Workers with real jobs

What is seen of a worker says of each job how it ended. Here a job can only end in a way in which its
code ends in some state. Whoever is told an error by the worker itself came after it was shut down, or
his job crashed.
-/

namespace SelfUpdate.Worker

variable {ι ο σ : Type} {name : String} {run : Nat → ι → StateM σ (Option ο)}
  {events : List (Event ι ο)} {event : Event ι ο} {worker after : Worker ι ο} {ticket : Nat}
  {output : Option ο} {answer : Except WorkerError ο}

/-- A job ends as it does in some state. -/
def Event.Genuine (run : Nat → ι → StateM σ (Option ο)) (worker : Worker ι ο) : Event ι ο → Prop
  | .ended ticket output =>
    ∃ job state, worker.running = some (ticket, job) ∧ (run ticket job state).1 = output
  | _ => True

/-- The runs of a worker whose jobs are real, with what was seen, the oldest first. -/
inductive Serves (run : Nat → ι → StateM σ (Option ο)) (name : String) :
    List (Event ι ο) → Worker ι ο → Prop where
  | start : Serves run name [] (new name)
  | next {events : List (Event ι ο)} {event : Event ι ο} {worker after : Worker ι ο}
      (serves : Serves run name events worker) (step : Step worker event after)
      (genuine : event.Genuine run worker) : Serves run name (events ++ [event]) after

/-- A job was refused, since the worker had been shut down before, or it has crashed. -/
def Unserved (events : List (Event ι ο)) (ticket : Nat) : Prop :=
  ticket ∈ (refused events).map Prod.fst ∨ (ticket, none) ∈ ended events

namespace Serves

theorem toRun (serves : Serves run name events worker) : Run name events worker := by
  induction serves with
  | start => exact .start
  | next _ step _ ih => exact ih.next step

/-- Calls are served at any time. -/
theorem issue (serves : Serves run name events worker) (call : Call ι) :
    Serves run name (events ++ [worker.eventOf call]) (worker.issue call) := by
  refine serves.next (issue_step worker call) ?_
  cases call <;> trivial

theorem genuine (serves : Serves run name events worker) (listed : (ticket, output) ∈ ended events) :
    ∃ job state, (run ticket job state).1 = output := by
  induction serves with
  | start => cases listed
  | @next _ event _ _ _ _ genuine ih =>
      rw [ended_concat] at listed
      rcases List.mem_append.mp listed with earlier | last
      · exact ih earlier
      · cases event with
        | ended =>
            cases List.mem_singleton.mp last
            obtain ⟨job, state, -, ran⟩ := genuine
            exact ⟨job, state, ran⟩
        | submitted | started | closed => cases last

/-- The worker itself answers to the jobs that it does not serve. The others are answered with their
output. -/
theorem answer_cases (serves : Serves run name events worker)
    (answered : worker.answer? ticket = some answer) :
    (∃ reason, answer = .error reason) ∧ Unserved events ticket ∨
      (∃ output job state, answer = .ok output ∧ (run ticket job state).1 = some output) ∧
        ¬ Unserved events ticket := by
  have keeps := serves.toRun.keeps
  have given := (keeps.answered ticket answer).mp (keeps.answer?_iff.mp answered)
  rw [answeredWith_iff, or_assoc] at given
  -- each number has one answer, so the three ways to be answered exclude each other
  have only {other : Except WorkerError ο} (said : (ticket, other) ∈ worker.answers) :
      other = answer :=
    Option.some.inj ((keeps.answer?_of_mem said).symm.trans answered)
  rcases given with ⟨output, listed, rfl⟩ | ⟨crashed, rfl⟩ | ⟨late, rfl⟩
  · obtain ⟨job, state, ran⟩ := serves.genuine listed
    refine .inr ⟨⟨output, job, state, rfl, ran⟩, ?_⟩
    rintro (late | crashed)
    · cases only ((keeps.answered _ _).mpr (.inr ⟨late, rfl⟩))
    · cases only ((keeps.answered _ _).mpr (.inl ⟨none, crashed, rfl⟩))
  · exact .inl ⟨⟨_, rfl⟩, .inr crashed⟩
  · exact .inl ⟨⟨_, rfl⟩, .inl late⟩

end Serves

/-! ## Kinds of errors -/

section

variable {ε α : Type} {kind : ε → FailureKind} {error : ε}
  {run : Nat → ι → StateM σ (Option (Except ε α))} {events : List (Event ι (Except ε α))}
  {worker : Worker ι (Except ε α)} {answer : Except WorkerError (Except ε α)}

/-- What a caller is told, for whom an error of the worker is one among others. -/
def told (wrap : WorkerError → ε) : Except WorkerError (Except ε α) → Except ε α
  | .ok result => result
  | .error reason => .error (wrap reason)

/-- When no job ends with an error of the kind `shutDown` by itself, that kind tells of jobs that were
not served. -/
theorem Serves.kind_iff (serves : Serves run name events worker) (wrap : WorkerError → ε)
    (wrapped : ∀ reason, kind (wrap reason) = .shutDown)
    (own : ∀ ticket job state error, (run ticket job state).1 = some (.error error) →
      kind error ≠ .shutDown)
    (answered : worker.answer? ticket = some answer) (failed : told wrap answer = .error error) :
    kind error = .shutDown ↔ Unserved events ticket := by
  rcases serves.answer_cases answered with ⟨⟨reason, rfl⟩, unserved⟩ | ⟨served, not⟩
  · cases failed
    exact iff_of_true (wrapped reason) unserved
  · obtain ⟨output, job, state, rfl, ran⟩ := served
    cases failed
    exact iff_of_false (own ticket job state error ran) not

end

end SelfUpdate.Worker
