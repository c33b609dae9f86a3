import Mathlib.Logic.Function.Iterate
import SelfUpdate.Proofs.Worker.Protocol

/-!
# Every accepted job is done

However a worker is used, as long as it does something whenever it has something to do, each job that
it has accepted is started and ends, and its caller gets its answer. Together with what holds in every
run this is the protocol of a worker.
-/

namespace SelfUpdate.Worker

variable {ι ο : Type} {name : String} {events : List (Event ι ο)} {worker : Worker ι ο}

/-- What a worker does by itself. -/
def Event.isWork : Event ι ο → Bool
  | started _ _ => true
  | ended _ _ => true
  | _ => false

/-- How a worker may go on for ever. At some moments nothing is seen. -/
structure Course (worker : Worker ι ο) where
  seen : Nat → Option (Event ι ο)
  state : Nat → Worker ι ο
  here : state 0 = worker
  step : ∀ moment, match seen moment with
    | none => state (moment + 1) = state moment
    | some event => Step (state moment) event (state (moment + 1))

namespace Course

/-- What was seen before a moment. -/
def history (course : Course worker) : Nat → List (Event ι ο)
  | 0 => []
  | moment + 1 => course.history moment ++ (course.seen moment).toList

/-- A worker that has something to do does something at some time. -/
def Diligent (course : Course worker) : Prop :=
  ∀ moment, (course.state moment).running.isSome ∨ (course.state moment).queue ≠ [] →
    ∃ later event, moment ≤ later ∧ course.seen later = some event ∧ event.isWork = true

variable (course : Course worker)

theorem run (run : Run name events worker) (moment : Nat) :
    Run name (events ++ course.history moment) (course.state moment) := by
  induction moment with
  | zero =>
      rw [history, List.append_nil, course.here]
      exact run
  | succ moment ih =>
      have step := course.step moment
      rw [history, ← List.append_assoc]
      cases seen : course.seen moment with
      | none =>
          rw [seen] at step
          rw [step, Option.toList_none, List.append_nil]
          exact ih
      | some event =>
          rw [seen] at step
          exact ih.next step

theorem history_prefix {early late : Nat} (order : early ≤ late) :
    course.history early <+: course.history late := by
  induction order with
  | refl => exact List.prefix_rfl
  | step _ ih => exact ih.trans (List.prefix_append _ _)

end Course

/-! ## Work gets done -/

/-- How often a worker has taken up a job or ended one. -/
def effort (events : List (Event ι ο)) : Nat := (started events).length + (ended events).length

theorem accepted_grows {early late : List (Event ι ο)} (grows : early <+: late) :
    accepted early <+: accepted late := by
  obtain ⟨more, rfl⟩ := grows
  induction more using List.reverseRecOn with
  | nil => simp
  | append_singleton more event ih =>
      rw [← List.append_assoc, accepted_concat]
      exact ih.trans (List.prefix_append _ _)

theorem started_grows {early late : List (Event ι ο)} (grows : early <+: late) :
    started early <+: started late := grows.filterMap _

theorem ended_grows {early late : List (Event ι ο)} (grows : early <+: late) :
    ended early <+: ended late := grows.filterMap _

theorem effort_mono {early late : List (Event ι ο)} (grows : early <+: late) :
    effort early ≤ effort late :=
  Nat.add_le_add (started_grows grows).length_le (ended_grows grows).length_le

theorem effort_work {event : Event ι ο} (work : event.isWork = true) :
    effort (events ++ [event]) = effort events + 1 := by
  rw [effort, effort, started_concat, ended_concat]
  cases event with
  | submitted | closed => cases work
  | started | ended =>
      simp only [Event.start?, Event.ending?, Option.toList_some, Option.toList_none,
        List.append_nil, List.length_append, List.length_singleton]
      omega

/-- Jobs end in the order in which they have started. -/
theorem Keeps.length_started (keeps : Keeps name events worker) :
    (started events).length =
      (ended events).length + if worker.running.isSome then 1 else 0 := by
  have lengths := congrArg List.length keeps.single
  rw [List.length_append, List.length_map, List.length_map] at lengths
  cases busy : worker.running <;> simpa [busy] using lengths

/-- A worker that has not ended all that it has accepted has something to do. -/
theorem Keeps.busy (keeps : Keeps name events worker)
    (short : effort events < 2 * (accepted events).length) :
    worker.running.isSome ∨ worker.queue ≠ [] := by
  have begun := keeps.length_started
  rw [effort, keeps.order, List.length_append] at short
  by_cases busy : worker.running.isSome
  · exact .inl busy
  · rw [if_neg busy] at begun
    refine .inr fun empty => ?_
    rw [empty, List.length_nil] at short
    omega

namespace Course

variable {course : Course worker}

theorem effort_grows (run : Run name events worker) (diligent : course.Diligent) (goal : Nat)
    (within : goal ≤ 2 * (accepted events).length) :
    ∃ moment, goal ≤ effort (events ++ course.history moment) := by
  induction goal with
  | zero => exact ⟨0, Nat.zero_le _⟩
  | succ goal ih =>
      obtain ⟨moment, reached⟩ := ih (by omega)
      by_cases already : goal + 1 ≤ effort (events ++ course.history moment)
      · exact ⟨moment, already⟩
      · have keeps := (course.run run moment).keeps
        have more := (accepted_grows (List.prefix_append events (course.history moment))).length_le
        obtain ⟨later, event, order, seen, work⟩ := diligent moment (keeps.busy (by omega))
        have onward := effort_mono
          ((List.prefix_append_right_inj events).mpr (course.history_prefix order))
        refine ⟨later + 1, ?_⟩
        rw [history, seen, Option.toList_some, ← List.append_assoc, effort_work work]
        omega

end Course

/-- When as many jobs have ended as had been accepted at some time, it is these that have. -/
theorem Keeps.done {early late : List (Event ι ο)} {entry : Nat × ι}
    (keeps : Keeps name late worker) (grows : early <+: late) (listed : entry ∈ accepted early)
    (enough : (accepted early).length ≤ (ended late).length) :
    entry ∈ started late ∧ ∃ output, (entry.1, output) ∈ ended late := by
  have begun : accepted early <+: started late := by
    refine List.prefix_of_prefix_length_le (accepted_grows grows) ?_ ?_
    · rw [keeps.order]
      exact List.prefix_append _ _
    · have := keeps.length_started
      omega
  have ended : (accepted early).map Prod.fst <+: (ended late).map Prod.fst := by
    refine List.prefix_of_prefix_length_le (begun.map Prod.fst) ?_ (by simpa using enough)
    rw [keeps.single]
    exact List.prefix_append _ _
  obtain ⟨⟨number, output⟩, listed_, same⟩ :=
    List.mem_map.mp (ended.subset (List.mem_map_of_mem listed))
  exact ⟨begun.subset listed, output, same ▸ listed_⟩

/-- Each job that was accepted is started and ends, and from then on its caller has its answer. -/
theorem Course.answers {course : Course worker} (run : Run name events worker)
    (diligent : course.Diligent) {entry : Nat × ι} (listed : entry ∈ accepted events) :
    ∃ output moment, ∀ later, moment ≤ later →
      entry ∈ started (events ++ course.history later) ∧
      (entry.1, output) ∈ ended (events ++ course.history later) ∧
      (course.state later).answer? entry.1 = some (answerOf name output) := by
  obtain ⟨moment, enough⟩ := effort_grows run diligent _ (Nat.le_refl _)
  have keeps := (course.run run moment).keeps
  have begun := keeps.length_started
  obtain ⟨taken, output, known⟩ := keeps.done (List.prefix_append _ _) listed (by
    rw [effort] at enough
    split at begun <;> omega)
  refine ⟨output, moment, fun later order => ?_⟩
  have grows := (List.prefix_append_right_inj events).mpr (course.history_prefix order)
  have known := (ended_grows grows).subset known
  have keeps := (course.run run later).keeps
  refine ⟨(started_grows grows).subset taken, known, keeps.answer?_of_mem ?_⟩
  exact (keeps.answered _ _).mpr (.inl ⟨output, known, rfl⟩)

/-- What a worker does next when nobody interferes and every job crashes. -/
def spoil (worker : Worker ι ο) : Option (Event ι ο) × Worker ι ο :=
  match worker.running, worker.queue with
  | some (ticket, _), _ => (some (.ended ticket none), worker.crash)
  | none, (ticket, job) :: _ => (some (.started ticket job), worker.poll)
  | none, [] => (none, worker)

theorem spoil_step (worker : Worker ι ο) :
    match (spoil worker).1 with
    | none => (spoil worker).2 = worker ∧ worker.running = none ∧ worker.queue = []
    | some event => Step worker event (spoil worker).2 ∧ event.isWork = true := by
  rw [spoil]
  cases busy : worker.running with
  | some entry => exact ⟨.crash busy, rfl⟩
  | none =>
      cases queued : worker.queue with
      | cons entry queue => exact ⟨.poll busy queued, rfl⟩
      | nil => exact ⟨rfl, rfl, rfl⟩

/-- Every worker can keep working. -/
theorem exists_diligent (worker : Worker ι ο) : ∃ course : Course worker, course.Diligent := by
  let state (moment : Nat) : Worker ι ο := (fun worker => (spoil worker).2)^[moment] worker
  have onward (moment : Nat) : state (moment + 1) = (spoil (state moment)).2 :=
    Function.iterate_succ_apply' _ _ _
  refine ⟨⟨fun moment => (spoil (state moment)).1, state, rfl, fun moment => ?_⟩, ?_⟩
  · have step := spoil_step (state moment)
    rw [onward]
    cases seen : (spoil (state moment)).1 <;> rw [seen] at step <;> exact step.1
  · intro moment busy
    have step := spoil_step (state moment)
    cases seen : (spoil (state moment)).1 with
    | none =>
        rw [seen] at step
        simp [step.2] at busy
    | some event =>
        rw [seen] at step
        exact ⟨moment, event, Nat.le_refl _, seen, step.2⟩

/-! ## The protocol -/

/-- What a worker that was seen to do this owes to its callers. -/
structure Protocol (name : String) (events : List (Event ι ο)) (worker : Worker ι ο) : Prop where
  /-- Submissions are told apart by their numbers. -/
  distinct : ((submissions events).map Prod.fst).Nodup
  /-- The jobs that were submitted before the worker was shut down have started in their order, each
  once, save those that still wait in the queue. -/
  order : accepted events = started events ++ worker.queue
  /-- No other job starts. -/
  closed : ∀ entry ∈ refused events, entry.1 ∉ (started events).map Prod.fst
  /-- Jobs end in the order in which they start, and at most one has not ended. -/
  single : (started events).map Prod.fst =
    (ended events).map Prod.fst ++ (worker.running.map Prod.fst).toList
  /-- Each submission has one answer, or is the one that runs, or waits. -/
  once : (worker.answers.map Prod.fst ++ (worker.running.map Prod.fst).toList ++
    worker.queue.map Prod.fst).Perm ((submissions events).map Prod.fst)
  /-- The answer is the output of the job, or that it was aborted, or that the worker was shut down. -/
  answered : ∀ ticket answer, (ticket, answer) ∈ worker.answers ↔
    (∃ output, (ticket, some output) ∈ ended events ∧ answer = .ok output) ∨
      (ticket, none) ∈ ended events ∧ answer = .error (.aborted name) ∨
      ticket ∈ (refused events).map Prod.fst ∧ answer = .error (.shutDown name)
  /-- How a job ends decides on no answer but its own. -/
  isolated : ∀ before later ticket output, events = before ++ .ended ticket output :: later →
    ∀ result, ∃ other, Run name (before ++ .ended ticket result :: later) other ∧
      ∀ number answer, number ≠ ticket →
        ((number, answer) ∈ other.answers ↔ (number, answer) ∈ worker.answers)
  drained : worker.isDrained = true ↔ wasClosed events = true ∧
    (accepted events).map Prod.fst = (ended events).map Prod.fst
  /-- Whatever else happens, a worker that keeps working starts and ends each job that it has
  accepted, and from then on gives its answer. -/
  live : ∀ course : Course worker, course.Diligent → ∀ entry ∈ accepted events,
    ∃ output moment, ∀ later, moment ≤ later →
      entry ∈ started (events ++ course.history later) ∧
      (entry.1, output) ∈ ended (events ++ course.history later) ∧
      (course.state later).answer? entry.1 = some (answerOf name output)

theorem answeredWith_iff {ticket : Nat} {answer : Except WorkerError ο} :
    (∃ output, (ticket, output) ∈ ended events ∧ answer = answerOf name output) ↔
      (∃ output, (ticket, some output) ∈ ended events ∧ answer = .ok output) ∨
        (ticket, none) ∈ ended events ∧ answer = .error (.aborted name) := by
  constructor
  · rintro ⟨output | output, listed, rfl⟩
    · exact .inr ⟨listed, rfl⟩
    · exact .inl ⟨output, listed, rfl⟩
  · rintro (⟨output, listed, rfl⟩ | ⟨listed, rfl⟩)
    · exact ⟨some output, listed, rfl⟩
    · exact ⟨none, listed, rfl⟩

section

variable (before later : List (Event ι ο)) (ticket : Nat) (output : Option ο)

theorem ended_middle :
    ended (before ++ .ended ticket output :: later) =
      ended before ++ (ticket, output) :: ended later := by
  rw [ended, List.filterMap_append]
  rfl

theorem submissions_middle :
    submissions (before ++ .ended ticket output :: later) =
      submissions before ++ submissions later := by
  rw [submissions, List.filterMap_append]
  rfl

theorem refused_middle :
    refused (before ++ .ended ticket output :: later) = refused (before ++ later) := by
  induction before with
  | nil => rfl
  | cons first before ih =>
      cases first with
      | closed =>
          have same := submissions_middle (.closed :: before) later ticket output
          rw [submissions, submissions, submissions, ← List.filterMap_append] at same
          exact same
      | submitted | started | ended => exact ih

end

/-- Another end of a job leaves all other answers as they are. -/
theorem Run.isolated {before later : List (Event ι ο)} {ticket : Nat} {output : Option ο}
    (run : Run name (before ++ .ended ticket output :: later) worker) (result : Option ο) :
    ∃ other, Run name (before ++ .ended ticket result :: later) other ∧
      ∀ number answer, number ≠ ticket →
        ((number, answer) ∈ other.answers ↔ (number, answer) ∈ worker.answers) := by
  obtain ⟨other, onward, -⟩ := run.otherwise result
  refine ⟨other, onward, fun number answer differ => ?_⟩
  simp only [onward.keeps.answered, run.keeps.answered, refused_middle, ended_middle,
    List.mem_append, List.mem_cons, Prod.mk.injEq, differ, false_and, false_or]

/-- In whatever order callers submit jobs, jobs end or crash and the worker is shut down, it keeps its
protocol. -/
theorem run_protocol (run : Run name events worker) : Protocol name events worker := by
  have keeps := run.keeps
  refine ⟨keeps.distinct, keeps.order, fun entry => keeps.not_started, keeps.single, ?_, ?_, ?_,
    keeps.isDrained_iff, fun course diligent entry => Course.answers run diligent⟩
  · rw [keeps.numbered]
    exact keeps.once
  · intro ticket answer
    rw [keeps.answered, answeredWith_iff, or_assoc]
  · rintro before later ticket output rfl result
    exact run.isolated result

/-- The first of two jobs crashes after the worker was shut down and has refused a third. -/
theorem run_protocol_crowded :
    let events : List (Event Nat Nat) :=
      [.submitted 0 10, .submitted 1 20, .started 0 10, .closed, .submitted 2 30, .ended 0 none]
    let worker : Worker Nat Nat :=
      ⟨"w", false, 3, [(1, 20)], none, [(2, .error (.shutDown "w")), (0, .error (.aborted "w"))]⟩
    Run "w" events worker ∧ (∃ course : Course worker, course.Diligent) ∧
      Protocol "w" events worker := by
  intro events worker
  have first : Run "w" [(.submitted 0 10 : Event Nat Nat)] _ := Run.start.next (.submit 10)
  have second : Run "w" [.submitted 0 10, .submitted 1 20] _ := first.next (.submit 20)
  have taken : Run "w" [.submitted 0 10, .submitted 1 20, .started 0 10] _ :=
    second.next (.poll rfl (show _ = (0, 10) :: [(1, 20)] from rfl))
  have closed := (taken.next .shutDown).next (.submit 30)
  have run : Run "w" events worker := closed.next (.crash (show _ = some (0, 10) from rfl))
  exact ⟨run, exists_diligent worker, run_protocol run⟩

end SelfUpdate.Worker
