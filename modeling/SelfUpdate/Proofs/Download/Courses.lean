import SelfUpdate.Proofs.Download.Moves

/-!
# The course of a transfer

Step by step a transfer comes to its end, with the result and the world that running it yields.
-/

namespace SelfUpdate.Transfer

variable {config : DownloadConfig} {ticket : Nat} {update : Update}

/-- What a transfer comes to from a stage by its steps. -/
inductive Course (config : DownloadConfig) (ticket : Nat) (update : Update) (stage : Stage)
    (world : World) : Stage → World → Prop where
  | here : Course config ticket update stage world stage world
  | next {middle : Stage} {between : World}
      (earlier : Course config ticket update stage world middle between) :
      Course config ticket update stage world (step config ticket update middle between).1
        (step config ticket update middle between).2

namespace Course

variable {first second third : Stage} {early middle late : World}

theorem trans (one : Course config ticket update first early second middle)
    (two : Course config ticket update second middle third late) :
    Course config ticket update first early third late := by
  induction two with
  | here => exact one
  | next _ ih => exact .next ih

theorem head (course : Course config ticket update first early second middle) :
    (second = first ∧ middle = early) ∨
      Course config ticket update (step config ticket update first early).1
        (step config ticket update first early).2 second middle := by
  induction course with
  | here => exact .inl ⟨rfl, rfl⟩
  | next _ ih =>
      right
      rcases ih with ⟨rfl, rfl⟩ | later
      · exact .here
      · exact .next later

/-- There is one course from a stage: what it comes to, it comes to one after the other. -/
theorem linear (one : Course config ticket update first early second middle)
    (two : Course config ticket update first early third late) :
    Course config ticket update second middle third late ∨
      Course config ticket update third late second middle := by
  induction one with
  | here => exact .inl two
  | next _ ih =>
      rcases ih with onward | back
      · rcases onward.head with ⟨rfl, rfl⟩ | later
        · exact .inr (.next .here)
        · exact .inl later
      · exact .inr (.next back)

/-- Nothing comes after the end. -/
theorem of_ended {result : Except (Halt DownloadError) Artifact}
    (course : Course config ticket update (.ended result) early second middle) :
    second = .ended result := by
  induction course with
  | here => rfl
  | next _ ih =>
      subst ih
      rfl

/-- What comes to an end has a last step. -/
theorem last {result : Except (Halt DownloadError) Artifact}
    (course : Course config ticket update first early (.ended result) late)
    (ongoing : ∀ other, first ≠ .ended other) :
    ∃ stage between, Course config ticket update first early stage between ∧
      (∀ other, stage ≠ .ended other) ∧
      step config ticket update stage between = (.ended result, late) := by
  generalize reached : Stage.ended result = final at course
  induction course with
  | here => exact absurd reached.symm (ongoing result)
  | @next stage between earlier ih =>
      by_cases ended : ∃ other, stage = .ended other
      · obtain ⟨other, rfl⟩ := ended
        exact ih reached
      · exact ⟨stage, between, earlier, fun other same => ended ⟨other, same⟩, rfl⟩

/-- A transfer does not leave a quiet world, and it does not change the network. -/
theorem quiet (course : Course config ticket update first early second middle)
    (quiet : early.Quiet) : middle.Quiet ∧ middle.network = early.network := by
  induction course with
  | here => exact ⟨quiet, rfl⟩
  | @next stage between _ ih =>
      have alike := (step_move config ticket update ih.1 stage).2
      cases stage with
      | emptied slot => exact ⟨alike.quiet ih.1, alike.network.trans ih.2⟩
      | _ => exact ⟨alike.quiet ih.1, alike.network.trans ih.2⟩

/-- Nothing was asked as long as the stream is to be asked for. -/
theorem requests (course : Course config ticket update first early second middle)
    (quiet : early.Quiet) (waiting : second.isWaiting = true) :
    middle.requests = early.requests := by
  induction course with
  | here => rfl
  | @next stage between earlier ih =>
      obtain ⟨move, alike⟩ := step_move config ticket update (earlier.quiet quiet).1 stage
      obtain ⟨before, elsewhere⟩ := move.isWaiting waiting
      have same : stage.basis update between = between := by
        cases stage with
        | emptied slot => exact absurd rfl (elsewhere slot)
        | _ => rfl
      rw [same] at alike
      exact alike.requests.trans (ih before)

/-- Along a course all steps are moves with the one answer of the network. -/
theorem move (course : Course config ticket update first early second middle)
    (quiet : early.Quiet) :
    Move config update (early.network.stream early.requests update.url) second middle.disk
      (step config ticket update second middle).1
      (step config ticket update second middle).2.disk := by
  obtain ⟨still, network⟩ := course.quiet quiet
  have move := (step_move config ticket update still second).1
  cases second with
  | emptied slot =>
      rw [network, course.requests quiet rfl] at move
      exact move
  | _ => exact move.anyAnswer (fun slot same => by cases same)

end Course

/-- From a stage the steps lead to the end that what is left of the transfer has. -/
def Finishes (config : DownloadConfig) (ticket : Nat) (update : Update) (stage : Stage)
    (world : World) : Prop :=
  Course config ticket update stage world
    (.ended (rest config ticket update stage world).1) (rest config ticket update stage world).2

namespace Finishes

theorem of_step {stage : Stage} {world : World}
    (later : Finishes config ticket update (step config ticket update stage world).1
      (step config ticket update stage world).2) :
    Finishes config ticket update stage world := by
  rw [Finishes, rest_step]
  exact (Course.next .here).trans later

theorem of_moves {stage : Stage} {world : World} (quiet : world.Quiet)
    (later : ∀ answer disk next, Move config update answer stage world.disk next disk →
      ∀ after : World, after.Quiet → Finishes config ticket update next after) :
    Finishes config ticket update stage world := by
  have still := (Course.next (.here : Course config ticket update stage world stage world)).quiet quiet
  exact of_step (later _ _ _ (step_move config ticket update quiet stage).1 _ still.1)

theorem ended (result : Except (Halt DownloadError) Artifact) (world : World) :
    Finishes config ticket update (.ended result) world := .here

variable {world : World}

theorem failing (quiet : world.Quiet) (slot : Slot) (error : DownloadError) :
    Finishes config ticket update (.failing slot error) world := by
  refine of_moves quiet fun answer disk next move after still => ?_
  cases move with
  | discard cleared => exact ended _ _
  | leave kept present => exact ended _ _

theorem verified (quiet : world.Quiet) (slot : Slot) (size : Nat) :
    Finishes config ticket update (.verified slot size) world := by
  refine of_moves quiet fun answer disk next move after still => ?_
  cases move with
  | commit renamed => exact ended _ _
  | uncommitted refused => exact failing still _ _

theorem received (quiet : world.Quiet) (slot : Slot) (size : Nat) :
    Finishes config ticket update (.received slot size) world := by
  refine of_moves quiet fun answer disk next move after still => ?_
  cases move with
  | accept holds => exact verified still _ _
  | reject differs => exact failing still _ _

theorem streaming (quiet : world.Quiet) (slot : Slot) (total : Nat) (status : Status)
    (events : List StreamEvent) :
    Finishes config ticket update (.streaming slot total status events) world := by
  induction events generalizing world status with
  | nil =>
      refine of_moves quiet fun answer disk next move after still => ?_
      cases move with
      | finish => exact received still _ _
  | cons event events ih =>
      refine of_moves quiet fun answer disk next move after still => ?_
      cases move with
      | write fits => exact ih still _
      | interfere => exact ih still _
      | overflow long => exact failing still _ _
      | breakOff => exact failing still _ _
      | crash => exact ended _ _

theorem opened (quiet : world.Quiet) (slot : Slot) (total : Nat) (events : List StreamEvent) :
    Finishes config ticket update (.opened slot total events) world := by
  refine of_moves quiet fun answer disk next move after still => ?_
  cases move with
  | create made => exact streaming still _ _ _ _
  | uncreated refused => exact failing still _ _

theorem emptied (quiet : world.Quiet) (slot : Slot) :
    Finishes config ticket update (.emptied slot) world := by
  refine of_moves quiet fun answer disk next move after still => ?_
  cases move with
  | connect replied short => exact opened still _ _ _
  | refuse replied long => exact ended _ _
  | unanswered replied => exact ended _ _
  | collapse replied => exact ended _ _

theorem begun (quiet : world.Quiet) : Finishes config ticket update .begun world := by
  refine of_moves quiet fun answer disk next move after still => ?_
  cases move with
  | unnamed refused => exact ended _ _
  | barred named made => exact ended _ _
  | prepare named made =>
      refine of_moves still fun answer disk next move after still => ?_
      cases move with
      | keepStaging kept present => exact ended _ _
      | clearStaging cleared =>
          refine of_moves still fun answer disk next move after still => ?_
          cases move with
          | keepCommitted kept present => exact ended _ _
          | clearCommitted cleared => exact emptied still _

end Finishes

/-- Running a transfer in a quiet world is taking all its steps. -/
theorem course_run (config : DownloadConfig) (ticket : Nat) (update : Update) {world : World}
    (quiet : world.Quiet) :
    Course config ticket update .begun world (.ended (run config ticket update world).1)
      (run config ticket update world).2 :=
  Finishes.begun quiet

end SelfUpdate.Transfer
