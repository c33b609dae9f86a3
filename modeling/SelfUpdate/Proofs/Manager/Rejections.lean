import SelfUpdate.Proofs.Download.Refusals
import SelfUpdate.Proofs.Manager.Inquiries
import SelfUpdate.Proofs.Manager.Ledgers
import SelfUpdate.Proofs.Worker.Service

/-!
# Errors that tell of a closed component

An error is of the kind `shutDown` when it comes from a worker. A worker gives an error to those who
come after it was shut down, but also to those whose jobs have crashed, and the kind is the same for
both. No job ends with such an error by itself.
-/

namespace SelfUpdate

theorem DownloadError.kind_eq_shutDown_iff {error : DownloadError} :
    error.kind = .shutDown ↔ ∃ reason, error = .worker reason := by
  constructor
  · intro same
    cases error with
    | worker reason => exact ⟨reason, rfl⟩
    | _ => cases same
  · rintro ⟨reason, rfl⟩
    rfl

/-! ## Checks -/

namespace Check

variable {network : Network} {earlier asked : List Request} {now : Int64} {endpoint : String}
  {release : Release.Hosted} {artifact : Release.Asset} {error : CheckError}

theorem kind_of_textOf {reply : TextReply} (failed : textOf reply = .error (.failure error)) :
    error.kind = .transient := by
  cases reply <;> cases failed
  rfl

theorem kind_of_built {result : Except Release.Error Update}
    (failed : built result = .error (.failure error)) : error.kind ≠ .shutDown := by
  cases result with
  | ok update => cases failed
  | error reason =>
      cases failed
      cases reason <;> nofun

theorem Seeks.kind_ne
    (seeks : Seeks network earlier release artifact asked (.error (.failure error))) :
    error.kind ≠ .shutDown := by
  cases seeks with
  | unanswered _ _ replied =>
      rw [kind_of_textOf replied]
      nofun
  | insecure | unusable | unpublished => nofun

theorem Hosts.kind_ne {result : Except (Halt CheckError) Update}
    (hosts : Hosts network earlier now release asked result) (failed : result = .error (.failure error)) :
    error.kind ≠ .shutDown := by
  cases hosts with
  | @uncoded reason =>
      cases failed
      cases reason <;> nofun
  | bare | insecure =>
      cases failed
      nofun
  | unverifiable _ sought =>
      cases failed
      exact sought.kind_ne
  | verifiable => exact kind_of_built failed

/-- What keeps an endpoint from offering a release is never a closed component. -/
theorem Offers.kind_ne {offer : Except (Halt CheckError) Update}
    (offers : Offers network earlier now endpoint asked offer)
    (failed : offer = .error (.failure error)) : error.kind ≠ .shutDown := by
  cases offers with
  | insecure =>
      cases failed
      nofun
  | unanswered _ replied =>
      cases failed
      rw [kind_of_textOf replied]
      nofun
  | @unreadable _ reason =>
      cases failed
      cases reason <;> nofun
  | native => exact kind_of_built failed
  | hosted _ _ _ hosts => exact hosts.kind_ne failed

end Check

namespace Checker

variable {checker : Checker} {events : List (Worker.Event CheckJob (Except CheckError CheckOutcome))}
  {ticket : Nat} {error : CheckError}

theorem runJob_kind_ne {job : CheckJob} {world : World}
    (failed : (runJob ticket job world).1 = some (.error error)) : error.kind ≠ .shutDown := by
  obtain ⟨asked, offer, -, offers, output⟩ := Check.runJob_offers ticket job world
  rw [failed] at output
  rcases offer with (reason | _) | update
  · cases output
    exact offers.kind_ne rfl
  · cases output
  · cases output

/-- An error of a check is of the kind `shutDown` exactly when the check was not served. -/
theorem result_kind_iff (serves : Worker.Serves runJob name events checker)
    (answered : (checker.answer? ticket).isSome) (failed : checker.result ticket = .error error) :
    error.kind = .shutDown ↔ Worker.Unserved events ticket := by
  obtain ⟨answer, given⟩ := Option.isSome_iff_exists.mp answered
  rw [result, given] at failed
  refine serves.kind_iff .worker (fun _ => rfl) (fun _ _ _ _ ran => runJob_kind_ne ran) given ?_
  cases answer <;> exact failed

end Checker

/-! ## Downloads and cleanups -/

open DownloadError (Foreign)

theorem Cleanup.run_avoids (arrange : List Path → List Path) (directory : Path) :
    (run arrange directory).Avoids Foreign := by
  refine .bind .get fun world => ?_
  cases world.disk.list directory with
  | ok paths => exact .lift _
  | error error =>
      cases error with
      | notFound => exact .pure _
      | _ => exact .fail nofun

namespace Downloader

variable {downloader : Downloader} {note : DownloadOutput → Effect Unit}
  {events : List (Worker.Event DownloadJob (Except DownloadError DownloadOutput))} {ticket : Nat}
  {error : DownloadError}

theorem run_avoids (downloader : Downloader) (ticket : Nat) (job : DownloadJob) :
    (downloader.run ticket job).Avoids Foreign := by
  cases job with
  | fetch update => exact (Transfer.run_avoids update.checked _ _).map _
  | clean => exact (Cleanup.run_avoids _ _).map _

theorem runJob_kind_ne {job : DownloadJob} {world : World}
    (failed : (downloader.runJob note ticket job world).1 = some (.error error)) :
    error.kind ≠ .shutDown := by
  intro same
  obtain ⟨reason, rfl⟩ := DownloadError.kind_eq_shutDown_iff.mp same
  exact runJob_avoids (run_avoids downloader ticket job) failed (.unworked reason)

/-- An error of a download or of a cleanup is of the kind `shutDown` exactly when that was not
served. -/
theorem result_kind_iff
    (serves : Worker.Serves (downloader.runJob note) name events downloader.worker)
    (answered : (downloader.worker.answer? ticket).isSome)
    (failed : downloader.result ticket = .error error) :
    error.kind = .shutDown ↔ Worker.Unserved events ticket := by
  obtain ⟨answer, given⟩ := Option.isSome_iff_exists.mp answered
  rw [result, given] at failed
  refine serves.kind_iff .worker (fun _ => rfl) (fun _ _ _ _ ran => runJob_kind_ne ran) given ?_
  cases answer <;> exact failed

end Downloader

/-! ## Managers -/

namespace Manager

/-- A manager with what was seen of its workers, and what was begun, the oldest first. -/
structure Chronicle where
  manager : Manager
  checks : List (Worker.Event CheckJob (Except CheckError CheckOutcome))
  jobs : List (Worker.Event DownloadJob (Except DownloadError DownloadOutput))
  begun : List Pending

namespace Chronicle

/-- The chronicle of a manager that has just started; a cleanup meets the entries of its directory in
some order. -/
def opening (manager : Manager) (arrange : List Path → List Path) : Chronicle :=
  ⟨{ manager with downloader := { manager.downloader with arrange := arrange } }, [], [], []⟩

/-- The chronicle once a call was begun in a world. -/
def begin (chronicle : Chronicle) (call : Call) (world : World) : Chronicle where
  manager := (call.begin chronicle.manager world).1.2
  checks := chronicle.checks ++
    ((call.toChecker? chronicle.manager world.clock).map chronicle.manager.checker.eventOf).toList
  jobs := chronicle.jobs ++
    (call.toDownloader?.map chronicle.manager.downloader.worker.eventOf).toList
  begun := chronicle.begun ++ [(call.begin chronicle.manager world).1.1]

end Chronicle

/-- What can happen to a manager: calls are begun in any world, and between them each worker takes up a
job or ends one, as its code ends in some world. -/
inductive Records : Chronicle → Chronicle → Prop where
  | call {chronicle : Chronicle} (call : Call) (world : World) :
      Records chronicle (chronicle.begin call world)
  | check {chronicle : Chronicle} {checker : Checker}
      {event : Worker.Event CheckJob (Except CheckError CheckOutcome)} (work : event.isWork = true)
      (step : Worker.Step chronicle.manager.checker event checker)
      (genuine : event.Genuine Checker.runJob chronicle.manager.checker) :
      Records chronicle { chronicle with
        manager := { chronicle.manager with checker := checker }
        checks := chronicle.checks ++ [event] }
  | job {chronicle : Chronicle} {worker : Worker DownloadJob (Except DownloadError DownloadOutput)}
      {event : Worker.Event DownloadJob (Except DownloadError DownloadOutput)}
      (work : event.isWork = true)
      (step : Worker.Step chronicle.manager.downloader.worker event worker)
      (genuine : event.Genuine (chronicle.manager.downloader.runJob noteOutput)
        chronicle.manager.downloader.worker) :
      Records chronicle { chronicle with
        manager := { chronicle.manager with
          downloader := { chronicle.manager.downloader with worker := worker } }
        jobs := chronicle.jobs ++ [event] }

abbrev Recorded : Chronicle → Chronicle → Prop := Relation.ReflTransGen Records

/-- What was begun has ended. -/
def Pending.isAnswered (manager : Manager) : Pending → Bool
  | .check ticket | .dueCheck ticket => (manager.checker.answer? ticket).isSome
  | .job ticket => (manager.downloader.worker.answer? ticket).isSome
  | .nothing _ => true

/-- What was begun was given to a worker that did not serve it. -/
def Pending.Unserved (chronicle : Chronicle) : Pending → Prop
  | .check ticket | .dueCheck ticket => Worker.Unserved chronicle.checks ticket
  | .job ticket => Worker.Unserved chronicle.jobs ticket
  | .nothing _ => False

def Reply.error? : Reply → Option ManagerError
  | .checked (.error error) => some error
  | .checkedIfDue (.error error) => some error
  | .finished (.error error) => some error
  | .changed (.error error) => some error
  | _ => none

variable {manager : Manager} {world : World} {chronicle next : Chronicle} {error : ManagerError}

theorem changeReply_kind_ne {change : Policy → Policy}
    (failed : (changeReply change manager world).1.1 = .error error) : error.kind ≠ .shutDown := by
  have run : (changeReply change manager world).1.1 =
    (manager.store.save (change manager.policy) world).1.1.mapError .policy := rfl
  rw [run] at failed
  generalize (manager.store.save (change manager.policy) world).1.1 = saved at failed
  cases saved with
  | ok done => cases failed
  | error reason =>
      cases failed
      nofun

/-- A call that ends at once does not tell of a closed component. -/
theorem begin_kind_ne {call : Call} {reply : Reply}
    (begun : (call.begin manager world).1.1 = .nothing reply) (failed : reply.error? = some error) :
    error.kind ≠ .shutDown := by
  cases call with
  | check | download | cleanUp => cases begun
  | checkIfDue =>
      by_cases due : manager.ChecksItself world.clock
      · rw [begin_attempts due] at begun
        cases begun
      · obtain ⟨text, skips⟩ := begin_skips due
        rw [skips] at begun
        cases begun
        cases failed
  | dismiss | clearDismissal | enableAutoCheck | chooseUrl =>
      cases Call.goes _ manager world with
      | changes _ answers _ _ =>
          rw [answers] at begun
          cases begun
          generalize replied : (changeReply _ manager _).1.1 = result at failed
          cases result with
          | ok done => cases failed
          | error reason =>
              cases failed
              exact changeReply_kind_ne replied
      | checks edits | idles edits => cases edits
  | install | shutDown =>
      cases begun
      cases failed

/-! ## Every chronicle -/

/-- Each worker of a manager serves as it does by itself, and what ended at once does not tell of a
closed component. -/
structure Chronicle.Sound (chronicle : Chronicle) : Prop where
  checks : Worker.Serves Checker.runJob Checker.name chronicle.checks chronicle.manager.checker
  jobs : Worker.Serves (chronicle.manager.downloader.runJob noteOutput) Downloader.name
    chronicle.jobs chronicle.manager.downloader.worker
  atOnce : ∀ reply, .nothing reply ∈ chronicle.begun → ∀ error, reply.error? = some error →
    error.kind ≠ .shutDown

theorem Records.sound (records : Records chronicle next) (sound : chronicle.Sound) : next.Sound := by
  obtain ⟨checks, jobs, atOnce⟩ := sound
  cases records with
  | check work step genuine => exact ⟨checks.next step genuine, jobs, atOnce⟩
  | job work step genuine => exact ⟨checks, jobs.next step genuine, atOnce⟩
  | call call world =>
      -- of each worker a call is at most one step
      obtain ⟨policy, store, begun⟩ := begin_eq call chronicle.manager world
      refine ⟨?_, ?_, fun reply listed error failed => ?_⟩
      · rw [Chronicle.begin, begun]
        cases call.toChecker? chronicle.manager world.clock with
        | none => simpa using checks
        | some call => exact checks.issue call
      · rw [Chronicle.begin, begun]
        cases call.toDownloader? with
        | none => simpa using jobs
        | some call => exact jobs.issue call
      · rcases List.mem_append.mp listed with earlier | last
        · exact atOnce reply earlier error failed
        · exact begin_kind_ne (List.mem_singleton.mp last).symm failed

theorem Recorded.sound (recorded : Recorded chronicle next) (sound : chronicle.Sound) :
    next.Sound := by
  induction recorded with
  | refl => exact sound
  | tail _ records ih => exact records.sound ih

section

variable {runtime : Bool} {current : UInt32} {settings : Settings} {directory : Path}
  {store : PolicyStore} {later : World}

theorem opening_chronicle_sound (arrange : List Path → List Path)
    (started : start runtime current settings directory store world = (.ok manager, later)) :
    (Chronicle.opening manager arrange).Sound := by
  obtain ⟨checker, worker⟩ := start_new started
  refine ⟨?_, ?_, nofun⟩
  · rw [Chronicle.opening, checker]
    exact .start
  · rw [Chronicle.opening, worker]
    exact .start

/-- What keeps a manager from starting is a worker only where no jobs can be run. -/
theorem start_kind_ne (failed : (start true current settings directory store world).1 = .error error) :
    error.kind ≠ .shutDown := by
  have starts := start_starts true current settings directory store world
  generalize start true current settings directory store world = run at starts failed
  cases starts with
  | unprepared | unloaded =>
      cases failed
      rintro ⟨⟩
  | idle _ _ none => cases none
  | made => cases failed

end

theorem reply_kind_iff (sound : chronicle.Sound) {pending : Pending}
    (begun : pending ∈ chronicle.begun) (answered : pending.isAnswered chronicle.manager)
    (failed : (chronicle.manager.reply pending).error? = some error) :
    error.kind = .shutDown ↔ pending.Unserved chronicle := by
  cases pending with
  | check ticket | dueCheck ticket =>
      simp only [reply, checkResult] at failed
      cases result : chronicle.manager.checker.result ticket with
      | ok outcome =>
          rw [result] at failed
          cases failed
      | error reason =>
          rw [result] at failed
          cases failed
          exact Checker.result_kind_iff sound.checks answered result
  | job ticket =>
      simp only [reply, jobResult] at failed
      cases result : chronicle.manager.downloader.result ticket with
      | ok output =>
          rw [result] at failed
          cases failed
      | error reason =>
          rw [result] at failed
          cases failed
          exact Downloader.result_kind_iff sound.jobs answered result
  | nothing reply => exact iff_of_false (sound.atOnce reply begun error failed) id

section

variable {runtime : Bool} {current : UInt32} {settings : Settings} {directory : Path}
  {store : PolicyStore} {later : World} {arrange : List Path → List Path}
  {checker : Checker} {checks : List (Worker.Event CheckJob (Except CheckError CheckOutcome))}
  {downloader : Downloader} {note : DownloadOutput → Effect Unit}
  {jobs : List (Worker.Event DownloadJob (Except DownloadError DownloadOutput))}

/-- An error is of the kind `shutDown` exactly when the job was submitted after its worker had been
shut down, or has crashed. That holds of every check by a checker, of every download and cleanup by a
downloader and of every call of a manager, wherever jobs run and however calls and jobs alternate.
Where no job crashes, this kind tells of work that came too late. A manager that cannot be made where
jobs can be run fails with another kind. -/
theorem shutDown_iff_unserved (checking : Worker.Serves Checker.runJob Checker.name checks checker)
    (downloading : Worker.Serves (downloader.runJob note) Downloader.name jobs downloader.worker)
    (started : start runtime current settings directory store world = (.ok manager, later))
    (recorded : Recorded (.opening manager arrange) chronicle) :
    (∀ ticket error, (checker.answer? ticket).isSome → checker.result ticket = .error error →
      (error.kind = .shutDown ↔ Worker.Unserved checks ticket)) ∧
    (∀ ticket error, (downloader.worker.answer? ticket).isSome →
      downloader.result ticket = .error error →
      (error.kind = .shutDown ↔ Worker.Unserved jobs ticket)) ∧
    (∀ pending ∈ chronicle.begun, pending.isAnswered chronicle.manager →
      ∀ error, (chronicle.manager.reply pending).error? = some error →
        (error.kind = .shutDown ↔ pending.Unserved chronicle)) ∧
    ∀ build settings directory store world error,
      (start true build settings directory store world).1 = .error error →
      error.kind ≠ .shutDown := by
  have sound := recorded.sound (opening_chronicle_sound arrange started)
  refine ⟨?_, ?_, ?_, ?_⟩
  · intro ticket error answered failed
    exact Checker.result_kind_iff checking answered failed
  · intro ticket error answered failed
    exact Downloader.result_kind_iff downloading answered failed
  · intro pending begun answered error failed
    exact reply_kind_iff sound begun answered failed
  · intro build settings directory store world error failed
    exact start_kind_ne failed

end

/-! ## A crash in full -/

/-- What is seen of a manager where some calls were begun. -/
def called (calls : List Call) : Chronicle :=
  calls.foldl (fun (chronicle : Chronicle) call => chronicle.begin call seekerWorld)
    (.opening seeker id)

/-- What is seen when its first check crashes. -/
def stricken (calls : List Call) : Chronicle :=
  { called calls with
    manager := { (called calls).manager with checker := (called calls).manager.checker.poll.crash }
    checks := (called calls).checks ++ [.started 0 ⟨"https://e", 1⟩] ++ [.ended 0 none] }

theorem called_recorded (calls : List Call) : Recorded (.opening seeker id) (called calls) := by
  induction calls using List.reverseRecOn with
  | nil => exact .refl
  | append_singleton calls call ih =>
      rw [called, List.foldl_append]
      exact ih.tail (.call call seekerWorld)

/-- A network that does not answer. -/
def unansweredWorld : World := Transfer.worldOf privateDisk Transfer.oneChunk

theorem crash_unanswered : (Checker.runJob 0 ⟨"https://e", 1⟩ unansweredWorld).1 = none := by
  have crashed : (Checker.runJob 0 ⟨"https://e", 1⟩ unansweredWorld).1.isNone = true := by
    decide +kernel
  exact Option.isNone_iff_eq_none.mp crashed

theorem stricken_recorded {calls : List Call} {queue : List (Nat × CheckJob)}
    (rests : (called calls).manager.checker.running = none)
    (queued : (called calls).manager.checker.queue = (0, ⟨"https://e", 1⟩) :: queue) :
    Recorded (.opening seeker id) (stricken calls) := by
  have busy := (Worker.taken_iff rests).mpr ⟨queue, queued⟩
  have taken := (called_recorded calls).tail (.check rfl (.poll rests queued) trivial)
  exact taken.tail (.check rfl (.crash busy) ⟨_, unansweredWorld, busy, crash_unanswered⟩)

/-- The kind is the same for the check that crashes and for the one that comes after the manager was
shut down, of the manager as of its checker. -/
theorem shutDown_iff_unserved_crowded :
    let chronicle := stricken [.check, .shutDown, .check]
    let error (reason : WorkerError) : CheckError := .worker reason
    start true 1 seeker.settings "updates" (.memory .default) seekerWorld =
        (.ok seeker, seekerWorld) ∧
      Recorded (.opening seeker id) chronicle ∧
      Worker.Serves Checker.runJob Checker.name chronicle.checks chronicle.manager.checker ∧
      Worker.Serves (chronicle.manager.downloader.runJob noteOutput) Downloader.name chronicle.jobs
        chronicle.manager.downloader.worker ∧
      (chronicle.manager.reply (.check 0)).error? =
        some (.check (error (.aborted Checker.name))) ∧
      (chronicle.manager.reply (.check 1)).error? =
        some (.check (error (.shutDown Checker.name))) ∧
      (Pending.check 0).Unserved chronicle ∧ (Pending.check 1).Unserved chronicle ∧
      Worker.Unserved chronicle.checks 0 ∧ Worker.Unserved chronicle.checks 1 := by
  intro chronicle error
  have recorded : Recorded (.opening seeker id) chronicle := stricken_recorded rfl rfl
  have sound := recorded.sound (opening_chronicle_sound id start_seeker)
  obtain ⟨checks, -, calls, -⟩ :=
    shutDown_iff_unserved sound.checks sound.jobs start_seeker recorded
  have begun : chronicle.begun = [.check 0, .nothing .closed, .check 1] := rfl
  refine ⟨start_seeker, recorded, sound.checks, sound.jobs, rfl, rfl, ?_, ?_, ?_, ?_⟩
  · exact (calls (.check 0) (by simp [begun]) rfl _ rfl).mp rfl
  · exact (calls (.check 1) (by simp [begun]) rfl _ rfl).mp rfl
  · exact (checks 0 (error (.aborted Checker.name)) rfl rfl).mp rfl
  · exact (checks 1 (error (.shutDown Checker.name)) rfl rfl).mp rfl

/-- A manager that was never shut down gives an error of that kind when a check crashes. -/
theorem crashed_seems_closed :
    let chronicle := stricken [.check]
    start true 1 seeker.settings "updates" (.memory .default) seekerWorld =
        (.ok seeker, seekerWorld) ∧
      Recorded (.opening seeker id) chronicle ∧ Worker.wasClosed chronicle.checks = false ∧
      0 ∉ (Worker.refused chronicle.checks).map Prod.fst ∧
      ∃ error, (chronicle.manager.reply (.check 0)).error? = some error ∧ error.kind = .shutDown :=
  ⟨start_seeker, stricken_recorded rfl rfl, rfl, List.not_mem_nil, _, rfl, rfl⟩

end Manager

end SelfUpdate
