import SelfUpdate.Download.Cleanup
import SelfUpdate.Proofs.Download.Stages
import SelfUpdate.Proofs.Frame

/-!
# Transfers within frames

The parts of a transfer that only touch the disk and the log stay within every frame that leaves these out
of account.
-/

namespace SelfUpdate

variable {α : Type} {frame : Frame}

namespace Transfer

theorem log_within (logs : frame.Logs) (level : Log.Level) (text : String) :
    (log level text).Within frame :=
  .lift (logs _ _ _)

theorem report_within (tells : ∀ ticket event, (Effect.tell ticket event).Within frame)
    (ticket total downloaded : Nat) (told : Option Nat) :
    (report ticket total downloaded told).Within frame := by
  rw [report]
  split
  · exact .pure _
  · split
    · exact .bind (tells _ _) fun _ => .pure _
    · exact .pure _

/-- A step within a frame that discards the staging file when it fails. -/
theorem discardingOnFailure_within {slot : Slot} (discards : slot.discardStaging.Within frame)
    {step : Job DownloadError α} (within : step.Within frame) :
    (discardingOnFailure slot step).Within frame := by
  refine Effect.Within.bind within fun result => ?_
  rcases result with (error | _) | a
  · exact .bind discards fun _ => .pure _
  · exact .pure _
  · exact .pure _

end Transfer

/-- Files are removed within a frame in which each of them can be removed. -/
theorem Cleanup.removeFiles_within (logs : frame.Logs) (report : CleanupReport) {paths : List Path}
    (removes : ∀ path ∈ paths, (Effect.ofStep (·.removeFile path)).Within frame) :
    (Cleanup.removeFiles report paths).Within frame := by
  induction paths generalizing report with
  | nil => exact .pure _
  | cons path rest ih =>
      rw [List.forall_mem_cons] at removes
      have onward (report : CleanupReport) := ih report removes.2
      refine .bind .get fun world => ?_
      split
      · refine .bind removes.1 fun removed => ?_
        cases removed with
        | ok done => exact .bind (logs _ _ _) fun _ => onward _
        | error error =>
            cases error with
            | notFound => exact onward _
            | _ => exact .bind (logs _ _ _) fun _ => onward _
      · exact onward _

variable (loose : frame.Loose)

include loose

namespace Slot

theorem removePrevious_within (path : Path) : (removePrevious path).Within frame := by
  refine .bind (.lift (loose.ofStep _)) fun removed => ?_
  cases removed with
  | ok done => exact .lift (loose.logs _ _ _)
  | error error =>
      cases error with
      | notFound => exact .pure ()
      | _ => exact .fail _

theorem reset_within (slot : Slot) : slot.reset.Within frame :=
  .bind (removePrevious_within loose _) fun _ => removePrevious_within loose _

theorem discardStaging_within (slot : Slot) : slot.discardStaging.Within frame := by
  refine .bind (loose.ofStep _) fun removed => ?_
  cases removed with
  | ok done => exact loose.logs _ _ _
  | error error =>
      cases error with
      | notFound => exact .pure ()
      | _ => exact loose.logs _ _ _

end Slot

namespace Transfer

theorem prepare_within (config : DownloadConfig) (update : Update) :
    (prepare config update).Within frame := by
  simp only [prepare, update.url_secure, Bool.not_true, Bool.false_eq_true, if_false]
  refine .bind (.ofExcept _ _) fun slot => ?_
  refine .bind (.lift (loose.ofSteps _)) fun made => ?_
  cases made with
  | ok done => exact .pure slot
  | error error => exact .fail _

theorem create_within (slot : Slot) : (create slot).Within frame := by
  refine .get_bind fun world holds => ?_
  cases world.disk.createNew slot.staging with
  | error error => exact .refl holds
  | ok made => exact loose.disk made.2 holds

theorem promote_within (slot : Slot) : (promote slot).Within frame := by
  refine .bind (.lift (loose.ofStep _)) fun renamed => ?_
  cases renamed with
  | ok done => exact .pure ()
  | error error => exact .fail _

theorem announce_within (slot : Slot) (update : Update) (size : Nat) :
    (announce slot update size).Within frame :=
  .bind (log_within loose.logs _ _) fun _ => .pure _

end Transfer

end SelfUpdate
