import SelfUpdate.Checker
import SelfUpdate.Download.Cleanup
import SelfUpdate.Download.Transfer

/-!
# The downloader

Downloads and cleanups run one at a time, in the order in which they were asked for.
-/

namespace SelfUpdate

inductive DownloadJob where
  | fetch (update : Update)
  | clean
  deriving DecidableEq, Repr

inductive DownloadOutput where
  | fetched (artifact : Artifact)
  | cleaned (report : CleanupReport)
  deriving DecidableEq, Repr

structure Downloader where
  config : DownloadConfig
  /-- The order in which a cleanup meets the entries of the directory. -/
  arrange : List Path → List Path
  worker : Worker DownloadJob (Except DownloadError DownloadOutput)

namespace Downloader

def name : String := "update-downloader"

def start (runtime : Bool) (config : DownloadConfig) : Except WorkerError Downloader :=
  (Worker.start runtime name).map fun worker => ⟨config, id, worker⟩

def submit (downloader : Downloader) (job : DownloadJob) : Downloader :=
  { downloader with worker := downloader.worker.submit job }

def shutDown (downloader : Downloader) : Downloader :=
  { downloader with worker := downloader.worker.shutDown }

def run (downloader : Downloader) (ticket : Nat) : DownloadJob → Job DownloadError DownloadOutput
  | .fetch update => .fetched <$> Transfer.run downloader.config ticket update
  | .clean => .cleaned <$> Cleanup.run downloader.arrange downloader.config.directory

/-- Runs a job; `note` is what follows at once when it succeeds. -/
def runJob (downloader : Downloader) (note : DownloadOutput → Effect Unit) (ticket : Nat)
    (job : DownloadJob) : Effect (Option (Except DownloadError DownloadOutput)) := do
  let output ← Effect.outputOf name (downloader.run ticket job)
  match output with
  | some (.ok done) => note done
  | _ => pure ()
  return output

def settle (downloader : Downloader) (note : DownloadOutput → Effect Unit) :
    Effect Downloader := do
  let worker ← Worker.settle (downloader.runJob note) downloader.worker
  return { downloader with worker := worker }

/-- The result of a submitted job, once the downloader has settled. -/
def result (downloader : Downloader) (ticket : Nat) : Except DownloadError DownloadOutput :=
  match downloader.worker.answer? ticket with
  | some (.ok result) => result
  | some (.error error) => .error (.worker error)
  | none => .error (.worker (.aborted name))

end Downloader

end SelfUpdate
