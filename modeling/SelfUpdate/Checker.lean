import SelfUpdate.Failure
import SelfUpdate.Release.Document
import SelfUpdate.Worker
import SelfUpdate.World

/-!
# Checks for updates

A check asks an endpoint for the latest release and compares its version code with that of the
running build. Every address is tested before it is asked, and a release without a checksum fails
the check even when it is not newer.
-/

namespace SelfUpdate

inductive CheckError where
  | insecureEndpoint (url : String)
  | fetch (error : Network.Error)
  | parse (error : Release.Error)
  | checksumMissing (version reason : String)
  | worker (error : WorkerError)
  deriving DecidableEq, Repr

namespace CheckError

def message : CheckError → String
  | insecureEndpoint url => "refusing insecure update endpoint " ++ url
  | fetch error => "failed to fetch release metadata: " ++ error.message
  | parse error => "failed to parse release metadata: " ++ error.message
  | checksumMissing version reason =>
    "no verifiable checksum for release " ++ version ++ ": " ++ reason
  | worker error => error.message

def kind : CheckError → FailureKind
  | fetch _ => .transient
  | insecureEndpoint _ => .integrity
  | checksumMissing _ _ => .integrity
  | parse (.checksumMissing _) => .integrity
  | parse (.checksumMalformed _) => .integrity
  | parse (.insecureDownloadUrl _ _) => .integrity
  | parse _ => .malformedInput
  | worker _ => .shutDown

end CheckError

inductive CheckOutcome where
  | noUpdate
  | updateAvailable (update : Update)
  deriving DecidableEq, Repr

namespace Check

def log (level : Log.Level) (text : String) : Job CheckError Unit :=
  Effect.log level .checker text

/-- The text at an address. -/
def fetch (url : String) : Job CheckError String := do
  match ← (Effect.getText url : Job CheckError TextReply) with
  | .body text => return text
  | .failure error => Job.fail (.fetch error)
  | .crash => throw .crash

/-- The checksum of an artifact from the document that its release publishes beside it. -/
def fetchChecksum (version artifact url : String) : Job CheckError String := do
  if !Url.isSecure url then
    log .warn ("Checksum asset URL is not https: " ++ url)
    Job.fail (.checksumMissing version "checksum asset is not served over https")
  let contents ← fetch url
  match Checksum.ofDocument? contents artifact with
  | some checksum => return checksum
  | none =>
    log .warn ("Checksum asset for " ++ artifact ++ " has no usable entry")
    Job.fail (.checksumMissing version ("no entry for " ++ artifact ++ " in checksum asset"))

/-- The checksum of the artifact of a hosted release: from the document beside it, and from the
digest field only if there is no such document. -/
def resolveChecksum (release : Release.Hosted) (artifact : Release.Asset) :
    Job CheckError String := do
  match release.checksumAsset? artifact with
  | some asset => fetchChecksum release.version artifact.name asset.url
  | none =>
    match artifact.digest.bind Checksum.ofDigestField? with
    | some checksum =>
      log .debug ("Using published asset digest for " ++ artifact.name)
      return checksum
    | none =>
      log .warn ("No checksum published for " ++ artifact.name ++ ", skipping update")
      Job.fail (.checksumMissing release.version ("no " ++ artifact.name ++ ".sha256 asset"))

def resolveHosted (release : Release.Hosted) : Job CheckError Update := do
  let version := release.version
  let _ ← Job.ofExcept .parse (Release.codeOfVersion version)
  match release.artifact? with
  | none => Job.fail (.parse (.noAssets version))
  | some artifact =>
    if !Url.isSecure artifact.url then
      log .warn ("Artifact URL is not https, skipping update: " ++ artifact.url)
      Job.fail (.parse (.insecureDownloadUrl version artifact.url))
    let checksum ← resolveChecksum release artifact
    Job.ofExcept .parse (release.toUpdate (← get).now checksum)

/-- The release that an endpoint offers. -/
def resolve (endpoint : String) : Job CheckError Update := do
  if !Url.isSecure endpoint then
    log .warn ("Update endpoint is not https, skipping request: " ++ endpoint)
    Job.fail (.insecureEndpoint endpoint)
  log .debug ("Fetching release metadata from " ++ endpoint)
  let body ← fetch endpoint
  match ← Job.ofExcept .parse (Release.Document.parse body) with
  | .native metadata => Job.ofExcept .parse (Update.ofMetadata (← get).now metadata)
  | .hosted release => resolveHosted release

/-- What a release means for a build with the given version code. -/
def compare (current : UInt32) (update : Update) : CheckOutcome :=
  if update.code > current then .updateAvailable update else .noUpdate

def run (endpoint : String) (current : UInt32) : Job CheckError CheckOutcome := do
  let update ← resolve endpoint
  let outcome := compare current update
  match outcome with
  | .updateAvailable _ =>
    log .info s!"Update available: {update.version} (code {update.code}, current {current})"
  | .noUpdate =>
    log .info s!"No update available (remote code {update.code}, current {current})"
  return outcome

end Check

/-! ## The checker -/

structure CheckJob where
  endpoint : String
  current : UInt32
  deriving DecidableEq, Repr

abbrev Checker := Worker CheckJob (Except CheckError CheckOutcome)

namespace Effect

/-- The output of a job, or nothing and a record of it when the job crashes. -/
def outputOf {ε α : Type} (worker : String) (job : Job ε α) : Effect (Option (Except ε α)) := do
  match ← job.run with
  | .ok a => return some (.ok a)
  | .error (.failure error) => return some (.error error)
  | .error .crash =>
    log .error .worker (worker ++ " worker job panicked; continuing with next job")
    return none

end Effect

namespace Checker

def name : String := "update-checker"

def start (runtime : Bool) : Except WorkerError Checker := Worker.start runtime name

def runJob (_ : Nat) (job : CheckJob) : Effect (Option (Except CheckError CheckOutcome)) :=
  Effect.outputOf name (Check.run job.endpoint job.current)

def settle (checker : Checker) : Effect Checker := Worker.settle runJob checker

/-- The result of a submitted check, once the checker has settled. -/
def result (checker : Checker) (ticket : Nat) : Except CheckError CheckOutcome :=
  match checker.answer? ticket with
  | some (.ok result) => result
  | some (.error error) => .error (.worker error)
  | none => .error (.worker (.aborted name))

end Checker

end SelfUpdate
