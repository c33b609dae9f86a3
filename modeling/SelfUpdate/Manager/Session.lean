import SelfUpdate.Manager.Install

/-!
# Calls of a manager

Calls that are started together are all begun, in their order, before the workers do anything; then
the workers settle, and every call gets its reply. A single call is a group of one.
-/

namespace SelfUpdate.Manager

inductive Call where
  | check
  | checkIfDue
  | download (update : Update)
  | cleanUp
  | dismiss (code : UInt32)
  | clearDismissal
  | enableAutoCheck (enabled : Bool)
  | chooseUrl (wish : Option String)
  | install (artifact : Path)
  | shutDown
  deriving DecidableEq, Repr

inductive Reply where
  | checked (result : Except ManagerError CheckOutcome)
  /-- Nothing when no check was attempted. -/
  | checkedIfDue (result : Except ManagerError (Option CheckOutcome))
  | finished (result : Except ManagerError DownloadOutput)
  | changed (result : Except ManagerError Unit)
  | dispatched (accepted : Bool)
  | closed

/-- What a call that was begun still waits for. -/
inductive Pending where
  | check (ticket : Nat)
  | dueCheck (ticket : Nat)
  | job (ticket : Nat)
  | nothing (reply : Reply)

/-- Does what a call does at once. -/
def Call.begin : Call → Session Pending
  | .check => return .check (← beginCheck)
  | .checkIfDue => do
    match ← beginDueCheck with
    | some ticket => return .dueCheck ticket
    | none => return .nothing (.checkedIfDue (.ok none))
  | .download update => return .job (← beginJob (.fetch update))
  | .cleanUp => return .job (← beginJob .clean)
  | .dismiss code => return .nothing (.changed (← Manager.dismiss code))
  | .clearDismissal => return .nothing (.changed (← Manager.clearDismissal))
  | .enableAutoCheck enabled => return .nothing (.changed (← Manager.enableAutoCheck enabled))
  | .chooseUrl wish => return .nothing (.changed (← Manager.chooseUrl wish))
  | .install artifact => return .nothing (.dispatched (← requestInstall artifact))
  | .shutDown => do
    Manager.shutDown
    return .nothing .closed

/-- The reply to a call, once the workers have settled. -/
def reply (manager : Manager) : Pending → Reply
  | .check ticket => .checked (manager.checkResult ticket)
  | .dueCheck ticket => .checkedIfDue ((manager.checkResult ticket).map some)
  | .job ticket => .finished (manager.jobResult ticket)
  | .nothing reply => reply

/-- Calls that are started together. -/
def together (calls : List Call) : Session (List Reply) := do
  let pending ← calls.mapM Call.begin
  settle
  let manager ← get
  return pending.map manager.reply

/-- Shuts the manager down, and makes a new one in its place with the same settings and store. The
old one stays when that fails. -/
def restart (current : UInt32) : Session (Except ManagerError Unit) := do
  shutDown
  settle
  let manager ← get
  match ← (start true current manager.settings manager.directory manager.store : Effect _) with
  | .ok fresh =>
    set fresh
    return .ok ()
  | .error error => return .error error

/-! ## Single calls -/

def checkNow : Session (Except ManagerError CheckOutcome) := do
  let ticket ← beginCheck
  settle
  return (← get).checkResult ticket

def checkIfDue : Session (Except ManagerError (Option CheckOutcome)) := do
  match ← beginDueCheck with
  | none => return .ok none
  | some ticket =>
    settle
    return ((← get).checkResult ticket).map some

/-- The number of a job and its result. -/
def perform (job : DownloadJob) : Session (Nat × Except ManagerError DownloadOutput) := do
  let ticket ← beginJob job
  settle
  return (ticket, (← get).jobResult ticket)

end SelfUpdate.Manager
