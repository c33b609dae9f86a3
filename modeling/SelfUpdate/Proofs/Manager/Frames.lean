import SelfUpdate.Log.Start
import SelfUpdate.Manager.Session
import SelfUpdate.Proofs.Frame

/-!
# Managers within frames

The start of the log and of a manager, and what calls do at once, are made of few parts. They stay within
every frame in which these parts stay.
-/

namespace SelfUpdate

variable {α β : Type} {frame : Frame}

/-! ## Effects -/

theorem PolicyStore.save_within
    (replaces : ∀ path bytes, (Effect.ofSteps (Disk.replaceFile path bytes)).Within frame)
    (store : PolicyStore) (policy : Policy) : (store.save policy).Within frame := by
  cases store with
  | file path => exact .bind (.bind (replaces _ _) fun _ => .pure _) fun _ => .pure _
  | memory held => exact .pure _

theorem Effect.trimLogFile_within {path : Path}
    (writes : ∀ bytes, (Effect.ofStep (·.writeFile path bytes)).Within frame) (limit : Nat) :
    (Effect.trimLogFile path limit).Within frame := by
  refine .bind .get fun world => ?_
  dsimp only
  cases world.disk.readFile path with
  | error error => exact .pure _
  | ok content =>
      dsimp only
      split
      · exact .pure _
      · exact .bind (writes _) fun _ => .pure _

section Logs

variable (logs : frame.Logs)

include logs

theorem Settings.load_within (file : Path) : (Settings.load file).Within frame := by
  refine .bind .get fun world => ?_
  cases world.disk.readText file with
  | error error => exact .pure _
  | ok text =>
      dsimp only
      cases Settings.parse text with
      | ok settings => exact .pure _
      | error error => exact .bind (logs _ _ _) fun _ => .pure _

theorem PolicyStore.load_within (store : PolicyStore) : store.load.Within frame := by
  cases store with
  | memory held => exact .pure _
  | file path =>
      refine .bind .get fun world => ?_
      cases world.disk.readText path with
      | error error =>
          cases error with
          | notFound => exact .bind (logs _ _ _) fun _ => .pure _
          | _ => exact .pure _
      | ok text =>
          dsimp only
          cases Policy.parse text with
          | ok policy => exact .pure _
          | error error => exact .bind (logs _ _ _) fun _ => .pure _

namespace Effect

theorem startLog_within {directories : Directories}
    (ensures : (ofSteps directories.ensure).Within frame)
    (trims : ∀ limit, (trimLogFile directories.logFile limit).Within frame)
    (directs : (directLogTo directories.logFile).Within frame)
    (enables : ∀ enabled, (enableLog enabled).Within frame) (verbose : Bool) (limit : UInt64) :
    (startLog directories verbose limit).Within frame := by
  refine .bind ensures fun _ => .bind (trims _) fun trimmed => .bind directs fun _ => ?_
  refine .bind (enables _) fun _ => .bind (logs _ _ _) fun _ => ?_
  split
  · exact logs _ _ _
  · exact .pure _

theorem preparePrivateDirectory_within {path : Path}
    (makes : (ofSteps (Disk.makePrivateDirectory path)).Within frame) :
    (preparePrivateDirectory path).Within frame := by
  refine .bind makes fun result => ?_
  dsimp only
  split
  · exact .bind (logs _ _ _) fun _ => .pure _
  · exact .pure _

/-- A request is handed over, and then the installer takes it or refuses it. -/
theorem handOver_within {request : InstallRequest}
    (hands : Within frame
      (modify fun world => { world with handedOver := world.handedOver ++ [request] })) :
    (handOver request).Within frame := by
  refine .bind .get fun world => ?_
  dsimp only
  split
  · refine .bind (logs _ _ _) fun _ => .bind hands fun _ => ?_
    cases world.installer.refusal? request <;> exact .pure _
  · refine .bind hands fun _ => ?_
    cases world.installer.refusal? request <;> exact .pure _

end Effect

namespace Manager

theorem noteOutput_within (output : DownloadOutput) : (noteOutput output).Within frame := by
  cases output with
  | fetched artifact => exact .pure _
  | cleaned report =>
      refine .bind (logs _ _ _) fun _ => ?_
      split
      · exact logs _ _ _
      · exact .pure _

theorem committedArtifact?_within (directory artifact : Path) :
    (committedArtifact? directory artifact).Within frame := by
  rw [committedArtifact?]
  split
  · exact .bind (logs _ _ _) fun _ => .pure _
  · refine .bind .get fun world => ?_
    dsimp only
    split
    · split
      · exact .pure _
      · exact .bind (logs _ _ _) fun _ => .pure _
    · exact .bind (logs _ _ _) fun _ => .pure _

theorem start_within {directory : Path}
    (makes : (Effect.ofSteps (Disk.makePrivateDirectory directory)).Within frame) (runtime : Bool)
    (current : UInt32) (settings : Settings) (store : PolicyStore) :
    (start runtime current settings directory store).Within frame := by
  refine .bind (Effect.preparePrivateDirectory_within logs makes) fun prepared => ?_
  cases prepared with
  | error error => exact .pure _
  | ok done =>
      refine .bind (PolicyStore.load_within logs store) fun loaded => ?_
      cases loaded with
      | error error => exact .pure _
      | ok policy =>
          dsimp only
          cases startWorkers runtime (downloadConfig settings directory) with
          | error error => exact .pure _
          | ok workers => exact .bind (logs _ _ _) fun _ => .pure _

end Manager

end Logs

/-! ## Sessions -/

namespace Session

variable {keeps : Manager → Prop}

/-- A session that stays within a frame and keeps a property of its manager. -/
def Within (keeps : Manager → Prop) (frame : Frame) (session : Session α) : Prop :=
  ∀ manager world, keeps manager → frame.Holds world →
    frame.Step world (session manager world).2 ∧ keeps (session manager world).1.2

namespace Within

theorem lift {effect : Effect α} (within : effect.Within frame) :
    Within keeps frame (liftM effect : Session α) :=
  fun _ world kept holds => ⟨within world holds, kept⟩

theorem pure (a : α) : Within keeps frame (Pure.pure a : Session α) :=
  fun _ _ kept holds => ⟨.refl holds, kept⟩

theorem get : Within keeps frame (MonadState.get : Session Manager) :=
  fun _ _ kept holds => ⟨.refl holds, kept⟩

theorem getWorld : Within keeps frame (getThe World : Session World) :=
  fun _ _ kept holds => ⟨.refl holds, kept⟩

theorem modifying {change : Manager → Manager}
    (still : ∀ manager, keeps manager → keeps (change manager)) :
    Within keeps frame (modify change : Session PUnit) :=
  fun manager _ kept holds => ⟨.refl holds, still manager kept⟩

theorem bind {first : Session α} {next : α → Session β} (early : Within keeps frame first)
    (late : ∀ a, Within keeps frame (next a)) : Within keeps frame (first >>= next) := by
  intro manager world kept holds
  obtain ⟨step, still⟩ := early manager world kept holds
  obtain ⟨onward, last⟩ := late _ _ _ still step.holds
  exact ⟨step.trans onward, last⟩

end Within

end Session

/-! ## Calls -/

namespace Manager

/-- To choose an address is to make a record and then to change the policy. -/
theorem chooseUrl_eq (wish : Option String) :
    ∃ level text, chooseUrl wish = (do
      log level text
      changeReply fun policy => { policy with customUrl := customUrl? wish } :
        Session (Except ManagerError Unit)) := by
  rw [chooseUrl]
  dsimp only
  cases customUrl? wish with
  | none => exact ⟨_, _, rfl⟩
  | some url =>
      dsimp only
      split <;> exact ⟨_, _, rfl⟩

/-- Records, changes of the policy and jobs for the workers stay within a frame, and keep a property of the
manager. -/
structure Bounded (keeps : Manager → Prop) (frame : Frame) : Prop where
  logs : frame.Logs
  changes : ∀ change, Session.Within keeps frame (changePolicy change)
  check : ∀ manager job, keeps manager →
    keeps { manager with checker := manager.checker.submit job }
  job : ∀ manager job, keeps manager →
    keeps { manager with downloader := manager.downloader.submit job }
  close : ∀ manager : Manager, keeps manager → keeps { manager with
    checker := manager.checker.shutDown
    downloader := manager.downloader.shutDown }

namespace Bounded

/-- Where no property is asked of the manager, it is enough that files can be replaced. -/
theorem of_replaces (logs : frame.Logs)
    (replaces : ∀ path bytes, (Effect.ofSteps (Disk.replaceFile path bytes)).Within frame) :
    Bounded (fun _ => True) frame where
  logs := logs
  changes _ manager world _ holds :=
    ⟨PolicyStore.save_within replaces manager.store _ world holds, trivial⟩
  check _ _ _ := trivial
  job _ _ _ := trivial
  close _ _ := trivial

theorem of_loose (loose : frame.Loose) : Bounded (fun _ => True) frame :=
  .of_replaces loose.logs fun _ _ => loose.ofSteps _

variable {keeps : Manager → Prop} (bounded : Bounded keeps frame)

include bounded

theorem log (level : Log.Level) (text : String) :
    Session.Within keeps frame (Manager.log level text : Session Unit) :=
  .lift (bounded.logs _ _ _)

theorem changeReply (change : Policy → Policy) :
    Session.Within keeps frame (Manager.changeReply change) :=
  .bind (bounded.changes change) fun _ => .pure _

theorem dismiss (code : UInt32) : Session.Within keeps frame (Manager.dismiss code) :=
  .bind (bounded.log _ _) fun _ => bounded.changeReply _

theorem enableAutoCheck (enabled : Bool) :
    Session.Within keeps frame (Manager.enableAutoCheck enabled) :=
  .bind (bounded.log _ _) fun _ => bounded.changeReply _

theorem chooseUrl (wish : Option String) : Session.Within keeps frame (Manager.chooseUrl wish) := by
  obtain ⟨level, text, same⟩ := chooseUrl_eq wish
  rw [same]
  exact .bind (bounded.log _ _) fun _ => bounded.changeReply _

theorem beginCheck : Session.Within keeps frame Manager.beginCheck := by
  have rest : Session.Within keeps frame (do
      let manager ← MonadState.get
      Manager.log .info ("Checking for updates at " ++ manager.effectiveUrl)
      MonadState.set { manager with
        checker := manager.checker.submit ⟨manager.effectiveUrl, manager.current⟩ }
      return manager.checker.next : Session Nat) :=
    fun manager world kept holds =>
      ⟨bounded.logs _ _ _ world holds, bounded.check manager _ kept⟩
  refine .bind .getWorld fun world => .bind (bounded.changes _) fun kept => ?_
  cases kept with
  | ok done => exact rest
  | error error => exact .bind (bounded.log _ _) fun _ => rest

theorem beginDueCheck : Session.Within keeps frame Manager.beginDueCheck := by
  refine .bind .get fun manager => ?_
  split
  · exact .bind (bounded.log _ _) fun _ => .pure _
  · refine .bind .getWorld fun world => ?_
    split
    · exact .bind (bounded.log _ _) fun _ => .pure _
    · exact .bind bounded.beginCheck fun _ => .pure _

theorem beginJob (job : DownloadJob) : Session.Within keeps frame (Manager.beginJob job) :=
  fun manager _ kept holds => ⟨.refl holds, bounded.job manager job kept⟩

theorem shutDown : Session.Within keeps frame Manager.shutDown :=
  .bind (bounded.log _ _) fun _ => .modifying bounded.close

theorem requestInstall (hands : ∀ request, (Effect.handOver request).Within frame)
    (artifact : Path) : Session.Within keeps frame (Manager.requestInstall artifact) := by
  refine .bind .get fun manager => ?_
  refine .bind (.lift (committedArtifact?_within bounded.logs _ _)) fun chosen => ?_
  cases chosen with
  | none => exact .pure _
  | some file =>
      refine .bind (.lift (hands _)) fun result => ?_
      cases result <;> exact .bind (bounded.log _ _) fun _ => .pure _

/-- What a call does at once. A call that installs is left to its own lemma. -/
theorem begin (call : Call) (installs : ∀ artifact, call = .install artifact →
      Session.Within keeps frame (Manager.requestInstall artifact)) :
    Session.Within keeps frame call.begin := by
  cases call with
  | check => exact .bind bounded.beginCheck fun _ => .pure _
  | checkIfDue =>
      refine .bind bounded.beginDueCheck fun begun => ?_
      cases begun <;> exact .pure _
  | download | cleanUp => exact .bind (bounded.beginJob _) fun _ => .pure _
  | dismiss code => exact .bind (bounded.dismiss code) fun _ => .pure _
  | clearDismissal => exact .bind (bounded.changeReply _) fun _ => .pure _
  | enableAutoCheck enabled => exact .bind (bounded.enableAutoCheck enabled) fun _ => .pure _
  | chooseUrl wish => exact .bind (bounded.chooseUrl wish) fun _ => .pure _
  | install artifact => exact .bind (installs artifact rfl) fun _ => .pure _
  | shutDown => exact .bind bounded.shutDown fun _ => .pure _

end Bounded

end Manager

end SelfUpdate
