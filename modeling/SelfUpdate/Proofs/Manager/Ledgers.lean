import SelfUpdate.Proofs.Manager.Trees
import SelfUpdate.Proofs.Policy
import SelfUpdate.Proofs.Worker.Calls

/-!
# Changes of the policy

A ledger of a manager notes the changes of its policy, and whether each one was saved. A call makes
at most one change, which is in memory whether or not it was saved.
-/

namespace SelfUpdate.Manager

/-- A change of the policy. -/
inductive Edit where
  | attempted (clock : Int64)
  | dismissed (code : Option UInt32)
  | autoCheck (enabled : Bool)
  | customUrl (url : Option String)
  deriving DecidableEq, Repr

def Edit.apply : Edit → Policy → Policy
  | attempted clock, policy => { policy with lastCheck := clock }
  | dismissed code, policy => { policy with dismissed := code }
  | autoCheck enabled, policy => { policy with autoCheck := enabled }
  | customUrl url, policy => { policy with customUrl := url }

instance (manager : Manager) (clock : Int64) : Decidable (manager.ChecksItself clock) :=
  inferInstanceAs (Decidable (_ ∧ _))

/-- The change that a call makes. A check is noted as attempted when it is begun. -/
def Call.edit? (manager : Manager) (clock : Int64) : Call → Option Edit
  | check => some (.attempted clock)
  | checkIfDue => if manager.ChecksItself clock then some (.attempted clock) else none
  | dismiss code => some (.dismissed (some code))
  | clearDismissal => some (.dismissed none)
  | enableAutoCheck enabled => some (.autoCheck enabled)
  | chooseUrl wish => some (.customUrl (customUrl? wish))
  | download _ | cleanUp | install _ | shutDown => none

/-- What a call asks of the checker. -/
def Call.toChecker? (manager : Manager) (clock : Int64) : Call → Option (Worker.Call CheckJob)
  | check => some (.submit ⟨manager.effectiveUrl, manager.current⟩)
  | checkIfDue =>
    if manager.ChecksItself clock then some (.submit ⟨manager.effectiveUrl, manager.current⟩)
    else none
  | shutDown => some .shutDown
  | download _ | cleanUp | dismiss _ | clearDismissal | enableAutoCheck _ | chooseUrl _
  | install _ => none

/-- What a call asks of the downloader. -/
def Call.toDownloader? : Call → Option (Worker.Call DownloadJob)
  | download update => some (.submit (.fetch update))
  | cleanUp => some (.submit .clean)
  | shutDown => some .shutDown
  | check | checkIfDue | dismiss _ | clearDismissal | enableAutoCheck _ | chooseUrl _
  | install _ => none

/-- The world at the moment when a call changes the policy. A check does that first. The other calls
make a record before, and that is all they do to the world when the policy is not in a file. -/
def Call.eve (manager : Manager) (world : World) : Call → World
  | check | checkIfDue => world
  | call => (call.begin { manager with store := .memory manager.policy } world).2

/-- Whether the policy of a manager, once it is changed, can be saved. -/
def saves (manager : Manager) (world : World) (edit : Edit) : Bool :=
  (manager.store.save (edit.apply manager.policy) world).1.1.isOk

/-- The world once that was tried. -/
def saved (manager : Manager) (world : World) (edit : Edit) : World :=
  (manager.store.save (edit.apply manager.policy) world).2

/-- A manager, and the changes of its policy with whether each was saved, the oldest first. -/
structure Ledger where
  manager : Manager
  world : World
  changes : List (Edit × Bool)

namespace Ledger

def opening (manager : Manager) (world : World) : Ledger := ⟨manager, world, []⟩

/-- The change that a call makes now. -/
def edit? (ledger : Ledger) (call : Call) : Option Edit :=
  call.edit? ledger.manager ledger.world.clock

/-- The world when it makes that change. -/
def eve (ledger : Ledger) (call : Call) : World := call.eve ledger.manager ledger.world

/-- The ledger once a call was begun. -/
def begin (ledger : Ledger) (call : Call) : Ledger :=
  let ((_, manager), world) := call.begin ledger.manager ledger.world
  ⟨manager, world, ledger.changes ++
    ((ledger.edit? call).map fun edit =>
      (edit, ledger.manager.saves (ledger.eve call) edit)).toList⟩

/-- The records that a call makes leave the file at a path as it is. -/
structure Aside (path : Path) (ledger : Ledger) (call : Call) : Prop where
  idle : ledger.edit? call = none →
    Disk.KeepsFile path ledger.world.disk (ledger.begin call).world.disk
  early : ∀ edit, ledger.edit? call = some edit →
    Disk.KeepsFile path ledger.world.disk (ledger.eve call).disk
  late : ∀ edit, ledger.edit? call = some edit →
    Disk.KeepsFile path (ledger.manager.saved (ledger.eve call) edit).disk
      (ledger.begin call).world.disk

end Ledger

/-- What can happen to a manager whose policy is kept at a path. The way to the file does not pass a
link in its place when it is saved, and the file is not that of the log. The workers and others may
do anything but change the policy in memory or touch its file. -/
inductive Continues (path : Path) : Ledger → Ledger → Prop where
  | call {ledger : Ledger} (call : Call)
      (straight : (ledger.edit? call).isSome →
        ((ledger.eve call).disk.prepared path).Straight path)
      (aside : ledger.Aside path call) :
      Continues path ledger (ledger.begin call)
  | meanwhile {ledger : Ledger} {manager : Manager} {world : World}
      (policy : manager.policy = ledger.manager.policy)
      (store : manager.store = ledger.manager.store) (tree : world.disk.IsTree)
      (file : Disk.KeepsFile path ledger.world.disk world.disk) :
      Continues path ledger { ledger with manager := manager, world := world }

abbrev Continued (path : Path) : Ledger → Ledger → Prop := Relation.ReflTransGen (Continues path)

/-- A policy with all changes, those that were not saved too. -/
def remembered (loaded : Policy) (changes : List (Edit × Bool)) : Policy :=
  changes.foldl (fun policy change => change.1.apply policy) loaded

/-- The policy in memory as of the last change that was saved. -/
def LastSaved (loaded : Policy) (changes : List (Edit × Bool)) (policy : Policy) : Prop :=
  ∃ before edit after, changes = before ++ (edit, true) :: after ∧
    (∀ change ∈ after, change.2 = false) ∧
    policy = remembered loaded (before ++ [(edit, true)])

variable {manager : Manager} {world : World} {path : Path} {loaded policy : Policy}
  {changes : List (Edit × Bool)} {edit : Edit}

@[simp] theorem remembered_concat (loaded : Policy) (changes : List (Edit × Bool))
    (change : Edit × Bool) :
    remembered loaded (changes ++ [change]) = change.1.apply (remembered loaded changes) := by
  simp [remembered]

theorem not_lastSaved_nil : ¬ LastSaved loaded [] policy := by
  rintro ⟨before, edit, after, split, -⟩
  simp at split

theorem lastSaved_concat_true :
    LastSaved loaded (changes ++ [(edit, true)]) policy ↔
      policy = remembered loaded (changes ++ [(edit, true)]) := by
  constructor
  · rintro ⟨before, last, after, split, unsaved, rfl⟩
    rcases List.eq_nil_or_concat after with rfl | ⟨after, final, rfl⟩
    · rw [split]
    · rw [List.concat_eq_append, ← List.cons_append, ← List.append_assoc] at split
      obtain ⟨-, same⟩ := List.append_inj' split rfl
      cases same
      cases unsaved (edit, true) (by simp)
  · rintro rfl
    exact ⟨changes, edit, [], rfl, nofun, rfl⟩

theorem lastSaved_concat_false :
    LastSaved loaded (changes ++ [(edit, false)]) policy ↔ LastSaved loaded changes policy := by
  constructor
  · rintro ⟨before, last, after, split, unsaved, rfl⟩
    rcases List.eq_nil_or_concat after with rfl | ⟨after, final, rfl⟩
    · obtain ⟨-, same⟩ := List.append_inj' split rfl
      cases same
    · rw [List.concat_eq_append, ← List.cons_append, ← List.append_assoc] at split
      obtain ⟨front, -⟩ := List.append_inj' split rfl
      exact ⟨before, last, after, front, fun change among => unsaved change (by simp [among]), rfl⟩
  · rintro ⟨before, last, after, rfl, unsaved, rfl⟩
    refine ⟨before, last, after ++ [(edit, false)], by simp, ?_, rfl⟩
    intro change among
    rcases List.mem_append.mp among with early | final
    · exact unsaved change early
    · rw [List.mem_singleton.mp final]

/-! ## What calls do to the policy and its file -/

/-- How a call goes that is begun. -/
inductive Call.Goes (manager : Manager) (world : World) (call : Call) : Prop where
  /-- It changes the policy, and replies whether the change was saved. -/
  | changes {edit : Edit} (edits : call.edit? manager world.clock = some edit)
      (reply : (call.begin manager world).1.1 =
        .nothing (.changed (changeReply edit.apply manager (call.eve manager world)).1.1))
      (after : (call.begin manager world).1.2 =
        (changeReply edit.apply manager (call.eve manager world)).1.2)
      (later : (call.begin manager world).2 = manager.saved (call.eve manager world) edit)
  /-- It begins a check, and the attempt is noted in the policy. -/
  | checks (edits : call.edit? manager world.clock = some (.attempted world.clock))
      (waits : ∀ result, (call.begin manager world).1.1 ≠ .nothing (.changed result))
      (after : (call.begin manager world).1.2 = (beginCheck manager world).1.2)
      (later : (call.begin manager world).2 = (beginCheck manager world).2)
  /-- It leaves the policy alone. -/
  | idles (edits : call.edit? manager world.clock = none)
      (waits : ∀ result, (call.begin manager world).1.1 ≠ .nothing (.changed result))
      (policy : (call.begin manager world).1.2.policy = manager.policy)
      (store : (call.begin manager world).1.2.store = manager.store)
      (disk : world.Quiet → (call.begin manager world).2.disk = world.disk)

theorem Call.goes (call : Call) (manager : Manager) (world : World) : call.Goes manager world := by
  have recorded (level : Log.Level) (text : String) (quiet : world.Quiet) :
      (log level text world).2.disk = world.disk := by
    rw [log, Effect.log_run quiet, World.disk_recorded]
  cases call with
  | check =>
      refine .checks rfl (fun result same => ?_) rfl rfl
      cases same
  | checkIfDue =>
      by_cases due : manager.ChecksItself world.clock
      · have begun := begin_attempts due
        refine .checks (if_pos due) (fun result same => ?_) (by rw [begun]) (by rw [begun])
        rw [begun] at same
        cases same
      · obtain ⟨text, begun⟩ := begin_skips due
        refine .idles (if_neg due) (fun result same => ?_) (by rw [begun]) (by rw [begun]) ?_
        · rw [begun] at same
          cases same
        · rw [begun]
          exact recorded _ _
  | download | cleanUp =>
      refine .idles rfl (fun result same => ?_) rfl rfl fun _ => rfl
      cases same
  | dismiss | clearDismissal | enableAutoCheck => exact .changes rfl rfl rfl rfl
  | chooseUrl wish =>
      obtain ⟨level, text, same⟩ := chooseUrl_eq wish
      refine .changes rfl ?_ ?_ ?_ <;>
        simp only [Call.eve, Call.begin, same] <;>
        rfl
  | install artifact =>
      have same : (Call.begin (.install artifact) manager world).1.2 = manager :=
        requestInstall_same artifact manager world
      refine .idles rfl (fun result same => ?_) (by rw [same]) (by rw [same]) fun quiet => ?_
      · cases same
      · obtain ⟨handed, -, same, -⟩ := requestInstall_leaves manager artifact quiet
        exact same
  | shutDown =>
      refine .idles rfl (fun result same => ?_) rfl rfl (recorded _ _)
      cases same

/-- A call changes nothing of a manager but its policy and what it asks of the workers. -/
theorem begin_eq (call : Call) (manager : Manager) (world : World) :
    ∃ policy store, (call.begin manager world).1.2 =
      { manager with
        policy := policy
        store := store
        checker := ((call.toChecker? manager world.clock).map manager.checker.issue).getD
          manager.checker
        downloader := { manager.downloader with
          worker := (call.toDownloader?.map manager.downloader.worker.issue).getD
            manager.downloader.worker } } := by
  have checked : ∃ policy store, (beginCheck manager world).1.2 =
      { manager with
        policy := policy
        store := store
        checker := manager.checker.submit ⟨manager.effectiveUrl, manager.current⟩ } := by
    rw [beginCheck_fst]
    exact ⟨_, _, rfl⟩
  cases call with
  | check => exact checked
  | checkIfDue =>
      by_cases due : manager.ChecksItself world.clock
      · rw [begin_attempts due, Call.toChecker?, if_pos due]
        exact checked
      · obtain ⟨text, skips⟩ := begin_skips due
        rw [skips, Call.toChecker?, if_neg due]
        exact ⟨_, _, rfl⟩
  | download | cleanUp | dismiss | clearDismissal | enableAutoCheck | shutDown =>
      exact ⟨_, _, rfl⟩
  | chooseUrl wish =>
      obtain ⟨level, text, same⟩ := chooseUrl_eq wish
      rw [Call.begin, same]
      exact ⟨_, _, rfl⟩
  | install artifact =>
      have same : (Call.begin (.install artifact) manager world).1.2 = manager :=
        requestInstall_same artifact manager world
      rw [same]
      exact ⟨_, _, rfl⟩

theorem begin_policy (call : Call) (manager : Manager) (world : World) :
    (call.begin manager world).1.2.policy =
      ((call.edit? manager world.clock).map fun edit => edit.apply manager.policy).getD
        manager.policy := by
  cases call.goes manager world with
  | changes edits _ after _ =>
      rw [edits, after]
      rfl
  | checks edits _ after _ =>
      rw [edits, after]
      exact (beginCheck_run manager world).2.1
  | idles edits _ policy _ _ =>
      rw [edits, policy]
      rfl

/-- A call leaves the policy where it is kept. -/
theorem begin_store (file : manager.store = .file path) (call : Call) :
    (call.begin manager world).1.2.store = .file path := by
  have changed (world : World) (change : Policy → Policy) :
      (changeReply change manager world).1.2.store = .file path := by
    have same : (changeReply change manager world).1.2.store =
      (manager.store.save (change manager.policy) world).1.2 := rfl
    rw [same, file]
    rfl
  cases call.goes manager world with
  | changes _ _ after _ =>
      rw [after]
      exact changed _ _
  | checks _ _ after _ =>
      have noted := changed world fun policy => { policy with lastCheck := world.clock }
      rw [after, beginCheck_fst]
      exact noted
  | idles _ _ _ store _ => rw [store, file]

theorem saved_disk (file : manager.store = .file path) (edit : Edit) :
    (manager.saved world edit).disk =
      (Disk.replaceFile path (Text.encode (edit.apply manager.policy).fileText) world.disk).2 := by
  rw [saved, file]
  rfl

/-- What keeping the policy makes of the disk depends on nothing else in the world. -/
theorem saved_disk_congr {later : World} (same : later.disk = world.disk) (edit : Edit) :
    (manager.saved later edit).disk = (manager.saved world edit).disk := by
  rw [saved, saved]
  cases manager.store with
  | memory held => exact same
  | file path => exact congrArg (fun disk => (Disk.replaceFile path _ disk).2) same

theorem beginCheck_disk (quiet : world.Quiet) :
    (beginCheck manager world).2.disk =
      (manager.saved world (.attempted world.clock)).disk := by
  have noted := changePolicy_leaves (fun policy => { policy with lastCheck := world.clock })
    manager world
  have still := noted.quiet quiet
  have kept : (changePolicy (fun policy => { policy with lastCheck := world.clock })
    manager world).2.disk = (manager.saved world (.attempted world.clock)).disk := rfl
  rw [beginCheck]
  simp only [Session.bind_run, Session.getWorld_run]
  generalize changePolicy (fun policy => { policy with lastCheck := world.clock }) manager world =
    run at still kept
  obtain ⟨⟨result, between⟩, middle⟩ := run
  cases result with
  | ok done => simpa [log, Effect.log_run still] using kept
  | error error =>
      have noted (text : String) : (middle.recorded .warn .manager text).sink.isFile = false := by
        rw [World.sink_recorded]
        exact still
      simpa [log, Effect.log_run still, Effect.log_run (noted _)] using kept

/-- Where the log does not go to the disk, a call has left that as it was when it changes the
policy. -/
theorem eve_disk (quiet : world.Quiet) (call : Call) :
    (call.eve manager world).disk = world.disk := by
  have unplaced {before after : Disk}
      (replaced : Relation.ReflTransGen (Replaced none) before after) : after = before := by
    induction replaced with
    | refl => rfl
    | tail _ replaced ih =>
        obtain ⟨path, bytes, placed, -⟩ := replaced
        cases placed
  obtain ⟨handed, leaves, -⟩ :=
    begin_leaves { manager with store := .memory manager.policy } call quiet
  cases call with
  | check | checkIfDue => rfl
  | _ => exact unplaced leaves.disk

theorem begin_disk (quiet : world.Quiet) (call : Call) :
    (call.begin manager world).2.disk =
      ((call.edit? manager world.clock).map fun edit =>
        (manager.saved world edit).disk).getD world.disk := by
  cases call.goes manager world with
  | changes edits _ _ later =>
      rw [edits, later]
      exact saved_disk_congr (eve_disk quiet call) _
  | checks edits _ _ later =>
      rw [edits, later, beginCheck_disk quiet]
      rfl
  | idles edits _ _ _ disk =>
      rw [edits, disk quiet]
      rfl

theorem Ledger.begin_disk {ledger : Ledger} {call : Call} (quiet : ledger.world.Quiet)
    (edits : ledger.edit? call = some edit) :
    (ledger.begin call).world.disk = (ledger.manager.saved ledger.world edit).disk := by
  have disk : (ledger.begin call).world.disk = _ := Manager.begin_disk quiet call
  rw [Ledger.edit?] at edits
  rw [disk, edits]
  rfl

/-- Where the log does not go to the disk it does not go to the policy file. -/
theorem Ledger.aside_of_quiet {ledger : Ledger} (quiet : ledger.world.Quiet)
    (file : ledger.manager.store = .file path) (call : Call) : ledger.Aside path call := by
  have eve : (ledger.eve call).disk = ledger.world.disk := eve_disk quiet call
  refine ⟨fun edits => ?_, fun edit edits => ?_, fun edit edits => ?_⟩
  · have disk : (ledger.begin call).world.disk = _ := Manager.begin_disk quiet call
    rw [Ledger.edit?] at edits
    rw [disk, edits]
    exact fun _ read => read
  · rw [eve]
    exact fun _ read => read
  · rw [ledger.begin_disk quiet edits, saved_disk file, saved_disk file, eve]
    exact fun _ read => read

/-- A change is saved when the file can be replaced. -/
theorem saves_eq (file : manager.store = .file path) (edit : Edit) :
    manager.saves world edit =
      (Disk.replaceFile path (Text.encode (edit.apply manager.policy).fileText)
        world.disk).1.isOk := by
  rw [saves, file, (PolicyStore.save_file _ _ _).1]
  cases (Disk.replaceFile path (Text.encode (edit.apply manager.policy).fileText) world.disk).1 <;>
    rfl

theorem changeReply_eq_ok_iff (edit : Edit) :
    (changeReply edit.apply manager world).1.1 = .ok () ↔ manager.saves world edit = true := by
  have run : (changeReply edit.apply manager world).1.1 =
    (manager.store.save (edit.apply manager.policy) world).1.1.mapError .policy := rfl
  rw [run, saves]
  cases (manager.store.save (edit.apply manager.policy) world).1.1 with
  | ok done => simp [Except.isOk, Except.toBool]
  | error error => simp [Except.isOk, Except.toBool]

/-- A call reports its change as kept exactly when it was saved. -/
theorem begin_changed {call : Call} {result : Except ManagerError Unit}
    (begun : (call.begin manager world).1.1 = .nothing (.changed result)) :
    ∃ edit, call.edit? manager world.clock = some edit ∧
      (result = .ok () ↔ manager.saves (call.eve manager world) edit = true) := by
  cases call.goes manager world with
  | changes edits reply _ _ =>
      rw [reply] at begun
      cases begun
      exact ⟨_, edits, changeReply_eq_ok_iff _⟩
  | checks _ waits _ _ => exact absurd begun (waits result)
  | idles _ waits _ _ _ => exact absurd begun (waits result)

end SelfUpdate.Manager
