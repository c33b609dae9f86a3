import SelfUpdate.Proofs.Manager.Ledgers

/-!
# The policy in memory and in its file

The policy in memory has all changes. The file has those up to the last one that was saved, and so has
a manager that is started on it later.
-/

namespace SelfUpdate.Manager

variable {manager : Manager} {world : World} {path : Path} {loaded policy : Policy} {edit : Edit}

/-! ## Every ledger -/

/-- What every ledger shows of the policy and its file. -/
structure Ledger.Sound (path : Path) (loaded : Policy) (ledger : Ledger) : Prop where
  memory : ledger.manager.policy = remembered loaded ledger.changes
  file : ∀ policy, LastSaved loaded ledger.changes policy →
    policy.IsStored ledger.world.disk path
  store : ledger.manager.store = .file path
  tree : ledger.world.disk.IsTree

theorem eve_isTree (tree : world.disk.IsTree) (call : Call) :
    (call.eve manager world).disk.IsTree := by
  cases call with
  | check | checkIfDue => exact tree
  | _ => exact begin_isTree _ { manager with store := .memory manager.policy } tree

theorem saved_of_saves (file : manager.store = .file path)
    (saves : manager.saves world edit = true) :
    ((PolicyStore.file path).save (edit.apply manager.policy) world).1.1 = .ok () := by
  rw [Manager.saves, file] at saves
  cases result : ((PolicyStore.file path).save (edit.apply manager.policy) world).1.1 with
  | ok done => rfl
  | error error =>
      rw [result] at saves
      cases saves

/-- What was saved is in the file. -/
theorem isStored_of_saves (tree : world.disk.IsTree)
    (straight : (world.disk.prepared path).Straight path) (file : manager.store = .file path)
    (saves : manager.saves world edit = true) :
    (edit.apply manager.policy).IsStored (manager.saved world edit).disk path := by
  rw [saved, file]
  exact PolicyStore.isStored_of_save tree straight (saved_of_saves file saves)

/-- A change that cannot be saved leaves all files as they were. -/
theorem spares_of_saves (tree : world.disk.IsTree) (file : manager.store = .file path)
    (failed : manager.saves world edit = false) :
    Disk.Spares world.disk (manager.saved world edit).disk := by
  rw [saved, file]
  rw [saves, file] at failed
  cases result : ((PolicyStore.file path).save (edit.apply manager.policy) world).1.1 with
  | error error => exact PolicyStore.spares_of_save tree result
  | ok done =>
      rw [result] at failed
      cases failed

theorem Ledger.Sound.begin {ledger : Ledger} (sound : ledger.Sound path loaded) (call : Call)
    (straight : (ledger.edit? call).isSome → ((ledger.eve call).disk.prepared path).Straight path)
    (aside : ledger.Aside path call) : (ledger.begin call).Sound path loaded := by
  have policy : (ledger.begin call).manager.policy = _ :=
    begin_policy call ledger.manager ledger.world
  have changes : (ledger.begin call).changes = ledger.changes ++ _ := rfl
  have store : (ledger.begin call).manager.store = .file path := begin_store sound.store call
  have tree : (ledger.begin call).world.disk.IsTree := begin_isTree call ledger.manager sound.tree
  have eve : (ledger.eve call).disk.IsTree := eve_isTree sound.tree call
  cases edits : ledger.edit? call with
  | none =>
      have kept := aside.idle edits
      rw [edits, Option.map_none, Option.toList_none, List.append_nil] at changes
      rw [Ledger.edit?] at edits
      rw [edits] at policy
      refine ⟨?_, ?_, store, tree⟩
      · rw [changes]
        exact policy.trans sound.memory
      · rw [changes]
        exact fun policy last => (sound.file policy last).mono kept
  | some edit =>
      have clear := straight (by rw [edits]; rfl)
      have early := aside.early edit edits
      have late := aside.late edit edits
      rw [edits, Option.map_some, Option.toList_some] at changes
      rw [Ledger.edit?] at edits
      rw [edits, Option.map_some, Option.getD_some] at policy
      have memory : (ledger.begin call).manager.policy =
          remembered loaded (ledger.begin call).changes := by
        rw [changes, remembered_concat, policy, sound.memory]
      refine ⟨memory, ?_, store, tree⟩
      intro kept last
      cases saves : ledger.manager.saves (ledger.eve call) edit with
      | true =>
          rw [changes, saves, lastSaved_concat_true, ← saves, ← changes, ← memory, policy] at last
          rw [last]
          exact (isStored_of_saves eve clear sound.store saves).mono late
      | false =>
          have spares := spares_of_saves eve sound.store saves
          rw [changes, saves, lastSaved_concat_false] at last
          exact (((sound.file kept last).mono early).mono spares.keepsFile).mono late

theorem Continues.sound {ledger next : Ledger} (continues : Continues path ledger next)
    (sound : ledger.Sound path loaded) : next.Sound path loaded := by
  cases continues with
  | call call straight aside => exact sound.begin call straight aside
  | meanwhile policy store tree file =>
      exact ⟨policy.trans sound.memory, fun policy saved => (sound.file policy saved).mono file,
        store.trans sound.store, tree⟩

theorem Continued.sound {ledger next : Ledger} (continued : Continued path ledger next)
    (sound : ledger.Sound path loaded) : next.Sound path loaded := by
  induction continued with
  | refl => exact sound
  | tail _ continues ih => exact continues.sound ih

/-! ## Starting again -/

section

variable {runtime : Bool} {current : UInt32} {settings : Settings} {directory : Path}
  {later : World} {ledger : Ledger}

/-- The record of a directory being prepared leaves the file at a path as it is. -/
def PreparesAside (path directory : Path) (world : World) : Prop :=
  Disk.KeepsFile path (Disk.makePrivateDirectory directory world.disk).2
    (Effect.preparePrivateDirectory directory world).2.disk

theorem PreparesAside.of_quiet (quiet : world.Quiet) : PreparesAside path directory world := by
  have same := (preparePrivateDirectory_run quiet directory).2.disk
  rw [World.disk_setDisk] at same
  rw [PreparesAside, same]
  exact fun _ read => read

theorem preparePrivateDirectory_result (directory : Path) (world : World) :
    (Effect.preparePrivateDirectory directory world).1 =
      (Disk.makePrivateDirectory directory world.disk).1 := by
  rw [Effect.preparePrivateDirectory]
  simp only [Stateful.bind_run, Effect.ofSteps_run, Stateful.ite_run]
  split <;> rfl

/-- Preparing the download directory leaves a policy in its file. -/
theorem isStored_of_prepared (stored : policy.IsStored world.disk path)
    (aside : PreparesAside path directory world)
    (prepared : (Disk.makePrivateDirectory directory world.disk).1 = .ok ()) :
    policy.IsStored (Effect.preparePrivateDirectory directory world).2.disk path :=
  (stored.mono (Disk.makePrivateDirectory_spares (Prod.ext prepared rfl)).keepsFile).mono aside

/-- A manager that starts on a file has the policy that the file decodes to. -/
theorem policy_of_start (stored : policy.IsStored world.disk path)
    (aside : PreparesAside path directory world)
    (started : start runtime current settings directory (.file path) world = (.ok manager, later)) :
    manager.policy = policy := by
  obtain ⟨prepared, loaded, -⟩ := start_policy_of_store started
  rw [preparePrivateDirectory_result] at prepared
  rw [PolicyStore.load_of_isStored (isStored_of_prepared stored aside prepared)] at loaded
  exact (Except.ok.inj loaded).symm

/-- Nothing but its download directory keeps a manager from starting on such a file. -/
theorem start_of_isStored (stored : policy.IsStored world.disk path)
    (aside : PreparesAside path directory world)
    (prepared : (Disk.makePrivateDirectory directory world.disk).1 = .ok ()) :
    ∃ manager later,
      start true current settings directory (.file path) world = (.ok manager, later) := by
  have load := PolicyStore.load_of_isStored (isStored_of_prepared stored aside prepared)
  have ready := (preparePrivateDirectory_result directory world).trans prepared
  rw [start]
  simp only [Stateful.bind_run, ready, load]
  exact ⟨_, _, rfl⟩

/-- The policy in memory, the policy in the file and the policy of a manager that is started on it. -/
structure Ledger.Agrees (path : Path) (loaded : Policy) (ledger : Ledger) : Prop where
  /-- Memory has all changes, those that were not saved too. -/
  memory : ledger.manager.policy = remembered loaded ledger.changes
  /-- The file has what memory had when it was saved last. -/
  file : ∀ policy, LastSaved loaded ledger.changes policy →
    policy.IsStored ledger.world.disk path
  /-- A call reports its change as kept exactly when it is saved. -/
  reports : ∀ call result,
    (call.begin ledger.manager ledger.world).1.1 = .nothing (.changed result) →
    ∃ edit, ledger.edit? call = some edit ∧
      (result = .ok () ↔ ledger.manager.saves (ledger.eve call) edit = true)
  /-- A change that cannot be saved leaves every file as it was. -/
  failure : ∀ call edit, ledger.manager.saves (ledger.eve call) edit = false →
    Disk.Spares (ledger.eve call).disk (ledger.manager.saved (ledger.eve call) edit).disk
  /-- A manager that is started on the file has what memory had when it was saved last. -/
  restarted : ∀ policy, LastSaved loaded ledger.changes policy →
    ∀ runtime current settings directory fresh later,
      PreparesAside path directory ledger.world →
      start runtime current settings directory (.file path) ledger.world = (.ok fresh, later) →
      fresh.policy = policy
  /-- Nothing but its download directory keeps it from starting. -/
  restarts : ∀ policy, LastSaved loaded ledger.changes policy → ∀ current settings directory,
    PreparesAside path directory ledger.world →
    (Disk.makePrivateDirectory directory ledger.world.disk).1 = .ok () →
    ∃ fresh later,
      start true current settings directory (.file path) ledger.world = (.ok fresh, later)

theorem Ledger.Sound.agrees (sound : ledger.Sound path loaded) : ledger.Agrees path loaded where
  memory := sound.memory
  file := sound.file
  reports _ _ begun := begin_changed begun
  failure call _ failed := spares_of_saves (eve_isTree sound.tree call) sound.store failed
  restarted policy last _ _ _ _ _ _ aside started :=
    policy_of_start (sound.file policy last) aside started
  restarts policy last _ _ _ aside prepared :=
    start_of_isStored (sound.file policy last) aside prepared

/-- A manager starts in order. -/
theorem start_sound (tree : world.disk.IsTree)
    (started : start runtime current settings directory (.file path) world = (.ok manager, later)) :
    (Ledger.opening manager later).Sound path manager.policy := by
  obtain ⟨-, -, store⟩ := start_policy_of_store started
  refine ⟨rfl, fun policy last => absurd last not_lastSaved_nil, store, ?_⟩
  have kept := start_isTree runtime current settings directory (.file path) tree
  rwa [started] at kept

/-- Whatever a manager is asked for and whichever of the changes can be saved, memory has all of them,
the file has those up to the last one that was saved, and a manager that is started on it has the
same. -/
theorem policy_persists (tree : world.disk.IsTree)
    (started : start runtime current settings directory (.file path) world = (.ok manager, later))
    (continued : Continued path (.opening manager later) ledger) :
    (∃ ready, ((PolicyStore.file path).load ready).1 = .ok manager.policy) ∧
      ledger.Agrees path manager.policy :=
  ⟨start_loaded started, (continued.sound (start_sound tree started)).agrees⟩

end

/-- A download directory that is private already stays as it is. -/
theorem makePrivateDirectory_updates {disk : Disk}
    (base : disk.isDirectoryAt disk.workingDirectory = true)
    (found : disk.get? (disk.workingDirectory ++ ["updates"]) =
      some (.directory Disk.privateDirectoryMode))
    (same : disk.put (disk.workingDirectory ++ ["updates"])
      (.directory Disk.privateDirectoryMode) = disk) :
    Disk.makePrivateDirectory "updates" disk = (.ok (), disk) := by
  have inside : disk.isDirectoryAt (disk.workingDirectory ++ ["updates"]) = true := by
    rw [Disk.isDirectoryAt, found]
    rfl
  have leads := Disk.Leads.of_name (by decide : Path.isName "updates" = true) (by decide) base inside
  exact Disk.makePrivateDirectory_of_located (Disk.locate_directory leads (by decide)) inside same

/-- The usual manager with its policy in a file. -/
def usualAt (path : Path) : Manager := { usual with store := .file path }

/-- Where no policy file is there a manager starts with the default policy. -/
theorem start_usualAt {disk : Disk}
    (prepared : Disk.makePrivateDirectory "updates" disk = (.ok (), disk))
    (missing : disk.locate path = .error .notFound) (answer : Answer StreamReply) :
    start true 1 .default "updates" (.file path) (Transfer.worldOf disk answer) =
      (.ok (usualAt path), Transfer.worldOf disk answer) := by
  have same : (Transfer.worldOf disk answer).disk = disk := rfl
  have absent : disk.readText path = .error .notFound := by
    rw [Disk.readText, Disk.readFile, missing]
    rfl
  have loaded : (PolicyStore.file path).load (Transfer.worldOf disk answer) =
      (.ok .default, Transfer.worldOf disk answer) := by
    rw [PolicyStore.load, PolicyStore.loadFile]
    simp only [Stateful.bind_run, Stateful.get_run, same, absent]
    rfl
  have ready : Effect.preparePrivateDirectory "updates" (Transfer.worldOf disk answer) =
      (.ok (), Transfer.worldOf disk answer) := by
    rw [Effect.preparePrivateDirectory]
    simp only [Stateful.bind_run, Effect.ofSteps_run, same, prepared]
    rfl
  rw [start]
  simp only [Stateful.bind_run, ready, loaded]
  rfl

theorem privateDisk_missing : privateDisk.locate "policy.json" = .error .notFound := by
  have pieces : Path.pieces "policy.json" = ["policy.json"] := by decide
  have start : Disk.origin privateDisk.workingDirectory "policy.json" = [] := by decide
  have vacant : privateDisk.get? ["policy.json"] = none := by decide
  have text : Disk.checkText "policy.json" = .ok () := by decide
  have short : Disk.isTooLong "policy.json" = false := by decide
  simp [Disk.locate, Disk.spot, Disk.walk, pieces, start, vacant, text, short]

/-- The disk while nothing can be written beside the download directory. -/
def lockedDisk : Disk := { privateDisk with sealedDirectories := [[]] }

theorem joined_root : Path.join "" "policy.json" = "policy.json" := by decide

theorem leads_root {disk : Disk} (root : disk.workingDirectory = []) : disk.Leads "" [] := by
  refine ⟨⟨Disk.greatestLinkCount, ?_⟩, rfl⟩
  rw [root]
  exact .here _ _

/-- The disk once a policy file was made on it. -/
def storedDisk (bytes : Bytes) : Disk := { privateDisk with
  entries := privateDisk.entries ++ [(["policy.json"], .file 0 Disk.privateFileMode bytes)]
  freshIdentity := 1 }

theorem storedDisk_prepared (bytes : Bytes) :
    Disk.makePrivateDirectory "updates" (storedDisk bytes) = (.ok (), storedDisk bytes) :=
  makePrivateDirectory_updates rfl
    (by simp [storedDisk, privateDisk, Transfer.bareDisk, Disk.get?]) rfl

theorem replaceFile_privateDisk (bytes : Bytes) :
    Disk.replaceFile "policy.json" bytes privateDisk = (.ok (), storedDisk bytes) := by
  have root : privateDisk.Leads "" [] := leads_root rfl
  have fresh : privateDisk.unusedName [] = ".tmp0" := by decide
  have replaced := Disk.replaceFile_join (by decide : Path.isName "policy.json" = true)
    (by decide) (by decide) root (by decide) (by decide) (by decide) bytes
  rw [joined_root, fresh] at replaced
  rw [replaced]
  rfl

theorem replaceFile_lockedDisk (bytes : Bytes) :
    Disk.replaceFile "policy.json" bytes lockedDisk = (.error .permissionDenied, lockedDisk) := by
  have root : lockedDisk.Leads "" [] := leads_root rfl
  have rejected := Disk.replaceFile_join_sealed (by decide : Path.isName "policy.json" = true)
    (by decide) root (by decide) bytes
  rwa [joined_root] at rejected

/-- A manager while its policy cannot be saved. -/
def hampered : Ledger :=
  .opening (usualAt "policy.json") (Transfer.worldOf lockedDisk Transfer.oneChunk)

/-- The manager once its policy was changed nevertheless, and can be saved again. -/
def relieved : Ledger :=
  { hampered.begin (.enableAutoCheck false) with
    world := Transfer.worldOf privateDisk Transfer.oneChunk }

/-- The manager once its policy was changed again and saved. -/
def recovered : Ledger := relieved.begin (.dismiss 119)

theorem hampered_disk (call : Call) : (hampered.eve call).disk = lockedDisk :=
  eve_disk (rfl : (Transfer.worldOf lockedDisk Transfer.oneChunk).Quiet) call

theorem relieved_disk (call : Call) : (relieved.eve call).disk = privateDisk :=
  eve_disk (rfl : (Transfer.worldOf privateDisk Transfer.oneChunk).Quiet) call

theorem refused_disk : (hampered.begin (.enableAutoCheck false)).world.disk = lockedDisk := by
  have same : hampered.world.disk = lockedDisk := rfl
  rw [Ledger.begin_disk rfl rfl, saved_disk rfl, same, replaceFile_lockedDisk]

theorem recovered_changes :
    recovered.changes = [(.autoCheck false, false), (.dismissed (some 119), true)] := by
  have changes : recovered.changes =
      [(.autoCheck false, hampered.manager.saves (hampered.eve (.enableAutoCheck false))
        (.autoCheck false)), (.dismissed (some 119), relieved.manager.saves
          (relieved.eve (.dismiss 119)) (.dismissed (some 119)))] := rfl
  rw [changes, saves_eq rfl, saves_eq rfl, hampered_disk, relieved_disk, replaceFile_lockedDisk,
    replaceFile_privateDisk]
  rfl

theorem recovered_disk : ∃ bytes, recovered.world.disk = storedDisk bytes := by
  have same : relieved.world.disk = privateDisk := rfl
  rw [recovered, Ledger.begin_disk rfl rfl, saved_disk rfl, same, replaceFile_privateDisk]
  exact ⟨_, rfl⟩

theorem recovered_continued : Continued "policy.json"
    (.opening (usualAt "policy.json") (Transfer.worldOf privateDisk Transfer.oneChunk))
    recovered := by
  have lockedTree : lockedDisk.IsTree := .of_entries (by decide) (by decide)
  have lockedFree : lockedDisk.LinkFree := .of_entries (by simp [lockedDisk, privateDisk])
  have locks : Disk.Spares privateDisk lockedDisk := .of_same (fun _ => rfl) rfl
  have opens : Disk.Spares (hampered.begin (.enableAutoCheck false)).world.disk privateDisk := by
    rw [refused_disk]
    exact .of_same (fun _ => rfl) rfl
  have first : Continues "policy.json"
      (.opening (usualAt "policy.json") (Transfer.worldOf privateDisk Transfer.oneChunk)) hampered :=
    .meanwhile rfl rfl lockedTree locks.keepsFile
  have second : Continues "policy.json" hampered (hampered.begin (.enableAutoCheck false)) := by
    refine .call _ (fun _ => ?_) (Ledger.aside_of_quiet rfl rfl _)
    rw [hampered_disk]
    exact lockedFree.straight_prepared _
  have third : Continues "policy.json" (hampered.begin (.enableAutoCheck false)) relieved :=
    .meanwhile rfl rfl privateDisk_isTree opens.keepsFile
  have fourth : Continues "policy.json" relieved recovered := by
    refine .call _ (fun _ => ?_) (Ledger.aside_of_quiet rfl rfl _)
    rw [relieved_disk]
    exact privateDisk_linkFree.straight_prepared _
  exact (((Relation.ReflTransGen.single first).tail second).tail third).tail fourth

theorem policy_persists_recovered :
    let world := Transfer.worldOf privateDisk Transfer.oneChunk
    world.disk.IsTree ∧
      start true 1 .default "updates" (.file "policy.json") world =
        (.ok (usualAt "policy.json"), world) ∧
      Continued "policy.json" (.opening (usualAt "policy.json") world) recovered ∧
      recovered.changes = [(.autoCheck false, false), (.dismissed (some 119), true)] ∧
      (∃ ready, ((PolicyStore.file "policy.json").load ready).1 =
        .ok (usualAt "policy.json").policy) ∧
      recovered.Agrees "policy.json" (usualAt "policy.json").policy ∧
      ∃ fresh later, start true 1 .default "updates" (.file "policy.json") recovered.world =
          (.ok fresh, later) ∧
        fresh.policy =
          { (usualAt "policy.json").policy with autoCheck := false, dismissed := some 119 } := by
  intro world
  have started := start_usualAt privateDisk_prepared privateDisk_missing Transfer.oneChunk
  obtain ⟨loaded, agrees⟩ := policy_persists privateDisk_isTree started recovered_continued
  have prepared : (Disk.makePrivateDirectory "updates" recovered.world.disk).1 = .ok () := by
    obtain ⟨bytes, disk⟩ := recovered_disk
    rw [disk, storedDisk_prepared]
  have last : LastSaved (usualAt "policy.json").policy recovered.changes
      (remembered (usualAt "policy.json").policy recovered.changes) := by
    rw [recovered_changes]
    exact ⟨[(.autoCheck false, false)], .dismissed (some 119), [], rfl, by simp, rfl⟩
  obtain ⟨fresh, later, again⟩ :=
    agrees.restarts _ last 1 .default "updates" (.of_quiet rfl) prepared
  have kept := agrees.restarted _ last _ _ _ _ _ _ (.of_quiet rfl) again
  rw [recovered_changes] at kept
  exact ⟨privateDisk_isTree, started, recovered_continued, recovered_changes, loaded, agrees, fresh, later, again,
    kept⟩

/-- The way to the policy file passes a link in its place. A directory on it is missing. -/
def gapped : Disk where
  entries := [(["updates"], .directory Disk.privateDirectoryMode),
    (["real"], .directory Disk.directoryMode), (["other"], .directory Disk.directoryMode),
    (["other", "inner"], .directory Disk.directoryMode),
    (["real", "update_policy.json"], .link "/other/inner"),
    (["data"], .link "/new/../real/update_policy.json/../../real")]
  freshIdentity := 0
  workingDirectory := []
  sealedDirectories := []

/-- The disk once that directory was made. -/
def bridged : Disk := { gapped with
  entries := gapped.entries ++ [(["new"], .directory Disk.directoryMode)] }

/-- The disk once the link was replaced by a policy file. -/
def severed (bytes : Bytes) : Disk where
  entries := [(["updates"], .directory Disk.privateDirectoryMode),
    (["real"], .directory Disk.directoryMode), (["other"], .directory Disk.directoryMode),
    (["other", "inner"], .directory Disk.directoryMode),
    (["data"], .link "/new/../real/update_policy.json/../../real"),
    (["new"], .directory Disk.directoryMode),
    (["real", "update_policy.json"], .file 0 Disk.privateFileMode bytes)]
  freshIdentity := 1
  workingDirectory := []
  sealedDirectories := []

theorem pieces_detour : Path.pieces "/new/../real/update_policy.json/../../real" =
    ["", "new", "..", "real", "update_policy.json", "..", "..", "real"] := by
  decide

theorem bridged_leads : bridged.Leads "data" ["real"] := by
  have stem : Path.stem "data" = ["data"] := by decide
  have inner : Path.pieces "/other/inner" = ["", "other", "inner"] := by decide
  have detour : bridged.get? ["data"] =
      some (.link "/new/../real/update_policy.json/../../real") := by
    decide
  have shortcut : bridged.get? ["real", "update_policy.json"] = some (.link "/other/inner") := by
    decide
  refine ⟨⟨38, ?_⟩, by decide⟩
  rw [stem]
  refine .through (by decide) (by decide) (by decide) detour ?_
  rw [pieces_detour]
  refine .idle (by decide) (by decide) ?_
  refine .folder (by decide) (by decide) (by decide) (by decide) (.up (by decide) ?_)
  refine .folder (by decide) (by decide) (by decide) (by decide) ?_
  refine .through (by decide) (by decide) (by decide) shortcut ?_
  rw [inner]
  refine .idle (by decide) (by decide) ?_
  refine .folder (by decide) (by decide) (by decide) (by decide) ?_
  refine .folder (by decide) (by decide) (by decide) (by decide) ?_
  refine .up (by decide) (.up (by decide) ?_)
  exact .folder (by decide) (by decide) (by decide) (by decide) (.here _ _)

theorem replaceFile_bridged (bytes : Bytes) :
    Disk.replaceFile "data/update_policy.json" bytes bridged = (.ok (), severed bytes) := by
  have joined : Path.join "data" "update_policy.json" = "data/update_policy.json" := by decide
  have fresh : bridged.unusedName ["real"] = ".tmp0" := by decide
  have replaced := Disk.replaceFile_join (by decide : Path.isName "update_policy.json" = true)
    (by decide) (by decide) bridged_leads (by decide) (by decide) (by decide) bytes
  rw [joined, fresh] at replaced
  rw [replaced]
  rfl

theorem gapped_missing : gapped.locate "data/update_policy.json" = .error .notFound := by
  have pieces : Path.pieces "data/update_policy.json" = ["data", "update_policy.json"] := by decide
  have start : Disk.origin gapped.workingDirectory "data/update_policy.json" = [] := by decide
  have back : Disk.origin [] "/new/../real/update_policy.json/../../real" = [] := by decide
  have link : gapped.get? ["data"] =
      some (.link "/new/../real/update_policy.json/../../real") := by
    decide
  have missing : gapped.get? ["new"] = none := by decide
  have text : Disk.checkText "data/update_policy.json" = .ok () := by decide
  have short : Disk.isTooLong "data" = false ∧ Disk.isTooLong "new" = false := by decide
  simp [Disk.locate, Disk.spot, Disk.walk, Disk.greatestLinkCount, pieces, pieces_detour, start,
    back, link, missing, text, short]

theorem severed_astray (bytes : Bytes) :
    (severed bytes).locate "data/update_policy.json" = .error .notADirectory := by
  have pieces : Path.pieces "data/update_policy.json" = ["data", "update_policy.json"] := by decide
  have start : Disk.origin (severed bytes).workingDirectory "data/update_policy.json" = [] := by
    exact (by decide : Disk.origin [] "data/update_policy.json" = [])
  have back : Disk.origin [] "/new/../real/update_policy.json/../../real" = [] := by decide
  have link : (severed bytes).get? ["data"] =
      some (.link "/new/../real/update_policy.json/../../real") := by
    simp [severed, Disk.get?]
  have new : (severed bytes).get? ["new"] = some (.directory Disk.directoryMode) := by
    simp [severed, Disk.get?]
  have real : (severed bytes).get? ["real"] = some (.directory Disk.directoryMode) := by
    simp [severed, Disk.get?]
  have file : (severed bytes).get? ["real", "update_policy.json"] =
      some (.file 0 Disk.privateFileMode bytes) := by
    simp [severed, Disk.get?]
  have text : Disk.checkText "data/update_policy.json" = .ok () := by decide
  have short : Disk.isTooLong "data" = false ∧ Disk.isTooLong "new" = false ∧
      Disk.isTooLong "real" = false ∧ Disk.isTooLong "update_policy.json" = false := by
    decide
  simp [Disk.locate, Disk.spot, Disk.walk, Disk.greatestLinkCount, Disk.isDirectoryAt,
    Node.isDirectory, pieces, pieces_detour, start, back, link, new, real, file, text, short]

/-- The condition on the way cannot be left out: where it passes a link in the place of the file, what
was saved is not found there, and no manager starts on it. -/
theorem saved_policy_lost :
    let path := "data/update_policy.json"
    let world := Transfer.worldOf gapped Transfer.oneChunk
    let opened := Ledger.opening (usualAt path) world
    let crossed := Ledger.opening (usualAt path) (Transfer.worldOf bridged Transfer.oneChunk)
    let ledger := crossed.begin (.dismiss 119)
    start true 1 .default "updates" (.file path) world = (.ok (usualAt path), world) ∧
      Continues path opened crossed ∧ crossed.Aside path (.dismiss 119) ∧
      ledger.changes = [(.dismissed (some 119), true)] ∧
      PreparesAside path "updates" ledger.world ∧
      (Disk.makePrivateDirectory "updates" ledger.world.disk).1 = .ok () ∧
      ∃ policy, LastSaved (usualAt path).policy ledger.changes policy ∧
        ¬ policy.IsStored ledger.world.disk path ∧
        ∀ fresh later,
          start true 1 .default "updates" (.file path) ledger.world ≠ (.ok fresh, later) := by
  intro path world opened crossed ledger
  have prepared : Disk.makePrivateDirectory "updates" gapped = (.ok (), gapped) :=
    makePrivateDirectory_updates rfl (by decide) rfl
  have started := start_usualAt prepared gapped_missing Transfer.oneChunk
  have untouched : Continues path opened crossed := by
    refine .meanwhile rfl rfl (.of_entries (by decide) (by decide)) fun bytes read => ?_
    obtain ⟨location, -, -, located, -⟩ := Disk.readFile_eq_ok_iff.mp read
    cases located.symm.trans gapped_missing
  have same : crossed.world.disk = bridged := rfl
  have changes : ledger.changes = [(.dismissed (some 119), true)] := by
    have noted : ledger.changes = [(.dismissed (some 119),
      crossed.manager.saves crossed.world (.dismissed (some 119)))] := rfl
    rw [noted, saves_eq rfl, same, replaceFile_bridged]
    rfl
  obtain ⟨bytes, disk⟩ : ∃ bytes, ledger.world.disk = severed bytes := by
    rw [crossed.begin_disk rfl rfl, saved_disk rfl, same, replaceFile_bridged]
    exact ⟨_, rfl⟩
  have ready : Disk.makePrivateDirectory "updates" ledger.world.disk = (.ok (), severed bytes) := by
    rw [disk]
    exact makePrivateDirectory_updates rfl (by simp [severed, Disk.get?]) rfl
  refine ⟨started, untouched, Ledger.aside_of_quiet rfl rfl _, changes, .of_quiet rfl,
    by rw [ready], ?_⟩
  have last : LastSaved (usualAt path).policy ([] ++ [(.dismissed (some 119), true)]) _ :=
    lastSaved_concat_true.mpr rfl
  refine ⟨_, changes ▸ last, ?_, ?_⟩
  · rintro ⟨content, text, read, -⟩
    obtain ⟨location, -, -, located, -⟩ := Disk.readFile_eq_ok_iff.mp read
    rw [disk] at located
    cases located.symm.trans (severed_astray bytes)
  · intro fresh later again
    obtain ⟨-, loaded, -⟩ := start_policy_of_store again
    have quiet : ledger.world.Quiet := rfl
    have known := (preparePrivateDirectory_run quiet "updates").2.disk
    rw [World.disk_setDisk, ready] at known
    have unread : (severed bytes).readText path = .error .notADirectory := by
      rw [Disk.readText, Disk.readFile, severed_astray]
      rfl
    rw [PolicyStore.load, PolicyStore.loadFile] at loaded
    simp only [Stateful.bind_run, Stateful.get_run, known, unread, Stateful.pure_run] at loaded
    cases loaded

end SelfUpdate.Manager
