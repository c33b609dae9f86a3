import SelfUpdate.Proofs.Disk.Canonical
import SelfUpdate.Proofs.Download.Integrity
import SelfUpdate.Proofs.Manager.Calls
import SelfUpdate.Proofs.Requests

/-!
# What passes to the installer

Whatever path is given, and wherever there are links, nothing but a regular file of the download
directory itself is handed over. The name of a staging file is looked for in the path that is given, not
in the path of the file that it leads to; so a staging file passes under the name of a link, and in no
other way.
-/

namespace SelfUpdate

namespace Manager

variable {disk : Disk} {directory artifact file : Path} {home : Location} {name : String}
  {world : World}

/-! ## Files of the directory -/

/-- A path leads to a regular file that lies in the directory itself. -/
structure Houses (disk : Disk) (directory artifact : Path) (home : Location) (name : String) :
    Prop where
  directory : disk.locate directory = .ok home
  entry : disk.locate artifact = .ok (home ++ [name])
  file : ∃ identity mode bytes, disk.get? (home ++ [name]) = some (.file identity mode bytes)

theorem isStagingName_iff {path : Path} (last : Path.fileName? path = some name) :
    isStagingName path = true ↔ stagingSuffix.toList <:+ name.toList := by
  have suffix : name.toSlice.endsWith stagingSuffix = true ↔
      stagingSuffix.toList <:+ name.toList := by
    rw [String.Slice.endsWith_string_iff]
    simp
  rw [isStagingName, last]
  exact suffix

/-- The path that is given need not end in the name of the file, when it ends in the name of a link. -/
theorem Houses.fileName? (tree : disk.IsTree)
    (houses : Houses disk directory artifact home name) :
    Path.fileName? artifact = some name ∨ disk.EndsInLink artifact := by
  obtain ⟨identity, mode, bytes, found⟩ := houses.file
  refine Disk.fileName?_or_endsInLink tree houses.entry ?_
  rw [Disk.isDirectoryAt, found]
  rfl

theorem Houses.parent? (base : Disk.OfNames disk.workingDirectory)
    (houses : Houses disk directory artifact home name) :
    Path.parent? (Disk.pathOf (home ++ [name])) = some (Disk.pathOf home) := by
  rw [Disk.parent?_pathOf (Disk.ofNames_of_locate base houses.entry), if_neg (by simp),
    List.dropLast_concat]

/-- A path stands for a file exactly when it leads to it in the directory, and does not itself end in
the name of a staging file. -/
theorem chooses_iff (tree : disk.IsTree) (base : Disk.OfNames disk.workingDirectory) :
    Chooses directory disk artifact file ↔
      isStagingName artifact = false ∧ disk.isFile file = true ∧
        ∃ home name, Houses disk directory artifact home name ∧
          file = Disk.pathOf (home ++ [name]) := by
  constructor
  · rintro ⟨committed, canonical, ⟨folder, place, parent⟩, isFile⟩
    obtain ⟨location, located, path⟩ := bind_eq_ok_iff.mp canonical
    obtain ⟨home, found, homePath⟩ := bind_eq_ok_iff.mp place
    cases path
    cases homePath
    have names := Disk.ofNames_of_locate base located
    rw [Disk.parent?_pathOf names] at parent
    cases location using List.reverseRecOn with
    | nil => simp at parent
    | append_singleton above name =>
        rw [if_neg (by simp), List.dropLast_concat, Option.some.injEq] at parent
        have early : Disk.OfNames above := fun part listed =>
          names part (List.mem_append_left _ listed)
        obtain rfl := (Disk.pathOf_inj early (Disk.ofNames_of_locate base found)).mp parent
        obtain ⟨identity, mode, bytes, read⟩ := Disk.isFile_iff.mp isFile
        have there := Disk.get?_of_node?_pathOf tree names (Disk.isSolid_of_locate tree located) read
        exact ⟨committed, isFile, above, name, ⟨found, located, identity, mode, bytes, there⟩, rfl⟩
  · rintro ⟨committed, isFile, home, name, houses, rfl⟩
    refine ⟨committed, ?_, ⟨Disk.pathOf home, ?_, houses.parent? base⟩, isFile⟩
    · rw [Disk.canonical, houses.entry]
      rfl
    · rw [Disk.canonical, houses.directory]
      rfl

/-- Where there are no links, a path to a file of the directory stands for that file and no other, unless
its name is that of a staging file or its canonical path cannot be read. -/
theorem Houses.chooses_iff (tree : disk.IsTree) (linkFree : disk.LinkFree)
    (base : Disk.OfNames disk.workingDirectory)
    (short : ∀ part ∈ home ++ [name], Disk.isTooLong part = false)
    (houses : Houses disk directory artifact home name) :
    Chooses directory disk artifact file ↔
      file = Disk.pathOf (home ++ [name]) ∧ Disk.checkText file = .ok () ∧
        ¬ stagingSuffix.toList <:+ name.toList := by
  have last := (houses.fileName? tree).resolve_right linkFree.not_endsInLink
  rw [Manager.chooses_iff tree base, ← Bool.not_eq_true, isStagingName_iff last]
  constructor
  · rintro ⟨committed, isFile, above, other, again, rfl⟩
    rw [Except.ok.inj (again.entry.symm.trans houses.entry)] at isFile ⊢
    obtain ⟨identity, mode, bytes, read⟩ := Disk.isFile_iff.mp isFile
    cases located : disk.locate (Disk.pathOf (home ++ [name])) with
    | error error => simp [Disk.node?, located, Except.toOption] at read
    | ok location => exact ⟨rfl, (Disk.locate_eq_ok_iff.mp located).1, committed⟩
  · rintro ⟨rfl, text, committed⟩
    refine ⟨committed, ?_, home, name, houses, rfl⟩
    obtain ⟨identity, mode, bytes, found⟩ := houses.file
    have names := Disk.ofNames_of_locate base houses.entry
    rw [Disk.isFile, Disk.node?,
      Disk.locate_pathOf tree names short text (by rw [found]; rfl) (linkFree _)]
    simp [Except.toOption, found, Node.isFile]

theorem houses_join {identity mode : Nat} {bytes : Bytes} (linkFree : disk.LinkFree)
    (leads : disk.Leads directory home) (nonempty : directory ≠ "")
    (named : Path.isName name = true) (text : Disk.checkText (Path.join directory name) = .ok ())
    (short : Disk.isTooLong name = false)
    (found : disk.get? (home ++ [name]) = some (.file identity mode bytes)) :
    Houses disk directory (Path.join directory name) home name :=
  ⟨Disk.locate_directory leads (Disk.checkText_directory named nonempty text),
    Disk.locate_join named short text leads (by rw [found]; rfl) (linkFree _),
    identity, mode, bytes, found⟩

/-! ## What is handed over -/

/-- A world in which something more may have been handed over. -/
def handing (world : World) (handed : Option InstallRequest) : World :=
  { world with handedOver := world.handedOver ++ handed.toList }

theorem handOver_run (request : InstallRequest) (world : World) :
    (handing world (some request)).Queried [] (Effect.handOver request world).2 ∧
      ((Effect.handOver request world).1.isOk = true ↔
        world.installer.refusal? request = none) := by
  have opening := Effect.log_silent .info .installer ("Opening " ++ request.artifact ++ " (" ++
    request.mediaType ++ ") with the system handler") world
  have given {later : World} (queried : world.Queried [] later) :
      (handing world (some request)).Queried []
        { later with handedOver := later.handedOver ++ [request] } :=
    ⟨queried.requests, queried.network, queried.now, queried.clock, queried.installer,
      congrArg (· ++ [request]) queried.handedOver⟩
  rw [Effect.handOver]
  simp only [Stateful.bind_run, Stateful.get_run, Stateful.modify_run, Stateful.ite_run]
  cases world.installer.refusal? request <;> split
  · exact ⟨given opening, by simp [Except.isOk, Except.toBool]⟩
  · exact ⟨given (.refl world), by simp [Except.isOk, Except.toBool]⟩
  · exact ⟨given opening, by simp [Except.isOk, Except.toBool]⟩
  · exact ⟨given (.refl world), by simp [Except.isOk, Except.toBool]⟩

/-- A file is handed over exactly when the path stands for one, and the answer tells whether the
installer took it. Where the records of the log go makes no difference. -/
theorem requestInstall_run (artifact : Path) (manager : Manager) (world : World) :
    ∃ handed : Option InstallRequest,
      (handing world handed).Queried [] (requestInstall artifact manager world).2 ∧
      (∀ request, handed = some request ↔
        Chooses manager.directory world.disk artifact request.artifact ∧
          request.mediaType = manager.settings.mediaType) ∧
      ((requestInstall artifact manager world).1.1 = true ↔
        ∃ request ∈ handed, world.installer.refusal? request = none) := by
  rw [requestInstall]
  simp only [Session.bind_run, Session.get_run, Session.lift_run]
  rcases committedArtifact?_run manager.directory artifact world with
    ⟨file, chooses, found⟩ | ⟨unfit, level, source, text, refused⟩
  · rw [found]
    obtain ⟨handed, accepted⟩ := handOver_run ⟨file, manager.settings.mediaType⟩ world
    refine ⟨some ⟨file, manager.settings.mediaType⟩, ?_, chooses.request_iff, ?_⟩
    all_goals
      simp only [Session.bind_run, Session.lift_run]
      generalize Effect.handOver ⟨file, manager.settings.mediaType⟩ world = run at handed accepted
      obtain ⟨result, later⟩ := run
      have noted (level : Log.Level) (text : String) :=
        handed.trans (Effect.log_silent level .manager text later)
    · cases result <;> exact noted _ _
    · cases result <;> simpa [Except.isOk, Except.toBool] using accepted
  · rw [refused]
    have nothing (request : InstallRequest) : ¬ (Chooses manager.directory world.disk artifact
        request.artifact ∧ request.mediaType = manager.settings.mediaType) :=
      fun chooses => unfit _ chooses.1
    have same : handing world none = world := by
      rw [handing, Option.toList_none, List.append_nil]
    refine ⟨none, ?_, by simp [nothing], by simp⟩
    rw [same]
    exact Effect.log_silent level source text world

/-- What is handed over is the canonical path of a regular file in the download directory itself. Its
name is that of a staging file exactly when the path that is given leads to such a file in the
directory, does not end in such a name, and does end in the name of a link. -/
theorem requestInstall_gate (tree : world.disk.IsTree)
    (base : Disk.OfNames world.disk.workingDirectory) (manager : Manager) (artifact : Path) :
    ∃ handed : Option InstallRequest,
      (requestInstall artifact manager world).2.handedOver = world.handedOver ++ handed.toList ∧
      (∀ request ∈ handed, ∃ home name, Houses world.disk manager.directory artifact home name ∧
        request.artifact = Disk.pathOf (home ++ [name]) ∧
        Path.fileName? request.artifact = some name) ∧
      ((∃ request ∈ handed, isStagingName request.artifact = true) ↔
        isStagingName artifact = false ∧ world.disk.EndsInLink artifact ∧
          ∃ home name, Houses world.disk manager.directory artifact home name ∧
            stagingSuffix.toList <:+ name.toList ∧
            world.disk.isFile (Disk.pathOf (home ++ [name])) = true) := by
  obtain ⟨handed, dispatched, only, -⟩ := requestInstall_run artifact manager world
  have passed (request : InstallRequest) (listed : request ∈ handed) :=
    (chooses_iff tree base).mp ((only request).mp listed).1
  have last {home : Location} {name : String}
      (houses : Houses world.disk manager.directory artifact home name) :=
    Disk.fileName?_pathOf (Disk.ofNames_of_locate base houses.entry)
  refine ⟨handed, dispatched.handedOver, ?_, ?_, ?_⟩
  · intro request listed
    obtain ⟨-, -, home, name, houses, path⟩ := passed request listed
    exact ⟨home, name, houses, path, path ▸ last houses⟩
  · rintro ⟨request, listed, staging⟩
    obtain ⟨committed, isFile, home, name, houses, path⟩ := passed request listed
    rw [path] at staging isFile
    have suffix := (isStagingName_iff (last houses)).mp staging
    refine ⟨committed, ?_, home, name, houses, suffix, isFile⟩
    -- a path that ended in the name of the file would have been refused
    rcases houses.fileName? tree with same | link
    · cases committed.symm.trans ((isStagingName_iff same).mpr suffix)
    · exact link
  · rintro ⟨committed, -, home, name, houses, suffix, isFile⟩
    refine ⟨⟨Disk.pathOf (home ++ [name]), manager.settings.mediaType⟩,
      (only _).mpr ⟨?_, rfl⟩, (isStagingName_iff (last houses)).mpr suffix⟩
    exact (chooses_iff tree base).mpr ⟨committed, isFile, home, name, houses, rfl⟩

/-- A manager with the settings that are usual. -/
def usual : Manager where
  current := 1
  settings := .default
  directory := "updates"
  policy := .default
  store := .memory .default
  checker := .new Checker.name
  downloader := ⟨downloadConfig .default "updates", id, .new Downloader.name⟩

/-- A download directory with a staging file and a link to it. -/
def aliasDisk : Disk where
  entries := [(["updates"], .directory Disk.privateDirectoryMode),
    (["updates", "upgate-update-1.tmp"], .file 0 Disk.fileMode [7]),
    (["updates", "latest"], .link "upgate-update-1.tmp")]
  freshIdentity := 1
  workingDirectory := []
  sealedDirectories := []

theorem aliasDisk_isTree : aliasDisk.IsTree := .of_entries (by decide) (by decide)

theorem aliasDisk_locate :
    aliasDisk.locate "updates/latest" = .ok ["updates", "upgate-update-1.tmp"] := by
  have pieces : Path.pieces "updates/latest" = ["updates", "latest"] := by decide
  have target : Path.pieces "upgate-update-1.tmp" = ["upgate-update-1.tmp"] := by decide
  have folder : aliasDisk.get? ["updates"] = some (.directory Disk.privateDirectoryMode) := by
    decide
  have link : aliasDisk.get? ["updates", "latest"] = some (.link "upgate-update-1.tmp") := by
    decide
  have staged : aliasDisk.get? ["updates", "upgate-update-1.tmp"] =
      some (.file 0 Disk.fileMode [7]) := by
    decide
  refine Disk.locate_eq_ok_iff.mpr ⟨by decide, 39, ?_⟩
  rw [pieces]
  refine .into (by decide) (by decide) (by decide) folder nofun ?_
  refine .through (by decide) (by decide) (by decide) link ?_
  rw [target]
  exact .into (by decide) (by decide) (by decide) staged nofun (.here _ _)

theorem aliasDisk_houses :
    Houses aliasDisk "updates" "updates/latest" ["updates"] "upgate-update-1.tmp" where
  directory := Disk.locate_directory (.of_name (by decide) (by decide) rfl (by decide)) (by decide)
  entry := aliasDisk_locate
  file := ⟨0, Disk.fileMode, [7], by decide⟩

theorem aliasDisk_chooses :
    Chooses "updates" aliasDisk "updates/latest" "/updates/upgate-update-1.tmp" := by
  have base : Disk.OfNames aliasDisk.workingDirectory := .root
  have names : Disk.OfNames ["updates", "upgate-update-1.tmp"] :=
    Disk.ofNames_of_locate base aliasDisk_locate
  have path : Disk.pathOf ["updates", "upgate-update-1.tmp"] = "/updates/upgate-update-1.tmp" := by
    decide
  have located : aliasDisk.locate (Disk.pathOf ["updates", "upgate-update-1.tmp"]) =
      .ok ["updates", "upgate-update-1.tmp"] :=
    Disk.locate_pathOf aliasDisk_isTree names (by decide) (by decide) (by decide)
      (Disk.isSolid_of_locate aliasDisk_isTree aliasDisk_locate).ne_link
  have last : Path.fileName? "updates/latest" = some "latest" := by decide
  have committed : isStagingName "updates/latest" = false := by
    rw [← Bool.not_eq_true, isStagingName_iff last]
    decide
  rw [← path]
  refine (chooses_iff aliasDisk_isTree base).mpr ⟨committed, ?_, _, _, aliasDisk_houses, rfl⟩
  rw [Disk.isFile, Disk.node?, located]
  decide

theorem requestInstall_gate_alias :
    let world := Transfer.worldOf aliasDisk ⟨[], .crash⟩
    world.disk.IsTree ∧ Disk.OfNames world.disk.workingDirectory ∧
      ∃ handed : Option InstallRequest,
        (requestInstall "updates/latest" usual world).2.handedOver =
          world.handedOver ++ handed.toList ∧
        ∀ request ∈ handed, ∃ home name, Houses aliasDisk "updates" "updates/latest" home name ∧
          request.artifact = Disk.pathOf (home ++ [name]) := by
  have tree : (Transfer.worldOf aliasDisk ⟨[], .crash⟩).disk.IsTree := aliasDisk_isTree
  have base : Disk.OfNames aliasDisk.workingDirectory := .root
  obtain ⟨handed, dispatched, passed, -⟩ :=
    requestInstall_gate tree base usual "updates/latest"
  refine ⟨aliasDisk_isTree, base, handed, dispatched, fun request listed => ?_⟩
  obtain ⟨home, name, houses, path, -⟩ := passed request listed
  exact ⟨home, name, houses, path⟩

/-- A staging file is handed over under the name of a link to it. -/
theorem alias_handed_over :
    (requestInstall "updates/latest" usual (Transfer.worldOf aliasDisk ⟨[], .crash⟩)).2.handedOver =
        [⟨"/updates/upgate-update-1.tmp", usual.settings.mediaType⟩] ∧
      isStagingName "/updates/upgate-update-1.tmp" = true := by
  obtain ⟨handed, dispatched, only, -⟩ := requestInstall_run "updates/latest" usual
    (Transfer.worldOf aliasDisk ⟨[], .crash⟩)
  obtain rfl := (only ⟨"/updates/upgate-update-1.tmp", usual.settings.mediaType⟩).mpr
    ⟨aliasDisk_chooses, rfl⟩
  have last : Path.fileName? "/updates/upgate-update-1.tmp" = some "upgate-update-1.tmp" := by decide
  exact ⟨dispatched.handedOver, (isStagingName_iff last).mpr (by decide)⟩

end Manager

end SelfUpdate
