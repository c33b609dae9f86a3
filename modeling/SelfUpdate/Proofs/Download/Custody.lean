import SelfUpdate.Proofs.Download.Integrity
import SelfUpdate.Proofs.Download.Scenes

/-!
# The files of a download directory

Of every file in a download directory it is known where it comes from, at every moment: a transfer has
committed it after its digest was found right, or it has the name of a staging file.
-/

namespace SelfUpdate

open Transfer

variable {config : DownloadConfig} {home : Location} {update : Update} {name : String}
  {disk after : Disk} {ledger more : List (Update × Artifact)} {stage next : Stage}
  {answer : Answer StreamReply}

/-! ## The directory -/

/-- A transfer has committed a file with this name, and its digest was the one of these bytes. -/
def Vouched (config : DownloadConfig) (ledger : List (Update × Artifact)) (name : String)
    (bytes : Bytes) : Prop :=
  ∃ update artifact, (update, artifact) ∈ ledger ∧
    artifact.path = Path.join config.directory name ∧ Sha256.hexDigest bytes = update.checksum

/-- The staging file of some update has this name. -/
def IsStaging (config : DownloadConfig) (name : String) : Prop :=
  ∃ update other, slotOf config update = .ok (.named config.directory other) ∧
    name = other ++ stagingSuffix

/-- What an entry of the directory may be. -/
def Accounted (config : DownloadConfig) (ledger : List (Update × Artifact)) (name : String)
    (node : Node) : Prop :=
  node.isDirectory = true ∨ ∃ identity mode bytes, node = .file identity mode bytes ∧
    (Vouched config ledger name bytes ∨ IsStaging config name)

/-- All entries of the directory are accounted for. -/
structure Orderly (config : DownloadConfig) (home : Location) (ledger : List (Update × Artifact))
    (disk : Disk) : Prop where
  tree : disk.IsTree
  leads : disk.Leads config.directory home
  named : ∀ name, (disk.get? (home ++ [name])).isSome → Path.isName name = true
  entries : ∀ name node, disk.get? (home ++ [name]) = some node →
    Accounted config ledger name node

theorem Accounted.mono {node : Node} (accounted : Accounted config ledger name node) :
    Accounted config (ledger ++ more) name node := by
  rcases accounted with folder | ⟨identity, mode, bytes, rfl, vouched | staging⟩
  · exact .inl folder
  · obtain ⟨update, artifact, listed, rest⟩ := vouched
    exact .inr ⟨_, _, _, rfl, .inl ⟨update, artifact, List.mem_append_left _ listed, rest⟩⟩
  · exact .inr ⟨_, _, _, rfl, .inr staging⟩

theorem Accounted.solid {node : Node} (accounted : Accounted config ledger name node)
    (target : Path) : node ≠ .link target := by
  rcases accounted with folder | ⟨_, _, _, rfl, -⟩
  · rintro rfl
    cases folder
  · nofun

namespace Orderly

/-- The ledger only grows. -/
theorem mono (orderly : Orderly config home ledger disk) :
    Orderly config home (ledger ++ more) disk :=
  { orderly with entries := fun name node found => (orderly.entries name node found).mono }

/-- Entries go, or directories come. -/
theorem of_entries (orderly : Orderly config home ledger disk) (tree : after.IsTree)
    (leads : after.Leads config.directory home)
    (known : ∀ name node, after.get? (home ++ [name]) = some node →
      disk.get? (home ++ [name]) = some node ∨ node.isDirectory = true ∧ Path.isName name = true) :
    Orderly config home ledger after where
  tree := tree
  leads := leads
  named name present := by
    obtain ⟨node, found⟩ := Option.isSome_iff_exists.mp present
    rcases known name node found with old | ⟨-, named⟩
    · exact orderly.named name (by rw [old]; rfl)
    · exact named
  entries name node found := by
    rcases known name node found with old | ⟨folder, -⟩
    · exact orderly.entries name node old
    · exact .inl folder

theorem isOffWay (orderly : Orderly config home ledger disk)
    (free : disk.isDirectoryAt (home ++ [name]) = false) : disk.IsOffWay (home ++ [name]) :=
  ⟨free, fun target found => (orderly.entries name _ found).solid target rfl⟩

theorem digs (orderly : Orderly config home ledger disk) (digs : Disk.Digs disk after) :
    Orderly config home ledger after :=
  orderly.of_entries (digs.changes.isTree orderly.tree)
    (orderly.leads.mono digs.keepsWays digs.changes.workingDirectory)
    fun _ _ found => digs.new_entry found

/-- A file of the directory is removed. -/
theorem removeFile (orderly : Orderly config home ledger disk) (named : Path.isName name = true)
    (removed : disk.removeFile (Path.join config.directory name) = .ok after) :
    Orderly config home ledger after := by
  obtain ⟨location, node, names, found, solid, rfl⟩ := Disk.removeFile_eq_ok removed
  obtain ⟨place, leads, -, -, rfl⟩ := names.join named
  obtain rfl := orderly.leads.eq leads
  have free := (Disk.isDirectoryAt_of_get? found).trans solid
  have ways := Disk.KeepsWays.erase orderly.tree names.ne_nil (orderly.isOffWay free)
  exact orderly.of_entries ((Disk.removeFile_change removed).isTree orderly.tree)
    (leads.mono ways rfl) fun other old there => .inl (Disk.get?_of_erase names.ne_nil there)

theorem clears (orderly : Orderly config home ledger disk) (named : Path.isName name = true)
    (cleared : Clears (Path.join config.directory name) disk after) :
    Orderly config home ledger after := by
  rcases cleared with removed | ⟨-, rfl⟩
  · exact orderly.removeFile named removed
  · exact orderly

/-- The staging file is made. -/
theorem createNew (orderly : Orderly config home ledger disk)
    (own : slotOf config update = .ok (.named config.directory name))
    (named : Path.isName name = true) {handle : Disk.Handle}
    (made : disk.createNew (Path.join config.directory (name ++ stagingSuffix)) =
      .ok (handle, after)) :
    Orderly config home ledger after ∧
      ∀ other identity mode bytes,
        after.get? (home ++ [other]) = some (.file identity mode bytes) →
        identity = handle.identity → other = name ++ stagingSuffix := by
  have stagingNamed := Slot.isName_staging named
  have change := Disk.createNew_change made
  obtain ⟨location, names, vacant, rfl, rfl⟩ := Disk.createNew_eq_ok made
  obtain ⟨place, leads, -, -, rfl⟩ := names.join stagingNamed
  obtain rfl := orderly.leads.eq leads
  have ways := Disk.KeepsWays.putNewFile Disk.fileMode [] names.ne_nil vacant
  have lookup (other : String) := Disk.get?_putNewFile disk Disk.fileMode [] (home ++ [other])
    names.ne_nil
  refine ⟨⟨change.isTree orderly.tree, leads.mono ways change.workingDirectory, ?_, ?_⟩, ?_⟩
  · intro other present
    rw [lookup] at present
    split at present
    · rename_i same
      cases List.append_cancel_left same
      exact stagingNamed
    · exact orderly.named other present
  · intro other node found
    rw [lookup] at found
    split at found
    · rename_i same
      cases List.append_cancel_left same
      cases found
      exact .inr ⟨_, _, _, rfl, .inr ⟨update, name, own, rfl⟩⟩
    · exact orderly.entries other node found
  · intro other identity mode bytes found same
    rw [lookup] at found
    split at found
    · rename_i here
      cases List.append_cancel_left here
      rfl
    · -- an older file has an older identity
      subst same
      exact absurd (orderly.tree.fresh _ _ _ _ found) (Nat.lt_irrefl _)

/-- Octets go to the staging file, and to no other file of the directory. -/
theorem write (orderly : Orderly config home ledger disk)
    (own : slotOf config update = .ok (.named config.directory name)) (handle : Disk.Handle)
    (bytes : Bytes)
    (aim : ∀ other identity mode bytes,
      disk.get? (home ++ [other]) = some (.file identity mode bytes) →
      identity = handle.identity → other = name ++ stagingSuffix) :
    Orderly config home ledger (disk.write handle bytes).2 ∧
      ∀ other identity mode content,
        (disk.write handle bytes).2.get? (home ++ [other]) =
          some (.file identity mode content) →
        identity = (disk.write handle bytes).1.identity → other = name ++ stagingSuffix := by
  have changes := Disk.write_changes disk handle bytes
  have ways := Disk.KeepsWays.write disk handle bytes
  obtain ⟨change, lookup⟩ := Disk.get?_write disk handle bytes
  refine ⟨⟨changes.isTree orderly.tree, orderly.leads.mono ways changes.workingDirectory, ?_, ?_⟩,
    ?_⟩
  · intro other present
    rw [lookup, Option.isSome_map] at present
    exact orderly.named other present
  · intro other node found
    rw [lookup, Option.map_eq_some_iff] at found
    obtain ⟨old, there, rfl⟩ := found
    rcases orderly.entries other old there with folder | ⟨identity, mode, content, rfl, known⟩
    · exact .inl (by rwa [Node.isDirectory_alter])
    · by_cases same : identity = handle.identity
      · rw [Node.alter, if_pos same]
        exact .inr ⟨_, _, _, rfl, .inr ⟨update, name, own, aim _ _ _ _ there same⟩⟩
      · rw [Node.alter, if_neg same]
        exact .inr ⟨_, _, _, rfl, known⟩
  · intro other identity mode content found same
    rw [lookup, Option.map_eq_some_iff] at found
    obtain ⟨old, there, altered⟩ := found
    have kept := congrArg Node.identity? altered
    rw [Node.identity?_alter] at kept
    cases old with
    | file i mode content =>
        cases kept
        exact aim _ _ _ _ there same
    | directory mode => cases kept
    | link target => cases kept

/-- The verified staging file is promoted. -/
theorem promote (orderly : Orderly config home ledger disk) (named : Path.isName name = true)
    {size identity mode : Nat} {bytes : Bytes}
    (staged : disk.get? (home ++ [name ++ stagingSuffix]) = some (.file identity mode bytes))
    (digest : Sha256.hexDigest bytes = update.checksum)
    (renamed : disk.rename (Path.join config.directory (name ++ stagingSuffix))
      (Path.join config.directory name) = .ok after) :
    Orderly config home
      (ledger ++ [(update, artifactOf (.named config.directory name) update size)]) after := by
  have differ := Slot.staging_ne name
  have changes := Disk.rename_changes renamed
  obtain ⟨place, node, leads, -, -, found, free, rfl⟩ :=
    Disk.rename_join_eq_ok (Slot.isName_staging named) named differ renamed
  obtain rfl := orderly.leads.eq leads
  obtain rfl := Option.some.inj (staged.symm.trans found)
  have aside := orderly.isOffWay (Disk.replaceError?_eq_none rfl free)
  have ways := Disk.KeepsWays.move orderly.tree (Disk.append_ne home differ) (by simp)
    (Disk.append_ne home differ.symm) (.of_file staged) aside
  have known (other : String) (node : Node)
      (there : ((disk.erase (home ++ [name])).move (home ++ [name ++ stagingSuffix])
        (home ++ [name])).get? (home ++ [other]) = some node) :
      other = name ∧ node = .file identity mode bytes ∨ disk.get? (home ++ [other]) = some node := by
    rw [Disk.get?_erase_move _ _ (by simp) (by simp) (Disk.append_ne home differ)
      (Disk.append_ne home differ.symm)] at there
    by_cases same : other = name
    · subst same
      rw [if_pos (List.prefix_refl _), List.drop_length, List.append_nil, staged] at there
      exact .inl ⟨rfl, (Option.some.inj there).symm⟩
    · rw [if_neg (Disk.append_ne home (Ne.symm same))] at there
      split at there
      · cases there
      · exact .inr there
  refine ⟨changes.isTree orderly.tree, leads.mono ways rfl, ?_, ?_⟩
  · intro other present
    obtain ⟨node, there⟩ := Option.isSome_iff_exists.mp present
    rcases known other node there with ⟨rfl, -⟩ | old
    · exact named
    · exact orderly.named other (by rw [old]; rfl)
  · intro other node there
    rcases known other node there with ⟨rfl, rfl⟩ | old
    · exact .inr ⟨_, _, _, rfl, .inl ⟨update, _,
        List.mem_append_right _ (List.mem_singleton.mpr rfl), rfl, digest⟩⟩
    · exact (orderly.entries other node old).mono

end Orderly

/-! ## A transfer -/

/-- What a stage knows of the directory. -/
def Holding (config : DownloadConfig) (home : Location) (update : Update) (disk : Disk) :
    Stage → Prop
  | .streaming slot _ status _ => ∃ name, slot = .named config.directory name ∧
      ∀ other identity mode bytes,
        disk.get? (home ++ [other]) = some (.file identity mode bytes) →
        identity = status.handle.identity → other = name ++ stagingSuffix
  | .verified slot _ => ∃ name identity mode bytes, slot = .named config.directory name ∧
      Path.isName name = true ∧
      disk.get? (home ++ [name ++ stagingSuffix]) = some (.file identity mode bytes) ∧
      Sha256.hexDigest bytes = update.checksum
  | _ => True

/-- What holds while a transfer is under way. -/
structure Underway (config : DownloadConfig) (home : Location) (update : Update) (stage : Stage)
    (disk : Disk) : Prop where
  slot : ∀ slot, stage.slot? = some slot → slotOf config update = .ok slot
  alone : ∀ actions, StreamEvent.interference actions ∉ stage.events
  holding : Holding config home update disk stage

/-- A move of a transfer keeps the directory orderly. -/
theorem Transfer.Move.orderly (alone : answer.Alone) (orderly : Orderly config home ledger disk)
    (underway : Underway config home update stage disk)
    (move : Move config update answer stage disk next after) :
    Orderly config home (ledger ++ Downloader.commits update next) after ∧
      Underway config home update next after := by
  have slots := move.slot underway.slot
  have still : disk.afterActions answer.interference = disk := by
    rw [alone.opening]
    rfl
  have nothing (actions : List Disk.Action) : StreamEvent.interference actions ∉ [] := by simp
  cases move with
  | barred named made | prepare named made =>
      have digs := Disk.makeDirectories_digs config.directory disk
      rw [made] at digs
      exact ⟨(orderly.digs digs).mono, slots, nothing, trivial⟩
  | clearStaging cleared | discard cleared =>
      obtain ⟨name, named, rfl⟩ := Slot.ofVersion_eq_ok (underway.slot _ rfl)
      exact ⟨(orderly.clears (Slot.isName_staging named) cleared).mono, slots, nothing, trivial⟩
  | clearCommitted cleared =>
      obtain ⟨name, named, rfl⟩ := Slot.ofVersion_eq_ok (underway.slot _ rfl)
      exact ⟨(orderly.clears named cleared).mono, slots, nothing, trivial⟩
  | connect replied short =>
      rw [still]
      exact ⟨orderly.mono, slots, alone.streaming _ _ replied, trivial⟩
  | refuse | unanswered | collapse =>
      rw [still]
      exact ⟨orderly.mono, slots, nothing, trivial⟩
  | create made =>
      have own := underway.slot _ rfl
      obtain ⟨name, named, rfl⟩ := Slot.ofVersion_eq_ok own
      obtain ⟨kept, aim⟩ := orderly.createNew own named made
      exact ⟨kept.mono, slots, underway.alone, name, rfl, aim⟩
  | write fits =>
      obtain ⟨name, rfl, aim⟩ := underway.holding
      obtain ⟨kept, aim⟩ := orderly.write (underway.slot _ rfl) _ _ aim
      exact ⟨kept.mono, slots, fun actions listed => underway.alone actions
        (List.mem_cons_of_mem _ listed), name, rfl, aim⟩
  | interfere => exact absurd List.mem_cons_self (underway.alone _)
  | accept holds =>
      obtain ⟨name, named, rfl⟩ := Slot.ofVersion_eq_ok (underway.slot _ rfl)
      obtain ⟨bytes, content, digest⟩ := holds
      obtain ⟨identity, mode, read⟩ := Disk.content?_eq_some_iff.mp content
      have staged := Disk.get?_of_node?_join (Slot.isName_staging named) orderly.leads
        (fun target found => (orderly.entries _ _ found).solid target rfl) read
      exact ⟨orderly.mono, slots, nothing, name, identity, mode, bytes, rfl, named, staged, digest⟩
  | commit renamed =>
      obtain ⟨name, identity, mode, bytes, rfl, named, staged, digest⟩ := underway.holding
      exact ⟨orderly.promote named staged digest renamed, slots, nothing, trivial⟩
  | rest => exact ⟨orderly.mono, underway⟩
  | uncreated | overflow | breakOff | crash | finish | reject | uncommitted | leave | unnamed
    | keepStaging | keepCommitted => exact ⟨orderly.mono, slots, nothing, trivial⟩

/-! ## Others -/

/-- Others leave the entries of the directory alone, and make at most directories there. -/
structure Aside (directory : Path) (home : Location) (before after : Disk) : Prop where
  tree : after.IsTree
  leads : after.Leads directory home
  kept : ∀ name node, before.get? (home ++ [name]) = some node →
    after.get? (home ++ [name]) = some node
  new : ∀ name node, after.get? (home ++ [name]) = some node →
    before.get? (home ++ [name]) = some node ∨ node.isDirectory = true ∧ Path.isName name = true

theorem Aside.underway (aside : Aside config.directory home disk after)
    (underway : Underway config home update stage disk) :
    Underway config home update stage after := by
  obtain ⟨slot, alone, holding⟩ := underway
  refine ⟨slot, alone, ?_⟩
  cases stage with
  | streaming slot total status events =>
      obtain ⟨name, rfl, aim⟩ := holding
      refine ⟨name, rfl, fun other identity mode bytes found same => ?_⟩
      rcases aside.new other _ found with old | ⟨folder, -⟩
      · exact aim other identity mode bytes old same
      · cases folder
  | verified slot size =>
      obtain ⟨name, identity, mode, bytes, rfl, named, staged, digest⟩ := holding
      exact ⟨name, identity, mode, bytes, rfl, named, aside.kept _ _ staged, digest⟩
  | _ => trivial

/-- Nobody else acts while the network answers. -/
structure Network.Alone (network : Network) : Prop where
  text : ∀ requests url, (network.text requests url).interference = []
  stream : ∀ requests url, (network.stream requests url).Alone

/-! ## A downloader -/

namespace Downloader

variable {scene next : Scene} {note : DownloadOutput → Effect Unit} {world : World}

/-- What a task knows of the directory. -/
def Attended (config : DownloadConfig) (home : Location) (disk : Disk) : Task → Prop
  | .fetching _ update stage => Underway config home update stage disk
  | .sweeping _ paths => ∀ path ∈ paths, ∃ name, Path.isName name = true ∧
      path = Path.join config.directory name
  | _ => True

/-- What holds in every scene of a downloader. -/
structure Custody (config : DownloadConfig) (home : Location) (scene : Scene) : Prop where
  keeps : scene.downloader.config = config
  arrange : ∀ paths, scene.downloader.arrange paths ⊆ paths
  quiet : scene.world.Quiet
  alone : scene.world.network.Alone
  orderly : Orderly config home scene.ledger scene.world.disk
  task : Attended config home scene.world.disk scene.task

theorem Attended.begin {downloader : Downloader}
    (arrange : ∀ paths, downloader.arrange paths ⊆ paths)
    (orderly : Orderly downloader.config home ledger disk) (ticket : Nat) (job : DownloadJob) :
    Attended downloader.config home disk (downloader.begin ticket disk job) := by
  cases job with
  | fetch update => exact ⟨fun _ same => (by cases same), fun _ => by simp [Stage.events], trivial⟩
  | clean =>
      rw [Downloader.begin, beginSweep]
      cases listed : disk.list downloader.config.directory with
      | error error => cases error <;> trivial
      | ok paths =>
          intro path member
          have inside := arrange paths member
          rw [Disk.list] at listed
          obtain ⟨location, located, listed⟩ := bind_eq_ok_iff.mp listed
          obtain rfl := Disk.locate_of_leads orderly.leads located
          simp only [orderly.leads.2, Bool.not_true, Bool.false_eq_true, if_false, pure_eq_ok,
            Except.ok.injEq] at listed
          rw [← listed, List.mem_map] at inside
          obtain ⟨name, child, rfl⟩ := inside
          exact ⟨name, orderly.named name (Disk.mem_children_iff.mp child), rfl⟩

theorem Attended.aside {task : Task} (attended : Attended config home disk task)
    (aside : Aside config.directory home disk after) : Attended config home after task := by
  cases task with
  | fetching ticket update stage => exact aside.underway attended
  | sweeping report paths => exact attended
  | resting => trivial
  | closing => trivial

theorem Custody.aside (custody : Custody config home scene)
    (aside : Aside config.directory home scene.world.disk world.disk) (quiet : world.Quiet)
    (alone : world.network.Alone) : Custody config home { scene with world := world } where
  keeps := custody.keeps
  arrange := custody.arrange
  quiet := quiet
  alone := alone
  orderly := custody.orderly.of_entries aside.tree aside.leads aside.new
  task := custody.task.aside aside

/-- Every turn keeps custody. -/
theorem Turn.custody (discreet : Discreet note) (turn : Turn note scene next)
    (custody : Custody config home scene) : Custody config home next := by
  obtain ⟨quiet, network, -⟩ := turn.quiet discreet custody.quiet
  obtain ⟨rfl, arrange, still, alone, orderly, task⟩ := custody
  have onwards : next.world.network.Alone := network ▸ alone
  cases turn with
  | take polled => exact ⟨rfl, arrange, quiet, onwards, orderly, .begin arrange orderly _ _⟩
  | @fetch downloader ticket update stage =>
      have move := (Transfer.step_move downloader.config ticket update still stage).1
      obtain ⟨kept, underway⟩ := move.orderly (alone.stream _ _) orderly task
      exact ⟨rfl, arrange, quiet, onwards, kept, underway⟩
  | fetched => exact ⟨rfl, arrange, quiet, onwards, orderly, trivial⟩
  | @sweep downloader report path =>
      obtain ⟨name, named, (there : path = Path.join downloader.config.directory name)⟩ :=
        task path List.mem_cons_self
      subst there
      have rest := fun other listed => task other (List.mem_cons_of_mem _ listed)
      obtain ⟨-, same | removed⟩ := sweep_run still report _
      · refine ⟨rfl, arrange, quiet, onwards, ?_, rest⟩
        rw [same]
        exact orderly
      · exact ⟨rfl, arrange, quiet, onwards, orderly.removeFile named removed, rest⟩
  | swept => exact ⟨rfl, arrange, quiet, onwards, orderly, trivial⟩
  | @close _ result =>
      have same := (conclude_run discreet still result).2
      refine ⟨rfl, arrange, quiet, onwards, ?_, trivial⟩
      rw [same]
      exact orderly

end Downloader

end SelfUpdate
