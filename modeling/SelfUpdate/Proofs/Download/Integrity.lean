import SelfUpdate.Proofs.Disk.Directories
import SelfUpdate.Proofs.Disk.Lexical
import SelfUpdate.Proofs.Download.Courses
import SelfUpdate.Proofs.Download.Promotion

/-!
# What is committed was verified

While a stream comes, others may do whatever they like to the disk, save making links. A transfer that
succeeds has nevertheless committed a file with the right digest, and one that fails has put nothing
at the committed path.
-/

namespace SelfUpdate

namespace Node

/-- The same file, whatever its content, or a directory as before. -/
def Same (old new : Node) : Prop :=
  new.identity? = old.identity? ∧ new.isDirectory = old.isDirectory

theorem Same.refl (node : Node) : node.Same node := ⟨rfl, rfl⟩

end Node

namespace Transfer

/-- While events come others make no links. -/
def Harmless (events : List StreamEvent) : Prop :=
  ∀ actions, StreamEvent.interference actions ∈ events →
    ∀ action ∈ actions, Disk.Action.isLink action = false

/-- An answer during which others do what they like, save making links. -/
structure HarmlessAnswer (answer : Answer StreamReply) : Prop where
  opening : ∀ action ∈ answer.interference, Disk.Action.isLink action = false
  streaming : ∀ length events, answer.reply = .opened length events → Harmless events

end Transfer

/-- Nobody else acts before an answer comes or while its stream comes. -/
structure Answer.Alone (answer : Answer StreamReply) : Prop where
  opening : answer.interference = []
  streaming : ∀ length events, answer.reply = .opened length events →
    ∀ actions, StreamEvent.interference actions ∉ events

theorem Answer.Alone.harmless {answer : Answer StreamReply} (alone : answer.Alone) :
    Transfer.HarmlessAnswer answer where
  opening action listed := by
    rw [alone.opening] at listed
    cases listed
  streaming length events replied actions listed :=
    absurd listed (alone.streaming length events replied actions)

namespace Transfer

variable {config : DownloadConfig} {ticket : Nat} {update : Update} {answer : Answer StreamReply}
  {stage next : Stage} {disk after : Disk} {world : World}

namespace Stage

/-- The events that are still to come. -/
def events : Stage → List StreamEvent
  | .opened _ _ events => events
  | .streaming _ _ _ events => events
  | _ => []

def slot? : Stage → Option Slot
  | .begun => none
  | .ready slot => some slot
  | .halfEmptied slot => some slot
  | .emptied slot => some slot
  | .opened slot _ _ => some slot
  | .streaming slot _ _ _ => some slot
  | .received slot _ => some slot
  | .verified slot _ => some slot
  | .failing slot _ => some slot
  | .ended _ => none

/-- What others do in the next step. -/
def interference (answer : Answer StreamReply) : Stage → List Disk.Action
  | .emptied _ => answer.interference
  | .streaming _ _ _ (.interference actions :: _) => actions
  | _ => []

end Stage

/-- The slot of an update. -/
abbrev slotOf (config : DownloadConfig) (update : Update) : Except DownloadError Slot :=
  Slot.ofVersion config.directory config.namePrefix update.version

/-! ## Invariants of the course -/

theorem Clears.changes {path : Path} (cleared : Clears path disk after) :
    Disk.Changes disk after := by
  rcases cleared with removed | ⟨-, rfl⟩
  · exact .single (Disk.removeFile_change removed)
  · exact .refl

/-- Moves make no links when others make none. -/
theorem Move.changes (harmless : HarmlessAnswer answer) (coming : Harmless stage.events)
    (move : Move config update answer stage disk next after) :
    Disk.Changes disk after ∧ Harmless next.events := by
  have nothing : Harmless [] := fun actions listed => by cases listed
  have opening := Disk.afterActions_changes harmless.opening disk
  cases move with
  | barred named made | prepare named made =>
      have digs := Disk.makeDirectories_digs config.directory disk
      rw [made] at digs
      exact ⟨digs.changes, nothing⟩
  | clearStaging cleared | clearCommitted cleared | discard cleared =>
      exact ⟨cleared.changes, nothing⟩
  | connect replied short => exact ⟨opening, harmless.streaming _ _ replied⟩
  | refuse | unanswered | collapse => exact ⟨opening, nothing⟩
  | create made => exact ⟨.single (Disk.createNew_change made), coming⟩
  | write fits =>
      exact ⟨Disk.write_changes _ _ _, fun actions listed =>
        coming actions (List.mem_cons_of_mem _ listed)⟩
  | interfere =>
      exact ⟨Disk.afterActions_changes (coming _ List.mem_cons_self) disk, fun actions listed =>
        coming actions (List.mem_cons_of_mem _ listed)⟩
  | commit renamed => exact ⟨Disk.rename_changes renamed, nothing⟩
  | unnamed | keepStaging | keepCommitted | uncreated | overflow | breakOff | crash | finish
    | accept | reject | uncommitted | leave | rest => exact ⟨.refl, nothing⟩

/-- A transfer works on the slot of its update. -/
theorem Move.slot (move : Move config update answer stage disk next after)
    (known : ∀ slot, stage.slot? = some slot → slotOf config update = .ok slot) (slot : Slot)
    (same : next.slot? = some slot) : slotOf config update = .ok slot := by
  cases move with
  | prepare named made =>
      cases same
      exact named
  | clearStaging | clearCommitted | connect | create | uncreated | write | overflow | breakOff
    | interfere | finish | accept | reject | uncommitted => exact known slot same
  | unnamed | barred | keepStaging | keepCommitted | refuse | unanswered | collapse | crash
    | commit | discard | leave | rest => cases same

/-- A verified artifact is in its place, and its staging file is gone. -/
structure Delivered (update : Update) (slot : Slot) (artifact : Artifact) (disk : Disk) : Prop where
  path : artifact.path = slot.committed
  file : disk.isFile slot.committed = true
  digest : Digest.Holds disk slot.committed update.checksum
  unstaged : disk.node? slot.staging = none

/-- What a stage says of the disk. -/
def Verdict (config : DownloadConfig) (update : Update) (disk : Disk) : Stage → Prop
  | .verified slot _ => Digest.Holds disk slot.staging update.checksum
  | .ended (.ok artifact) =>
    ∃ slot, slotOf config update = .ok slot ∧ Delivered update slot artifact disk
  | _ => True

/-- What holds at every stage of a transfer on a tree without links. -/
structure Sound (config : DownloadConfig) (update : Update) (base : Location) (stage : Stage)
    (disk : Disk) : Prop where
  tree : disk.IsTree
  linkFree : disk.LinkFree
  base : disk.workingDirectory = base
  harmless : Harmless stage.events
  slot : ∀ slot, stage.slot? = some slot → slotOf config update = .ok slot
  verdict : Verdict config update disk stage

/-- What is promoted right after it was verified has the digest. -/
theorem Move.verdict {base : Location} (sound : Sound config update base stage disk)
    (move : Move config update answer stage disk next after) : Verdict config update after next := by
  have noLinks : disk.NoLinksIn config.directory := fun _ _ _ _ => sound.linkFree _ _
  cases move with
  | accept holds => exact holds
  | commit renamed =>
      obtain ⟨bytes, content, digest⟩ := sound.verdict
      have own := sound.slot _ rfl
      obtain ⟨name, named, rfl⟩ := Slot.ofVersion_eq_ok own
      obtain ⟨home, identity, mode, -, -, -, -, -, promoted, unstaged⟩ :=
        Disk.promote_eq_ok sound.tree noLinks named content renamed
      exact ⟨_, own, rfl, Disk.isFile_iff.mpr ⟨_, _, _, promoted⟩,
        ⟨bytes, Disk.content?_eq_some_iff.mpr ⟨_, _, promoted⟩, digest⟩, unstaged⟩
  | rest => exact sound.verdict
  | _ => trivial

theorem Sound.move {base : Location} (sound : Sound config update base stage disk)
    (harmless : HarmlessAnswer answer) (move : Move config update answer stage disk next after) :
    Sound config update base next after := by
  obtain ⟨changes, coming⟩ := move.changes harmless sound.harmless
  exact ⟨changes.isTree sound.tree, changes.linkFree sound.linkFree,
    changes.workingDirectory.trans sound.base, coming, move.slot sound.slot, move.verdict sound⟩

theorem Course.sound {base : Location} {first second : Stage} {early late : World}
    (course : Course config ticket update first early second late) (quiet : early.Quiet)
    (harmless : HarmlessAnswer (early.network.stream early.requests update.url))
    (sound : Sound config update base first early.disk) :
    Sound config update base second late.disk := by
  induction course with
  | here => exact sound
  | next earlier ih => exact ih.move harmless (earlier.move quiet)

/-! ## What the transfer itself does at the committed location -/

/-- A step puts nothing at a location, but for a directory on the way to the download directory.
Once the stream was asked for, it also leaves there what is there. -/
structure Spares (stage : Stage) (before after : Disk) (place : Location) : Prop where
  unsupplied : ∀ new, after.get? place = some new →
    (∃ old, before.get? place = some old ∧ old.Same new) ∨
      stage = .begun ∧ new.isDirectory = true
  kept : stage.isWaiting = false → ∀ old, before.get? place = some old →
    ∃ new, after.get? place = some new ∧ old.Same new

namespace Spares

variable {before : Disk} {place : Location}

theorem of_same (same : ∀ old, before.get? place = some old → ∃ new, after.get? place = some new ∧
      old.Same new)
    (back : ∀ new, after.get? place = some new → ∃ old, before.get? place = some old ∧
      old.Same new) : Spares stage before after place :=
  ⟨fun new found => .inl (back new found), fun _ => same⟩

theorem of_eq (same : after.get? place = before.get? place) : Spares stage before after place :=
  of_same (fun old found => ⟨old, same.trans found, .refl old⟩)
    (fun new found => ⟨new, same.symm.trans found, .refl new⟩)

end Spares

/-- Where the name of a file lies that is not that name. -/
theorem Clears.get?_aside {base : Location} {name other : String}
    (linkFree : disk.LinkFree) (based : disk.workingDirectory = base)
    (named : Path.isName name = true) (differ : name ≠ other)
    (cleared : Clears (Path.join config.directory name) disk after) :
    after.get? (Disk.placeOf base config.directory ++ [other]) =
      disk.get? (Disk.placeOf base config.directory ++ [other]) := by
  rcases cleared with removed | ⟨-, rfl⟩
  · obtain ⟨location, node, names, -, -, rfl⟩ := Disk.removeFile_eq_ok removed
    obtain ⟨home, leads, -, -, rfl⟩ := names.join named
    obtain rfl := leads.eq_placeOf linkFree
    rw [Disk.get?_erase _ _ (by simp), based, if_neg (Disk.append_ne _ differ)]
  · rfl

theorem Move.spares {base : Location} {name : String}
    (sound : Sound config update base stage disk)
    (own : slotOf config update = .ok (.named config.directory name))
    (named : Path.isName name = true)
    (move : Move config update answer stage disk next after)
    (fails : ∀ artifact, next = .ended (.ok artifact) → stage = next) :
    Spares stage (disk.afterActions (stage.interference answer)) after
      (Disk.placeOf base config.directory ++ [name]) := by
  have stagingNamed := Slot.isName_staging named
  have differ := Slot.staging_ne name
  have slot (slot : Slot) (same : stage.slot? = some slot) :
      slot = .named config.directory name :=
    Except.ok.inj ((sound.slot slot same).symm.trans own)
  cases move with
  | barred _ made | prepare _ made =>
      have digs := Disk.makeDirectories_digs config.directory disk
      rw [made] at digs
      refine ⟨fun new found => ?_, fun waiting => by cases waiting⟩
      rcases digs.new found with old | ⟨directory, -⟩
      · exact .inl ⟨new, old, .refl new⟩
      · exact .inr ⟨rfl, congrArg Node.isDirectory directory⟩
  | clearStaging cleared | discard cleared =>
      obtain rfl := slot _ rfl
      exact .of_eq (cleared.get?_aside sound.linkFree sound.base stagingNamed differ)
  | clearCommitted cleared =>
      obtain rfl := slot _ rfl
      refine ⟨fun new found => ?_, fun waiting => by cases waiting⟩
      rcases cleared with removed | ⟨-, rfl⟩
      · obtain ⟨location, node, names, -, -, rfl⟩ := Disk.removeFile_eq_ok removed
        obtain ⟨home, leads, -, -, rfl⟩ := names.join named
        obtain rfl := leads.eq_placeOf sound.linkFree
        rw [Disk.get?_erase _ _ (by simp), sound.base, if_pos (List.prefix_refl _)] at found
        cases found
      · exact .inl ⟨new, found, .refl new⟩
  | create made =>
      obtain rfl := slot _ rfl
      obtain ⟨location, names, -, -, rfl⟩ := Disk.createNew_eq_ok made
      obtain ⟨home, leads, -, -, rfl⟩ := names.join stagingNamed
      obtain rfl := leads.eq_placeOf sound.linkFree
      refine .of_eq ?_
      rw [Disk.get?_putNewFile _ _ _ _ (by simp), sound.base, if_neg]
      · rfl
      · simp [differ.symm]
  | write fits =>
      -- the handle may point to what others moved to the committed location
      rw [Disk.write]
      split
      · exact .of_eq rfl
      · refine .of_same (fun old found => ?_) (fun new found => ?_)
        · exact ⟨_, by rw [Disk.get?_modifyFile, show disk.get? _ = some old from found]; rfl,
            Node.identity?_alter _ _ _, Node.isDirectory_alter _ _ _⟩
        · rw [Disk.get?_modifyFile, Option.map_eq_some_iff] at found
          obtain ⟨old, there, rfl⟩ := found
          exact ⟨old, there, Node.identity?_alter _ _ _, Node.isDirectory_alter _ _ _⟩
  | commit renamed => cases fails _ rfl
  | unnamed | keepStaging | keepCommitted | connect | refuse | unanswered | collapse | uncreated
    | overflow | breakOff | crash | interfere | finish | accept | reject | uncommitted | leave
    | rest => exact .of_eq rfl

/-- An update whose artifact is a single octet. -/
def singleOctet (version : String) (present : Text.isAllBlank version = false) : Update where
  version := version
  code := 1
  url := "https://example.org/artifact"
  notes := ""
  fileSize := 1
  checksum := Sha256.hexDigest [7]
  signatureUrl := none
  date := 0
  version_present := present
  url_secure := by decide
  checksum_canonical := Sha256.isCanonical_hexDigest [7]
  signature_present := by decide

/-- A disk with the download directory and nothing else. -/
def bareDisk : Disk where
  entries := [(["updates"], .directory Disk.directoryMode)]
  freshIdentity := 0
  workingDirectory := []
  sealedDirectories := []

theorem bareDisk_isTree : bareDisk.IsTree := .of_entries (by decide) (by decide)

/-- A world with a disk and one answer for every stream. -/
def worldOf (disk : Disk) (answer : Answer StreamReply) : World where
  disk := disk
  network := ⟨fun _ _ => ⟨[], .crash⟩, fun _ _ => answer⟩
  requests := []
  records := []
  leastLevel := none
  sink := .host
  progress := []
  now := 0
  clock := 0
  installer := .willing
  handedOver := []

end Transfer

end SelfUpdate
