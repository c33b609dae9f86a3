import SelfUpdate.Proofs.Disk.Sides
import SelfUpdate.Proofs.Download.Custody

/-!
# Downloads on disks that look alike

Two disks may differ in what is at a place outside of the download directory, and in the identities of
their files. A downloader that does on each of them what the network and its jobs make it do takes the
same turns on both, with the same results, and the disks go on looking alike.
-/

namespace SelfUpdate

open Transfer

variable {config : DownloadConfig} {home : Location} {hidden : Option Location} {update : Update}
  {name : String} {disk after one other : Disk} {answer : Answer StreamReply}

/-! ## Keeping to the directory -/

namespace Transfer

variable {stage next twin : Stage}

/-- Of the staging file of a slot something is known. -/
def StagedAs (config : DownloadConfig) (home : Location) (slot : Slot)
    (known : Location → Prop) : Prop :=
  ∃ name, Path.isName name = true ∧ slot = .named config.directory name ∧
    known (home ++ [name ++ stagingSuffix])

/-- What a stage knows of its staging file. -/
def Staging (config : DownloadConfig) (home : Location) (disk : Disk) : Stage → Prop
  | .streaming slot _ status _ => StagedAs config home slot (disk.IsSole status.handle.identity)
  | .received slot _ => StagedAs config home slot disk.IsOffWay
  | .verified slot _ => StagedAs config home slot disk.IsOffWay
  | _ => True

/-- What holds of a transfer while nobody else acts in its directory. -/
structure Engaged (config : DownloadConfig) (home : Location) (update : Update) (disk : Disk)
    (stage : Stage) : Prop where
  slot : ∀ slot, stage.slot? = some slot → slotOf config update = .ok slot
  alone : ∀ actions, StreamEvent.interference actions ∉ stage.events
  staged : Staging config home disk stage

theorem Engaged.begun (config : DownloadConfig) (home : Location) (update : Update) (disk : Disk) :
    Engaged config home update disk .begun :=
  ⟨fun _ same => (by cases same), fun _ => by simp [Stage.events], trivial⟩

/-- The slot of a stage has a name. -/
theorem Engaged.named (engaged : Engaged config home update disk stage) {slot : Slot}
    (same : stage.slot? = some slot) :
    ∃ name, Path.isName name = true ∧ slot = .named config.directory name :=
  Slot.ofVersion_eq_ok (engaged.slot slot same)

theorem Clears.onlyFiles (beside : disk.Beside config.directory home hidden)
    (named : Path.isName name = true)
    (cleared : Clears (Path.join config.directory name) disk after) :
    Disk.OnlyFiles home hidden disk after := by
  rcases cleared with removed | ⟨-, rfl⟩
  · exact beside.removeFile_onlyFiles named removed
  · exact .refl beside.toVeiled home

/-- A move of a transfer keeps to the files of its directory. -/
theorem Move.engaged (alone : answer.Alone) (beside : disk.Beside config.directory home hidden)
    (engaged : Engaged config home update disk stage)
    (move : Move config update answer stage disk next after) :
    Disk.OnlyFiles home hidden disk after ∧ Engaged config home update after next := by
  have slots := move.slot engaged.slot
  have same := Disk.OnlyFiles.refl beside.toVeiled home
  have still : disk.afterActions answer.interference = disk := by
    rw [alone.opening]
    rfl
  have nothing (actions : List Disk.Action) : StreamEvent.interference actions ∉ [] := by simp
  cases move with
  | barred named made =>
      rw [beside.makeDirectories] at made
      cases made
  | prepare named made =>
      rw [beside.makeDirectories] at made
      cases made
      exact ⟨same, slots, nothing, trivial⟩
  | clearStaging cleared | discard cleared =>
      obtain ⟨name, named, rfl⟩ := engaged.named rfl
      exact ⟨cleared.onlyFiles beside (Slot.isName_staging named), slots, nothing, trivial⟩
  | clearCommitted cleared =>
      obtain ⟨name, named, rfl⟩ := engaged.named rfl
      exact ⟨cleared.onlyFiles beside named, slots, nothing, trivial⟩
  | connect replied short =>
      rw [still]
      exact ⟨same, slots, alone.streaming _ _ replied, trivial⟩
  | refuse | unanswered | collapse =>
      rw [still]
      exact ⟨same, slots, nothing, trivial⟩
  | create made =>
      obtain ⟨name, named, rfl⟩ := engaged.named rfl
      obtain ⟨only, -, sole⟩ := beside.createNew_onlyFiles (Slot.isName_staging named) made
      exact ⟨only, slots, engaged.alone, name, named, rfl, sole⟩
  | write fits =>
      obtain ⟨name, named, rfl, sole⟩ := engaged.staged
      obtain ⟨only, still⟩ := beside.write_onlyFiles (Slot.isName_staging named) sole _
      exact ⟨only, slots, fun actions listed =>
        engaged.alone actions (List.mem_cons_of_mem _ listed), name, named, rfl, still⟩
  | interfere => exact absurd List.mem_cons_self (engaged.alone _)
  | finish =>
      obtain ⟨name, named, shape, sole⟩ := engaged.staged
      exact ⟨same, slots, nothing, name, named, shape, sole.isOffWay (by simp)⟩
  | accept holds => exact ⟨same, slots, nothing, engaged.staged⟩
  | commit renamed =>
      obtain ⟨name, named, rfl, free⟩ := engaged.staged
      have only := beside.rename_onlyFiles (Slot.isName_staging named) named (Slot.staging_ne name)
        free renamed
      exact ⟨only, slots, nothing, trivial⟩
  | rest => exact ⟨same, engaged⟩
  | uncreated | overflow | breakOff | crash | reject | uncommitted | leave | unnamed
    | keepStaging | keepCommitted => exact ⟨same, slots, nothing, trivial⟩

/-! ## Going the same way -/

/-- A stage, whichever file it writes to and whatever it has told. -/
def Stage.outline : Stage → Stage
  | .streaming slot total status events =>
    .streaming slot total ⟨status.downloaded, none, ⟨0, status.handle.position⟩⟩ events
  | stage => stage

theorem Stage.eq_of_outline (same : twin.outline = stage.outline)
    (idle : ∀ slot total status events, stage ≠ .streaming slot total status events) :
    twin = stage := by
  cases stage with
  | streaming slot total status events => exact absurd rfl (idle slot total status events)
  | _ => cases twin <;> first | exact same | cases same

/-- Two disks that look alike, each with a download directory beside the hidden place. -/
structure Likeness (config : DownloadConfig) (home : Location) (hidden : Option Location)
    (one other : Disk) : Prop where
  left : one.Beside config.directory home hidden
  right : other.Beside config.directory home hidden
  same : one.veil hidden = other.veil hidden

namespace Likeness

theorem removeFile (likeness : Likeness config home hidden one other)
    (named : Path.isName name = true) :
    (one.removeFile (Path.join config.directory name)).map (Disk.veil hidden) =
      (other.removeFile (Path.join config.directory name)).map (Disk.veil hidden) := by
  rw [likeness.left.removeFile_veil named, likeness.right.removeFile_veil named, likeness.same]

theorem create (likeness : Likeness config home hidden one other)
    (named : Path.isName name = true) :
    (one.createNew (Slot.named config.directory name).staging).map
        (fun made => made.2.veil hidden) =
      (other.createNew (Slot.named config.directory name).staging).map
        fun made => made.2.veil hidden := by
  have staging := Slot.isName_staging named
  rw [Slot.named, likeness.left.createNew_veil staging, likeness.right.createNew_veil staging,
    likeness.same]

theorem promote (likeness : Likeness config home hidden one other)
    (named : Path.isName name = true) :
    (one.rename (Slot.named config.directory name).staging
        (Slot.named config.directory name).committed).map (Disk.veil hidden) =
      (other.rename (Slot.named config.directory name).staging
        (Slot.named config.directory name).committed).map (Disk.veil hidden) := by
  have staging := Slot.isName_staging named
  have differ := Slot.staging_ne name
  rw [Slot.named, likeness.left.rename_veil staging named differ,
    likeness.right.rename_veil staging named differ, likeness.same]

theorem holds (likeness : Likeness config home hidden one other) (named : Path.isName name = true)
    (checksum : String) :
    Digest.Holds one (Path.join config.directory name) checksum ↔
      Digest.Holds other (Path.join config.directory name) checksum := by
  have first := likeness.left.content? (likeness.left.clearOf named)
  have second := likeness.right.content? (likeness.right.clearOf named)
  rw [Digest.Holds, Digest.Holds, ← first, ← second, likeness.same]

/-- What is cleared on both disks is gone from both. -/
theorem clears (likeness : Likeness config home hidden one other) (named : Path.isName name = true)
    {later : Disk} (cleared : Clears (Path.join config.directory name) one after)
    (clearedToo : Clears (Path.join config.directory name) other later) :
    after.veil hidden = later.veil hidden := by
  have agree := likeness.removeFile named
  rcases cleared with removed | ⟨missing, rfl⟩
  · rcases clearedToo with removedToo | ⟨missingToo, -⟩
    · rw [removed, removedToo] at agree
      exact Except.ok.inj agree
    · rw [removed, missingToo] at agree
      cases agree
  · rcases clearedToo with removedToo | ⟨-, rfl⟩
    · rw [missing, removedToo] at agree
      cases agree
    · exact likeness.same

/-- What stays on one disk stays on the other, for the same reason. -/
theorem keeps (likeness : Likeness config home hidden one other) (named : Path.isName name = true)
    {error : IoError} (kept : one.removeFile (Path.join config.directory name) = .error error) :
    other.removeFile (Path.join config.directory name) = .error error := by
  have agree := likeness.removeFile named
  rw [kept] at agree
  cases removed : other.removeFile (Path.join config.directory name) with
  | error reason =>
      rw [removed] at agree
      exact agree.symm
  | ok disk =>
      rw [removed] at agree
      cases agree

theorem symm (likeness : Likeness config home hidden one other) :
    Likeness config home hidden other one :=
  ⟨likeness.right, likeness.left, likeness.same.symm⟩

/-- What stays on one disk is not cleared on the other. -/
theorem not_clears (likeness : Likeness config home hidden one other)
    (named : Path.isName name = true) {error : IoError}
    (kept : one.removeFile (Path.join config.directory name) = .error error)
    (present : error ≠ .notFound) :
    ¬ Clears (Path.join config.directory name) other after := by
  have keptToo := likeness.keeps named kept
  rintro (removed | ⟨missing, -⟩)
  · cases keptToo.symm.trans removed
  · cases keptToo.symm.trans missing
    exact present rfl

end Likeness

/-! ## One stage after another -/

/-- Two moves came to the same, as far as one can see with the place hidden. -/
structure Parallel (hidden : Option Location) (next twinNext : Stage) (oneAfter otherAfter : Disk) :
    Prop where
  outline : twinNext.outline = next.outline
  same : oneAfter.veil hidden = otherAfter.veil hidden

/-- A file is cleared away, or something else than a file is in its place. -/
inductive Clearing (path : Path) (cleared : Stage) (stuck : IoError → Stage) (disk : Disk) :
    Stage → Disk → Prop where
  | cleared {after : Disk} (gone : Clears path disk after) :
      Clearing path cleared stuck disk cleared after
  | stuck {error : IoError} (kept : disk.removeFile path = .error error)
      (present : error ≠ .notFound) : Clearing path cleared stuck disk (stuck error) disk

section

variable {slot : Slot} {error : DownloadError} {cleared : Stage} {stuck : IoError → Stage}

theorem Move.clearing_ready (move : Move config update answer (.ready slot) disk next after) :
    Clearing slot.staging (.halfEmptied slot)
      (fun error => .ended (.error (.failure (.io .removePrevious slot.staging error)))) disk next
      after := by
  cases move with
  | clearStaging cleared => exact .cleared cleared
  | keepStaging kept present => exact .stuck kept present

theorem Move.clearing_halfEmptied
    (move : Move config update answer (.halfEmptied slot) disk next after) :
    Clearing slot.committed (.emptied slot)
      (fun error => .ended (.error (.failure (.io .removePrevious slot.committed error)))) disk next
      after := by
  cases move with
  | clearCommitted cleared => exact .cleared cleared
  | keepCommitted kept present => exact .stuck kept present

theorem Move.clearing_failing
    (move : Move config update answer (.failing slot error) disk next after) :
    Clearing slot.staging (.ended (.error (.failure error)))
      (fun _ => .ended (.error (.failure error))) disk next after := by
  cases move with
  | discard cleared => exact .cleared cleared
  | leave kept present => exact .stuck kept present

variable {oneAfter otherAfter : Disk} {twinNext : Stage}

theorem Clearing.parallel (likeness : Likeness config home hidden one other)
    (named : Path.isName name = true)
    (clearing : Clearing (Path.join config.directory name) cleared stuck one next oneAfter)
    (clearingToo : Clearing (Path.join config.directory name) cleared stuck other twinNext
      otherAfter) :
    Parallel hidden next twinNext oneAfter otherAfter := by
  cases clearing with
  | cleared gone =>
      cases clearingToo with
      | cleared goneToo => exact ⟨rfl, likeness.clears named gone goneToo⟩
      | stuck kept present => exact absurd gone (likeness.symm.not_clears named kept present)
  | stuck kept present =>
      cases clearingToo with
      | cleared gone => exact absurd gone (likeness.not_clears named kept present)
      | stuck keptToo =>
          cases (likeness.keeps named kept).symm.trans keptToo
          exact ⟨rfl, likeness.same⟩

theorem Move.parallel_begun (likeness : Likeness config home hidden one other)
    (move : Move config update answer .begun one next oneAfter)
    (moveToo : Move config update answer .begun other twinNext otherAfter) :
    Parallel hidden next twinNext oneAfter otherAfter := by
  cases move with
  | unnamed refused =>
      cases moveToo with
      | unnamed refusedToo =>
          cases refused.symm.trans refusedToo
          exact ⟨rfl, likeness.same⟩
      | barred named | prepare named => cases refused.symm.trans named
  | barred named made =>
      rw [likeness.left.makeDirectories] at made
      cases made
  | prepare named made =>
      rw [likeness.left.makeDirectories] at made
      cases made
      cases moveToo with
      | unnamed refused => cases refused.symm.trans named
      | barred namedToo made =>
          rw [likeness.right.makeDirectories] at made
          cases made
      | prepare namedToo made =>
          rw [likeness.right.makeDirectories] at made
          cases made
          cases named.symm.trans namedToo
          exact ⟨rfl, likeness.same⟩

/-- The network answers both the same. -/
theorem Move.parallel_emptied (alone : answer.Alone)
    (likeness : Likeness config home hidden one other)
    (move : Move config update answer (.emptied slot) one next oneAfter)
    (moveToo : Move config update answer (.emptied slot) other twinNext otherAfter) :
    Parallel hidden next twinNext oneAfter otherAfter := by
  have same : (one.afterActions answer.interference).veil hidden =
      (other.afterActions answer.interference).veil hidden := by
    rw [alone.opening]
    exact likeness.same
  cases move with
  | connect replied short =>
      cases moveToo with
      | connect repliedToo =>
          cases replied.symm.trans repliedToo
          exact ⟨rfl, same⟩
      | refuse repliedToo long =>
          cases replied.symm.trans repliedToo
          exact absurd long (Nat.not_lt.mpr (short _ rfl))
      | unanswered repliedToo | collapse repliedToo => cases replied.symm.trans repliedToo
  | refuse replied long =>
      cases moveToo with
      | connect repliedToo short =>
          cases replied.symm.trans repliedToo
          exact absurd long (Nat.not_lt.mpr (short _ rfl))
      | refuse repliedToo =>
          cases replied.symm.trans repliedToo
          exact ⟨rfl, same⟩
      | unanswered repliedToo | collapse repliedToo => cases replied.symm.trans repliedToo
  | unanswered replied =>
      cases moveToo with
      | unanswered repliedToo =>
          cases replied.symm.trans repliedToo
          exact ⟨rfl, same⟩
      | connect repliedToo | refuse repliedToo | collapse repliedToo =>
          cases replied.symm.trans repliedToo
  | collapse replied =>
      cases moveToo with
      | collapse => exact ⟨rfl, same⟩
      | connect repliedToo | refuse repliedToo | unanswered repliedToo =>
          cases replied.symm.trans repliedToo

theorem Move.parallel_opened {total : Nat} {events : List StreamEvent}
    (likeness : Likeness config home hidden one other) (named : Path.isName name = true)
    (move : Move config update answer (.opened (.named config.directory name) total events) one next
      oneAfter)
    (moveToo : Move config update answer (.opened (.named config.directory name) total events) other
      twinNext otherAfter) :
    Parallel hidden next twinNext oneAfter otherAfter := by
  have agree := likeness.create named
  have staging := Slot.isName_staging named
  cases move with
  | create made =>
      cases moveToo with
      | create madeToo =>
          rw [made, madeToo] at agree
          obtain ⟨-, position, -⟩ := likeness.left.createNew_onlyFiles staging made
          obtain ⟨-, positionToo, -⟩ := likeness.right.createNew_onlyFiles staging madeToo
          refine ⟨?_, Except.ok.inj agree⟩
          rw [Stage.outline, Stage.outline, position, positionToo]
      | uncreated refused =>
          rw [made, refused] at agree
          cases agree
  | uncreated refused =>
      cases moveToo with
      | create made =>
          rw [made, refused] at agree
          cases agree
      | uncreated refusedToo =>
          rw [refused, refusedToo] at agree
          cases agree
          exact ⟨rfl, likeness.same⟩

/-- The same is written to both staging files, whatever their identities. -/
theorem Move.parallel_streaming {total : Nat} {status statusToo : Status}
    {events : List StreamEvent} (likeness : Likeness config home hidden one other)
    (engaged : Engaged config home update one (.streaming slot total status events))
    (engagedToo : Engaged config home update other (.streaming slot total statusToo events))
    (downloaded : statusToo.downloaded = status.downloaded)
    (position : statusToo.handle.position = status.handle.position)
    (move : Move config update answer (.streaming slot total status events) one next oneAfter)
    (moveToo : Move config update answer (.streaming slot total statusToo events) other twinNext
      otherAfter) :
    Parallel hidden next twinNext oneAfter otherAfter := by
  have same := likeness.same
  cases move with
  | write fits =>
      cases moveToo with
      | write =>
          obtain ⟨name, named, rfl, sole⟩ := engaged.staged
          obtain ⟨nameToo, namedToo, slotToo, soleToo⟩ := engagedToo.staged
          obtain rfl : name = nameToo :=
            (Path.join_inj named namedToo).mp (congrArg Slot.committed slotToo)
          refine ⟨?_, likeness.left.write_veil sole soleToo same position.symm _⟩
          simp only [Stage.outline, Disk.write, downloaded, position]
      | overflow long => exact absurd fits (by omega)
  | overflow long =>
      cases moveToo with
      | write fits => exact absurd fits (by omega)
      | overflow => exact ⟨by rw [downloaded], same⟩
  | breakOff | crash =>
      cases moveToo
      exact ⟨rfl, same⟩
  | interfere => exact absurd List.mem_cons_self (engaged.alone _)
  | finish =>
      cases moveToo
      exact ⟨by rw [downloaded], same⟩

theorem Move.parallel_received {size : Nat} (likeness : Likeness config home hidden one other)
    (named : Path.isName name = true)
    (move : Move config update answer (.received (.named config.directory name) size) one next
      oneAfter)
    (moveToo : Move config update answer (.received (.named config.directory name) size) other
      twinNext otherAfter) :
    Parallel hidden next twinNext oneAfter otherAfter := by
  have holds := likeness.holds (Slot.isName_staging named) update.checksum
  cases move with
  | accept right =>
      cases moveToo with
      | accept => exact ⟨rfl, likeness.same⟩
      | reject wrong => exact absurd (holds.mp right) wrong
  | reject wrong =>
      cases moveToo with
      | accept right => exact absurd (holds.mpr right) wrong
      | reject => exact ⟨rfl, likeness.same⟩

theorem Move.parallel_verified {size : Nat} (likeness : Likeness config home hidden one other)
    (named : Path.isName name = true)
    (move : Move config update answer (.verified (.named config.directory name) size) one next
      oneAfter)
    (moveToo : Move config update answer (.verified (.named config.directory name) size) other
      twinNext otherAfter) :
    Parallel hidden next twinNext oneAfter otherAfter := by
  have agree := likeness.promote named
  cases move with
  | commit renamed =>
      cases moveToo with
      | commit renamedToo =>
          rw [renamed, renamedToo] at agree
          exact ⟨rfl, Except.ok.inj agree⟩
      | uncommitted refused =>
          rw [renamed, refused] at agree
          cases agree
  | uncommitted refused =>
      cases moveToo with
      | commit renamed =>
          rw [renamed, refused] at agree
          cases agree
      | uncommitted refusedToo =>
          rw [refused, refusedToo] at agree
          cases agree
          exact ⟨rfl, likeness.same⟩

/-- Two transfers at the same stage make the same move. -/
theorem Move.parallel (alone : answer.Alone) (likeness : Likeness config home hidden one other)
    (engaged : Engaged config home update one stage)
    (engagedToo : Engaged config home update other twin) (outline : twin.outline = stage.outline)
    (move : Move config update answer stage one next oneAfter)
    (moveToo : Move config update answer twin other twinNext otherAfter) :
    Parallel hidden next twinNext oneAfter otherAfter := by
  cases stage with
  | streaming slot total status events =>
      cases twin with
      | streaming slotToo totalToo statusToo eventsToo =>
          simp only [Stage.outline, Stage.streaming.injEq, Status.mk.injEq, Disk.Handle.mk.injEq,
            true_and] at outline
          obtain ⟨rfl, rfl, ⟨downloaded, position⟩, rfl⟩ := outline
          exact move.parallel_streaming likeness engaged engagedToo downloaded position moveToo
      | _ => cases outline
  | begun =>
      obtain rfl := Stage.eq_of_outline outline (by simp)
      exact move.parallel_begun likeness moveToo
  | ready slot =>
      obtain rfl := Stage.eq_of_outline outline (by simp)
      obtain ⟨name, named, rfl⟩ := engaged.named rfl
      exact move.clearing_ready.parallel likeness (Slot.isName_staging named) moveToo.clearing_ready
  | halfEmptied slot =>
      obtain rfl := Stage.eq_of_outline outline (by simp)
      obtain ⟨name, named, rfl⟩ := engaged.named rfl
      exact move.clearing_halfEmptied.parallel likeness named moveToo.clearing_halfEmptied
  | emptied slot =>
      obtain rfl := Stage.eq_of_outline outline (by simp)
      exact move.parallel_emptied alone likeness moveToo
  | opened slot total events =>
      obtain rfl := Stage.eq_of_outline outline (by simp)
      obtain ⟨name, named, rfl⟩ := engaged.named rfl
      exact move.parallel_opened likeness named moveToo
  | received slot size =>
      obtain rfl := Stage.eq_of_outline outline (by simp)
      obtain ⟨name, named, rfl⟩ := engaged.named rfl
      exact move.parallel_received likeness named moveToo
  | verified slot size =>
      obtain rfl := Stage.eq_of_outline outline (by simp)
      obtain ⟨name, named, rfl⟩ := engaged.named rfl
      exact move.parallel_verified likeness named moveToo
  | failing slot error =>
      obtain rfl := Stage.eq_of_outline outline (by simp)
      obtain ⟨name, named, rfl⟩ := engaged.named rfl
      exact move.clearing_failing.parallel likeness (Slot.isName_staging named)
        moveToo.clearing_failing
  | ended result =>
      obtain rfl := Stage.eq_of_outline outline (by simp)
      cases move
      cases moveToo
      exact ⟨rfl, likeness.same⟩

end

end Transfer

end SelfUpdate
