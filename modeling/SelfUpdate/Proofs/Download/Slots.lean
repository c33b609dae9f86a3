import SelfUpdate.Download.Slot
import SelfUpdate.Proofs.Disk.Operations

/-!
# Names of slots

The two files of a slot have different names in one directory.
-/

namespace SelfUpdate.Slot

variable {directory namePrefix version name : String} {slot : Slot}

/-- The slot of a name. -/
def named (directory : Path) (name : String) : Slot :=
  ⟨Path.join directory (name ++ stagingSuffix), Path.join directory name⟩

theorem committed_named (directory : Path) (name : String) :
    (named directory name).committed = Path.join directory name := rfl

theorem toList_stagingSuffix : stagingSuffix.toList = ['.', 't', 'm', 'p'] := rfl

/-- The staging file of a name has a name, too. -/
theorem isName_staging (named : Path.isName name = true) :
    Path.isName (name ++ stagingSuffix) = true := by
  have slash := Path.slash_not_mem named
  have length : 4 ≤ (name ++ stagingSuffix).toList.length := by
    simp [String.toList_append, toList_stagingSuffix]
  have longer (short : String) (bound : short.toList.length < 4) : name ++ stagingSuffix ≠ short := by
    rintro rfl
    omega
  have noSlash : (name ++ stagingSuffix).toList.contains '/' = false := by
    simpa [String.toList_append, toList_stagingSuffix] using slash
  have notEmpty : (name ++ stagingSuffix).isEmpty = false := by
    rw [Bool.eq_false_iff, ne_eq, String.isEmpty_iff]
    exact longer "" (by decide)
  simp only [Path.isName, noSlash, notEmpty, Bool.not_false, Bool.true_and, Bool.and_true,
    Bool.and_eq_true, bne_iff_ne]
  exact ⟨longer "." (by decide), longer ".." (by decide)⟩

theorem staging_ne (name : String) : name ++ stagingSuffix ≠ name := by
  intro same
  have length := congrArg (fun text => text.toList.length) same
  simp [String.toList_append, toList_stagingSuffix] at length

/-- A slot is named after the prefix and the version. -/
theorem eq_named_of_ofVersion (found : ofVersion directory namePrefix version = .ok slot) :
    Path.isName (safeName (namePrefix ++ "-" ++ version)) = true ∧
      slot = named directory (safeName (namePrefix ++ "-" ++ version)) := by
  rw [ofVersion] at found
  split at found
  · rename_i named
    exact ⟨named, (Except.ok.inj found).symm⟩
  · exact absurd found (by simp)

theorem ofVersion_eq_ok (found : ofVersion directory namePrefix version = .ok slot) :
    ∃ name, Path.isName name = true ∧ slot = named directory name :=
  ⟨_, eq_named_of_ofVersion found⟩

theorem join_staging (directory : Path) (named : Path.isName name = true) :
    Path.join directory (name ++ stagingSuffix) = Path.join directory name ++ stagingSuffix := by
  rw [Path.join_eq directory named, Path.join_eq directory (isName_staging named)]
  split
  · rw [String.append_assoc]
  · rw [String.append_assoc, String.append_assoc, String.append_assoc]

/-- Where the staging name is legal, so is the committed one. -/
theorem checkText_committed (named : Path.isName name = true)
    (text : Disk.checkText (Path.join directory (name ++ stagingSuffix)) = .ok ()) :
    Disk.checkText (Path.join directory name) = .ok () := by
  rw [join_staging directory named, Disk.checkText_eq_ok_iff] at text
  obtain ⟨nul, -, length⟩ := text
  rw [String.toList_append, List.mem_append, not_or] at nul
  rw [String.utf8ByteSize_append] at length
  refine Disk.checkText_eq_ok_iff.mpr ⟨nul.1, ?_, by omega⟩
  intro empty
  have ends := Path.pieces_join directory named
  rw [empty] at ends
  have last := congrArg List.getLast? ends
  simp only [List.getLast?_concat] at last
  exact Path.ne_empty named (Option.some.inj last).symm

theorem isTooLong_committed (short : Disk.isTooLong (name ++ stagingSuffix) = false) :
    Disk.isTooLong name = false := by
  simp only [Disk.isTooLong, String.utf8ByteSize_append, gt_iff_lt, decide_eq_false_iff_not,
    Nat.not_lt] at short ⊢
  omega

theorem state_eq_committed_iff {disk : Disk} :
    slot.state disk = .committed ↔ disk.isFile slot.committed = true := by
  rw [state]
  by_cases file : disk.isFile slot.committed = true
  · simp [file]
  · rw [if_neg file]
    constructor
    · intro reported
      split at reported <;> cases reported
    · intro present
      exact absurd present file

end SelfUpdate.Slot
