import Mathlib.Data.List.Nodup
import SelfUpdate.Proofs.Disk.Directories
import SelfUpdate.Proofs.Disk.Locations
import SelfUpdate.Proofs.Disk.Parents
import SelfUpdate.Proofs.Disk.Ways

/-!
# Replacing a file

The new content of a file is written beside it, under a name that its directory does not have. When
that file has taken its place, or has gone because it could not, nothing else on the disk differs but
directories on the way.
-/

namespace SelfUpdate

namespace Disk

variable {disk before after : Disk} {directory place home : Location} {path : Path} {bytes : Bytes}

/-! ## Names that a directory does not have -/

theorem numbered_inj {first second : Nat} : s!".tmp{first}" = s!".tmp{second}" ↔ first = second := by
  constructor
  · intro same
    have digits := congrArg String.toList same
    simp only [toString, String.toList_append, List.append_cancel_left_eq,
      Nat.toList_repr] at digits
    have back := congrArg (fun text => Nat.ofDigitChars 10 text 0) digits
    simpa using back
  · rintro rfl
    rfl

/-- A name that is taken after all is found only when all names up to it are taken. -/
theorem taken_of_unusedNameWithin {taken : List String} {left first : Nat}
    (used : unusedNameWithin taken left first ∈ taken) :
    ∀ number, first ≤ number → number ≤ first + left → s!".tmp{number}" ∈ taken := by
  induction left generalizing first with
  | zero =>
      intro number low high
      obtain rfl : number = first := by omega
      exact used
  | succ left ih =>
      intro number low high
      rw [unusedNameWithin] at used
      split at used
      · rename_i present
        by_cases here : number = first
        · rw [here]
          simpa using present
        · exact ih used number (by omega) (by omega)
      · rename_i absent
        exact absurd used (by simpa using absent)

/-- There are more numbers than names that are taken. -/
theorem unusedNameWithin_not_mem (taken : List String) :
    unusedNameWithin taken taken.length 0 ∉ taken := by
  intro used
  have all := taken_of_unusedNameWithin used
  let names := (List.range (taken.length + 1)).map fun number => s!".tmp{number}"
  have distinct : names.Nodup :=
    List.Nodup.map (fun _ _ same => numbered_inj.mp same) List.nodup_range
  have inside : names ⊆ taken := by
    intro name listed
    obtain ⟨number, bound, rfl⟩ := List.mem_map.mp listed
    exact all number (Nat.zero_le _) (by have := List.mem_range.mp bound; omega)
  have count := distinct.length_le_of_subset inside
  simp only [names, List.length_map, List.length_range] at count
  omega

theorem get?_unusedName (disk : Disk) (directory : Location) :
    disk.get? (directory ++ [disk.unusedName directory]) = none := by
  have free := unusedNameWithin_not_mem (disk.children directory)
  rw [← unusedName.eq_def, mem_children_iff] at free
  simpa using free

/-! ## One file for another -/

theorem workingDirectory_putNewFile (disk : Disk) (location : Location) (mode : Nat)
    (bytes : Bytes) :
    (disk.putNewFile location mode bytes).workingDirectory = disk.workingDirectory := by
  rw [putNewFile, put]
  split <;> rfl

theorem IsTree.of_same (tree : disk.IsTree) (same : ∀ other, after.get? other = disk.get? other)
    (later : disk.freshIdentity ≤ after.freshIdentity) : after.IsTree := by
  refine tree.of_lookups (fun other _ => ⟨other, (same other).symm⟩) ?_ later
  intro above name present
  rw [isDirectoryAt, same]
  rw [same] at present
  exact tree.parent above name present

/-- At most the file at a place has come to be a new one. -/
structure Exchanged (place : Location) (before after : Disk) : Prop where
  tree : after.IsTree
  workingDirectory : after.workingDirectory = before.workingDirectory
  freshIdentity_le : before.freshIdentity ≤ after.freshIdentity
  lookups : ∀ other, after.get? other = before.get? other ∨
    other = place ∧ before.isDirectoryAt other = false ∧
      ∃ mode bytes, after.get? other = some (.file before.freshIdentity mode bytes)

namespace Exchanged

theorem linkFree (exchanged : Exchanged place before after) (linkFree : before.LinkFree) :
    after.LinkFree := by
  intro location target found
  rcases exchanged.lookups location with same | ⟨-, -, _, _, file⟩
  · exact linkFree location target (same.symm.trans found)
  · cases file.symm.trans found

theorem keepsWays (exchanged : Exchanged place before after) (linkFree : before.LinkFree) :
    KeepsWays before after := by
  refine .of_lookups fun other node found noFile => ?_
  rcases exchanged.lookups other with same | ⟨-, free, -⟩
  · exact same.trans found
  · cases node with
    | directory mode => simp [isDirectoryAt, found, Node.isDirectory] at free
    | file i mode bytes => cases noFile
    | link target => exact absurd found (linkFree other target)

/-- Elsewhere nothing differs. -/
theorem get?_of_ne (exchanged : Exchanged place before after) {other : Location}
    (elsewhere : other ≠ place) : after.get? other = before.get? other := by
  rcases exchanged.lookups other with same | ⟨here, -⟩
  · exact same
  · exact absurd here elsewhere

theorem of_same (tree : disk.IsTree) (base : after.workingDirectory = disk.workingDirectory)
    (same : ∀ other, after.get? other = disk.get? other)
    (later : disk.freshIdentity ≤ after.freshIdentity) : Exchanged place disk after where
  tree := tree.of_same same later
  workingDirectory := base
  freshIdentity_le := later
  lookups other := .inl (same other)

end Exchanged

section Staged

variable {staged : Location}

/-- A file that was put where nothing was and then removed leaves nothing behind. -/
theorem get?_erase_putNewFile (tree : disk.IsTree) (named : staged ≠ [])
    (vacant : disk.get? staged = none) (mode : Nat) (bytes : Bytes) (other : Location) :
    ((disk.putNewFile staged mode bytes).erase staged).get? other = disk.get? other := by
  rw [get?_erase _ _ named]
  split
  · rename_i below
    by_cases here : other = staged
    · rw [here, vacant]
    · exact (tree.get?_below (by simp [isDirectoryAt, vacant]) below (Ne.symm here)).symm
  · rename_i aside
    rw [get?_putNewFile _ _ _ _ named, if_neg]
    rintro rfl
    exact aside (List.prefix_refl _)

/-- A new file takes the place of a path, and nothing else changes. -/
theorem renameFrom_takes (tree : disk.IsTree) (named : staged ≠ [])
    (vacant : disk.get? staged = none) {mode : Nat}
    (done : (disk.putNewFile staged mode bytes).renameFrom staged path = .ok after) :
    ∃ place, (disk.putNewFile staged mode bytes).Names path place ∧
      disk.isDirectoryAt place = false ∧
      after.get? place = some (.file disk.freshIdentity mode bytes) ∧
      ∀ other, other ≠ place → after.get? other = disk.get? other := by
  have lookup := fun other => get?_putNewFile disk mode bytes other named
  have whole := (lookup staged).trans (if_pos rfl)
  have solid : disk.isDirectoryAt staged = false := by simp [isDirectoryAt, vacant]
  obtain ⟨target, node, names, found, moved⟩ := renameFrom_eq_ok done
  obtain rfl := Option.some.inj (whole.symm.trans found)
  refine ⟨target, names, ?_⟩
  rcases moved with ⟨rfl, rfl⟩ | ⟨outside, aside, free, rfl⟩
  · exact ⟨solid, whole, fun other differ => (lookup other).trans (if_neg differ)⟩
  · have free := replaceError?_eq_none rfl free
    have differ : target ≠ staged := by
      rintro rfl
      exact outside (List.prefix_refl _)
    rw [isDirectoryAt, lookup, if_neg differ, ← isDirectoryAt] at free
    have moved := fun other => get?_erase_move (disk.putNewFile staged mode bytes) other named
      names.ne_nil outside aside
    refine ⟨free, ?_, fun other elsewhere => ?_⟩
    · rw [moved, if_pos (List.prefix_refl _), List.drop_length, List.append_nil, whole]
    · rw [moved]
      split
      · -- neither the old file nor the new one has anything below it
        rename_i below
        obtain ⟨rest, rfl⟩ := below
        have some_ : rest ≠ [] := by
          rintro rfl
          exact elsewhere (List.append_nil _)
        have deeper : staged ++ rest ≠ staged := by simpa using some_
        rw [List.drop_left, lookup, if_neg deeper,
          tree.get?_below solid (List.prefix_append _ _) deeper.symm,
          tree.get?_below free (List.prefix_append _ _) (Ne.symm elsewhere)]
      · split
        · rename_i below
          by_cases here : other = staged
          · rw [here, vacant]
          · rw [tree.get?_below solid below (Ne.symm here)]
        · rename_i beside
          rw [lookup, if_neg]
          rintro rfl
          exact beside (List.prefix_refl _)

/-- Without links that place is where the path leads. -/
theorem renameFrom_exchanged (tree : disk.IsTree) (linkFree : disk.LinkFree) (named : staged ≠ [])
    (vacant : disk.get? staged = none) (inside : disk.isDirectoryAt staged.dropLast = true)
    {mode : Nat} (done : (disk.putNewFile staged mode bytes).renameFrom staged path = .ok after) :
    Exchanged (destination disk.workingDirectory path) disk after := by
  have put : Change disk (disk.putNewFile staged mode bytes) := .makeFile _ _ named vacant inside
  have changes := renameFrom_changes done
  obtain ⟨target, names, free, file, elsewhere⟩ := renameFrom_takes tree named vacant done
  have place := names.eq_destination (put.linkFree linkFree)
  rw [put.workingDirectory] at place
  rw [← place]
  refine ⟨changes.isTree (put.isTree tree), changes.workingDirectory.trans put.workingDirectory,
    Nat.le_trans put.freshIdentity_le changes.freshIdentity_le, fun other => ?_⟩
  by_cases here : other = target
  · rw [here]
    exact .inr ⟨rfl, free, _, _, file⟩
  · exact .inl (elsewhere other here)

end Staged

/-- The last part of replacing a file: a new file in a directory takes the place of a path. -/
def exchange (directory : Location) (path : Path) (bytes : Bytes) (disk : Disk) : Steps Unit := do
  if disk.isSealed directory then throw .permissionDenied
  let staged := directory ++ [disk.unusedName directory]
  let full := disk.putNewFile staged privateFileMode bytes
  let renamed := if path.toList.contains '\x00' then .error .invalidArgument
    else full.renameFrom staged path
  match renamed with
  | .ok disk => set disk
  | .error error =>
    set (full.erase staged)
    throw error

theorem replaceFile_eq (path : Path) (bytes : Bytes) :
    replaceFile path bytes = (match Path.parent? path with
      | none => throw .noParent
      | some parent => do
        makeDirectories parent
        let disk ← get
        let directory ← if parent.isEmpty then pure disk.workingDirectory else disk.locate parent
        exchange directory path bytes disk) :=
  rfl

/-- The last part of replacing a file, with a name for the new file until it takes its place. -/
def exchangeAs (temporary : String) (directory : Location) (path : Path) (bytes : Bytes)
    (disk : Disk) : Steps Unit := do
  if disk.isSealed directory then throw .permissionDenied
  let staged := directory ++ [temporary]
  let full := disk.putNewFile staged privateFileMode bytes
  let renamed := if path.toList.contains '\x00' then .error .invalidArgument
    else full.renameFrom staged path
  match renamed with
  | .ok disk => set disk
  | .error error =>
    set (full.erase staged)
    throw error

theorem exchange_eq_as (directory : Location) (path : Path) (bytes : Bytes) (disk : Disk) :
    exchange directory path bytes disk =
      exchangeAs (disk.unusedName directory) directory path bytes disk :=
  rfl

/-- The last part of replacing a file leaves the disk alone, or removes the new file again, or moves
it to its place. -/
theorem exchangeAs_cases (temporary : String) (directory : Location) (path : Path) (bytes : Bytes)
    (disk : Disk) :
    let staged := directory ++ [temporary]
    let full := disk.putNewFile staged privateFileMode bytes
    (∃ error, exchangeAs temporary directory path bytes disk disk = (.error error, disk)) ∨
      (∃ error, exchangeAs temporary directory path bytes disk disk =
        (.error error, full.erase staged)) ∨
      ∃ after, exchangeAs temporary directory path bytes disk disk = (.ok (), after) ∧
        full.renameFrom staged path = .ok after := by
  intro staged full
  rw [exchangeAs]
  by_cases locked : disk.isSealed directory = true
  · simp only [if_pos locked]
    exact .inl ⟨_, rfl⟩
  · simp only [if_neg locked]
    right
    split
    · exact .inl ⟨_, rfl⟩
    · cases renamed : full.renameFrom staged path with
      | ok after => exact .inr ⟨after, rfl, rfl⟩
      | error error => exact .inl ⟨error, rfl⟩

/-- A relative path that names something starts in a directory. -/
theorem Names.origin_isDirectoryAt {location : Location} (names : disk.Names path location) :
    disk.isDirectoryAt (origin disk.workingDirectory path) = true := by
  obtain ⟨home, name, before, late, rfl, named, inside, pieces, empty, left, reached⟩ :=
    names.reaches
  cases reached with
  | here => exact inside
  | idle here | up here | through here | into here => exact here

/-- The new content is put into a directory that is there, if it takes the place of the path. -/
theorem isDirectoryAt_of_renameFrom {name : String} {mode : Nat}
    (inside : disk.isDirectoryAt directory = true ∨
      directory = origin disk.workingDirectory path)
    (renamed : (disk.putNewFile (directory ++ [name]) mode bytes).renameFrom (directory ++ [name])
      path = .ok after) : disk.isDirectoryAt directory = true := by
  rcases inside with there | start
  · exact there
  · obtain ⟨target, node, names, -⟩ := renameFrom_eq_ok renamed
    have base := names.origin_isDirectoryAt
    rw [workingDirectory_putNewFile, ← start, isDirectoryAt,
      get?_putNewFile _ _ _ _ (by simp)] at base
    split at base
    · cases base
    · exact base

theorem exchange_exchanged (tree : disk.IsTree) (linkFree : disk.LinkFree) (bytes : Bytes)
    (inside : disk.isDirectoryAt directory = true ∨
      directory = origin disk.workingDirectory path) :
    Exchanged (destination disk.workingDirectory path) disk
      (exchange directory path bytes disk disk).2 := by
  have named : directory ++ [disk.unusedName directory] ≠ [] := by simp
  have vacant := get?_unusedName disk directory
  rw [exchange_eq_as]
  rcases exchangeAs_cases (disk.unusedName directory) directory path bytes disk with
    ⟨error, same⟩ | ⟨error, removed⟩ | ⟨after, moved, renamed⟩
  · rw [same]
    exact .of_same tree rfl (fun _ => rfl) (Nat.le_refl _)
  · rw [removed]
    have base := workingDirectory_putNewFile disk (directory ++ [disk.unusedName directory])
      privateFileMode bytes
    exact .of_same tree base (get?_erase_putNewFile tree named vacant _ _) (Nat.le_succ _)
  · rw [moved]
    refine renameFrom_exchanged tree linkFree named vacant ?_ renamed
    rw [List.dropLast_concat]
    exact isDirectoryAt_of_renameFrom inside renamed

/-- The disk on which the directories above a path were made. -/
def prepared (disk : Disk) (path : Path) : Disk :=
  match Path.parent? path with
  | none => disk
  | some parent => (makeDirectories parent disk).2

theorem prepared_digs (disk : Disk) (path : Path) : Digs disk (disk.prepared path) := by
  rw [prepared]
  split
  · exact .refl
  · exact makeDirectories_digs _ disk

/-- Replaces a file, where someone else picks the name of the new file until it takes its place. -/
def replaceFileAs (pick : Disk → Location → String) (path : Path) (bytes : Bytes) : Steps Unit :=
  match Path.parent? path with
  | none => throw .noParent
  | some parent => do
    makeDirectories parent
    let disk ← get
    let directory ← if parent.isEmpty then pure disk.workingDirectory else disk.locate parent
    exchangeAs (pick disk directory) directory path bytes disk

theorem replaceFile_eq_as (path : Path) (bytes : Bytes) :
    replaceFile path bytes = replaceFileAs unusedName path bytes :=
  rfl

/-- Replacing a file fails before anything but directories was made, or it is an exchange. -/
theorem replaceFileAs_cases (pick : Disk → Location → String) (disk : Disk) (path : Path)
    (bytes : Bytes) :
    (∃ error, replaceFileAs pick path bytes disk = (.error error, disk.prepared path)) ∨
      ∃ directory, ((disk.prepared path).isDirectoryAt directory = true ∨
          directory = origin (disk.prepared path).workingDirectory path) ∧
        replaceFileAs pick path bytes disk =
          exchangeAs (pick (disk.prepared path) directory) directory path bytes
            (disk.prepared path) (disk.prepared path) := by
  rw [replaceFileAs, prepared]
  cases above : Path.parent? path with
  | none => exact .inl ⟨_, rfl⟩
  | some parent =>
      simp only [Failing.bind_run, Failing.get_run]
      rcases done : makeDirectories parent disk with ⟨error | _, made⟩
      · exact .inl ⟨error, rfl⟩
      · simp only [Failing.ite_run]
        split
        · rename_i empty
          have relative := Path.isAbsolute_of_parent above (String.isEmpty_iff.mp empty)
          refine .inr ⟨_, .inr ?_, rfl⟩
          rw [origin, relative]
          rfl
        · rename_i some_
          obtain ⟨home, located, inside⟩ :=
            makeDirectories_located (mt String.isEmpty_iff.mpr some_) done
          rw [located]
          exact .inr ⟨home, .inl inside, rfl⟩

theorem replaceFile_cases (disk : Disk) (path : Path) (bytes : Bytes) :
    (∃ error, replaceFile path bytes disk = (.error error, disk.prepared path)) ∨
      ∃ directory, ((disk.prepared path).isDirectoryAt directory = true ∨
          directory = origin (disk.prepared path).workingDirectory path) ∧
        replaceFile path bytes disk =
          exchange directory path bytes (disk.prepared path) (disk.prepared path) :=
  replaceFileAs_cases unusedName disk path bytes

/-- Replacing a file makes directories and exchanges at most the file at the path. -/
theorem replaceFile_exchanged (tree : disk.IsTree) (linkFree : disk.LinkFree) (path : Path)
    (bytes : Bytes) :
    ∃ made, Digs disk made ∧
      Exchanged (destination disk.workingDirectory path) made (replaceFile path bytes disk).2 := by
  have digs := prepared_digs disk path
  have tree := digs.changes.isTree tree
  refine ⟨disk.prepared path, digs, ?_⟩
  rcases replaceFile_cases disk path bytes with ⟨error, failed⟩ | ⟨directory, inside, exchanged⟩
  · rw [failed]
    exact .of_same tree rfl (fun _ => rfl) (Nat.le_refl _)
  · rw [exchanged, ← digs.changes.workingDirectory]
    exact exchange_exchanged tree (digs.changes.linkFree linkFree) bytes inside

end Disk

end SelfUpdate
