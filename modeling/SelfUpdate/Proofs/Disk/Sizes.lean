import SelfUpdate.Proofs.Disk.Rereading

/-!
# How long files are

What the operations on a disk do to the lengths of its files. Only making a file brings a new one, and
only writing makes one longer.
-/

namespace SelfUpdate.Disk

variable {disk before made after : Disk} {location : Location} {path : Path} {node : Node}
  {identity size : Nat}

/-! ## Disks without new files -/

/-- Every file that is there was there before, with the same content. -/
def OldFiles (before after : Disk) : Prop :=
  ∀ location identity mode bytes, after.get? location = some (.file identity mode bytes) →
    ∃ earlier, before.get? earlier = some (.file identity mode bytes)

namespace OldFiles

theorem refl (disk : Disk) : OldFiles disk disk := fun location _ _ _ found => ⟨location, found⟩

theorem trans (early : OldFiles before made) (late : OldFiles made after) :
    OldFiles before after := by
  intro location identity mode bytes found
  obtain ⟨earlier, there⟩ := late location identity mode bytes found
  exact early earlier identity mode bytes there

theorem of_digs (digs : Digs before after) : OldFiles before after := fun location _ _ _ found =>
  ⟨location, ((Spares.of_digs digs).files _ _ _ _).mp found⟩

theorem removeFile (removed : disk.removeFile path = .ok after) : OldFiles disk after := by
  obtain ⟨place, node, names, -, -, rfl⟩ := removeFile_eq_ok removed
  intro location identity mode bytes found
  exact ⟨location, get?_of_erase names.ne_nil found⟩

theorem rename {source : Path} (renamed : disk.rename source path = .ok after) :
    OldFiles disk after := by
  obtain ⟨place, -, moved⟩ := rename_eq_ok renamed
  obtain ⟨target, node, names, -, ⟨-, rfl⟩ | ⟨outside, aside, -, rfl⟩⟩ := renameFrom_eq_ok moved
  · exact .refl _
  · intro location identity mode bytes found
    rw [get?_erase_move _ _ (source_ne_nil outside) names.ne_nil outside aside] at found
    split at found
    · exact ⟨_, found⟩
    · split at found
      · cases found
      · exact ⟨location, found⟩

end OldFiles

/-! ## Lengths -/

/-- Wherever the file with this identity is, it has at most so many octets. -/
def SizeLe (disk : Disk) (identity size : Nat) : Prop :=
  ∀ location mode bytes, disk.get? location = some (.file identity mode bytes) →
    bytes.length ≤ size

namespace SizeLe

theorem mono {larger : Nat} (short : disk.SizeLe identity size) (le : size ≤ larger) :
    disk.SizeLe identity larger :=
  fun location mode bytes found => Nat.le_trans (short location mode bytes found) le

theorem of_oldFiles (old : OldFiles before after) (short : before.SizeLe identity size) :
    after.SizeLe identity size := by
  intro location mode bytes found
  obtain ⟨earlier, there⟩ := old location identity mode bytes found
  exact short earlier mode bytes there

/-- No file has an identity that is still to come. -/
theorem of_fresh (tree : disk.IsTree) (fresh : disk.freshIdentity ≤ identity) (size : Nat) :
    disk.SizeLe identity size := by
  intro location mode bytes found
  exact absurd (tree.fresh location identity mode bytes found) (Nat.not_lt.mpr fresh)

/-- A file that is made is empty, and no other is any longer. -/
theorem createNew {handle : Handle} (made : disk.createNew path = .ok (handle, after))
    (short : disk.SizeLe identity size) : after.SizeLe identity size := by
  obtain ⟨place, names, -, -, rfl⟩ := createNew_eq_ok made
  intro location mode bytes found
  rw [get?_putNewFile _ _ _ _ names.ne_nil] at found
  split at found
  · cases found
    exact Nat.zero_le size
  · exact short location mode bytes found

theorem length_overwrite_le {content : Bytes} {position : Nat} (within : content.length ≤ position)
    (bytes : Bytes) : (overwrite content position bytes).length ≤ position + bytes.length := by
  simp only [overwrite, List.length_append, List.length_take, List.length_replicate,
    List.length_drop]
  omega

/-- The file that is written to grows by what is written. -/
theorem write {handle : Handle} (short : disk.SizeLe handle.identity handle.position)
    (bytes : Bytes) :
    (disk.write handle bytes).2.SizeLe handle.identity (handle.position + bytes.length) := by
  rw [Disk.write]
  split
  · exact short.mono (Nat.le_add_right _ _)
  · intro location mode content found
    rw [get?_modifyFile, Option.map_eq_some_iff] at found
    obtain ⟨old, there, altered⟩ := found
    cases old with
    | directory mode => cases altered
    | link target => cases altered
    | file own mode content =>
        by_cases same : own = handle.identity
        · subst same
          rw [Node.alter, if_pos rfl] at altered
          cases altered
          exact length_overwrite_le (short _ _ _ there) bytes
        · rw [Node.alter, if_neg same] at altered
          cases altered
          exact absurd rfl same

/-- No other file does. -/
theorem write_aside {handle : Handle} (differ : identity ≠ handle.identity)
    (short : disk.SizeLe identity size) (bytes : Bytes) :
    (disk.write handle bytes).2.SizeLe identity size := by
  obtain ⟨change, lookup⟩ := get?_write disk handle bytes
  intro location mode content found
  rw [lookup, Option.map_eq_some_iff] at found
  obtain ⟨old, there, altered⟩ := found
  have kept := congrArg Node.identity? altered
  rw [Node.identity?_alter] at kept
  rw [Node.alter_of_ne fun same => differ (Option.some.inj (kept.symm.trans same))] at altered
  exact short location mode content (there.trans (congrArg some altered))

end SizeLe

/-! ## Paths that name nothing -/

/-- A path gives a place to one entry at most. -/
theorem Names.unique {elsewhere : Location} (names : disk.Names path location)
    (again : disk.Names path elsewhere) : location = elsewhere := by
  obtain ⟨spot, text, placed, last, -, rfl⟩ := names
  obtain ⟨_, _, same, name, -, rfl⟩ := again
  obtain rfl := Except.ok.inj (placed.symm.trans same)
  cases last.symm.trans name
  rfl

/-- There is no entry at the place of a path. -/
def Vacant (disk : Disk) (path : Path) : Prop :=
  ∀ location, disk.Names path location → disk.get? location = none

namespace Vacant

/-- What is left after a removal names places as before. -/
theorem names_of_erase (unslashed : path.toList.getLast? ≠ some '/') {place : Location}
    (named : place ≠ []) (names : (disk.erase place).Names path location) :
    disk.Names path location :=
  names.mono unslashed (.of_erase disk named) rfl

/-- A removal fills no place. -/
theorem removeFile_aside {removed : Path} (unslashed : path.toList.getLast? ≠ some '/')
    (vacant : disk.Vacant path) (done : disk.removeFile removed = .ok after) :
    after.Vacant path := by
  obtain ⟨place, node, names, -, -, rfl⟩ := removeFile_eq_ok done
  intro location still
  rw [get?_erase _ _ names.ne_nil,
    vacant location (names_of_erase unslashed names.ne_nil still)]
  split <;> rfl

theorem of_removeFile (unslashed : path.toList.getLast? ≠ some '/')
    (done : disk.removeFile path = .ok after) : after.Vacant path := by
  obtain ⟨place, node, names, -, -, rfl⟩ := removeFile_eq_ok done
  intro location still
  obtain rfl := names.unique (names_of_erase unslashed names.ne_nil still)
  rw [get?_erase _ _ names.ne_nil, if_pos (List.prefix_refl _)]

/-- A file that cannot be removed because it is missing is not there. -/
theorem of_missing {directory : Path} {name : String} (named : Path.isName name = true)
    (missing : disk.removeFile (Path.join directory name) = .error .notFound) :
    disk.Vacant (Path.join directory name) := by
  intro location names
  obtain ⟨home, leads, text, short, rfl⟩ := names.join named
  rw [removeFile_join named short text leads] at missing
  cases found : disk.get? (home ++ [name]) with
  | none => rfl
  | some node =>
      simp only [found] at missing
      split at missing
      · cases missing
      · split at missing <;> cases missing

end Vacant

end SelfUpdate.Disk
