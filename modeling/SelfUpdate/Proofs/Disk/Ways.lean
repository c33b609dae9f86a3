import SelfUpdate.Proofs.Disk.Changes

/-!
# Changes that leave all ways open

A change of files alone leaves all directories and links where they are, so every path still leads to
the directory that it led to.
-/

namespace SelfUpdate.Disk

variable {disk : Disk} {location source target : Location} {node : Node}

/-- Neither a directory nor a link is at a location. -/
def IsOffWay (disk : Disk) (location : Location) : Prop :=
  disk.isDirectoryAt location = false ∧ ∀ target, disk.get? location ≠ some (.link target)

theorem IsOffWay.of_vacant (vacant : disk.get? location = none) : disk.IsOffWay location := by
  simp [IsOffWay, isDirectoryAt, vacant]

theorem IsOffWay.of_file {identity mode : Nat} {bytes : Bytes}
    (found : disk.get? location = some (.file identity mode bytes)) : disk.IsOffWay location := by
  simp [IsOffWay, isDirectoryAt, found, Node.isDirectory]

/-- In a tree nothing is below a file. -/
theorem IsTree.vacant_below (tree : disk.IsTree) (aside : disk.IsOffWay location)
    {other : Location} (below : location <+: other) (found : disk.get? other = some node) :
    other = location := by
  by_contra differ
  have nothing := tree.get?_below aside.1 below (Ne.symm differ)
  rw [nothing] at found
  cases found

/-- Directories and links lie elsewhere. -/
theorem IsTree.not_below (tree : disk.IsTree) (aside : disk.IsOffWay location)
    {other : Location} (found : disk.get? other = some node) (noFile : node.isFile = false) :
    ¬ location <+: other := by
  intro below
  obtain rfl := tree.vacant_below aside below found
  cases node with
  | directory mode => simp [IsOffWay, isDirectoryAt, found, Node.isDirectory] at aside
  | file i mode bytes => cases noFile
  | link target => exact aside.2 target found

/-- Of two names in a directory neither lies below the other. -/
theorem append_ne (home : Location) {source target : String} (differ : source ≠ target) :
    ¬ home ++ [source] <+: home ++ [target] := by
  intro inside
  have same := inside.eq_of_length (by simp)
  simp [differ] at same

/-- There is nothing to remove where nothing is. -/
theorem IsTree.erase_vacant (tree : disk.IsTree) (named : location ≠ [])
    (vacant : disk.get? location = none) : disk.erase location = disk := by
  have all : disk.entries.filter (fun entry => !location.isPrefixOf entry.1) = disk.entries := by
    rw [List.filter_eq_self]
    rintro ⟨other, node⟩ listed
    rw [Bool.not_eq_true', Bool.eq_false_iff, ne_eq, List.isPrefixOf_iff_prefix]
    intro below
    have present : (disk.get? other).isSome :=
      (isSome_get?_iff (by rintro rfl; exact named (List.prefix_nil.mp below))).mpr ⟨node, listed⟩
    obtain ⟨found, same⟩ := Option.isSome_iff_exists.mp present
    obtain rfl := tree.vacant_below (.of_vacant vacant) below same
    rw [vacant] at present
    cases present
  rw [erase, all]

namespace KeepsWays

theorem of_lookups {after : Disk}
    (same : ∀ other node, disk.get? other = some node → node.isFile = false →
      after.get? other = some node) : KeepsWays disk after where
  directory location held := by
    obtain ⟨mode, found⟩ := isDirectoryAt_iff.mp held
    exact isDirectoryAt_iff.mpr ⟨mode, same _ _ found rfl⟩
  link location target found := same _ _ found rfl

theorem put (node : Node) (named : location ≠ []) (vacant : disk.get? location = none) :
    KeepsWays disk (disk.put location node) := by
  refine of_lookups fun other old found _ => ?_
  rw [get?_put _ _ _ named, if_neg]
  · exact found
  · rintro rfl
    rw [vacant] at found
    cases found

theorem putNewFile (mode : Nat) (bytes : Bytes) (named : location ≠ [])
    (vacant : disk.get? location = none) : KeepsWays disk (disk.putNewFile location mode bytes) := by
  have ways := put (.file disk.freshIdentity mode bytes) named vacant
  exact ⟨ways.directory, ways.link⟩

theorem modifyFile (disk : Disk) (identity : Nat) (change : Bytes → Bytes) :
    KeepsWays disk (disk.modifyFile identity change) := by
  refine of_lookups fun other old found solid => ?_
  rw [get?_modifyFile, found]
  cases old with
  | directory mode => rfl
  | file i mode bytes => cases solid
  | link target => rfl

theorem write (disk : Disk) (handle : Handle) (bytes : Bytes) :
    KeepsWays disk (disk.write handle bytes).2 := by
  rw [Disk.write]
  split
  · exact .refl disk
  · exact modifyFile _ _ _

/-- Removing what lies on no way. -/
theorem erase (tree : disk.IsTree) (named : location ≠ []) (aside : disk.IsOffWay location) :
    KeepsWays disk (disk.erase location) := by
  refine of_lookups fun other old found noFile => ?_
  rw [get?_erase _ _ named, if_neg (tree.not_below aside found noFile)]
  exact found

/-- What is left after a removal was there before it. -/
theorem of_erase (disk : Disk) (named : location ≠ []) : KeepsWays (disk.erase location) disk := by
  exact of_lookups fun other old found _ => get?_of_erase named found

/-- Moving a file to where no directory and no link is. -/
theorem move (tree : disk.IsTree) (outside : ¬ source <+: target) (named : target ≠ [])
    (aside : ¬ target <+: source) (sourceAside : disk.IsOffWay source)
    (targetAside : disk.IsOffWay target) :
    KeepsWays disk ((disk.erase target).move source target) := by
  refine of_lookups fun other old found noFile => ?_
  rw [get?_erase_move _ _ (source_ne_nil outside) named outside aside,
    if_neg (tree.not_below targetAside found noFile),
    if_neg (tree.not_below sourceAside found noFile)]
  exact found

end KeepsWays

end SelfUpdate.Disk
