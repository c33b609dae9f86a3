import SelfUpdate.Proofs.Digest
import SelfUpdate.Proofs.Disk.Ways
import SelfUpdate.Proofs.Download.Slots

/-!
# Promoting a staging file

What a rename from the staging name to the committed name makes of a directory without links.
-/

namespace SelfUpdate.Disk

variable {disk after : Disk} {directory : Path} {home : Location} {name : String} {bytes : Bytes}

/-- No link has a name in the directory to which a path leads. -/
def NoLinksIn (disk : Disk) (directory : Path) : Prop :=
  ∀ home name target, disk.Leads directory home → disk.get? (home ++ [name]) ≠ some (.link target)

/-- Promoting a file takes it to the committed name as it is, and leaves nothing at the staging
name. -/
theorem promote_eq_ok (tree : disk.IsTree) (noLinks : disk.NoLinksIn directory)
    (named : Path.isName name = true)
    (content : disk.content? (Path.join directory (name ++ stagingSuffix)) = some bytes)
    (renamed : disk.rename (Path.join directory (name ++ stagingSuffix))
      (Path.join directory name) = .ok after) :
    ∃ home identity mode, disk.Leads directory home ∧ after.Leads directory home ∧
      disk.get? (home ++ [name ++ stagingSuffix]) = some (.file identity mode bytes) ∧
      disk.IsOffWay (home ++ [name]) ∧
      after = (disk.erase (home ++ [name])).move (home ++ [name ++ stagingSuffix])
        (home ++ [name]) ∧
      after.node? (Path.join directory name) = some (.file identity mode bytes) ∧
      after.node? (Path.join directory (name ++ stagingSuffix)) = none := by
  have stagingNamed := Slot.isName_staging named
  have differ := Slot.staging_ne name
  obtain ⟨home, node, leads, text, short, found, free, rfl⟩ :=
    rename_join_eq_ok stagingNamed named differ renamed
  obtain ⟨identity, mode, read⟩ := content?_eq_some_iff.mp content
  have staged := get?_of_node?_join stagingNamed leads (fun target => noLinks _ _ target leads) read
  obtain rfl := Option.some.inj (found.symm.trans staged)
  have aside : disk.IsOffWay (home ++ [name]) :=
    ⟨replaceError?_eq_none rfl free, fun target => noLinks _ _ target leads⟩
  have lookup := fun other => get?_erase_move disk other (by simp) (by simp)
    (append_ne home differ) (append_ne home differ.symm)
  have ways := KeepsWays.move tree (append_ne home differ) (by simp) (append_ne home differ.symm)
    (.of_file staged) aside
  have stillLeads := leads.mono ways rfl
  have promoted := lookup (home ++ [name])
  rw [if_pos (List.prefix_refl _), List.drop_length, List.append_nil, staged] at promoted
  have left := lookup (home ++ [name ++ stagingSuffix])
  rw [if_neg (append_ne home differ.symm), if_pos (List.prefix_refl _)] at left
  refine ⟨home, identity, mode, leads, stillLeads, staged, aside, rfl, ?_, ?_⟩
  · rw [node?_join named short text stillLeads (by simp [promoted]), promoted]
  · exact node?_join_of_vacant stagingNamed stillLeads left

end SelfUpdate.Disk
