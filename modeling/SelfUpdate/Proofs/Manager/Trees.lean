import SelfUpdate.Proofs.Disk.Rereading
import SelfUpdate.Proofs.Manager.Spacing

/-!
# Disks that stay trees

Whatever a manager does at once, wherever the records of the log go and whatever links there are,
the disk stays a tree.
-/

namespace SelfUpdate

variable {world : World}

/-- The frame of disks that stay trees. -/
def Frame.tree : Frame where
  Holds world := world.disk.IsTree
  Rel _ _ := True
  refl _ := trivial
  trans _ _ := trivial

theorem Frame.tree_roomy : Frame.tree.Roomy :=
  fun _ _ _ _ tree changes => ⟨trivial, changes.isTree tree⟩

namespace Manager

theorem tree_bounded : Bounded (fun _ => True) .tree :=
  .of_replaces Frame.tree_roomy.logs fun path bytes _ tree =>
    ⟨trivial, Disk.replaceFile_isTree tree path bytes⟩

theorem start_isTree (runtime : Bool) (current : UInt32) (settings : Settings)
    (directory : Path) (store : PolicyStore) (tree : world.disk.IsTree) :
    (start runtime current settings directory store world).2.disk.IsTree :=
  (start_within Frame.tree_roomy.logs
    (Frame.tree_roomy.ofSteps (Disk.makePrivateDirectory_changes directory))
    runtime current settings store world tree).holds

theorem begin_isTree (call : Call) (manager : Manager) (tree : world.disk.IsTree) :
    (call.begin manager world).2.disk.IsTree := by
  have hands (request : InstallRequest) : (Effect.handOver request).Within .tree :=
    Effect.handOver_within Frame.tree_roomy.logs fun _ tree => ⟨trivial, tree⟩
  exact (tree_bounded.begin call (fun _ _ => tree_bounded.requestInstall hands _)
    manager world trivial tree).1.holds

end Manager

end SelfUpdate
