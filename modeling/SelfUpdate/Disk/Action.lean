import SelfUpdate.Disk.Operation

/-!
# Actions of others on a disk

What other programs may do to the disk while the updater runs.
-/

namespace SelfUpdate.Disk

inductive Action where
  | write (path : Path) (bytes : Bytes)
  | makeDirectories (path : Path)
  | remove (path : Path)
  | link (path target : Path)
  | rename (path target : Path)
  deriving Repr

def Action.run : Action → Steps Unit
  | write path bytes => Steps.of (·.writeFile path bytes)
  | makeDirectories path => Disk.makeDirectories path
  | remove path => Steps.of (·.removeAll path)
  | link path target => Steps.of (·.makeLink path target)
  | rename path target => Steps.of (·.rename path target)

/-- What a disk becomes by an action, which may fail. -/
def afterAction (disk : Disk) (action : Action) : Disk := (action.run disk).2

def afterActions (disk : Disk) (actions : List Action) : Disk :=
  actions.foldl afterAction disk

end SelfUpdate.Disk
