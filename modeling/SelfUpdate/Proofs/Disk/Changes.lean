import Mathlib.Logic.Relation
import SelfUpdate.Disk.Action
import SelfUpdate.Proofs.Disk.Operations

/-!
# Elementary changes

Whatever is done to a disk, save making links, is a sequence of elementary changes. Each of them keeps
a tree a tree, and a disk without links stays without them.
-/

namespace SelfUpdate.Disk

variable {disk before after : Disk} {location target : Location} {node : Node}

/-- A disk on which nothing is a symbolic link. -/
def LinkFree (disk : Disk) : Prop :=
  ∀ location target, disk.get? location ≠ some (.link target)

theorem LinkFree.of_entries (solid : ∀ entry ∈ disk.entries, ∀ target, entry.2 ≠ .link target) :
    disk.LinkFree := by
  intro location target found
  by_cases root : location = []
  · subst root
    cases found
  · exact solid _ (mem_entries_of_get? root found) target rfl

/-- One elementary change that makes no link. -/
inductive Change : Disk → Disk → Prop where
  | makeDirectory {disk : Disk} {location : Location} (mode : Nat) (named : location ≠ [])
      (vacant : disk.get? location = none)
      (inside : disk.isDirectoryAt location.dropLast = true) :
      Change disk (disk.put location (.directory mode))
  | makeFile {disk : Disk} {location : Location} (mode : Nat) (bytes : Bytes)
      (named : location ≠ []) (vacant : disk.get? location = none)
      (inside : disk.isDirectoryAt location.dropLast = true) :
      Change disk (disk.putNewFile location mode bytes)
  | setMode {disk : Disk} {location : Location} {old node : Node}
      (found : disk.get? location = some old) (kind : node.isDirectory = old.isDirectory)
      (identity : node.identity? = old.identity?) (solid : ∀ target, node ≠ .link target) :
      Change disk (disk.put location node)
  | alter {disk : Disk} (identity : Nat) (change : Bytes → Bytes) :
      Change disk (disk.modifyFile identity change)
  | remove {disk : Disk} {location : Location} (named : location ≠ []) :
      Change disk (disk.erase location)
  | move {disk : Disk} {source target : Location} {node : Node}
      (found : disk.get? source = some node) (named : target ≠ [])
      (outside : ¬ source <+: target) (aside : ¬ target <+: source)
      (inside : disk.isDirectoryAt target.dropLast = true) :
      Change disk ((disk.erase target).move source target)

/-! ## Lookups -/

/-- Nothing but the mode of the root is lost when it is set. -/
theorem get?_put_root (disk : Disk) (node : Node) (other : Location) :
    (disk.put [] node).get? other = disk.get? other := by
  by_cases root : other = []
  · subst root
    rfl
  · rw [get?_eq_find root, get?_eq_find root, put]
    split
    · rw [find?_replace, if_neg root]
    · simp [List.find?_append, root]

theorem freshIdentity_le_put (disk : Disk) (location : Location) (node : Node) :
    disk.freshIdentity ≤ (disk.put location node).freshIdentity := by
  simp only [put]
  split <;> exact Nat.le_refl _

theorem get?_erase_below (disk : Disk) (named : target ≠ []) (rest : Location) :
    (disk.erase target).get? (target ++ rest) = none := by
  rw [get?_erase disk _ named, if_pos (List.prefix_append _ _)]

/-- Looking up after an entry has taken the place of another. -/
theorem get?_erase_move (disk : Disk) {source : Location} (other : Location)
    (sourceNamed : source ≠ []) (named : target ≠ []) (outside : ¬ source <+: target)
    (aside : ¬ target <+: source) :
    ((disk.erase target).move source target).get? other =
      if target <+: other then disk.get? (source ++ other.drop target.length)
      else if source <+: other then none else disk.get? other := by
  rw [get?_move _ other sourceNamed named (get?_erase_below disk named)]
  split
  · rw [get?_erase disk _ named, if_neg]
    intro within
    rcases List.prefix_or_prefix_of_prefix within (List.prefix_append source _) with up | down
    · exact aside up
    · exact outside down
  · split
    · rfl
    · rw [get?_erase disk _ named, if_neg]
      assumption

theorem source_ne_nil {source : Location} (outside : ¬ source <+: target) : source ≠ [] := by
  rintro rfl
  exact outside List.nil_prefix

namespace Change

theorem workingDirectory (change : Change before after) :
    after.workingDirectory = before.workingDirectory := by
  cases change with
  | makeDirectory | makeFile | setMode => simp only [putNewFile, put]; split <;> rfl
  | alter | remove | move => rfl

theorem sealedDirectories (change : Change before after) :
    after.sealedDirectories = before.sealedDirectories := by
  cases change with
  | makeDirectory | makeFile | setMode => simp only [putNewFile, put]; split <;> rfl
  | alter | remove | move => rfl

theorem freshIdentity_le (change : Change before after) :
    before.freshIdentity ≤ after.freshIdentity := by
  cases change with
  | makeDirectory | setMode => exact freshIdentity_le_put _ _ _
  | makeFile => exact Nat.le_succ _
  | alter | remove | move => exact Nat.le_refl _

theorem linkFree (change : Change before after) (linkFree : before.LinkFree) :
    after.LinkFree := by
  intro other target found
  cases change with
  | makeDirectory mode named vacant inside =>
      rw [get?_put _ _ _ named] at found
      split at found
      · cases found
      · exact linkFree _ _ found
  | makeFile mode bytes named vacant inside =>
      rw [get?_putNewFile _ _ _ _ named] at found
      split at found
      · cases found
      · exact linkFree _ _ found
  | @setMode location old node there kind identity solid =>
      by_cases root : location = []
      · subst root
        rw [get?_put_root] at found
        exact linkFree _ _ found
      · rw [get?_put _ _ _ root] at found
        split at found
        · exact solid target (Option.some.inj found)
        · exact linkFree _ _ found
  | alter identity change =>
      rw [get?_modifyFile, Option.map_eq_some_iff] at found
      obtain ⟨node, there, same⟩ := found
      exact linkFree other target (there.trans (congrArg some (Node.alter_eq_link.mp same)))
  | remove named => exact linkFree _ _ (get?_of_erase named found)
  | move there named outside aside inside =>
      rw [get?_erase_move _ _ (source_ne_nil outside) named outside aside] at found
      split at found
      · exact linkFree _ _ found
      · split at found
        · cases found
        · exact linkFree _ _ found

/-! ## Trees -/

end Change

theorem isDirectoryAt_put (disk : Disk) (node : Node) (other : Location) (named : location ≠ []) :
    (disk.put location node).isDirectoryAt other =
      if other = location then node.isDirectory else disk.isDirectoryAt other := by
  rw [isDirectoryAt, get?_put _ _ _ named]
  split <;> rfl

namespace IsTree

theorem identity_lt (tree : disk.IsTree) (found : disk.get? location = some node) {identity : Nat}
    (same : node.identity? = some identity) : identity < disk.freshIdentity := by
  cases node with
  | directory mode => cases same
  | link target => cases same
  | file own mode bytes =>
      cases same
      exact tree.fresh location _ mode bytes found

/-- An entry is put into a tree, over one of its kind if there is one. -/
theorem of_put (tree : disk.IsTree) (named : location ≠ [])
    (inside : disk.isDirectoryAt location.dropLast = true)
    (kind : disk.isDirectoryAt location = true → node.isDirectory = true)
    (same : ∀ other, after.get? other = (disk.put location node).get? other)
    (later : disk.freshIdentity ≤ after.freshIdentity)
    (known : ∀ identity, node.identity? = some identity → identity < after.freshIdentity) :
    after.IsTree where
  parent above name found := by
    rw [isDirectoryAt, same, ← isDirectoryAt, isDirectoryAt_put _ _ _ named]
    rw [same, get?_put _ _ _ named] at found
    by_cases here : above ++ [name] = location
    · rw [← here, List.dropLast_concat] at inside
      rw [if_neg (by rintro rfl; simp at here)]
      exact inside
    · rw [if_neg here] at found
      have directory := tree.parent above name found
      split
      · rename_i same
        exact kind (same ▸ directory)
      · exact directory
  fresh other identity mode bytes found := by
    rw [same, get?_put _ _ _ named] at found
    split at found
    · exact known identity (by rw [Option.some.inj found]; rfl)
    · exact Nat.lt_of_lt_of_le (tree.fresh other identity mode bytes found) later

/-- What is looked up is looked up where it was before. -/
theorem of_lookups (tree : disk.IsTree)
    (old : ∀ other, (after.get? other).isSome → ∃ earlier, disk.get? earlier = after.get? other)
    (parent : ∀ above name, (after.get? (above ++ [name])).isSome →
      after.isDirectoryAt above = true)
    (later : disk.freshIdentity ≤ after.freshIdentity) : after.IsTree where
  parent := parent
  fresh other identity mode bytes found := by
    obtain ⟨earlier, same⟩ := old other (by rw [found]; rfl)
    exact Nat.lt_of_lt_of_le (tree.fresh earlier identity mode bytes (same.trans found)) later

/-- An entry becomes another of its kind. -/
protected theorem put (tree : disk.IsTree) {old : Node} (found : disk.get? location = some old)
    (kind : node.isDirectory = old.isDirectory) (identity : node.identity? = old.identity?) :
    (disk.put location node).IsTree := by
  have later := freshIdentity_le_put disk location node
  by_cases root : location = []
  · subst root
    have same := get?_put_root disk node
    refine tree.of_lookups (fun other _ => ⟨other, (same other).symm⟩) ?_ later
    intro above name listed
    rw [same] at listed
    rw [isDirectoryAt, same]
    exact tree.parent above name listed
  · have whole := List.dropLast_concat_getLast root
    have inside := tree.parent location.dropLast (location.getLast root) (by rw [whole, found]; rfl)
    refine tree.of_put root inside ?_ (fun _ => rfl) later ?_
    · intro directory
      rw [kind]
      simpa [isDirectoryAt, found] using directory
    · intro i same
      exact Nat.lt_of_lt_of_le (tree.identity_lt found (identity ▸ same)) later

protected theorem modifyFile (tree : disk.IsTree) (identity : Nat) (change : Bytes → Bytes) :
    (disk.modifyFile identity change).IsTree := by
  constructor
  · intro above name found
    rw [get?_modifyFile, Option.isSome_map] at found
    obtain ⟨mode, there⟩ := isDirectoryAt_iff.mp (tree.parent above name found)
    rw [isDirectoryAt_iff, get?_modifyFile, there]
    exact ⟨mode, rfl⟩
  · intro other i mode bytes found
    rw [get?_modifyFile, Option.map_eq_some_iff] at found
    obtain ⟨node, there, same⟩ := found
    refine tree.identity_lt there ?_
    rw [← Node.identity?_alter identity change, same]
    rfl

protected theorem erase (tree : disk.IsTree) (named : target ≠ []) : (disk.erase target).IsTree := by
  refine tree.of_lookups (fun other found => ⟨other, ?_⟩) ?_ (Nat.le_refl _)
  · rw [get?_erase _ _ named] at found ⊢
    split at found
    · cases found
    · rw [if_neg ‹_›]
  · intro above name found
    rw [get?_erase _ _ named] at found
    split at found
    · cases found
    · rename_i outside
      rw [isDirectoryAt, get?_erase _ _ named, if_neg, ← isDirectoryAt]
      · exact tree.parent above name found
      · intro within
        exact outside (within.trans (List.prefix_append _ _))

/-- An entry takes the place of another. -/
theorem erase_move (tree : disk.IsTree) {source : Location} (named : target ≠ [])
    (outside : ¬ source <+: target) (aside : ¬ target <+: source)
    (inside : disk.isDirectoryAt target.dropLast = true) :
    ((disk.erase target).move source target).IsTree := by
  have lookup := fun other => get?_erase_move disk other (source_ne_nil outside) named outside aside
  refine tree.of_lookups ?_ ?_ (Nat.le_refl _)
  · intro other found
    rw [lookup] at found ⊢
    split at found
    · exact ⟨_, by rw [if_pos ‹_›]⟩
    · split at found
      · cases found
      · exact ⟨other, by rw [if_neg ‹_›, if_neg ‹_›]⟩
  · intro above name found
    rw [lookup] at found
    rw [isDirectoryAt, lookup]
    by_cases below : target <+: above ++ [name]
    · rw [if_pos below] at found
      rcases List.prefix_concat_iff.mp below with here | ⟨rest, rfl⟩
      · -- the entry itself was moved, so its directory is where it always was
        have up : ¬ target <+: above := fun within => by
          have length := within.length_le
          rw [here, List.length_append] at length
          exact Nat.not_succ_le_self _ length
        have left : ¬ source <+: above := fun within =>
          outside (here ▸ within.trans (List.prefix_append _ _))
        rw [if_neg up, if_neg left, ← isDirectoryAt]
        rwa [here, List.dropLast_concat] at inside
      · rw [List.append_assoc, List.drop_left, ← List.append_assoc] at found
        rw [if_pos (List.prefix_append _ _), List.drop_left]
        exact tree.parent _ _ found
    · rw [if_neg below] at found
      split at found
      · cases found
      · rename_i left
        rw [if_neg fun within => below (within.trans (List.prefix_append _ _)),
          if_neg fun within => left (within.trans (List.prefix_append _ _)), ← isDirectoryAt]
        exact tree.parent above name found

end IsTree

namespace Change

theorem isTree (change : Change before after) (tree : before.IsTree) : after.IsTree := by
  cases change with
  | makeDirectory mode named vacant inside =>
      refine tree.of_put named inside (fun _ => rfl) (fun _ => rfl) (freshIdentity_le_put _ _ _) ?_
      intro identity same
      cases same
  | makeFile mode bytes named vacant inside =>
      refine tree.of_put named inside ?_ (fun other => rfl) (Nat.le_succ _) ?_
      · intro directory
        simp [isDirectoryAt, vacant] at directory
      · intro identity same
        cases same
        exact Nat.lt_succ_self _
  | setMode found kind identity solid => exact tree.put found kind identity
  | alter identity change => exact tree.modifyFile identity change
  | remove named => exact tree.erase named
  | move there named outside aside inside => exact tree.erase_move named outside aside inside

end Change

/-! ## Sequences of changes -/

/-- Elementary changes, one after another. -/
abbrev Changes : Disk → Disk → Prop := Relation.ReflTransGen Change

namespace Changes

theorem workingDirectory (changes : Changes before after) :
    after.workingDirectory = before.workingDirectory := by
  induction changes with
  | refl => rfl
  | tail _ change ih => exact change.workingDirectory.trans ih

theorem sealedDirectories (changes : Changes before after) :
    after.sealedDirectories = before.sealedDirectories := by
  induction changes with
  | refl => rfl
  | tail _ change ih => exact change.sealedDirectories.trans ih

theorem freshIdentity_le (changes : Changes before after) :
    before.freshIdentity ≤ after.freshIdentity := by
  induction changes with
  | refl => exact Nat.le_refl _
  | tail _ change ih => exact Nat.le_trans ih change.freshIdentity_le

theorem linkFree (changes : Changes before after) (linkFree : before.LinkFree) :
    after.LinkFree := by
  induction changes with
  | refl => exact linkFree
  | tail _ change ih => exact change.linkFree ih

theorem isTree (changes : Changes before after) (tree : before.IsTree) : after.IsTree := by
  induction changes with
  | refl => exact tree
  | tail _ change ih => exact change.isTree ih

end Changes

/-! ## What operations change -/

section

variable {path : Path}

theorem makeDirectory_eq_ok (done : disk.makeDirectory path = .ok after) :
    ∃ location, disk.Names path location ∧ disk.get? location = none ∧
      after = disk.put location (.directory directoryMode) := by
  rw [makeDirectory] at done
  obtain ⟨spot, placed, done⟩ := bind_eq_ok_iff.mp done
  obtain ⟨location, located, done⟩ := bind_eq_ok_iff.mp done
  obtain ⟨text, last, short, rfl⟩ := locate_place_eq_ok_iff.mp located
  cases found : disk.get? (spot.directory ++ [text]) with
  | some node => simp [found] at done
  | none =>
      by_cases locked : disk.isSealed spot.directory = true
      · simp [found, locked] at done
      · simp only [found, Option.isSome_none, Bool.false_eq_true, if_false, if_neg locked] at done
        cases done
        exact ⟨_, ⟨spot, text, placed, last, short, rfl⟩, found, rfl⟩

theorem removeFile_change (done : disk.removeFile path = .ok after) : Change disk after := by
  obtain ⟨location, node, names, -, -, rfl⟩ := removeFile_eq_ok done
  exact .remove names.ne_nil

theorem removeAll_change (done : disk.removeAll path = .ok after) : Change disk after := by
  rw [removeAll] at done
  obtain ⟨spot, -, done⟩ := bind_eq_ok_iff.mp done
  cases spot with
  | vacant directory name => cases done
  | occupied location =>
      by_cases root : location = []
      · simp [root] at done
      · by_cases locked : disk.isSealed location.dropLast = true
        · simp [root, locked] at done
        · simp only [List.isEmpty_iff, root, if_false, if_neg locked] at done
          cases done
          exact .remove root

theorem renameFrom_changes {source : Location} (done : disk.renameFrom source path = .ok after) :
    Changes disk after := by
  obtain ⟨target, node, names, found, ⟨-, rfl⟩ | ⟨outside, aside, -, rfl⟩⟩ := renameFrom_eq_ok done
  · exact .refl
  · exact .single (.move found names.ne_nil outside aside names.isDirectoryAt)

theorem rename_changes {source : Path} (done : disk.rename source path = .ok after) :
    Changes disk after := by
  obtain ⟨location, -, moved⟩ := rename_eq_ok done
  exact renameFrom_changes moved

theorem createNew_change {handle : Handle} (done : disk.createNew path = .ok (handle, after)) :
    Change disk after := by
  obtain ⟨location, names, vacant, -, rfl⟩ := createNew_eq_ok done
  exact .makeFile _ _ names.ne_nil vacant names.isDirectoryAt

/-- Writing changes the content of one file at most. -/
theorem get?_write (disk : Disk) (handle : Handle) (bytes : Bytes) :
    ∃ change, ∀ other, (disk.write handle bytes).2.get? other =
      (disk.get? other).map (Node.alter handle.identity change) := by
  rw [write]
  split
  · exact ⟨id, fun other => by cases disk.get? other <;> simp⟩
  · exact ⟨_, fun other => get?_modifyFile _ _ _ _⟩

theorem write_changes (disk : Disk) (handle : Handle) (bytes : Bytes) :
    Changes disk (disk.write handle bytes).2 := by
  rw [write]
  split
  · exact .refl
  · exact .single (.alter _ _)

theorem setMode_change {mode : Nat} (done : disk.setMode path mode = .ok after) :
    Change disk after := by
  rw [setMode] at done
  obtain ⟨location, -, done⟩ := bind_eq_ok_iff.mp done
  cases found : disk.get? location with
  | none => simp [found] at done
  | some node =>
      cases node with
      | link target => simp [found] at done
      | directory old =>
          simp only [found, pure_eq_ok, Except.ok.injEq] at done
          exact done ▸ .setMode found rfl rfl (fun target same => by cases same)
      | file identity old bytes =>
          simp only [found, pure_eq_ok, Except.ok.injEq] at done
          exact done ▸ .setMode found rfl rfl (fun target same => by cases same)

/-- A name that is missing is missing in a directory. -/
theorem walk_vacant {purpose : Purpose} {links : Nat} {start directory : Location}
    {pieces : List String} {name : String}
    (walked : disk.walk purpose links start pieces = .ok (.vacant directory name)) :
    disk.isDirectoryAt directory = true ∧ disk.get? (directory ++ [name]) = none := by
  fun_induction walk disk purpose links start pieces with
  | case3 _ _ _ _ _ _ ih => exact ih walked
  | case4 _ _ _ _ _ ih => exact ih walked
  | case7 links location piece rest inside _ _ _ _ missing last =>
      cases walked
      exact ⟨by simpa using inside, missing⟩
  | case11 _ _ _ _ _ _ _ _ _ _ _ _ ih => exact ih walked
  | case12 _ _ _ _ _ _ _ _ _ _ _ _ ih => exact ih walked
  | _ => cases walked

theorem openForWriting_eq_ok {identity : Nat}
    (done : disk.openForWriting path = .ok (identity, after)) :
    (∃ location mode bytes, disk.spot .creation path = .ok (.occupied location) ∧
        disk.get? location = some (.file identity mode bytes) ∧ after = disk) ∨
      ∃ directory name, disk.spot .creation path = .ok (.vacant directory name) ∧
        identity = disk.freshIdentity ∧
        after = disk.putNewFile (directory ++ [name]) fileMode [] := by
  rw [openForWriting] at done
  obtain ⟨spot, spotted, done⟩ := bind_eq_ok_iff.mp done
  cases spot with
  | occupied location =>
      left
      cases found : disk.get? location with
      | none => simp [found] at done
      | some node =>
          cases node with
          | directory mode => simp [found] at done
          | link target => simp [found] at done
          | file own mode bytes =>
              simp only [found, pure_eq_ok, Except.ok.injEq, Prod.mk.injEq] at done
              exact ⟨location, mode, bytes, spotted, by rw [found, done.1], done.2.symm⟩
  | vacant directory name =>
      right
      by_cases locked : disk.isSealed directory = true
      · simp [locked] at done
      · simp only [if_neg locked, pure_eq_ok, Except.ok.injEq, Prod.mk.injEq] at done
        exact ⟨directory, name, spotted, done.1.symm, done.2.symm⟩

theorem openForWriting_changes {identity : Nat}
    (done : disk.openForWriting path = .ok (identity, after)) : Changes disk after := by
  rcases openForWriting_eq_ok done with ⟨_, _, _, -, -, rfl⟩ | ⟨directory, name, spotted, -, rfl⟩
  · exact .refl
  · rw [Disk.spot] at spotted
    obtain ⟨_, -, walked⟩ := bind_eq_ok_iff.mp spotted
    obtain ⟨inside, vacant⟩ := walk_vacant walked
    exact .single (.makeFile _ _ (by simp) vacant (by rwa [List.dropLast_concat]))

theorem writeFile_changes {bytes : Bytes} (done : disk.writeFile path bytes = .ok after) :
    Changes disk after := by
  rw [writeFile] at done
  obtain ⟨⟨identity, opened⟩, opens, done⟩ := bind_eq_ok_iff.mp done
  cases done
  exact (openForWriting_changes opens).tail (.alter identity _)

theorem stepsOf_changes {operation : Disk → Except IoError Disk}
    (changes : ∀ {before after}, operation before = .ok after → Changes before after)
    (disk : Disk) : Changes disk (Steps.of operation disk).2 := by
  simp only [Steps.of, Failing.bind_run, Failing.get_run]
  cases done : operation disk with
  | ok after => exact changes done
  | error error => exact .refl

end

end SelfUpdate.Disk
