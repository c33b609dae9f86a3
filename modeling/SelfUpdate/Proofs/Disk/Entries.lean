import Mathlib.Data.List.Induction
import SelfUpdate.Disk.Operation

/-!
# What is where after a change

Each elementary change of a disk is given by the entries found afterwards. A disk is a tree when all
entries lie in directories and no file has an identity that is still to be given out.
-/

namespace SelfUpdate

namespace Node

/-- A node whose content was changed, if it is the file with the given identity. -/
def alter (identity : Nat) (change : Bytes → Bytes) : Node → Node
  | file i mode bytes => if i = identity then file i mode (change bytes) else file i mode bytes
  | node => node

@[simp] theorem isDirectory_alter (identity : Nat) (change : Bytes → Bytes) (node : Node) :
    (node.alter identity change).isDirectory = node.isDirectory := by
  cases node with
  | directory mode => rfl
  | file i mode bytes => simp only [alter]; split <;> rfl
  | link target => rfl

@[simp] theorem identity?_alter (identity : Nat) (change : Bytes → Bytes) (node : Node) :
    (node.alter identity change).identity? = node.identity? := by
  cases node with
  | directory mode => rfl
  | file i mode bytes => simp only [alter]; split <;> rfl
  | link target => rfl

@[simp] theorem alter_eq_link {identity : Nat} {change : Bytes → Bytes} {node : Node}
    {target : Path} : node.alter identity change = link target ↔ node = link target := by
  cases node with
  | directory mode => simp [alter]
  | file i mode bytes => simp only [alter]; split <;> simp
  | link target => simp [alter]

@[simp] theorem alter_id (identity : Nat) (node : Node) : node.alter identity id = node := by
  cases node with
  | directory mode => rfl
  | file i mode bytes => simp [alter]
  | link target => rfl

/-- Only the file with the given identity changes. -/
theorem alter_of_ne {identity : Nat} {change : Bytes → Bytes} {node : Node}
    (other : node.identity? ≠ some identity) : node.alter identity change = node := by
  cases node with
  | directory mode => rfl
  | file i mode bytes =>
      have distinct : i ≠ identity := by simpa [identity?] using other
      simp [alter, distinct]
  | link target => rfl

end Node

namespace Disk

variable {disk : Disk} {location other directory : Location} {node : Node} {name : String}

/-! ## Single entries -/

@[simp] theorem get?_root (disk : Disk) : disk.get? [] = some (.directory directoryMode) := rfl

theorem get?_eq_find (named : location ≠ []) :
    disk.get? location =
      (disk.entries.find? (fun entry => entry.1 == location)).map Prod.snd := by
  simp [get?, named]

theorem mem_entries_of_get? (named : location ≠ []) (found : disk.get? location = some node) :
    (location, node) ∈ disk.entries := by
  rw [get?_eq_find named] at found
  obtain ⟨⟨at_, _⟩, first, rfl⟩ := Option.map_eq_some_iff.mp found
  obtain rfl : at_ = location := by simpa using List.find?_some first
  exact List.mem_of_find?_eq_some first

/-- An entry is found wherever one is listed. -/
theorem isSome_get?_iff (named : location ≠ []) :
    (disk.get? location).isSome ↔ ∃ node, (location, node) ∈ disk.entries := by
  rw [get?_eq_find named, Option.isSome_map, List.find?_isSome]
  constructor
  · rintro ⟨⟨at_, node⟩, listed, same⟩
    obtain rfl : at_ = location := by simpa using same
    exact ⟨node, listed⟩
  · rintro ⟨node, listed⟩
    exact ⟨(location, node), listed, by simp⟩

/-- Looking up after every entry of one location was replaced. -/
theorem find?_replace (entries : List (Location × Node)) (location other : Location)
    (node : Node) :
    ((entries.map fun entry => if entry.1 == location then (location, node) else entry).find?
      fun entry => entry.1 == other).map Prod.snd =
    if other = location then
      if entries.any (fun entry => entry.1 == location) then some node else none
    else (entries.find? fun entry => entry.1 == other).map Prod.snd := by
  induction entries with
  | nil => simp
  | cons first rest ih =>
      by_cases here : first.1 = location
      · by_cases same : other = location
        · simp [here, same]
        · have missed : location ≠ other := Ne.symm same
          simpa [here, same, missed, List.find?_cons] using ih
      · by_cases found : first.1 = other
        · have apart : other ≠ location := fun same => here (found.trans same)
          simp [apart, found]
        · have differs : (first.1 == location) = false := by simpa using here
          simpa only [List.map_cons, List.find?_cons, List.any_cons, here, differs, found,
            beq_eq_false_iff_ne.mpr found, Bool.false_or, Bool.false_eq_true, if_false] using ih

theorem get?_put (disk : Disk) (node : Node) (other : Location) (named : location ≠ []) :
    (disk.put location node).get? other =
      if other = location then some node else disk.get? other := by
  by_cases root : other = []
  · subst root
    simp [Ne.symm named]
  · rw [get?_eq_find root, get?_eq_find root, put]
    split
    · rename_i present
      simp only [find?_replace, present, if_true]
    · rename_i absent
      have missing : disk.entries.find? (fun entry => entry.1 == location) = none := by
        rw [List.find?_eq_none]
        intro entry listed held
        exact absent (List.any_eq_true.mpr ⟨entry, listed, held⟩)
      by_cases same : other = location
      · subst same
        simp [List.find?_append, missing]
      · have missed : ¬ location = other := fun h => same h.symm
        simp [List.find?_append, same, missed]

/-- Removing an entry removes everything below it, and nothing else. -/
theorem get?_erase (disk : Disk) (other : Location) (named : location ≠ []) :
    (disk.erase location).get? other =
      if location <+: other then none else disk.get? other := by
  by_cases root : other = []
  · subst root
    simp [named]
  · rw [get?_eq_find root, get?_eq_find root, erase, List.find?_filter]
    by_cases below : location <+: other
    · rw [if_pos below, Option.map_eq_none_iff, List.find?_eq_none]
      intro entry _ held
      obtain ⟨kept, found⟩ := of_decide_eq_true held
      rw [eq_of_beq found, List.isPrefixOf_iff_prefix.mpr below] at kept
      cases kept
    · have same : (fun entry : Location × Node => decide
          ((!location.isPrefixOf entry.1) = true ∧ (entry.1 == other) = true)) =
          fun entry => entry.1 == other := by
        funext entry
        by_cases found : entry.1 = other
        · have kept : location.isPrefixOf other = false := by
            rw [Bool.eq_false_iff, ne_eq, List.isPrefixOf_iff_prefix]
            exact below
          simp [found, kept]
        · simp [found]
      rw [if_neg below, same]

/-- What is there after a removal was there before it. -/
theorem get?_of_erase (named : location ≠ [])
    (found : (disk.erase location).get? other = some node) : disk.get? other = some node := by
  rw [get?_erase _ _ named] at found
  split at found
  · cases found
  · exact found

theorem modifyFile_eq (disk : Disk) (identity : Nat) (change : Bytes → Bytes) :
    disk.modifyFile identity change =
      { disk with
        entries := disk.entries.map fun entry => (entry.1, entry.2.alter identity change) } := by
  rw [modifyFile]
  congr 1
  refine List.map_congr_left fun entry _ => ?_
  obtain ⟨at_, node⟩ := entry
  cases node with
  | directory mode => rfl
  | file i mode bytes => simp only [Node.alter]; split <;> rfl
  | link target => rfl

theorem get?_modifyFile (disk : Disk) (identity : Nat) (change : Bytes → Bytes)
    (other : Location) :
    (disk.modifyFile identity change).get? other =
      (disk.get? other).map (Node.alter identity change) := by
  by_cases root : other = []
  · subst root
    rfl
  · rw [modifyFile_eq, get?_eq_find root, get?_eq_find root, List.find?_map]
    simp [Function.comp_def]

theorem get?_putNewFile (disk : Disk) (mode : Nat) (bytes : Bytes) (other : Location)
    (named : location ≠ []) :
    (disk.putNewFile location mode bytes).get? other =
      if other = location then some (.file disk.freshIdentity mode bytes)
      else disk.get? other :=
  get?_put disk _ other named

/-- Looking up after all locations were renamed, where only `source` became `target`. -/
theorem find?_relabel (entries : List (Location × Node)) (relabel : Location → Location)
    {source target : Location}
    (only : ∀ entry ∈ entries, relabel entry.1 = target ↔ entry.1 = source) :
    ((entries.map fun entry => (relabel entry.1, entry.2)).find?
      fun entry => entry.1 == target).map Prod.snd =
    (entries.find? fun entry => entry.1 == source).map Prod.snd := by
  induction entries with
  | nil => rfl
  | cons first rest ih =>
      have later := ih fun entry listed => only entry (List.mem_cons_of_mem _ listed)
      have here := only first List.mem_cons_self
      by_cases found : first.1 = source
      · rw [List.map_cons, List.find?_cons_of_pos (by simpa using here.mpr found),
          List.find?_cons_of_pos (by simpa using found)]
        rfl
      · have missed : relabel first.1 ≠ target := fun same => found (here.mp same)
        rw [List.map_cons, List.find?_cons_of_neg (by simpa using missed),
          List.find?_cons_of_neg (by simpa using found)]
        exact later

/-- Where a location ends up by a move. -/
def relocated (source target location : Location) : Location :=
  if source.isPrefixOf location then target ++ location.drop source.length else location

theorem relocated_below (source target rest : Location) :
    relocated source target (source ++ rest) = target ++ rest := by
  simp [relocated]

theorem relocated_aside {source : Location} (target : Location)
    (outside : ¬ source <+: location) : relocated source target location = location := by
  rw [relocated, if_neg (by rwa [List.isPrefixOf_iff_prefix])]

theorem entries_move (disk : Disk) (source target : Location) :
    (disk.move source target).entries =
      disk.entries.map fun entry => (relocated source target entry.1, entry.2) := by
  refine List.map_congr_left fun entry _ => ?_
  simp only [relocated]
  split <;> rfl

/-- Looking up after a move: below the target is what was below the source, which is empty then. -/
theorem get?_move (disk : Disk) {source target : Location} (other : Location)
    (sourceNamed : source ≠ []) (targetNamed : target ≠ [])
    (free : ∀ rest, disk.get? (target ++ rest) = none) :
    (disk.move source target).get? other =
      if target <+: other then disk.get? (source ++ other.drop target.length)
      else if source <+: other then none else disk.get? other := by
  by_cases root : other = []
  · subst root
    simp [sourceNamed, targetNamed]
  have unlisted : ∀ entry ∈ disk.entries, ¬ target <+: entry.1 := by
    rintro ⟨at_, node⟩ listed ⟨rest, rfl⟩
    have present : (disk.get? (target ++ rest)).isSome :=
      (isSome_get?_iff (by simp [targetNamed])).mpr ⟨node, listed⟩
    simp [free rest] at present
  rw [get?_eq_find root, entries_move]
  split
  · rename_i below
    obtain ⟨rest, rfl⟩ := below
    rw [List.drop_left, get?_eq_find (by simp [sourceNamed])]
    apply find?_relabel
    intro entry listed
    by_cases inside : source <+: entry.1
    · obtain ⟨tail, same⟩ := inside
      rw [← same, relocated_below, List.append_cancel_left_eq, List.append_cancel_left_eq]
    · rw [relocated_aside target inside]
      constructor
      · intro same
        exact absurd ⟨rest, same.symm⟩ (unlisted entry listed)
      · intro same
        exact absurd ⟨rest, same.symm⟩ inside
  · rename_i outside
    split
    · rename_i left
      rw [Option.map_eq_none_iff, List.find?_eq_none]
      intro moved listed found
      obtain ⟨entry, -, rfl⟩ := List.mem_map.mp listed
      replace found : relocated source target entry.1 = other := by simpa using found
      by_cases inside : source <+: entry.1
      · obtain ⟨tail, same⟩ := inside
        rw [← same, relocated_below] at found
        exact outside ⟨tail, found⟩
      · rw [relocated_aside target inside] at found
        exact inside (found ▸ left)
    · rename_i aside
      rw [get?_eq_find root]
      apply find?_relabel
      intro entry _
      by_cases inside : source <+: entry.1
      · obtain ⟨tail, same⟩ := inside
        rw [← same, relocated_below]
        constructor
        · intro found
          exact absurd ⟨tail, found⟩ outside
        · intro found
          exact absurd ⟨tail, found⟩ aside
      · rw [relocated_aside target inside]

/-! ## Directories -/

@[simp] theorem isDirectoryAt_root (disk : Disk) : disk.isDirectoryAt [] = true := rfl

theorem isDirectoryAt_of_get? (found : disk.get? location = some node) :
    disk.isDirectoryAt location = node.isDirectory := by
  rw [isDirectoryAt, found, Option.any_some]

theorem isDirectoryAt_iff :
    disk.isDirectoryAt location = true ↔ ∃ mode, disk.get? location = some (.directory mode) := by
  rw [isDirectoryAt]
  cases disk.get? location with
  | none => simp
  | some node => cases node <;> simp [Node.isDirectory]

theorem mem_children_iff :
    name ∈ disk.children location ↔ (disk.get? (location ++ [name])).isSome := by
  rw [isSome_get?_iff (by simp), children, List.mem_filterMap]
  constructor
  · rintro ⟨⟨at_, node⟩, listed, found⟩
    split at found
    · rename_i inside
      obtain rfl : at_.dropLast = location := eq_of_beq inside
      have named : at_ ≠ [] := by
        rintro rfl
        cases found
      have last : at_.getLast named = name := by
        rw [List.getLast?_eq_some_getLast named] at found
        exact Option.some.inj found
      rw [← last, List.dropLast_concat_getLast named]
      exact ⟨node, listed⟩
    · cases found
  · rintro ⟨node, listed⟩
    exact ⟨(location ++ [name], node), listed, by simp⟩

/-! ## Trees -/

/-- Every entry lies in a directory, and identities that are still to be given out are unused. -/
structure IsTree (disk : Disk) : Prop where
  parent : ∀ location name, (disk.get? (location ++ [name])).isSome →
    disk.isDirectoryAt location = true
  fresh : ∀ location identity mode bytes,
    disk.get? location = some (.file identity mode bytes) → identity < disk.freshIdentity

namespace IsTree

theorem empty : IsTree Disk.empty where
  parent location name found := by simp [get?, Disk.empty] at found
  fresh location identity mode bytes found := by
    rw [get?] at found
    split at found <;> simp [Disk.empty] at found

/-- It is enough to look at what is listed. -/
theorem of_entries
    (inside : ∀ entry ∈ disk.entries, disk.isDirectoryAt entry.1.dropLast = true)
    (known : ∀ entry ∈ disk.entries, ∀ identity ∈ entry.2.identity?,
      identity < disk.freshIdentity) : disk.IsTree where
  parent location name present := by
    obtain ⟨node, listed⟩ := (isSome_get?_iff (by simp)).mp present
    simpa using inside _ listed
  fresh location identity mode bytes found := by
    by_cases root : location = []
    · subst root
      cases found
    · exact known _ (mem_entries_of_get? root found) identity rfl

/-- What lies above an entry is a directory. -/
theorem isDirectoryAt_of_prefix (tree : disk.IsTree) {above : Location}
    (present : (disk.get? location).isSome) (inside : above <+: location)
    (proper : above ≠ location) : disk.isDirectoryAt above = true := by
  induction location using List.reverseRecOn with
  | nil => exact absurd (List.prefix_nil.mp inside) proper
  | append_singleton rest name ih =>
      have parent := tree.parent rest name present
      rcases List.prefix_concat_iff.mp inside with same | shorter
      · exact absurd same proper
      · by_cases here : above = rest
        · exact here ▸ parent
        · obtain ⟨mode, found⟩ := isDirectoryAt_iff.mp parent
          exact ih (by simp [found]) shorter here

/-- Nothing lies below a place that is no directory. -/
theorem get?_below (tree : disk.IsTree) (noDirectory : disk.isDirectoryAt location = false)
    (inside : location <+: other) (proper : location ≠ other) : disk.get? other = none := by
  cases found : disk.get? other with
  | none => rfl
  | some node =>
      have directory := tree.isDirectoryAt_of_prefix (by simp [found]) inside proper
      simp [noDirectory] at directory

/-- When no directory is removed, nothing else goes with it. -/
theorem get?_erase_solid (tree : disk.IsTree) (named : location ≠ [])
    (solid : disk.isDirectoryAt location = false) (other : Location) :
    (disk.erase location).get? other = if other = location then none else disk.get? other := by
  rw [get?_erase _ _ named]
  by_cases here : other = location
  · rw [if_pos here, here, if_pos (List.prefix_refl _)]
  · rw [if_neg here]
    split
    · rename_i below
      exact (tree.get?_below solid below (Ne.symm here)).symm
    · rfl

end IsTree

end Disk

end SelfUpdate
