import Mathlib.Data.List.Basic
import SelfUpdate.Proofs.Disk.Canonical
import SelfUpdate.Proofs.Disk.Ways

/-!
# Disks behind a veil

Whoever looks at a disk through a veil does not see which file has which identity, nor what is at one
hidden place: there is always an empty file. As long as there is a file or nothing at that place, paths
lead where they lead without the veil, and what is done elsewhere comes to the same behind it.
-/

namespace SelfUpdate

namespace Node

/-- A node, whichever file it is. -/
def face : Node → Node
  | file _ mode bytes => file 0 mode bytes
  | node => node

@[simp] theorem face_directory (mode : Nat) : (directory mode).face = directory mode := rfl

@[simp] theorem face_file (identity mode : Nat) (bytes : Bytes) :
    (file identity mode bytes).face = file 0 mode bytes := rfl

@[simp] theorem face_face (node : Node) : node.face.face = node.face := by
  cases node <;> rfl

@[simp] theorem isDirectory_face (node : Node) : node.face.isDirectory = node.isDirectory := by
  cases node <;> rfl

@[simp] theorem isFile_face (node : Node) : node.face.isFile = node.isFile := by
  cases node <;> rfl

@[simp] theorem face_eq_directory {node : Node} {mode : Nat} :
    node.face = directory mode ↔ node = directory mode := by
  cases node <;> simp [face]

@[simp] theorem face_eq_link {node : Node} {target : Path} :
    node.face = link target ↔ node = link target := by
  cases node <;> simp [face]

/-- A content is changed alike, whichever file it is in. -/
theorem face_alter {node : Node} {identity : Nat} (own : node.identity? = some identity)
    (change : Bytes → Bytes) : (node.alter identity change).face = node.face.alter 0 change := by
  cases node with
  | directory mode => cases own
  | link target => cases own
  | file i mode bytes =>
      cases own
      simp [alter]

end Node

namespace Disk

variable {disk before after : Disk} {hidden : Option Location} {directory path : Path}
  {home location place source target : Location} {name : String} {node : Node}

/-- What is seen at the hidden place. -/
def veiledFile : Node := .file 0 fileMode []

/-- A disk without its identities and without what is at the hidden place. -/
def veil (hidden : Option Location) (disk : Disk) : Disk where
  entries := (hidden.map fun place => (place, veiledFile)).toList ++
    (disk.entries.filter fun entry => hidden != some entry.1).map fun entry =>
      (entry.1, entry.2.face)
  freshIdentity := 1
  workingDirectory := disk.workingDirectory
  sealedDirectories := disk.sealedDirectories

@[simp] theorem isSealed_veil (hidden : Option Location) (disk : Disk) (location : Location) :
    (disk.veil hidden).isSealed location = disk.isSealed location := rfl

theorem entries_veil_none (disk : Disk) :
    (disk.veil none).entries = disk.entries.map fun entry => (entry.1, entry.2.face) := by
  have all : disk.entries.filter (fun entry => none != some entry.1) = disk.entries :=
    List.filter_eq_self.mpr fun _ _ => rfl
  rw [veil, all]
  rfl

theorem entries_veil_some (disk : Disk) (place : Location) :
    (disk.veil (some place)).entries = (place, veiledFile) ::
      (disk.entries.filter fun entry => place != entry.1).map fun entry =>
        (entry.1, entry.2.face) := rfl

/-! ## What is seen -/

theorem get?_veil (named : hidden ≠ some []) (location : Location) :
    (disk.veil hidden).get? location =
      if hidden = some location then some veiledFile else (disk.get? location).map Node.face := by
  by_cases root : location = []
  · subst root
    rw [if_neg named]
    rfl
  rw [get?_eq_find root, get?_eq_find root]
  cases hidden with
  | none =>
      rw [if_neg nofun, entries_veil_none, List.find?_map, Option.map_map, Option.map_map]
      rfl
  | some place =>
      rw [entries_veil_some, List.find?_cons]
      by_cases here : place = location
      · simp [here]
      · have same : (fun entry : Location × Node => decide
            ((place != entry.1) = true ∧ (entry.1 == location) = true)) =
            fun entry => entry.1 == location := by
          funext entry
          by_cases found : entry.1 = location
          · simp [found, here]
          · simp [found]
        rw [if_neg (by simpa using here)]
        simp only [beq_eq_false_iff_ne.mpr here, List.find?_map, List.find?_filter,
          Function.comp_def, same, Option.map_map]

theorem get?_veil_of_ne (named : hidden ≠ some []) (aside : hidden ≠ some location) :
    (disk.veil hidden).get? location = (disk.get? location).map Node.face := by
  rw [get?_veil named, if_neg aside]

theorem children_veil (aside : ∀ name, hidden ≠ some (location ++ [name])) (named : hidden ≠ some []) :
    (disk.veil hidden).children location = disk.children location := by
  cases hidden with
  | none =>
      rw [children, children, entries_veil_none, List.filterMap_map]
      rfl
  | some place =>
      have unlisted : (if place.dropLast == location then place.getLast? else none) = none := by
        cases place using List.reverseRecOn with
        | nil => exact absurd rfl named
        | append_singleton above name =>
            rw [if_neg]
            simp only [List.dropLast_concat, beq_iff_eq]
            rintro rfl
            exact aside name rfl
      rw [children, children, entries_veil_some, List.filterMap_cons]
      simp only [unlisted]
      rw [List.filterMap_map, List.filterMap_filter]
      refine List.filterMap_congr fun entry _ => ?_
      by_cases here : place = entry.1
      · simpa [here] using unlisted.symm
      · simp [here]

attribute [ext] Disk

@[simp] theorem veil_veil (hidden : Option Location) (disk : Disk) :
    (disk.veil hidden).veil hidden = disk.veil hidden := by
  refine Disk.ext ?_ rfl rfl rfl
  cases hidden with
  | none =>
      rw [entries_veil_none, entries_veil_none, List.map_map]
      refine List.map_congr_left fun entry _ => ?_
      simp
  | some place =>
      rw [entries_veil_some, entries_veil_some, List.filter_cons_of_neg (by simp), List.filter_map]
      simp only [List.filter_filter, Function.comp_def, Bool.and_self, List.map_map, Node.face_face]

/-! ## What is done behind the veil -/

theorem veil_erase (outside : ∀ place, hidden = some place → ¬ location <+: place) :
    (disk.erase location).veil hidden = (disk.veil hidden).erase location := by
  refine Disk.ext ?_ rfl rfl rfl
  cases hidden with
  | none =>
      rw [erase, erase, entries_veil_none, entries_veil_none, List.filter_map]
      rfl
  | some place =>
      have kept : location.isPrefixOf place = false := by
        rw [Bool.eq_false_iff, ne_eq, List.isPrefixOf_iff_prefix]
        exact outside place rfl
      rw [erase, erase, entries_veil_some, entries_veil_some,
        List.filter_cons_of_pos (by simp [kept]), List.filter_map]
      simp only [List.filter_filter, Function.comp_def, Bool.and_comm]

/-- Entries are changed one by one. -/
theorem veil_map {change seen : Location × Node → Location × Node}
    (apart : ∀ entry ∈ disk.entries, hidden = some (change entry).1 ↔ hidden = some entry.1)
    (alike : ∀ entry ∈ disk.entries, hidden ≠ some entry.1 →
      ((change entry).1, (change entry).2.face) = seen (entry.1, entry.2.face))
    (still : ∀ place, hidden = some place → seen (place, veiledFile) = (place, veiledFile)) :
    ({ disk with entries := disk.entries.map change }).veil hidden =
      { disk.veil hidden with entries := (disk.veil hidden).entries.map seen } := by
  refine Disk.ext ?_ rfl rfl rfl
  cases hidden with
  | none =>
      simp only [entries_veil_none, List.map_map]
      exact List.map_congr_left fun entry listed => alike entry listed nofun
  | some place =>
      simp only [entries_veil_some, List.map_cons, still place rfl, List.filter_map, List.map_map,
        List.cons.injEq, true_and]
      have kept : disk.entries.filter ((fun entry => place != entry.1) ∘ change) =
          disk.entries.filter fun entry => place != entry.1 := by
        refine List.filter_congr fun entry listed => ?_
        have same := apart entry listed
        simp only [Option.some.injEq] at same
        rw [Function.comp_apply, Bool.eq_iff_iff, bne_iff_ne, bne_iff_ne, ne_eq, ne_eq, same]
      rw [kept]
      refine List.map_congr_left fun entry member => ?_
      obtain ⟨listed, aside⟩ := List.mem_filter.mp member
      exact alike entry listed (by simpa using aside)

theorem any_veil (aside : hidden ≠ some location) :
    (disk.veil hidden).entries.any (fun entry => entry.1 == location) =
      disk.entries.any fun entry => entry.1 == location := by
  cases hidden with
  | none =>
      rw [entries_veil_none, List.any_map]
      rfl
  | some place =>
      have differ : place ≠ location := fun same => aside (congrArg some same)
      rw [entries_veil_some, List.any_cons, List.any_map, List.any_filter,
        beq_eq_false_iff_ne.mpr differ, Bool.false_or]
      congr 1
      funext entry
      by_cases here : entry.1 = location
      · simp [here, differ]
      · simp [here]

theorem veil_put (aside : hidden ≠ some location) (node : Node) :
    (disk.put location node).veil hidden = (disk.veil hidden).put location node.face := by
  rw [put, put, any_veil aside]
  split
  · apply veil_map
    · intro entry _
      by_cases here : entry.1 = location <;> simp [here]
    · intro entry _ _
      by_cases here : entry.1 = location <;> simp [here]
    · rintro place rfl
      rw [if_neg]
      simpa using aside
  · refine Disk.ext ?_ rfl rfl rfl
    have shown : (hidden != some location) = true := by simpa using aside
    simp [veil, List.filter_append, shown]

theorem veil_putNewFile (aside : hidden ≠ some location) (mode : Nat) (bytes : Bytes) :
    (disk.putNewFile location mode bytes).veil hidden =
      (disk.veil hidden).put location (.file 0 mode bytes) :=
  veil_put aside (.file disk.freshIdentity mode bytes)

theorem veil_move (outside : ∀ place, hidden = some place → ¬ source <+: place ∧ ¬ target <+: place) :
    (disk.move source target).veil hidden = (disk.veil hidden).move source target := by
  apply veil_map
  · intro entry _
    split
    · rename_i below
      rw [List.isPrefixOf_iff_prefix] at below
      constructor
      · intro held
        exact absurd (List.prefix_append _ _) (outside _ held).2
      · intro held
        exact absurd below (outside _ held).1
    · rfl
  · intro entry _ _
    simp only
    split <;> rfl
  · intro place held
    rw [if_neg]
    rw [List.isPrefixOf_iff_prefix]
    exact (outside place held).1

/-! ## Files that are written to -/

/-- The file with an identity is what is listed at a location, and it is listed there only. -/
structure IsSole (disk : Disk) (identity : Nat) (location : Location) : Prop where
  given : identity < disk.freshIdentity
  listed : ∀ entry ∈ disk.entries, entry.2.identity? = some identity ↔ entry.1 = location

theorem veil_modifyFile {identity : Nat} (held : disk.IsSole identity location)
    (aside : hidden ≠ some location) (change : Bytes → Bytes) :
    (disk.modifyFile identity change).veil hidden =
      { disk.veil hidden with
        entries := (disk.veil hidden).entries.map fun entry =>
          if entry.1 = location then (entry.1, entry.2.alter 0 change) else entry } := by
  rw [modifyFile_eq]
  apply veil_map
  · exact fun _ _ => Iff.rfl
  · intro entry listed _
    by_cases here : entry.1 = location
    · have own := (held.listed entry listed).mpr here
      simp only [if_pos here, Node.face_alter own]
    · rw [if_neg here, Node.alter_of_ne (mt (held.listed entry listed).mp here)]
  · rintro place rfl
    rw [if_neg]
    simpa using aside

/-! ## Where paths lead -/

/-- No listed file has an identity that is still to be given out. -/
def Fresh (disk : Disk) : Prop :=
  ∀ entry ∈ disk.entries, ∀ identity ∈ entry.2.identity?, identity < disk.freshIdentity

/-- At the hidden place there is a file or nothing, and the place lies in a directory. -/
structure Veiled (hidden : Option Location) (disk : Disk) : Prop where
  tree : disk.IsTree
  fresh : disk.Fresh
  free : ∀ place, hidden = some place → disk.IsOffWay place
  inside : ∀ place, hidden = some place → disk.isDirectoryAt place.dropLast = true

namespace Veiled

theorem named (veiled : Veiled hidden disk) : hidden ≠ some [] := by
  intro root
  cases (veiled.free [] root).1

theorem isDirectoryAt (veiled : Veiled hidden disk) (location : Location) :
    (disk.veil hidden).isDirectoryAt location = disk.isDirectoryAt location := by
  by_cases here : hidden = some location
  · rw [(veiled.free location here).1, Disk.isDirectoryAt, get?_veil veiled.named, if_pos here]
    rfl
  · rw [Disk.isDirectoryAt, Disk.isDirectoryAt, get?_veil_of_ne veiled.named here, Option.any_map]
    congr 1
    funext node
    exact node.isDirectory_face

theorem ways (veiled : Veiled hidden disk) : KeepsWays disk (disk.veil hidden) where
  directory location held := by rwa [veiled.isDirectoryAt]
  link location target found := by
    have aside : hidden ≠ some location := fun here =>
      (veiled.free location here).2 target found
    rw [get?_veil_of_ne veiled.named aside, found]
    rfl

theorem waysBack (veiled : Veiled hidden disk) : KeepsWays (disk.veil hidden) disk where
  directory location held := by rwa [veiled.isDirectoryAt] at held
  link location target found := by
    rw [get?_veil veiled.named] at found
    split at found
    · cases found
    · obtain ⟨node, there, link⟩ := Option.map_eq_some_iff.mp found
      rw [there, Node.face_eq_link.mp link]

theorem leads_iff (veiled : Veiled hidden disk) :
    (disk.veil hidden).Leads directory home ↔ disk.Leads directory home :=
  ⟨fun leads => leads.mono veiled.waysBack rfl, fun leads => leads.mono veiled.ways rfl⟩

theorem isTree_veil (veiled : Veiled hidden disk) : (disk.veil hidden).IsTree where
  parent location name present := by
    rw [veiled.isDirectoryAt]
    rw [get?_veil veiled.named] at present
    split at present
    · rename_i here
      simpa using veiled.inside _ here
    · exact veiled.tree.parent location name (by simpa using present)
  fresh location identity mode bytes found := by
    rw [get?_veil veiled.named] at found
    split at found
    · cases found
      exact Nat.zero_lt_one
    · obtain ⟨node, -, face⟩ := Option.map_eq_some_iff.mp found
      cases node with
      | file own mode bytes =>
          cases face
          exact Nat.zero_lt_one
      | directory mode => cases face
      | link target => cases face

/-- A path leads where it led before the veil was drawn. -/
theorem locate (veiled : Veiled hidden disk) (located : disk.locate path = .ok location) :
    (disk.veil hidden).locate path = .ok location := by
  obtain ⟨node, found, solid⟩ := isSolid_of_locate veiled.tree located
  obtain ⟨text, left, reached⟩ := locate_eq_ok_iff.mp located
  refine locate_eq_ok_iff.mpr ⟨text, left, reached.mono veiled.ways ?_⟩
  rw [get?_veil veiled.named]
  split
  · exact ⟨veiledFile, rfl, nofun⟩
  · rw [found]
    exact ⟨node.face, rfl, fun target link => solid target (Node.face_eq_link.mp link)⟩

/-- What a path leads to behind the veil it leads to without it, unless that is the hidden place. -/
theorem locate_of_veil (veiled : Veiled hidden disk)
    (located : (disk.veil hidden).locate path = .ok location) (aside : hidden ≠ some location) :
    disk.locate path = .ok location := by
  obtain ⟨node, found, solid⟩ := isSolid_of_locate veiled.isTree_veil located
  obtain ⟨text, left, reached⟩ := locate_eq_ok_iff.mp located
  refine locate_eq_ok_iff.mpr ⟨text, left, reached.mono veiled.waysBack ?_⟩
  rw [get?_veil_of_ne veiled.named aside] at found
  obtain ⟨old, there, rfl⟩ := Option.map_eq_some_iff.mp found
  exact ⟨old, there, fun target link => solid target (Node.face_eq_link.mpr link)⟩

/-- A path that does not lead to the hidden place leads to the same entry. -/
theorem node? (veiled : Veiled hidden disk)
    (clear : ∀ place, hidden = some place → (disk.veil hidden).locate path ≠ .ok place) :
    (disk.veil hidden).node? path = (disk.node? path).map Node.face := by
  rw [Disk.node?, Disk.node?]
  cases located : disk.locate path with
  | ok location =>
      have behind := veiled.locate located
      rw [behind]
      exact get?_veil_of_ne veiled.named fun here => clear location here behind
  | error error =>
      cases behind : (disk.veil hidden).locate path with
      | error error => rfl
      | ok location =>
          have back := veiled.locate_of_veil behind fun here => clear location here behind
          cases located.symm.trans back

theorem isFile (veiled : Veiled hidden disk)
    (clear : ∀ place, hidden = some place → (disk.veil hidden).locate path ≠ .ok place) :
    (disk.veil hidden).isFile path = disk.isFile path := by
  rw [Disk.isFile, Disk.isFile, veiled.node? clear, Option.any_map]
  congr 1
  funext node
  exact node.isFile_face

theorem content? (veiled : Veiled hidden disk)
    (clear : ∀ place, hidden = some place → (disk.veil hidden).locate path ≠ .ok place) :
    (disk.veil hidden).content? path = disk.content? path := by
  refine Option.ext fun bytes => ?_
  rw [content?_eq_some_iff, content?_eq_some_iff, veiled.node? clear]
  cases disk.node? path with
  | none => simp
  | some node => cases node <;> simp [Node.face]

end Veiled

end Disk

end SelfUpdate
