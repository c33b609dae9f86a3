import SelfUpdate.Proofs.Disk.Ancestors
import SelfUpdate.Proofs.Disk.Rereading

/-!
# Changes that are confined

On a plain disk, a tree of files and directories alone, an operation that names its file changes
nothing elsewhere. A change is confined to some locations when nothing else was touched but
directories made on the way, and when no file has come to these locations from elsewhere or left them.
-/

namespace SelfUpdate.Disk

variable {disk before made after : Disk} {location home directory : Location} {path : Path}
  {node : Node} {inside way : Location → Prop} {identity mode : Nat} {bytes : Bytes}

/-- The identity of the file at a location. -/
def identityAt? (disk : Disk) (location : Location) : Option Nat :=
  (disk.get? location).bind Node.identity?

theorem identityAt?_eq_some_iff :
    disk.identityAt? location = some identity ↔
      ∃ mode bytes, disk.get? location = some (.file identity mode bytes) := by
  rw [identityAt?]
  cases disk.get? location with
  | none => simp
  | some node => cases node <;> simp [Node.identity?]

theorem identityAt?_congr {other : Location} (same : after.get? other = before.get? location) :
    after.identityAt? other = before.identityAt? location := by
  rw [identityAt?, identityAt?, same]

theorem identityAt?_modifyFile (disk : Disk) (identity : Nat) (change : Bytes → Bytes)
    (location : Location) :
    (disk.modifyFile identity change).identityAt? location = disk.identityAt? location := by
  rw [identityAt?, identityAt?, get?_modifyFile]
  cases disk.get? location with
  | none => rfl
  | some node => exact Node.identity?_alter identity change node

theorem identityAt?_write (disk : Disk) (handle : Handle) (bytes : Bytes) (location : Location) :
    (disk.write handle bytes).2.identityAt? location = disk.identityAt? location := by
  rw [Disk.write]
  split
  · rfl
  · exact identityAt?_modifyFile _ _ _ _

/-- A tree without links in which every entry has a name. -/
structure Plain (disk : Disk) : Prop where
  tree : disk.IsTree
  linkFree : disk.LinkFree
  named : ∀ above name, (disk.get? (above ++ [name])).isSome → Path.isName name = true

namespace Plain

/-- It is enough to look at what is listed. -/
theorem of_entries (tree : disk.IsTree)
    (solid : ∀ entry ∈ disk.entries, ∀ target, entry.2 ≠ .link target)
    (named : ∀ entry ∈ disk.entries, ∀ name ∈ entry.1, Path.isName name = true) : disk.Plain where
  tree := tree
  linkFree := .of_entries solid
  named above name present := by
    obtain ⟨node, listed⟩ := (isSome_get?_iff (by simp)).mp present
    exact named _ listed name (by simp)

theorem identity_lt (plain : disk.Plain) (found : disk.identityAt? location = some identity) :
    identity < disk.freshIdentity := by
  obtain ⟨mode, bytes, there⟩ := identityAt?_eq_some_iff.mp found
  exact plain.tree.fresh location identity mode bytes there

/-- A new file is at one location only. -/
theorem eq_of_fresh (plain : disk.Plain) {other : Location} (some_ : location ≠ [])
    (found : (disk.putNewFile location mode bytes).identityAt? other = some disk.freshIdentity) :
    other = location := by
  rw [identityAt?, get?_putNewFile _ _ _ _ some_] at found
  split at found
  · assumption
  · exact absurd (plain.identity_lt found) (Nat.lt_irrefl _)

/-- What is neither a directory nor missing is a file. -/
theorem isFile (plain : disk.Plain) (found : disk.get? location = some node)
    (solid : node.isDirectory = false) : ∃ identity mode bytes, node = .file identity mode bytes := by
  cases node with
  | directory mode => cases solid
  | file identity mode bytes => exact ⟨identity, mode, bytes, rfl⟩
  | link target => exact absurd found (plain.linkFree location target)

theorem of_change (plain : before.Plain) (change : Change before after)
    (named : ∀ above name, (after.get? (above ++ [name])).isSome →
      (before.get? (above ++ [name])).isSome ∨ Path.isName name = true) : after.Plain where
  tree := change.isTree plain.tree
  linkFree := change.linkFree plain.linkFree
  named above name found := (named above name found).elim (plain.named above name) id

end Plain

/-- An entry is as it was, or it is a directory on the way that was missing. -/
def SparedAt (way : Location → Prop) (before after : Disk) (location : Location) : Prop :=
  after.get? location = before.get? location ∨
    before.get? location = none ∧ way location ∧
      after.get? location = some (.directory directoryMode)

theorem SparedAt.trans (early : SparedAt way before made location)
    (late : SparedAt way made after location) : SparedAt way before after location := by
  rcases late with same | ⟨missing, on, there⟩
  · rwa [SparedAt, same]
  · rcases early with still | ⟨-, -, found⟩
    · exact .inr ⟨still.symm.trans missing, on, there⟩
    · cases missing.symm.trans found

/-- A file that is there was there. -/
theorem SparedAt.identityAt? (spared : SparedAt way before after location)
    (found : after.identityAt? location = some identity) :
    before.identityAt? location = some identity := by
  rcases spared with same | ⟨-, -, made⟩
  · rwa [← identityAt?_congr same]
  · rw [Disk.identityAt?, made] at found
    cases found

/-- Only what is inside has changed, and directories were made on the way. -/
structure Confined (inside way : Location → Prop) (before after : Disk) : Prop where
  plain : after.Plain
  ways : KeepsWays before after
  workingDirectory : after.workingDirectory = before.workingDirectory
  freshIdentity_le : before.freshIdentity ≤ after.freshIdentity
  elsewhere : ∀ location, ¬ inside location → SparedAt way before after location
  /-- A file is new, or where it was, or was moved inside. -/
  files : ∀ location identity, after.identityAt? location = some identity →
    before.freshIdentity ≤ identity ∨ before.identityAt? location = some identity ∨
      inside location ∧ ∃ old, inside old ∧ before.identityAt? old = some identity

/-- What is at every location once a file has taken the place of no directory beside it. -/
theorem get?_move_file {above : Location} {source target : String} (tree : disk.IsTree)
    (differ : source ≠ target)
    (found : disk.get? (above ++ [source]) = some (.file identity mode bytes))
    (free : disk.isDirectoryAt (above ++ [target]) = false) (other : Location) :
    ((disk.erase (above ++ [target])).move (above ++ [source]) (above ++ [target])).get? other =
      if other = above ++ [target] then some (.file identity mode bytes)
      else if other = above ++ [source] then none else disk.get? other := by
  have solid := (IsOffWay.of_file found).1
  rw [get?_erase_move _ _ (by simp) (by simp) (append_ne above differ) (append_ne above differ.symm)]
  by_cases here : other = above ++ [target]
  · rw [if_pos here, if_pos (here ▸ List.prefix_refl _), here, List.drop_length, List.append_nil,
      found]
  · rw [if_neg here]
    split
    · rename_i below
      obtain ⟨rest, rfl⟩ := below
      have some_ : rest ≠ [] := by
        rintro rfl
        exact here (List.append_nil _)
      have beside : above ++ [target] ++ rest ≠ above ++ [source] := by
        intro same
        exact append_ne above differ.symm (same ▸ List.prefix_append _ _)
      rw [List.drop_left, if_neg beside, tree.get?_below free (List.prefix_append _ _) (Ne.symm here)]
      exact tree.get?_below solid (List.prefix_append _ _) (by simpa)
    · split
      · rename_i below
        split
        · rfl
        · exact (tree.get?_below solid below (Ne.symm ‹_›)).symm
      · rename_i aside
        rw [if_neg]
        rintro rfl
        exact aside (List.prefix_refl _)

theorem Plain.dig (plain : before.Plain) (dig : Dig before after) : after.Plain := by
  have change := dig.change
  obtain ⟨home, name, named, vacant, held, rfl⟩ := dig
  refine plain.of_change change fun above last there => ?_
  rw [get?_put _ _ _ (by simp)] at there
  split at there
  · rename_i same
    obtain ⟨-, final⟩ := List.append_inj' same rfl
    cases final
    exact .inr named
  · exact .inl there

namespace Confined

theorem refl (plain : disk.Plain) : Confined inside way disk disk where
  plain := plain
  ways := .refl disk
  workingDirectory := rfl
  freshIdentity_le := Nat.le_refl _
  elsewhere _ _ := .inl rfl
  files _ _ found := .inr (.inl found)

theorem trans (early : Confined inside way before made) (late : Confined inside way made after) :
    Confined inside way before after where
  plain := late.plain
  ways := early.ways.trans late.ways
  workingDirectory := late.workingDirectory.trans early.workingDirectory
  freshIdentity_le := Nat.le_trans early.freshIdentity_le late.freshIdentity_le
  elsewhere location outside := (early.elsewhere location outside).trans
    (late.elsewhere location outside)
  files location identity found := by
    rcases late.files location identity found with new | there | ⟨here, old, from_, there⟩
    · exact .inl (Nat.le_trans early.freshIdentity_le new)
    · exact early.files location identity there
    · rcases early.files old identity there with new | before | ⟨-, older, first, before⟩
      · exact .inl new
      · exact .inr (.inr ⟨here, old, from_, before⟩)
      · exact .inr (.inr ⟨here, older, first, before⟩)

/-- More may change, and more directories may be made. -/
theorem mono {wider further : Location → Prop} (confined : Confined inside way before after)
    (inner : ∀ location, inside location → wider location)
    (on : ∀ location, way location → further location) : Confined wider further before after where
  plain := confined.plain
  ways := confined.ways
  workingDirectory := confined.workingDirectory
  freshIdentity_le := confined.freshIdentity_le
  elsewhere location outside := by
    rcases confined.elsewhere location (mt (inner location) outside) with same | ⟨missing, ways, made⟩
    · exact .inl same
    · exact .inr ⟨missing, on location ways, made⟩
  files location identity found := by
    rcases confined.files location identity found with new | there | ⟨here, old, from_, there⟩
    · exact .inl new
    · exact .inr (.inl there)
    · exact .inr (.inr ⟨inner _ here, old, inner _ from_, there⟩)

/-- Outside every file that could be read can still be read. -/
theorem keepsFile (confined : Confined inside way before after) (plain : before.Plain)
    (outside : ¬ inside (destination before.workingDirectory path)) :
    KeepsFile path before after := by
  refine confined.ways.keepsFile confined.workingDirectory fun location _ _ _ located found => ?_
  obtain rfl := locate_eq_destination plain.linkFree located
  rcases confined.elsewhere _ outside with same | ⟨missing, -⟩
  · exact same.trans found
  · cases missing.symm.trans found

/-! ## Single changes -/

theorem erase (plain : disk.Plain) (named : location ≠ []) (found : disk.get? location = some node)
    (solid : node.isDirectory = false) (within : inside location) :
    Confined inside way disk (disk.erase location) := by
  obtain ⟨identity, mode, bytes, rfl⟩ := plain.isFile found solid
  have files (other : Location) (known : Nat)
      (there : (disk.erase location).identityAt? other = some known) :
      disk.identityAt? other = some known := by
    obtain ⟨mode, bytes, held⟩ := identityAt?_eq_some_iff.mp there
    exact identityAt?_eq_some_iff.mpr ⟨mode, bytes, get?_of_erase named held⟩
  refine ⟨plain.of_change (.remove named) fun above name there => .inl ?_,
    .erase plain.tree named (.of_file found), rfl, Nat.le_refl _, fun other outside => .inl ?_,
    fun other known there => .inr (.inl (files other known there))⟩
  · obtain ⟨node, held⟩ := Option.isSome_iff_exists.mp there
    rw [get?_of_erase named held]
    rfl
  · rw [plain.tree.get?_erase_solid named (IsOffWay.of_file found).1, if_neg]
    rintro rfl
    exact outside within

theorem modifyFile (plain : disk.Plain) (identity : Nat) (change : Bytes → Bytes)
    (own : ∀ location, disk.identityAt? location = some identity → inside location) :
    Confined inside way disk (disk.modifyFile identity change) := by
  have lookup := fun other => get?_modifyFile disk identity change other
  have files (other : Location) (known : Nat)
      (there : (disk.modifyFile identity change).identityAt? other = some known) :
      disk.identityAt? other = some known := by
    rwa [identityAt?_modifyFile] at there
  refine ⟨plain.of_change (.alter identity change) fun above name there => .inl ?_,
    .modifyFile disk identity change, rfl, Nat.le_refl _, fun other outside => .inl ?_,
    fun other known there => .inr (.inl (files other known there))⟩
  · rwa [lookup, Option.isSome_map] at there
  · rw [lookup]
    cases found : disk.get? other with
    | none => rfl
    | some old =>
        rw [Option.map_some, Node.alter_of_ne]
        intro same
        exact outside (own other (by rw [identityAt?, found]; exact same))

theorem write (plain : disk.Plain) (handle : Handle) (bytes : Bytes)
    (own : ∀ location, disk.identityAt? location = some handle.identity → inside location) :
    Confined inside way disk (disk.write handle bytes).2 := by
  rw [Disk.write]
  split
  · exact .refl plain
  · exact .modifyFile plain _ _ own

theorem makeFile {above : Location} {name : String} (plain : disk.Plain)
    (named : Path.isName name = true) (vacant : disk.get? (above ++ [name]) = none)
    (held : disk.isDirectoryAt above = true) (within : inside (above ++ [name])) (mode : Nat)
    (bytes : Bytes) : Confined inside way disk (disk.putNewFile (above ++ [name]) mode bytes) := by
  have some_ : above ++ [name] ≠ [] := by simp
  have lookup := fun other => get?_putNewFile disk mode bytes other some_
  have change : Change disk (disk.putNewFile (above ++ [name]) mode bytes) :=
    .makeFile mode bytes some_ vacant (by rwa [List.dropLast_concat])
  refine ⟨plain.of_change change fun upper last there => ?_,
    .putNewFile mode bytes some_ vacant, change.workingDirectory, change.freshIdentity_le, ?_, ?_⟩
  · rw [lookup] at there
    split at there
    · rename_i same
      obtain ⟨-, final⟩ := List.append_inj' same rfl
      cases final
      exact .inr named
    · exact .inl there
  · intro other outside
    refine .inl ((lookup other).trans (if_neg ?_))
    rintro rfl
    exact outside within
  · intro other known there
    rw [identityAt?, lookup] at there
    split at there
    · cases there
      exact .inl (Nat.le_refl _)
    · exact .inr (.inl there)

/-- A file takes the place of another one, or a place where nothing was. -/
theorem move {above : Location} {source target : String} (plain : disk.Plain)
    (named : Path.isName target = true) (differ : source ≠ target)
    (found : disk.get? (above ++ [source]) = some (.file identity mode bytes))
    (free : disk.isDirectoryAt (above ++ [target]) = false)
    (start : inside (above ++ [source])) (goal : inside (above ++ [target])) :
    Confined inside way disk
      ((disk.erase (above ++ [target])).move (above ++ [source]) (above ++ [target])) := by
  have lookup := get?_move_file plain.tree differ found free
  have held := plain.tree.parent above source (by rw [found]; rfl)
  have change : Change disk
      ((disk.erase (above ++ [target])).move (above ++ [source]) (above ++ [target])) :=
    .move found (by simp) (append_ne above differ) (append_ne above differ.symm)
      (by rwa [List.dropLast_concat])
  refine ⟨plain.of_change change fun upper last there => ?_,
    .move plain.tree (append_ne above differ) (by simp) (append_ne above differ.symm)
      (.of_file found) ⟨free, plain.linkFree _⟩,
    change.workingDirectory, change.freshIdentity_le, ?_, ?_⟩
  · rw [lookup] at there
    split at there
    · rename_i same
      obtain ⟨-, final⟩ := List.append_inj' same rfl
      cases final
      exact .inr named
    · split at there
      · cases there
      · exact .inl there
  · intro other outside
    have noGoal : other ≠ above ++ [target] := fun same => outside (same ▸ goal)
    have noStart : other ≠ above ++ [source] := fun same => outside (same ▸ start)
    exact .inl ((lookup other).trans ((if_neg noGoal).trans (if_neg noStart)))
  · intro other known there
    rw [identityAt?, lookup] at there
    split at there
    · rename_i here
      cases there
      exact .inr (.inr ⟨here ▸ goal, _, start, identityAt?_eq_some_iff.mpr ⟨mode, bytes, found⟩⟩)
    · split at there
      · cases there
      · exact .inr (.inl there)

/-- The mode of a directory is set. -/
theorem setMode (plain : disk.Plain) (held : disk.isDirectoryAt location = true) (mode : Nat)
    (within : inside location) : Confined inside way disk (disk.put location (.directory mode)) := by
  obtain ⟨old, found⟩ := isDirectoryAt_iff.mp held
  have change : Change disk (disk.put location (.directory mode)) :=
    .setMode found rfl rfl nofun
  have ways := KeepsWays.setMode plain.linkFree location mode
  obtain ⟨new, here⟩ := isDirectoryAt_iff.mp (ways.directory location held)
  have aside {other : Location} (differ : other ≠ location) :=
    get?_put_aside disk (.directory mode) differ
  have files (other : Location) (known : Nat)
      (there : (disk.put location (.directory mode)).identityAt? other = some known) :
      disk.identityAt? other = some known := by
    by_cases same : other = location
    · rw [same, identityAt?, here] at there
      cases there
    · rwa [identityAt?_congr (aside same)] at there
  refine ⟨plain.of_change change fun above name there => .inl ?_, ways,
    change.workingDirectory, change.freshIdentity_le, fun other outside => .inl (aside ?_),
    fun other known there => .inr (.inl (files other known there))⟩
  · by_cases same : above ++ [name] = location
    · rw [same, found]
      rfl
    · rwa [aside same] at there
  · rintro rfl
    exact outside within

/-! ## Making directories -/

/-- Directories are made, all of them on the way. -/
theorem of_digs (plain : before.Plain) (digs : Digs before after)
    (on : ∀ location, before.get? location = none → (after.get? location).isSome → way location) :
    Confined inside way before after where
  plain := by
    clear on
    induction digs with
    | refl => exact plain
    | tail _ dig ih => exact ih.dig dig
  ways := digs.keepsWays
  workingDirectory := digs.changes.workingDirectory
  freshIdentity_le := digs.changes.freshIdentity_le
  elsewhere location _ := by
    rw [SparedAt]
    cases found : before.get? location with
    | some node => exact .inl (digs.kept found)
    | none =>
        cases there : after.get? location with
        | none => exact .inl rfl
        | some node =>
            rcases digs.new there with old | ⟨rfl, -⟩
            · cases found.symm.trans old
            · exact .inr ⟨rfl, on location found (by rw [there]; rfl), rfl⟩
  files location identity found := by
    obtain ⟨mode, bytes, there⟩ := identityAt?_eq_some_iff.mp found
    rcases digs.new there with old | ⟨folder, -⟩
    · exact .inr (.inl (identityAt?_eq_some_iff.mpr ⟨mode, bytes, old⟩))
    · cases folder

/-- Only a path and what is above it are made. -/
theorem makeDirectories (plain : disk.Plain) (path : Path)
    (on : ∀ above ∈ Path.ancestors path, above ≠ "" →
      way (destination disk.workingDirectory above)) :
    Confined inside way disk (makeDirectories path disk).2 := by
  refine .of_digs plain (makeDirectories_digs path disk) fun location missing there => ?_
  obtain ⟨node, found⟩ := Option.isSome_iff_exists.mp there
  rcases makeDirectoriesUpTo_new plain.linkFree _ found with old | ⟨above, listed, some_, rfl⟩
  · cases missing.symm.trans old
  · exact on above listed some_

/-- A directory is made, with those above it, and only its owner may enter it. -/
theorem makePrivateDirectory (plain : disk.Plain) (path : Path)
    (within : inside (placeOf disk.workingDirectory path)) (on : ∀ location, way location) :
    Confined inside way disk (makePrivateDirectory path disk).2 := by
  rcases done : Disk.makePrivateDirectory path disk with ⟨error | _, after⟩
  · have same := makePrivateDirectory_error (congrArg Prod.fst done)
    rw [done] at same
    obtain rfl : after = _ := same
    exact .makeDirectories plain path fun _ _ _ => on _
  · obtain ⟨made, home, digs, located, inside_, -, rfl⟩ := makePrivateDirectory_eq_ok done
    have dug : Confined inside way disk made := .of_digs plain digs fun location _ _ => on location
    have place := (Leads.of_locate located inside_).eq_placeOf dug.plain.linkFree
    rw [dug.workingDirectory] at place
    exact dug.trans (.setMode dug.plain inside_ _ (place ▸ within))

/-! ## Replacing a file -/

theorem of_exchanged {above : Location} {name : String} (plain : before.Plain)
    (exchanged : Exchanged (above ++ [name]) before after) (named : Path.isName name = true)
    (within : inside (above ++ [name])) : Confined inside way before after where
  plain := by
    refine ⟨exchanged.tree, exchanged.linkFree plain.linkFree, fun upper last there => ?_⟩
    rcases exchanged.lookups (upper ++ [last]) with same | ⟨here, -⟩
    · exact plain.named upper last (same ▸ there)
    · obtain ⟨-, final⟩ := List.append_inj' here rfl
      exact (List.cons.inj final).1 ▸ named
  ways := exchanged.keepsWays plain.linkFree
  workingDirectory := exchanged.workingDirectory
  freshIdentity_le := exchanged.freshIdentity_le
  elsewhere other outside := by
    refine .inl (exchanged.get?_of_ne ?_)
    rintro rfl
    exact outside within
  files other identity found := by
    rcases exchanged.lookups other with same | ⟨-, -, mode, bytes, file⟩
    · exact .inr (.inl ((identityAt?_congr same).symm.trans found))
    · rw [identityAt?, file] at found
      cases found
      exact .inl (Nat.le_refl _)

/-- Only the file at a path is replaced. -/
theorem replaceFile {directory : Path} {name : String} (plain : disk.Plain)
    (named : Path.isName name = true) (bytes : Bytes)
    (within : inside (destination disk.workingDirectory (Path.join directory name)))
    (on : ∀ location, way location) :
    Confined inside way disk (replaceFile (Path.join directory name) bytes disk).2 := by
  obtain ⟨made, digs, exchanged⟩ :=
    replaceFile_exchanged plain.tree plain.linkFree (Path.join directory name) bytes
  have dug : Confined inside way disk made := .of_digs plain digs fun location _ _ => on location
  rw [destination_join _ _ named] at exchanged within
  exact dug.trans (.of_exchanged dug.plain exchanged named within)

end Confined

/-! ## Opening a file -/

/-- Where the entry of a spot is, or would be. -/
def Spot.entry : Spot → Location
  | .occupied location => location
  | .vacant directory name => directory ++ [name]

/-- Without links the pieces alone say where a walk ends. -/
theorem walk_entry {purpose : Purpose} {links : Nat} {pieces : List String} {spot : Spot}
    (linkFree : disk.LinkFree) (walked : disk.walk purpose links location pieces = .ok spot) :
    spot.entry = follow location pieces := by
  fun_induction walk disk purpose links location pieces with
  | case1 =>
      cases walked
      rfl
  | case3 _ _ _ _ _ nothing ih =>
      rw [follow, if_pos nothing]
      exact ih walked
  | case4 _ _ _ _ dots ih =>
      rw [follow, if_neg dots, if_pos rfl]
      exact ih walked
  | case7 _ _ _ _ _ some_ down _ _ _ last =>
      cases walked
      rw [List.isEmpty_iff.mp last, follow, if_neg some_, if_neg down]
      rfl
  | case9 _ _ _ _ _ _ _ _ _ _ found => exact absurd found (linkFree _ _)
  | case11 _ _ _ _ _ _ _ _ _ found => exact absurd found (linkFree _ _)
  | case12 _ _ _ _ _ some_ down _ _ _ _ _ ih =>
      rw [follow, if_neg some_, if_neg down]
      exact ih walked
  | _ => cases walked

/-- Opening a file for writing finds it where the path leads, or puts a new one there. -/
theorem openForWriting_destination (linkFree : disk.LinkFree)
    (opened : disk.openForWriting path = .ok (identity, after)) :
    disk.identityAt? (destination disk.workingDirectory path) = some identity ∧ after = disk ∨
      ∃ above name, destination disk.workingDirectory path = above ++ [name] ∧
        disk.get? (above ++ [name]) = none ∧ disk.isDirectoryAt above = true ∧
        identity = disk.freshIdentity ∧ after = disk.putNewFile (above ++ [name]) fileMode [] := by
  have ends {spot : Spot} (spotted : disk.spot .creation path = .ok spot) :
      spot.entry = destination disk.workingDirectory path := by
    rw [Disk.spot] at spotted
    obtain ⟨_, -, walked⟩ := bind_eq_ok_iff.mp spotted
    exact walk_entry linkFree walked
  rcases openForWriting_eq_ok opened with
    ⟨location, mode, bytes, spotted, found, rfl⟩ | ⟨above, name, spotted, rfl, rfl⟩
  · left
    rw [← ends spotted]
    exact ⟨identityAt?_eq_some_iff.mpr ⟨mode, bytes, found⟩, rfl⟩
  · right
    have place := ends spotted
    rw [Disk.spot] at spotted
    obtain ⟨_, -, walked⟩ := bind_eq_ok_iff.mp spotted
    obtain ⟨held, vacant⟩ := walk_vacant walked
    exact ⟨above, name, place.symm, vacant, held, rfl, rfl⟩

end SelfUpdate.Disk
