import SelfUpdate.Proofs.Disk.Sides

/-!
# Replacing the file at a hidden place

A file is kept at a path by replacing it as a whole. On a disk where the folder of the path is there, all
that this changes is what is at the hidden place, and whether it succeeds can be told without looking
there. The files of a directory beside that place are left alone.
-/

namespace SelfUpdate.Disk

variable {disk before after one other : Disk} {hidden : Option Location} {directory folder path : Path}
  {path? : Option Path} {home above location : Location} {name : String}

/-! ## One file for another -/

/-- A path that names a file of a folder, and the path of the folder itself. -/
structure FileIn (path folder : Path) (name : String) : Prop where
  path_eq : path = Path.join folder name
  named : Path.isName name = true
  short : isTooLong name = false
  text : checkText path = .ok ()

/-- A file of a folder has its place there, whatever the place is. -/
theorem FileIn.place (fileIn : FileIn path folder name) (leads : disk.Leads folder above) :
    disk.place path = .ok ⟨above, .name name, false⟩ := by
  obtain ⟨rfl, named, -, text⟩ := fileIn
  exact (place_join_eq_ok_iff named).mpr ⟨text, above, leads, rfl⟩

theorem FileIn.replaceFile_eq_exchange (fileIn : FileIn path folder name)
    (leads : disk.Leads folder above) (bytes : Bytes) :
    replaceFile path bytes disk = exchange above path bytes disk disk := by
  obtain ⟨rfl, named, -, text⟩ := fileIn
  exact Disk.replaceFile_eq_exchange named text leads bytes

/-- A disk once a new file has taken the place of what was at a location. -/
def replaced (place : Location) (bytes : Bytes) (disk : Disk) : Disk :=
  { disk with
    entries := (disk.entries.filter fun entry => place != entry.1) ++
      [(place, .file disk.freshIdentity privateFileMode bytes)]
    freshIdentity := disk.freshIdentity + 1 }

theorem any_of_vacant (some_ : location ≠ []) (vacant : disk.get? location = none) :
    disk.entries.any (fun entry => entry.1 == location) = false := by
  rw [Bool.eq_false_iff]
  intro listed
  obtain ⟨entry, member, here⟩ := List.any_eq_true.mp listed
  have present : (disk.get? location).isSome :=
    (isSome_get?_iff some_).mpr ⟨entry.2, eq_of_beq here ▸ member⟩
  rw [vacant] at present
  cases present

theorem putNewFile_of_vacant (some_ : location ≠ []) (vacant : disk.get? location = none)
    (bytes : Bytes) :
    disk.putNewFile location privateFileMode bytes = disk.replaced location bytes := by
  have absent := any_of_vacant some_ vacant
  have all : disk.entries.filter (fun entry => location != entry.1) = disk.entries := by
    refine List.filter_eq_self.mpr fun entry member => ?_
    have differ := List.any_eq_false.mp absent entry member
    rw [bne_iff_ne]
    rintro rfl
    simp at differ
  rw [putNewFile, put, absent, replaced, all]
  rfl

/-- A file that was made beside another takes its place. -/
theorem move_replaced (tree : disk.IsTree) {source : Location} (bytes : Bytes) (some_ : source ≠ [])
    (placeSome : location ≠ []) (vacant : disk.get? source = none) (free : disk.IsOffWay location)
    (apart : ¬ location <+: source) :
    ((disk.putNewFile source privateFileMode bytes).erase location).move source location =
      disk.replaced location bytes := by
  have listed (entry : Location × Node) (member : entry ∈ disk.entries) (root : entry.1 ≠ []) :
      (disk.get? entry.1).isSome := (isSome_get?_iff root).mpr ⟨entry.2, member⟩
  -- nothing is listed below the new file, nor below what is at the place
  have below {top : Location} (named : top ≠ []) (aside : disk.IsOffWay top)
      (entry : Location × Node) (member : entry ∈ disk.entries) (within : top <+: entry.1) :
      entry.1 = top := by
    have root : entry.1 ≠ [] := by
      intro empty
      exact named (List.prefix_nil.mp (empty ▸ within))
    obtain ⟨node, found⟩ := Option.isSome_iff_exists.mp (listed entry member root)
    exact tree.vacant_below aside within found
  have absent := any_of_vacant some_ vacant
  rw [putNewFile, put, absent]
  refine Disk.ext ?_ rfl rfl rfl
  rw [entries_move, replaced, erase]
  simp only [Bool.false_eq_true, if_false]
  rw [List.filter_append, List.map_append]
  congr 1
  · have kept : disk.entries.filter (fun entry => !location.isPrefixOf entry.1) =
        disk.entries.filter fun entry => location != entry.1 := by
      refine List.filter_congr fun entry member => ?_
      rw [Bool.eq_iff_iff, Bool.not_eq_true', Bool.eq_false_iff, bne_iff_ne, ne_eq, ne_eq,
        List.isPrefixOf_iff_prefix, not_iff_not]
      constructor
      · exact fun within => (below placeSome free entry member within).symm
      · rintro rfl
        exact List.prefix_refl _
    rw [kept]
    refine (List.map_congr_left fun entry member => ?_).trans (List.map_id _)
    have member := List.mem_of_mem_filter member
    have outside : ¬ source <+: entry.1 := by
      intro within
      have here := below some_ (.of_vacant vacant) entry member within
      have found := List.any_eq_false.mp absent entry member
      simp [here] at found
    rw [relocated_aside _ outside]
    rfl
  · have stays : (!location.isPrefixOf source) = true := by
      rw [Bool.not_eq_true', Bool.eq_false_iff, ne_eq, List.isPrefixOf_iff_prefix]
      exact apart
    simp [stays, relocated]

/-- A file is replaced under the very name that is unused. -/
theorem replaceFile_unused (fileIn : FileIn path folder name) (leads : disk.Leads folder above)
    (unsealed : disk.isSealed above = false) (same : disk.unusedName above = name) (bytes : Bytes) :
    replaceFile path bytes disk =
      (.ok (), disk.putNewFile (above ++ [name]) privateFileMode bytes) := by
  have short := fileIn.short
  have vacant := get?_unusedName disk above
  rw [same] at vacant
  let full := disk.putNewFile (above ++ [name]) privateFileMode bytes
  have renamed : full.renameFrom (above ++ [name]) path = .ok full := by
    have some_ : above ++ [name] ≠ [] := by simp
    have ways := KeepsWays.putNewFile privateFileMode bytes some_ vacant
    have base := workingDirectory_putNewFile disk (above ++ [name]) privateFileMode bytes
    have placed := fileIn.place (leads.mono ways base)
    have found : full.get? (above ++ [name]) = _ :=
      get?_putNewFile disk privateFileMode bytes (above ++ [name]) some_
    rw [if_pos rfl] at found
    rw [renameFrom, placed, ok_bind, Place.locate]
    simp [short, found]
  have clean : path.toList.contains '\x00' = false := by
    simpa using (checkText_eq_ok_iff.mp fileIn.text).1
  rw [fileIn.replaceFile_eq_exchange leads bytes, exchange]
  simp only [unsealed, clean, same, Bool.false_eq_true, if_false]
  rw [renamed]
  rfl

/-- In a folder that can be written to, a file takes the place of another or of nothing. -/
theorem replaceFile_eq_replaced (fileIn : FileIn path folder name) (tree : disk.IsTree)
    (leads : disk.Leads folder above) (free : disk.IsOffWay (above ++ [name]))
    (unsealed : disk.isSealed above = false) (bytes : Bytes) :
    replaceFile path bytes disk = (.ok (), disk.replaced (above ++ [name]) bytes) := by
  by_cases same : disk.unusedName above = name
  · have vacant := get?_unusedName disk above
    rw [same] at vacant
    rw [replaceFile_unused fileIn leads unsealed same, putNewFile_of_vacant (by simp) vacant]
  · obtain ⟨rfl, named, short, text⟩ := fileIn
    rw [replaceFile_join named short text leads unsealed free.1 same,
      move_replaced tree bytes (by simp) (by simp) (get?_unusedName disk above) free
        (append_ne above (Ne.symm same))]

theorem get?_replaced (placeSome : location ≠ []) (bytes : Bytes) (other : Location) :
    (disk.replaced location bytes).get? other =
      if other = location then some (.file disk.freshIdentity privateFileMode bytes)
      else disk.get? other := by
  by_cases root : other = []
  · subst root
    rw [if_neg (Ne.symm placeSome)]
    rfl
  rw [get?_eq_find root, get?_eq_find root, replaced, List.find?_append, List.find?_filter]
  by_cases here : other = location
  · subst here
    have gone : disk.entries.find? (fun entry => decide
        ((other != entry.1) = true ∧ (entry.1 == other) = true)) = none := by
      rw [List.find?_eq_none]
      intro entry _ held
      simp only [bne_iff_ne, beq_iff_eq, decide_eq_true_eq] at held
      exact held.1 held.2.symm
    rw [gone, Option.none_or, if_pos rfl, List.find?_cons, beq_self_eq_true]
    rfl
  · have same : (fun entry : Location × Node => decide
        ((location != entry.1) = true ∧ (entry.1 == other) = true)) =
        fun entry => entry.1 == other := by
      funext entry
      by_cases found : entry.1 = other
      · simp [found, Ne.symm here]
      · simp [found]
    rw [if_neg here, same]
    simp [Ne.symm here]

/-- Behind the veil nothing has happened. -/
theorem veil_replaced (disk : Disk) (place : Location) (bytes : Bytes) :
    (disk.replaced place bytes).veil (some place) = disk.veil (some place) := by
  refine Disk.ext ?_ rfl rfl rfl
  rw [entries_veil_some, entries_veil_some, replaced, List.filter_append, List.filter_filter]
  simp

theorem Fresh.replaced (fresh : disk.Fresh) (place : Location) (bytes : Bytes) :
    (disk.replaced place bytes).Fresh := by
  intro entry listed identity own
  rcases List.mem_append.mp listed with old | new
  · exact Nat.lt_succ_of_lt (fresh entry (List.mem_of_mem_filter old) identity own)
  · cases List.mem_singleton.mp new
    cases own
    exact Nat.lt_succ_self _

theorem IsSole.replaced {identity : Nat} {place : Location} (sole : disk.IsSole identity location)
    (apart : location ≠ place) (bytes : Bytes) :
    (disk.replaced place bytes).IsSole identity location := by
  refine ⟨Nat.lt_succ_of_lt sole.given, fun entry listed => ?_⟩
  rcases List.mem_append.mp listed with old | new
  · exact sole.listed entry (List.mem_of_mem_filter old)
  · cases List.mem_singleton.mp new
    constructor
    · intro own
      cases own
      exact absurd sole.given (Nat.lt_irrefl _)
    · intro here
      exact absurd here.symm apart

theorem onlyFiles_replaced (veiled : Veiled (some location) disk) (bytes : Bytes)
    (tree : (disk.replaced location bytes).IsTree) (home : Location) :
    OnlyFiles home (some location) disk (disk.replaced location bytes) := by
  have placeSome : location ≠ [] := fun root => veiled.named (congrArg some root)
  refine ⟨tree, veiled.fresh.replaced _ _, rfl, fun place => ?_⟩
  have lookup : (disk.replaced location bytes).get? place = _ := get?_replaced placeSome bytes place
  by_cases here : place = location
  · rw [if_pos here] at lookup
    exact .inr ⟨here ▸ (veiled.free location rfl).1, .of_file lookup,
      .inr (congrArg some here.symm)⟩
  · rw [if_neg here] at lookup
    exact .inl lookup

/-! ## Where a directory is in the way -/

theorem FileIn.replaceFile_sealed (fileIn : FileIn path folder name)
    (leads : disk.Leads folder above) (locked : disk.isSealed above = true) (bytes : Bytes) :
    replaceFile path bytes disk = (.error .permissionDenied, disk) := by
  obtain ⟨rfl, named, -, text⟩ := fileIn
  exact replaceFile_join_sealed named text leads locked bytes

/-- No file takes the place of a directory, and the one that was to take it is removed again. -/
theorem FileIn.replaceFile_barred (fileIn : FileIn path folder name) (tree : disk.IsTree)
    (leads : disk.Leads folder above) (taken : disk.isDirectoryAt (above ++ [name]) = true)
    (unsealed : disk.isSealed above = false) (bytes : Bytes) :
    replaceFile path bytes disk =
      (.error .isADirectory, { disk with freshIdentity := disk.freshIdentity + 1 }) := by
  have short := fileIn.short
  let staged := above ++ [disk.unusedName above]
  let full := disk.putNewFile staged privateFileMode bytes
  have some_ : staged ≠ [] := by simp [staged]
  have vacant : disk.get? staged = none := get?_unusedName disk above
  have lookup := fun other => get?_putNewFile disk privateFileMode bytes other some_
  obtain ⟨mode, there⟩ := isDirectoryAt_iff.mp taken
  have differ : disk.unusedName above ≠ name := by
    rintro rfl
    cases vacant.symm.trans there
  have refused : full.renameFrom staged path = .error .isADirectory := by
    have ways := KeepsWays.putNewFile privateFileMode bytes some_ vacant
    have base := workingDirectory_putNewFile disk staged privateFileMode bytes
    have placed := fileIn.place (leads.mono ways base)
    have found : full.get? staged = _ := lookup staged
    have old : full.get? (above ++ [name]) = _ := lookup (above ++ [name])
    have open_ : full.isSealed above = false := by
      have same : full.sealedDirectories = disk.sealedDirectories := by
        simp only [full, putNewFile, put]
        split <;> rfl
      rwa [isSealed, same]
    rw [if_pos rfl] at found
    rw [if_neg (by simpa [staged] using differ.symm), there] at old
    rw [renameFrom, placed, ok_bind, Place.locate]
    simp [short, found, staged, differ, differ.symm, open_, replaceError?, old, Node.isDirectory]
  have clean : path.toList.contains '\x00' = false := by
    simpa using (checkText_eq_ok_iff.mp fileIn.text).1
  have gone : full.erase staged = { disk with freshIdentity := disk.freshIdentity + 1 } := by
    have entries : disk.entries.filter (fun entry => !staged.isPrefixOf entry.1) = disk.entries :=
      congrArg Disk.entries (tree.erase_vacant some_ vacant)
    have absent := any_of_vacant some_ vacant
    have bare : (!staged.isPrefixOf staged) = false := by simp
    simp only [full, erase, putNewFile, put, absent, Bool.false_eq_true, if_false,
      List.filter_append, entries, List.filter_singleton, bare, cond_false, List.append_nil]
  rw [fileIn.replaceFile_eq_exchange leads bytes, exchange]
  simp only [unsealed, clean, Bool.false_eq_true, if_false]
  rw [refused, gone]
  rfl

/-! ## What is left alone -/

/-- The files of a directory are left alone. -/
structure LeavesFiles (home : Location) (hidden : Option Location) (before after : Disk) : Prop
    extends OnlyFiles home hidden before after where
  entries : ∀ name, after.get? (home ++ [name]) = before.get? (home ++ [name])
  sole : ∀ identity name, before.IsSole identity (home ++ [name]) →
    after.IsSole identity (home ++ [name])

/-- What is listed may change in nothing but the directories that are sealed. -/
theorem Veiled.leavesFiles (veiled : Veiled hidden disk) (home : Location) {next : Nat}
    (later : disk.freshIdentity ≤ next) (sealedDirectories : List Location) :
    LeavesFiles home hidden disk
      { disk with freshIdentity := next, sealedDirectories := sealedDirectories } where
  tree := veiled.tree.of_same (fun _ => rfl) later
  fresh entry listed identity own := Nat.lt_of_lt_of_le (veiled.fresh entry listed identity own) later
  workingDirectory := rfl
  lookups _ := .inl rfl
  entries _ := rfl
  sole _ _ sole := ⟨Nat.lt_of_lt_of_le sole.given later, sole.listed⟩

theorem leavesFiles_replaced (veiled : Veiled (some location) disk) (outside : ¬ home <+: location)
    (tree : (disk.replaced location bytes).IsTree) :
    LeavesFiles home (some location) disk (disk.replaced location bytes) where
  toOnlyFiles := onlyFiles_replaced veiled bytes tree home
  entries name := by
    have placeSome : location ≠ [] := fun root => veiled.named (congrArg some root)
    rw [get?_replaced placeSome, if_neg]
    rintro rfl
    exact outside (List.prefix_append _ _)
  sole identity name sole := by
    refine sole.replaced ?_ _
    rintro rfl
    exact outside (List.prefix_append _ _)

/-! ## Keeping a file -/

/-- Where a file is kept that is replaced as a whole, and which place is hidden for that. -/
inductive Keeps (home : Location) (disk : Disk) : Option Path → Option Location → Prop where
  /-- It is not kept on the disk. -/
  | nowhere : Keeps home disk none none
  | file {path folder : Path} {name : String} {above : Location} (fileIn : FileIn path folder name)
      (way : (disk.unlinked home).Leads folder above) :
      Keeps home disk (some path) (some (above ++ [name]))
  /-- A directory is in its place, so it cannot be kept there. -/
  | barred {path folder : Path} {name : String} {above : Location}
      (fileIn : FileIn path folder name) (way : (disk.unlinked home).Leads folder above)
      (taken : disk.isDirectoryAt (above ++ [name]) = true) :
      Keeps home disk (some path) none

namespace Keeps

theorem mono (keeps : Keeps home before path? hidden) (veiled : Veiled hidden before)
    (only : OnlyFiles home hidden before after) : Keeps home after path? hidden := by
  cases keeps with
  | nowhere => exact .nowhere
  | file fileIn way => exact .file fileIn (only.leads veiled way)
  | @barred path folder name above fileIn way taken =>
      refine .barred fileIn (only.leads veiled way) ?_
      rcases only.lookups (above ++ [name]) with same | ⟨free, -⟩
      · rwa [isDirectoryAt, same]
      · cases free.symm.trans taken

/-- What keeping a file comes to. The folder of the file is found without looking at the hidden place. -/
theorem run (keeps : Keeps home disk (some path) hidden) (veiled : Veiled hidden disk) :
    ∃ above name, (disk.veil hidden).place path = .ok ⟨above, .name name, false⟩ ∧ ∀ bytes,
      replaceFile path bytes disk =
        if disk.isSealed above then (.error .permissionDenied, disk)
        else match hidden with
          | some place => (.ok (), disk.replaced place bytes)
          | none => (.error .isADirectory, { disk with freshIdentity := disk.freshIdentity + 1 }) := by
  cases keeps with
  | @file _ folder name above fileIn way =>
      have leads : disk.Leads folder above := way.mono (keepsWays_unlinked home disk) rfl
      refine ⟨above, name, fileIn.place (veiled.leads_iff.mpr leads), fun bytes => ?_⟩
      split
      · rename_i locked
        exact fileIn.replaceFile_sealed leads locked bytes
      · rename_i unsealed
        exact replaceFile_eq_replaced fileIn veiled.tree leads (veiled.free _ rfl)
          (Bool.eq_false_iff.mpr unsealed) bytes
  | @barred _ folder name above fileIn way taken =>
      have leads : disk.Leads folder above := way.mono (keepsWays_unlinked home disk) rfl
      refine ⟨above, name, fileIn.place (veiled.leads_iff.mpr leads), fun bytes => ?_⟩
      split
      · rename_i locked
        exact fileIn.replaceFile_sealed leads locked bytes
      · rename_i unsealed
        exact fileIn.replaceFile_barred veiled.tree leads taken (Bool.eq_false_iff.mpr unsealed) bytes

/-- Keeping a file changes nothing but what is hidden. -/
theorem replaceFile (keeps : Keeps home disk (some path) hidden) (veiled : Veiled hidden disk)
    (outside : ∀ place, hidden = some place → ¬ home <+: place) (bytes : Bytes) :
    LeavesFiles home hidden disk (Disk.replaceFile path bytes disk).2 ∧
      (Disk.replaceFile path bytes disk).2.veil hidden = disk.veil hidden := by
  have tree := replaceFile_isTree veiled.tree path bytes
  obtain ⟨above, name, -, run⟩ := keeps.run veiled
  rw [run] at tree ⊢
  cases locked : disk.isSealed above with
  | true => exact ⟨veiled.leavesFiles home (Nat.le_refl _) _, rfl⟩
  | false =>
    rw [locked] at tree
    cases hidden with
    | some place =>
        exact ⟨leavesFiles_replaced veiled (outside place rfl) tree, veil_replaced disk place bytes⟩
    | none => exact ⟨veiled.leavesFiles home (Nat.le_succ _) _, rfl⟩

/-- Whether a file can be kept is the same on disks that look alike. -/
theorem replaceFile_same (keeps : Keeps home one (some path) hidden)
    (keepsToo : Keeps home other (some path) hidden) (veiled : Veiled hidden one)
    (veiledToo : Veiled hidden other) (same : one.veil hidden = other.veil hidden)
    (bytes bytesToo : Bytes) :
    (Disk.replaceFile path bytesToo other).1 = (Disk.replaceFile path bytes one).1 := by
  obtain ⟨above, name, place, run⟩ := keeps.run veiled
  obtain ⟨aboveToo, nameToo, placeToo, runToo⟩ := keepsToo.run veiledToo
  rw [← same, place] at placeToo
  cases placeToo
  have locks : other.isSealed above = one.isSealed above := by
    rw [← isSealed_veil hidden, ← same, isSealed_veil]
  rw [run, runToo, locks]
  split
  · rfl
  · cases hidden <;> rfl

end Keeps

end SelfUpdate.Disk
