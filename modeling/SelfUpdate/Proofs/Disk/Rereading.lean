import SelfUpdate.Proofs.Disk.Lengths
import SelfUpdate.Proofs.Disk.Replacement

/-!
# Reading a file after it was replaced

A file that was replaced reads back at its path, unless the path leads over a link that stood in the
place of the file and was replaced itself. A replacement that fails leaves every file as it was.
-/

namespace SelfUpdate

/-- A path that does not end in a slash ends in its last name. -/
theorem Path.eq_nil_of_unslashed {path : Path} {before after : List String} {name : String}
    (pieces_eq : pieces path = before ++ name :: after) (empty : ∀ piece ∈ after, piece = "")
    (unslashed : path.toList.getLast? ≠ some '/') : after = [] := by
  rcases List.eq_nil_or_concat after with none | ⟨earlier, last, rfl⟩
  · exact none
  · obtain rfl : last = "" := empty last (by simp)
    let front := before ++ name :: earlier
    have parts : pieces path = front ++ [""] := by simp [front, pieces_eq]
    have plain : ∀ piece ∈ front, '/' ∉ piece.toList := by
      intro piece listed
      have among : piece ∈ pieces path := by simp [parts, listed]
      exact slash_not_mem_of_piece among
    have whole : pieces ("/".intercalate front ++ "/" ++ "") = pieces path := by
      rw [pieces_append_slash, pieces_intercalate (by simp [front]) plain, parts]
      rfl
    have text := congrArg "/".intercalate whole
    rw [intercalate_pieces, intercalate_pieces] at text
    refine absurd ?_ unslashed
    rw [← text]
    simp

namespace Disk

variable {disk before after made : Disk} {location home staged directory : Location} {node : Node}
  {path : Path} {bytes : Bytes} {mode : Nat}

/-! ## Disks whose files are the same -/

theorem readFile_eq_ok_iff :
    disk.readFile path = .ok bytes ↔ ∃ location identity mode,
      disk.locate path = .ok location ∧ disk.get? location = some (.file identity mode bytes) := by
  rw [readFile]
  cases disk.locate path with
  | error error => simp
  | ok location =>
      cases found : disk.get? location with
      | none => simp [found]
      | some node => cases node <;> simp [found]

/-- What could be read at a path can still be read there. -/
def KeepsFile (path : Path) (before after : Disk) : Prop :=
  ∀ bytes, before.readFile path = .ok bytes → after.readFile path = .ok bytes

/-- A file stays readable while the ways are open and the file is in its place. -/
theorem KeepsWays.keepsFile (ways : KeepsWays before after)
    (base : after.workingDirectory = before.workingDirectory)
    (files : ∀ location identity mode bytes, before.locate path = .ok location →
      before.get? location = some (.file identity mode bytes) →
      after.get? location = some (.file identity mode bytes)) : KeepsFile path before after := by
  intro bytes read
  obtain ⟨location, identity, mode, located, found⟩ := readFile_eq_ok_iff.mp read
  have file := files location identity mode bytes located found
  obtain ⟨text, left, reached⟩ := locate_eq_ok_iff.mp located
  refine readFile_eq_ok_iff.mpr ⟨location, identity, mode, locate_eq_ok_iff.mpr ⟨text, left, ?_⟩, file⟩
  rw [base]
  exact reached.mono ways ⟨_, file, nofun⟩

/-- No file was touched, and no way was closed. -/
structure Spares (before after : Disk) : Prop where
  ways : KeepsWays before after
  workingDirectory : after.workingDirectory = before.workingDirectory
  files : ∀ location identity mode bytes,
    after.get? location = some (.file identity mode bytes) ↔
      before.get? location = some (.file identity mode bytes)

namespace Spares

theorem of_same (same : ∀ other, after.get? other = before.get? other)
    (base : after.workingDirectory = before.workingDirectory) : Spares before after where
  ways := .of_lookups fun other _ found _ => (same other).trans found
  workingDirectory := base
  files location identity mode bytes := by rw [same]

theorem refl (disk : Disk) : Spares disk disk := .of_same (fun _ => rfl) rfl

theorem trans (early : Spares before made) (late : Spares made after) : Spares before after where
  ways := early.ways.trans late.ways
  workingDirectory := late.workingDirectory.trans early.workingDirectory
  files location identity mode bytes :=
    (late.files location identity mode bytes).trans (early.files location identity mode bytes)

theorem of_digs (digs : Digs before after) : Spares before after where
  ways := digs.keepsWays
  workingDirectory := digs.changes.workingDirectory
  files location identity mode bytes := by
    refine ⟨fun found => ?_, digs.kept⟩
    rcases digs.new found with old | ⟨folder, -⟩
    · exact old
    · cases folder

/-- The mode of a directory is set. -/
theorem setMode (inside : disk.isDirectoryAt location = true) (mode : Nat) :
    Spares disk (disk.put location (.directory mode)) := by
  obtain ⟨old, there⟩ := isDirectoryAt_iff.mp inside
  have aside {other : Location} (differ : other ≠ location) :=
    get?_put_aside disk (.directory mode) differ
  have still : (disk.put location (.directory mode)).isDirectoryAt location = true := by
    by_cases root : location = []
    · rw [root]
      rfl
    · rw [isDirectoryAt, get?_put _ _ _ root, if_pos rfl]
      rfl
  obtain ⟨new, here⟩ := isDirectoryAt_iff.mp still
  refine ⟨⟨fun other held => ?_, fun other target found => ?_⟩, ?_, ?_⟩
  · by_cases same : other = location
    · rwa [same]
    · rwa [isDirectoryAt, aside same]
  · by_cases same : other = location
    · rw [same, there] at found
      cases found
    · rwa [aside same]
  · rw [put]
    split <;> rfl
  · intro other identity mode bytes
    by_cases same : other = location
    · rw [same, here, there]
      simp
    · rw [aside same]

theorem keepsFile (spares : Spares before after) : KeepsFile path before after :=
  spares.ways.keepsFile spares.workingDirectory fun location identity mode bytes _ found =>
    (spares.files location identity mode bytes).mpr found

end Spares

/-- A private directory is made beside all files. -/
theorem makePrivateDirectory_spares (done : makePrivateDirectory path disk = (.ok (), after)) :
    Spares disk after := by
  obtain ⟨made, home, digs, -, inside, -, rfl⟩ := makePrivateDirectory_eq_ok done
  exact (Spares.of_digs digs).trans (.setMode inside _)

/-! ## The place of a path -/

/-- A path that ends in a name gives its place by the way to the directory. -/
theorem Names.way (names : disk.Names path location)
    (unslashed : path.toList.getLast? ≠ some '/') :
    ∃ home name before left, location = home ++ [name] ∧ Path.isName name = true ∧
      isTooLong name = false ∧ disk.isDirectoryAt home = true ∧
      Path.pieces path = before ++ [name] ∧
      Reaches disk greatestLinkCount (origin disk.workingDirectory path) before left home := by
  obtain ⟨home, name, before, after, rfl, named, inside, pieces, empty, left, reached⟩ :=
    names.reaches
  obtain rfl := Path.eq_nil_of_unslashed pieces empty unslashed
  exact ⟨home, name, before, left, rfl, named, names.short, inside, pieces, reached⟩

theorem Names.mono (names : before.Names path location)
    (unslashed : path.toList.getLast? ≠ some '/') (ways : KeepsWays before after)
    (base : after.workingDirectory = before.workingDirectory) : after.Names path location := by
  obtain ⟨home, name, early, left, rfl, named, short, inside, pieces, reached⟩ :=
    names.way unslashed
  have still := ways.directory home inside
  obtain ⟨mode, held⟩ := isDirectoryAt_iff.mp still
  have onward := reached.mono ways ⟨_, held, nofun⟩
  rw [← base] at onward
  exact .of_reaches names.checkText pieces named short still onward

/-- What stands in the place of a path, unless it is a link, is what the path leads to. -/
theorem Names.locate (names : disk.Names path location)
    (unslashed : path.toList.getLast? ≠ some '/') (found : disk.get? location = some node)
    (solid : ∀ target, node ≠ .link target) : disk.locate path = .ok location := by
  obtain ⟨home, name, early, left, rfl, named, short, inside, pieces, reached⟩ :=
    names.way unslashed
  refine locate_eq_ok_iff.mpr ⟨names.checkText, left, ?_⟩
  rw [pieces]
  exact reached.append (.into inside ⟨Path.ne_empty named, Path.ne_dot named, Path.ne_dots named⟩
    short found solid (.here _ _))

/-- A file cannot take the place of a path that ends in a slash. -/
theorem unslashed_of_renameFrom (found : disk.get? staged = some node)
    (solid : node.isDirectory = false) (done : disk.renameFrom staged path = .ok after) :
    path.toList.getLast? ≠ some '/' := by
  intro slashed
  rw [renameFrom] at done
  obtain ⟨spot, placed, done⟩ := bind_eq_ok_iff.mp done
  obtain ⟨target, located, done⟩ := bind_eq_ok_iff.mp done
  have slash : spot.slash = true := by
    rw [place] at placed
    obtain ⟨_, -, placed⟩ := bind_eq_ok_iff.mp placed
    split at placed
    · cases placed
      rfl
    · obtain ⟨walked, -, placed⟩ := bind_eq_ok_iff.mp placed
      have ends : (path.toList.getLast? == some '/') = true := by rw [slashed]; rfl
      cases walked with
      | vacant at_ name => cases placed
      | occupied at_ =>
          rw [ends] at placed
          simp only at placed
          repeat' split at placed
          all_goals cases placed
          all_goals rfl
  simp [found, slash, solid] at done

/-! ## What was saved -/

/-- The way of a path to its place does not pass a link in that place. -/
def Straight (disk : Disk) (path : Path) : Prop :=
  ∀ location target, disk.Names path location → disk.get? location = some (.link target) →
    (disk.erase location).Names path location

theorem LinkFree.straight (linkFree : disk.LinkFree) (path : Path) : disk.Straight path :=
  fun location target _ found => absurd found (linkFree location target)

/-- Without links every way is straight, that through the new directories too. -/
theorem LinkFree.straight_prepared (linkFree : disk.LinkFree) (path : Path) :
    (disk.prepared path).Straight path :=
  ((prepared_digs disk path).changes.linkFree linkFree).straight path

/-- A file that has taken the place of a path is what the path leads to. -/
theorem locate_of_renameFrom (tree : disk.IsTree) (named : staged ≠ [])
    (vacant : disk.get? staged = none)
    (done : (disk.putNewFile staged mode bytes).renameFrom staged path = .ok after) :
    ∃ place, disk.Names path place ∧ disk.isDirectoryAt place = false ∧
      after.get? place = some (.file disk.freshIdentity mode bytes) ∧
      (∀ other, other ≠ place → after.get? other = disk.get? other) ∧
      (disk.Straight path → after.locate path = .ok place) := by
  have whole := (get?_putNewFile disk mode bytes staged named).trans (if_pos rfl)
  have unslashed := unslashed_of_renameFrom whole rfl done
  have base := workingDirectory_putNewFile disk staged mode bytes
  have kept := (renameFrom_changes done).workingDirectory
  obtain ⟨place, names, free, file, elsewhere⟩ := renameFrom_takes tree named vacant done
  -- the new file lies on no way, so the place is the one before it was put there
  have earlier : KeepsWays (disk.putNewFile staged mode bytes) disk := by
    refine .of_lookups fun other old there noFile => ?_
    rw [get?_putNewFile _ _ _ _ named] at there
    split at there
    · cases there
      cases noFile
    · exact there
  have before := names.mono unslashed earlier base.symm
  refine ⟨place, before, free, file, elsewhere, fun straight => ?_⟩
  have cleared : (disk.erase place).Names path place := by
    by_cases link : ∃ old, disk.get? place = some (.link old)
    · obtain ⟨old, there⟩ := link
      exact straight place old before there
    · exact before.mono unslashed
        (.erase tree names.ne_nil ⟨free, fun old there => link ⟨old, there⟩⟩) rfl
  have later : KeepsWays (disk.erase place) after := by
    refine .of_lookups fun other old there _ => ?_
    rw [get?_erase _ _ names.ne_nil] at there
    split at there
    · cases there
    · rename_i beside
      rw [elsewhere, there]
      rintro rfl
      exact beside (List.prefix_refl _)
  exact (cleared.mono unslashed later (kept.trans base)).locate unslashed file nofun

theorem readFile_of_renameFrom (tree : disk.IsTree) (straight : disk.Straight path)
    (named : staged ≠ []) (vacant : disk.get? staged = none)
    (done : (disk.putNewFile staged mode bytes).renameFrom staged path = .ok after) :
    after.readFile path = .ok bytes := by
  obtain ⟨place, -, -, file, -, located⟩ := locate_of_renameFrom tree named vacant done
  exact readFile_eq_ok_iff.mpr ⟨place, _, _, located straight, file⟩

/-- The last part of replacing a file leaves the disk as it was, or gives the path its content. -/
theorem exchange_outcome (tree : disk.IsTree) (directory : Location) (path : Path) (bytes : Bytes) :
    (exchange directory path bytes disk disk).1 = .ok () ∧
        (disk.Straight path → (exchange directory path bytes disk disk).2.readFile path = .ok bytes) ∨
      (∃ error, (exchange directory path bytes disk disk).1 = .error error) ∧
        Spares disk (exchange directory path bytes disk disk).2 := by
  have named : directory ++ [disk.unusedName directory] ≠ [] := by simp
  have vacant := get?_unusedName disk directory
  rw [exchange_eq_as]
  rcases exchangeAs_cases (disk.unusedName directory) directory path bytes disk with
    ⟨error, same⟩ | ⟨error, removed⟩ | ⟨after, moved, renamed⟩
  · rw [same]
    exact .inr ⟨⟨error, rfl⟩, .refl disk⟩
  · rw [removed]
    exact .inr ⟨⟨error, rfl⟩, .of_same (get?_erase_putNewFile tree named vacant _ _)
      (workingDirectory_putNewFile _ _ _ _)⟩
  · rw [moved]
    exact .inl ⟨rfl, fun straight => readFile_of_renameFrom tree straight named vacant renamed⟩

/-- A file that was replaced is read with its new content. -/
theorem readFile_replaceFile (tree : disk.IsTree) (straight : (disk.prepared path).Straight path)
    (done : (replaceFile path bytes disk).1 = .ok ()) :
    (replaceFile path bytes disk).2.readFile path = .ok bytes := by
  have made := (prepared_digs disk path).changes.isTree tree
  rcases replaceFile_cases disk path bytes with ⟨error, failed⟩ | ⟨directory, -, exchanged⟩
  · rw [failed] at done
    cases done
  · rw [exchanged] at done ⊢
    rcases exchange_outcome made directory path bytes with ⟨-, read⟩ | ⟨⟨error, failed⟩, -⟩
    · exact read straight
    · cases done.symm.trans failed

/-- A replacement that fails leaves all files as they were. -/
theorem replaceFile_spares {error : IoError} (tree : disk.IsTree)
    (failed : (replaceFile path bytes disk).1 = .error error) :
    Spares disk (replaceFile path bytes disk).2 := by
  have digs := prepared_digs disk path
  have made := digs.changes.isTree tree
  rcases replaceFile_cases disk path bytes with ⟨error, early⟩ | ⟨directory, -, exchanged⟩
  · rw [early]
    exact .of_digs digs
  · rw [exchanged] at failed ⊢
    rcases exchange_outcome made directory path bytes with ⟨done, -⟩ | ⟨-, spares⟩
    · cases failed.symm.trans done
    · exact (Spares.of_digs digs).trans spares

section Join

variable {folder : Path} {name : String}

/-- In a directory that is there a file is replaced at once. -/
theorem replaceFile_eq_exchange (named : Path.isName name = true)
    (text : checkText (Path.join folder name) = .ok ())
    (leads : disk.Leads folder home) (bytes : Bytes) :
    replaceFile (Path.join folder name) bytes disk =
      exchange home (Path.join folder name) bytes disk disk := by
  have above := Path.parent?_join folder named
  generalize Path.ofReversed (Path.isAbsolute folder) _ = parent at above
  rw [replaceFile_eq, above]
  by_cases empty : parent = ""
  · subst empty
    rw [leads.eq_of_parent_empty named above]
    simp only [Failing.bind_run, Failing.get_run, makeDirectories_empty]
    rfl
  · have located := leads.locate_parent named above empty text
    have some_ : parent.isEmpty = false := by
      rwa [Bool.eq_false_iff, ne_eq, String.isEmpty_iff]
    simp only [Failing.bind_run, Failing.get_run, makeDirectories_of_located located leads.2, some_,
      located]
    rfl

/-- A file is replaced in a directory that can be written to. -/
theorem replaceFile_join (named : Path.isName name = true) (short : isTooLong name = false)
    (text : checkText (Path.join folder name) = .ok ())
    (leads : disk.Leads folder home) (unsealed : disk.isSealed home = false)
    (free : disk.isDirectoryAt (home ++ [name]) = false)
    (differ : disk.unusedName home ≠ name) (bytes : Bytes) :
    replaceFile (Path.join folder name) bytes disk =
      (.ok (), ((disk.putNewFile (home ++ [disk.unusedName home]) privateFileMode bytes).erase
        (home ++ [name])).move (home ++ [disk.unusedName home]) (home ++ [name])) := by
  let staged := home ++ [disk.unusedName home]
  let full := disk.putNewFile staged privateFileMode bytes
  have filled : staged ≠ [] := by simp [staged]
  have lookup := fun other => get?_putNewFile disk privateFileMode bytes other filled
  have renamed : full.renameFrom staged (Path.join folder name) =
      .ok ((full.erase (home ++ [name])).move staged (home ++ [name])) := by
    have ways := KeepsWays.putNewFile privateFileMode bytes filled (get?_unusedName disk home)
    have base := workingDirectory_putNewFile disk staged privateFileMode bytes
    refine renameFrom_join named short text (leads.mono ways base) differ ?_
      ((lookup staged).trans (if_pos rfl)) rfl ?_
    · rw [isSealed] at unsealed ⊢
      have same : full.sealedDirectories = disk.sealedDirectories := by
        simp only [full, putNewFile, put]
        split <;> rfl
      rwa [same]
    · rw [isDirectoryAt, lookup, if_neg, ← isDirectoryAt]
      · exact free
      · simpa [staged] using differ.symm
  have clean : (Path.join folder name).toList.contains '\x00' = false := by
    simpa using (checkText_eq_ok_iff.mp text).1
  rw [replaceFile_eq_exchange named text leads, exchange]
  simp only [unsealed, clean, Bool.false_eq_true, if_false]
  rw [renamed]
  rfl

/-- In a sealed directory no file is replaced. -/
theorem replaceFile_join_sealed (named : Path.isName name = true)
    (text : checkText (Path.join folder name) = .ok ())
    (leads : disk.Leads folder home) (locked : disk.isSealed home = true) (bytes : Bytes) :
    replaceFile (Path.join folder name) bytes disk = (.error .permissionDenied, disk) := by
  rw [replaceFile_eq_exchange named text leads, exchange]
  simp only [if_pos locked]
  rfl

end Join

/-- Links or not, what is left is a tree. -/
theorem replaceFile_isTree (tree : disk.IsTree) (path : Path) (bytes : Bytes) :
    (replaceFile path bytes disk).2.IsTree := by
  have digs := prepared_digs disk path
  have tree := digs.changes.isTree tree
  rcases replaceFile_cases disk path bytes with ⟨error, failed⟩ | ⟨directory, inside, exchanged⟩
  · rw [failed]
    exact tree
  · rw [exchanged]
    have named : directory ++ [(disk.prepared path).unusedName directory] ≠ [] := by simp
    have vacant := get?_unusedName (disk.prepared path) directory
    rw [exchange_eq_as]
    rcases exchangeAs_cases ((disk.prepared path).unusedName directory) directory path bytes
      (disk.prepared path) with ⟨error, same⟩ | ⟨error, removed⟩ | ⟨after, moved, renamed⟩
    · rw [same]
      exact tree
    · rw [removed]
      exact tree.of_same (get?_erase_putNewFile tree named vacant privateFileMode bytes)
        (Nat.le_succ _)
    · rw [moved]
      have there := isDirectoryAt_of_renameFrom inside renamed
      have put := Change.makeFile privateFileMode bytes named vacant
        (by rwa [List.dropLast_concat])
      exact (renameFrom_changes renamed).isTree (put.isTree tree)

end Disk

end SelfUpdate
