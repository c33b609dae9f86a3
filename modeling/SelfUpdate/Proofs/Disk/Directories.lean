import SelfUpdate.Proofs.Disk.Changes

/-!
# Making directories

Making a directory with all that is missing above it only adds directories, and what others do to the
disk is made of changes as well.
-/

namespace SelfUpdate.Disk

variable {disk before after : Disk} {location home : Location} {node : Node}

/-- A directory was made where nothing was. -/
def Dig (before after : Disk) : Prop :=
  ∃ home name, Path.isName name = true ∧ before.get? (home ++ [name]) = none ∧
    before.isDirectoryAt home = true ∧
    after = before.put (home ++ [name]) (.directory directoryMode)

/-- Directories were made, and nothing else was done. -/
abbrev Digs : Disk → Disk → Prop := Relation.ReflTransGen Dig

theorem Dig.change (dig : Dig before after) : Change before after := by
  obtain ⟨home, name, -, vacant, inside, rfl⟩ := dig
  exact .makeDirectory _ (by simp) vacant (by rwa [List.dropLast_concat])

namespace Digs

theorem changes (digs : Digs before after) : Changes before after := by
  induction digs with
  | refl => exact .refl
  | tail _ dig ih => exact ih.tail dig.change

/-- What was there stays. -/
theorem kept (digs : Digs before after) (found : before.get? location = some node) :
    after.get? location = some node := by
  induction digs with
  | refl => exact found
  | tail _ dig ih =>
      obtain ⟨home, name, -, vacant, -, rfl⟩ := dig
      rw [get?_put _ _ _ (by simp), if_neg]
      · exact ih
      · rintro rfl
        rw [vacant] at ih
        cases ih

/-- What was not there is a directory with a name. -/
theorem new (digs : Digs before after) (found : after.get? location = some node) :
    before.get? location = some node ∨ node = .directory directoryMode ∧
      ∃ home name, Path.isName name = true ∧ location = home ++ [name] := by
  induction digs with
  | refl => exact .inl found
  | tail _ dig ih =>
      obtain ⟨home, name, named, -, -, rfl⟩ := dig
      rw [get?_put _ _ _ (by simp)] at found
      split at found
      · cases found
        exact .inr ⟨rfl, home, name, named, ‹_›⟩
      · exact ih found

theorem new_entry {name : String} (digs : Digs before after)
    (found : after.get? (home ++ [name]) = some node) :
    before.get? (home ++ [name]) = some node ∨
      node.isDirectory = true ∧ Path.isName name = true := by
  rcases digs.new found with old | ⟨rfl, above, own, named, there⟩
  · exact .inl old
  · obtain ⟨-, same⟩ := List.append_inj' there rfl
    cases same
    exact .inr ⟨rfl, named⟩

theorem keepsWays (digs : Digs before after) : KeepsWays before after where
  directory location held := by
    obtain ⟨mode, found⟩ := isDirectoryAt_iff.mp held
    exact isDirectoryAt_iff.mpr ⟨mode, digs.kept found⟩
  link location target found := digs.kept found

end Digs

theorem makeDirectory_dig {path : Path} (done : disk.makeDirectory path = .ok after) :
    Dig disk after := by
  obtain ⟨location, names, vacant, rfl⟩ := makeDirectory_eq_ok done
  obtain ⟨home, name, _, _, rfl, named, inside, -⟩ := names.reaches
  exact ⟨home, name, named, vacant, inside, rfl⟩

/-- A directory that cannot be made may be there already. -/
def settleFor (path : Path) (error : IoError) (disk : Disk) : Except IoError Unit × Disk :=
  if disk.isDirectory path then (.ok (), disk) else (.error error, disk)

/-- Makes a directory whose parents are there. -/
def makeLast (path : Path) (disk : Disk) : Except IoError Unit × Disk :=
  match disk.makeDirectory path with
  | .ok after => (.ok (), after)
  | .error error => settleFor path error disk

section

variable {path : Path} {above : List Path}

/-- When nothing is missing above a directory it is made at once. -/
theorem makeDirectoriesUpTo_of_parent (named : path.isEmpty = false)
    (present : disk.makeDirectory path ≠ .error .notFound) :
    makeDirectoriesUpTo (path :: above) disk = makeLast path disk := by
  rw [makeDirectoriesUpTo, makeLast]
  simp only [named, Bool.false_eq_true, if_false, Failing.bind_run, Failing.get_run, settleFor]
  cases made : disk.makeDirectory path with
  | ok after => rfl
  | error error =>
      cases error with
      | notFound => exact absurd made present
      | _ =>
          simp only [Failing.ite_run]
          rfl

/-- What is missing above a directory is made first. -/
theorem makeDirectoriesUpTo_of_missing (named : path.isEmpty = false)
    (missing : disk.makeDirectory path = .error .notFound) :
    makeDirectoriesUpTo (path :: above) disk =
      match makeDirectoriesUpTo above disk with
      | (.ok _, after) => makeLast path after
      | (.error error, after) => (.error error, after) := by
  rw [makeDirectoriesUpTo]
  simp only [named, Bool.false_eq_true, if_false, Failing.bind_run, Failing.get_run, missing]
  rcases makeDirectoriesUpTo above disk with ⟨_ | _, after⟩
  · rfl
  · simp only [makeLast, settleFor]
    cases made : after.makeDirectory path with
    | ok last => rfl
    | error error =>
        simp only [Failing.ite_run]
        rfl

end

theorem makeLast_digs (path : Path) (disk : Disk) : Digs disk (makeLast path disk).2 := by
  rw [makeLast]
  cases made : disk.makeDirectory path with
  | ok after => exact .single (makeDirectory_dig made)
  | error error =>
      simp only [settleFor]
      split <;> exact .refl

/-- Making directories keeps what was made when it fails. -/
theorem makeDirectoriesUpTo_digs (paths : List Path) (disk : Disk) :
    Digs disk (makeDirectoriesUpTo paths disk).2 := by
  induction paths generalizing disk with
  | nil => exact .refl
  | cons path above ih =>
      cases named : path.isEmpty with
      | true =>
          rw [makeDirectoriesUpTo, if_pos named]
          exact .refl
      | false =>
          have earlier := ih disk
          by_cases missing : disk.makeDirectory path = .error .notFound
          · rw [makeDirectoriesUpTo_of_missing named missing]
            rcases made : makeDirectoriesUpTo above disk with ⟨_ | _, after⟩
            · rwa [made] at earlier
            · rw [made] at earlier
              exact earlier.trans (makeLast_digs path after)
          · rw [makeDirectoriesUpTo_of_parent named missing]
            exact makeLast_digs path disk

theorem makeDirectories_digs (path : Path) (disk : Disk) :
    Digs disk (makeDirectories path disk).2 :=
  makeDirectoriesUpTo_digs (Path.ancestors path) disk

/-! ## A directory that is there -/

/-- What is there cannot be made, and nothing is missing on the way to it. -/
theorem makeDirectory_of_located {path : Path} (located : disk.locate path = .ok home) :
    ∃ error, disk.makeDirectory path = .error error ∧ error ≠ .notFound := by
  obtain ⟨text, left, reached⟩ := locate_eq_ok_iff.mp located
  rw [makeDirectory, place, text, ok_bind]
  cases trimmed : (Path.pieces path).reverse.dropWhile String.isEmpty with
  | nil => exact ⟨_, rfl, by simp⟩
  | cons last before =>
      obtain ⟨some_, after, pieces, -⟩ := reverse_dropWhile_eq trimmed
      rw [pieces] at reached
      obtain ⟨middle, at_, early, late⟩ := reached.split
      simp only [early.walk, ok_bind]
      cases inside : disk.isDirectoryAt at_ with
      | false => exact ⟨_, rfl, by simp⟩
      | true =>
          by_cases dots : last = "." ∨ last = ".."
          · simp only [Bool.not_true, Bool.false_eq_true, if_false, if_pos dots]
            exact ⟨_, rfl, by simp⟩
          · have present : (disk.get? (at_ ++ [last])).isSome := by
              rw [not_or] at dots
              cases late with
              | idle _ nothing => exact absurd nothing (not_or.mpr ⟨some_, dots.1⟩)
              | up => exact absurd rfl dots.2
              | through _ _ _ found => rw [found]; rfl
              | into _ _ _ found => rw [found]; rfl
            simp only [Bool.not_true, Bool.false_eq_true, if_false, if_neg dots, pure_eq_ok,
              ok_bind, Place.locate]
            cases long : isTooLong last with
            | true => exact ⟨_, rfl, by simp⟩
            | false =>
                simp only [Bool.false_eq_true, if_false, ok_bind, present, if_true]
                exact ⟨_, rfl, by simp⟩

theorem ancestors_eq_cons (path : Path) : ∃ above, Path.ancestors path = path :: above := by
  rw [Path.ancestors, Path.ancestorsWithin]
  cases Path.parent? path with
  | none => exact ⟨_, rfl⟩
  | some parent => exact ⟨_, rfl⟩

/-- Making a directory that is there changes nothing. -/
theorem makeDirectories_of_located {path : Path} (located : disk.locate path = .ok home)
    (inside : disk.isDirectoryAt home = true) : makeDirectories path disk = (.ok (), disk) := by
  obtain ⟨above, ancestors⟩ := ancestors_eq_cons path
  obtain ⟨error, refused, present⟩ := makeDirectory_of_located located
  have named : path.isEmpty = false := by
    have text := checkText_eq_ok_iff.mp (locate_eq_ok_iff.mp located).1
    rw [Bool.eq_false_iff, ne_eq, String.isEmpty_iff]
    exact text.2.1
  have directory : disk.isDirectory path = true := by
    rw [isDirectory, node?, located]
    exact inside
  rw [makeDirectories, ancestors, makeDirectoriesUpTo_of_parent named, makeLast, refused]
  · simp only [settleFor, directory, if_true]
  · rintro missing
    rw [refused] at missing
    exact present (Except.error.inj missing)

theorem makeDirectories_empty : makeDirectories "" disk = (.ok (), disk) := by
  obtain ⟨above, ancestors⟩ := ancestors_eq_cons ""
  have nothing : "".isEmpty = true := rfl
  rw [makeDirectories, ancestors, makeDirectoriesUpTo, if_pos nothing]
  rfl

/-- The path of a directory with names in it is legal, unless it is empty. -/
theorem makeDirectories_of_leads {directory : Path} {name : String}
    (named : Path.isName name = true) (leads : disk.Leads directory home)
    (text : checkText (Path.join directory name) = .ok ()) :
    makeDirectories directory disk = (.ok (), disk) := by
  by_cases empty : directory = ""
  · rw [empty, makeDirectories_empty]
  · have legal := checkText_directory named empty text
    exact makeDirectories_of_located (locate_directory leads legal) leads.2

/-- The path of a directory that was made leads to it. -/
theorem makeDirectory_locates {path : Path} (done : disk.makeDirectory path = .ok after) :
    ∃ home, home ≠ [] ∧ disk.get? home = none ∧
      after = disk.put home (.directory directoryMode) ∧ after.locate path = .ok home ∧
      after.isDirectoryAt home = true := by
  have ways := Digs.keepsWays (.single (makeDirectory_dig done))
  obtain ⟨location, names, vacant, rfl⟩ := makeDirectory_eq_ok done
  have made := get?_put disk (.directory directoryMode) location names.ne_nil
  rw [if_pos rfl] at made
  have again := names
  obtain ⟨home, name, early, late, rfl, named, inside, pieces, empty, left, reached⟩ :=
    names.reaches
  have there : (disk.put (home ++ [name]) (.directory directoryMode)).isDirectoryAt
      (home ++ [name]) = true := by
    rw [isDirectoryAt, made]
    rfl
  obtain ⟨mode, held⟩ := isDirectoryAt_iff.mp (ways.directory home inside)
  have onward := reached.mono ways ⟨_, held, by simp⟩
  have rest (pieces : List String) (empty : ∀ piece ∈ pieces, piece = "") :
      Reaches (disk.put (home ++ [name]) (.directory directoryMode)) left (home ++ [name]) pieces
        left (home ++ [name]) := by
    induction pieces with
    | nil => exact .here _ _
    | cons piece others ih =>
        rw [List.forall_mem_cons] at empty
        exact .idle there (.inl empty.1) (ih empty.2)
  have same : (disk.put (home ++ [name]) (.directory directoryMode)).workingDirectory =
      disk.workingDirectory := by
    rw [put]
    split <;> rfl
  refine ⟨_, again.ne_nil, vacant, rfl,
    locate_eq_ok_iff.mpr ⟨again.checkText, left, ?_⟩, there⟩
  rw [pieces, same]
  exact onward.append (.into (ways.directory home inside)
    ⟨Path.ne_empty named, Path.ne_dot named, Path.ne_dots named⟩ again.short made (by simp)
    (rest late empty))

theorem makeDirectory_located {path : Path} (done : disk.makeDirectory path = .ok after) :
    ∃ home, after.locate path = .ok home ∧ after.isDirectoryAt home = true := by
  obtain ⟨home, -, -, -, located, inside⟩ := makeDirectory_locates done
  exact ⟨home, located, inside⟩

theorem makeLast_located {path : Path} (done : makeLast path disk = (.ok (), after)) :
    ∃ home, after.locate path = .ok home ∧ after.isDirectoryAt home = true := by
  rw [makeLast] at done
  cases made : disk.makeDirectory path with
  | ok first =>
      rw [made] at done
      cases done
      exact makeDirectory_located made
  | error error =>
      simp only [made, settleFor] at done
      split at done
      · rename_i inside
        cases done
        rw [isDirectory, node?] at inside
        cases located : disk.locate path with
        | ok home =>
            rw [located] at inside
            exact ⟨home, rfl, inside⟩
        | error error => simp [located, Except.toOption] at inside
      · cases done

/-- Once its directories are made a path leads to a directory, unless it is empty. -/
theorem makeDirectories_located {path : Path} (some_ : path ≠ "")
    (done : makeDirectories path disk = (.ok (), after)) :
    ∃ home, after.locate path = .ok home ∧ after.isDirectoryAt home = true := by
  obtain ⟨above, ancestors⟩ := ancestors_eq_cons path
  have named : path.isEmpty = false := by
    rwa [Bool.eq_false_iff, ne_eq, String.isEmpty_iff]
  rw [makeDirectories, ancestors] at done
  by_cases missing : disk.makeDirectory path = .error .notFound
  · rw [makeDirectoriesUpTo_of_missing named missing] at done
    rcases made : makeDirectoriesUpTo above disk with ⟨_ | _, between⟩
    · rw [made] at done
      cases done
    · rw [made] at done
      exact makeLast_located done
  · rw [makeDirectoriesUpTo_of_parent named missing] at done
    exact makeLast_located done

/-! ## Which directories are made -/

/-- A path still leads to a directory while the ways are open. -/
theorem KeepsWays.locate {path : Path} (ways : KeepsWays before after)
    (base : after.workingDirectory = before.workingDirectory)
    (located : before.locate path = .ok home) (inside : before.isDirectoryAt home = true) :
    after.locate path = .ok home := by
  obtain ⟨text, left, reached⟩ := locate_eq_ok_iff.mp located
  obtain ⟨mode, held⟩ := isDirectoryAt_iff.mp (ways.directory home inside)
  refine locate_eq_ok_iff.mpr ⟨text, left, ?_⟩
  rw [base]
  exact reached.mono ways ⟨_, held, nofun⟩

/-- An entry is what it was, or it is a new directory to which one of some paths leads. -/
def Dug (paths : List Path) (before after : Disk) (location : Location) : Prop :=
  after.get? location = before.get? location ∨
    before.get? location = none ∧ after.get? location = some (.directory directoryMode) ∧
      ∃ path ∈ paths, after.locate path = .ok location

theorem Dug.trans {path : Path} {above : List Path} {first second third : Disk}
    (early : Dug above first second location) (late : Dug [path] second third location)
    (digs : Digs second third) : Dug (path :: above) first third location := by
  rcases late with same | ⟨vacant, made, only, listed, led⟩
  · rcases early with old | ⟨vacant, made, upper, listed, led⟩
    · exact .inl (same.trans old)
    · have inside := isDirectoryAt_iff.mpr ⟨_, made⟩
      exact .inr ⟨vacant, same.trans made, upper, List.mem_cons_of_mem path listed,
        digs.keepsWays.locate digs.changes.workingDirectory led inside⟩
  · rcases early with old | ⟨-, found, -⟩
    · exact .inr ⟨old.symm.trans vacant, made, only,
        List.mem_cons.mpr (.inl (List.mem_singleton.mp listed)), led⟩
    · cases vacant.symm.trans found

theorem makeLast_dug (path : Path) (disk : Disk) (location : Location) :
    Dug [path] disk (makeLast path disk).2 location := by
  rw [makeLast]
  cases made : disk.makeDirectory path with
  | ok after =>
      obtain ⟨home, named, vacant, rfl, located, -⟩ := makeDirectory_locates made
      have lookup := get?_put disk (.directory directoryMode) location named
      by_cases here : location = home
      · rw [if_pos here] at lookup
        exact .inr ⟨here ▸ vacant, lookup, path, List.mem_singleton.mpr rfl, here ▸ located⟩
      · exact .inl (lookup.trans (if_neg here))
  | error error =>
      simp only [settleFor]
      split <;> exact .inl rfl

/-- Every new entry is a directory to which one of the paths leads. -/
theorem makeDirectoriesUpTo_dug (paths : List Path) (disk : Disk) (location : Location) :
    Dug paths disk (makeDirectoriesUpTo paths disk).2 location := by
  induction paths generalizing disk with
  | nil => exact .inl rfl
  | cons path above ih =>
      cases named : path.isEmpty with
      | true =>
          rw [makeDirectoriesUpTo, if_pos named]
          exact .inl rfl
      | false =>
          by_cases missing : disk.makeDirectory path = .error .notFound
          · have early := ih disk
            rw [makeDirectoriesUpTo_of_missing named missing]
            rcases made : makeDirectoriesUpTo above disk with ⟨_ | _, between⟩
            · rw [made] at early
              exact early.imp_right fun ⟨vacant, new, upper, listed, led⟩ =>
                ⟨vacant, new, upper, List.mem_cons_of_mem path listed, led⟩
            · rw [made] at early
              exact early.trans (makeLast_dug path between location) (makeLast_digs path between)
          · rw [makeDirectoriesUpTo_of_parent named missing]
            have none : Dug above disk disk location := .inl rfl
            exact none.trans (makeLast_dug path disk location) (makeLast_digs path disk)

/-! ## What others change -/

/-- Whether an action makes a link. -/
def Action.isLink : Action → Bool
  | link _ _ => true
  | _ => false

theorem afterAction_changes {action : Action} (harmless : action.isLink = false) (disk : Disk) :
    Changes disk (disk.afterAction action) := by
  rw [afterAction]
  cases action with
  | write path bytes => exact stepsOf_changes writeFile_changes disk
  | makeDirectories path => exact (makeDirectories_digs path disk).changes
  | remove path => exact stepsOf_changes (fun done => .single (removeAll_change done)) disk
  | link path target => cases harmless
  | rename path target => exact stepsOf_changes rename_changes disk

theorem afterActions_changes {actions : List Action}
    (harmless : ∀ action ∈ actions, action.isLink = false) (disk : Disk) :
    Changes disk (disk.afterActions actions) := by
  rw [afterActions]
  induction actions generalizing disk with
  | nil => exact .refl
  | cons action rest ih =>
      rw [List.forall_mem_cons] at harmless
      exact (afterAction_changes harmless.1 disk).trans (ih harmless.2 _)

end SelfUpdate.Disk
