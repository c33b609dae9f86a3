import SelfUpdate.Proofs.Disk.Directories
import SelfUpdate.Proofs.Disk.Lexical
import SelfUpdate.Proofs.Disk.Operations

/-!
# Paths of locations

The path of a location leads back to it, and without its last component it is the path of the
directory.
-/

namespace SelfUpdate

namespace Path

variable {path : Path} {name : String}

theorem isIdle_name (first : Bool) (named : isName name = true) : isIdle first name = false := by
  simp [isIdle, ne_empty named, ne_dot named]

theorem dropIdle_name (absolute : Bool) (named : isName name = true) (before : List String) :
    dropIdle absolute (name :: before) = name :: before := by
  rw [dropIdle, isIdle_name _ named, if_neg (by decide)]

theorem dropIdle_names (absolute : Bool) {names : List String}
    (named : ∀ name ∈ names, isName name = true) : dropIdle absolute names = names := by
  cases names with
  | nil => rfl
  | cons name before => exact dropIdle_name absolute (named name List.mem_cons_self) before

/-- An absolute path begins with an empty piece. -/
theorem body_eq {before : List String} (pieces_eq : pieces path = before ++ [name])
    (named : isName name = true) : ∃ early, body path = early ++ [name] := by
  rw [body]
  split
  · rename_i absolute
    rw [pieces_eq]
    cases before with
    | nil =>
        -- a single piece that is not empty begins without a slash
        have same : path = name := by
          have text := congrArg (List.intercalate ['/']) (congrArg (List.map String.toList) pieces_eq)
          simp [pieces, List.intercalate_splitOn] at text
          exact String.toList_inj.mp text
        rw [same, isAbsolute_name named] at absolute
        cases absolute
    | cons first rest => exact ⟨rest, rfl⟩
  · exact ⟨before, pieces_eq⟩

/-- A path that ends in a name has it as its last component. -/
theorem fileName?_eq {before : List String} (pieces_eq : pieces path = before ++ [name])
    (named : isName name = true) : fileName? path = some name := by
  obtain ⟨early, body_eq⟩ := body_eq pieces_eq named
  rw [fileName?, body_eq, List.reverse_concat, dropIdle_name _ named]
  simp [ne_dot named, ne_dots named]

end Path

namespace Disk

variable {disk : Disk} {base location home : Location} {path : Path} {name : String}

/-- A location as a system has it: all its parts are names. -/
def OfNames (location : Location) : Prop := ∀ name ∈ location, Path.isName name = true

theorem OfNames.root : OfNames [] := fun _ listed => absurd listed List.not_mem_nil

theorem OfNames.concat (ofNames : OfNames location) (named : Path.isName name = true) :
    OfNames (location ++ [name]) := by
  intro other listed
  rcases List.mem_append.mp listed with early | last
  · exact ofNames other early
  · rw [List.mem_singleton.mp last]
    exact named

theorem OfNames.dropLast (ofNames : OfNames location) : OfNames location.dropLast :=
  fun other listed => ofNames other (List.dropLast_subset location listed)

theorem OfNames.origin (start : OfNames base) (path : Path) : OfNames (origin base path) := by
  rw [Disk.origin]
  split
  · exact .root
  · exact start

/-! ## The path of a location -/

theorem pieces_append_join (front : String) (ofNames : OfNames location) :
    Path.pieces (front ++ String.join (location.map ("/" ++ ·))) =
      Path.pieces front ++ location := by
  induction location generalizing front with
  | nil => simp
  | cons name rest ih =>
      have named := ofNames name List.mem_cons_self
      have onward := ih (front ++ "/" ++ name) fun other listed =>
        ofNames other (List.mem_cons_of_mem _ listed)
      rw [Path.pieces_append_slash, Path.pieces_name named] at onward
      rw [List.map_cons, String.join_cons, ← String.append_assoc, ← String.append_assoc, onward,
        List.append_assoc]
      rfl

theorem pieces_pathOf (ofNames : OfNames location) :
    Path.pieces (pathOf location) = "" :: if location = [] then [""] else location := by
  rw [pathOf]
  cases location with
  | nil => rfl
  | cons name rest =>
      have whole := pieces_append_join "" ofNames
      rw [String.empty_append] at whole
      rw [List.isEmpty_cons, if_neg (by decide), whole, if_neg (by simp)]
      rfl

theorem isAbsolute_pathOf (location : Location) : Path.isAbsolute (pathOf location) = true := by
  rw [pathOf]
  cases location with
  | nil => rfl
  | cons name rest =>
      rw [List.isEmpty_cons, if_neg (by decide), List.map_cons, String.join_cons,
        String.append_assoc, Path.isAbsolute_append _ _ (by decide)]
      rfl

/-- The path of a location leads to it. -/
theorem destination_pathOf (base : Location) (ofNames : OfNames location) :
    destination base (pathOf location) = location := by
  have names (start : Location) (names : OfNames location) :
      follow start location = start ++ location := by
    clear ofNames
    induction location generalizing start with
    | nil => simp [follow]
    | cons name rest ih =>
        have named := names name List.mem_cons_self
        rw [follow, if_neg (by simp [Path.ne_empty named, Path.ne_dot named]),
          if_neg (Path.ne_dots named), ih _ fun other listed =>
            names other (List.mem_cons_of_mem _ listed)]
        simp
  rw [destination, origin, isAbsolute_pathOf, if_pos rfl, pieces_pathOf ofNames, follow,
    if_pos (.inl rfl)]
  split
  · rename_i root
    rw [root]
    rfl
  · exact (names [] ofNames).trans (List.nil_append _)

theorem pathOf_inj (ofNames : OfNames location) (others : OfNames home) :
    pathOf location = pathOf home ↔ location = home := by
  constructor
  · intro same
    have back := congrArg (destination []) same
    rwa [destination_pathOf _ ofNames, destination_pathOf _ others] at back
  · rintro rfl
    rfl

theorem ofReversed_reverse (location : Location) :
    Path.ofReversed true location.reverse = pathOf location := by
  rw [Path.ofReversed, pathOf, List.reverse_reverse, if_pos rfl]
  induction location with
  | nil => simp
  | cons name rest ih =>
      cases rest with
      | nil => simp
      | cons next rest =>
          simp only [List.isEmpty_cons, Bool.false_eq_true, if_false] at ih ⊢
          rw [String.intercalate_cons_cons, List.map_cons, String.join_cons, ← ih]
          simp only [String.append_assoc]

/-- The root has no parent, and what is in a directory has the directory's path. -/
theorem parent?_pathOf (ofNames : OfNames location) :
    Path.parent? (pathOf location) =
      if location = [] then none else some (pathOf location.dropLast) := by
  have body_eq : Path.body (pathOf location) = if location = [] then [""] else location := by
    rw [Path.body, isAbsolute_pathOf, if_pos rfl, pieces_pathOf ofNames, List.tail_cons]
  rw [Path.parent?, isAbsolute_pathOf, body_eq]
  cases location using List.reverseRecOn with
  | nil => rfl
  | append_singleton rest name =>
      have named := ofNames name (by simp)
      have above : ∀ other ∈ rest.reverse, Path.isName other = true := fun other listed =>
        ofNames other (List.mem_append_left _ (List.mem_reverse.mp listed))
      rw [if_neg (by simp), if_neg (by simp), List.reverse_concat, Path.dropIdle_name _ named,
        List.dropLast_concat]
      simp only [Path.dropIdle_names true above, ofReversed_reverse]

/-! ## Where paths lead without links -/

theorem locate_eq_destination (linkFree : disk.LinkFree)
    (located : disk.locate path = .ok location) :
    location = destination disk.workingDirectory path := by
  obtain ⟨-, left, reached⟩ := locate_eq_ok_iff.mp located
  exact reached.eq_follow linkFree

/-- The names of an entry lead to it from the root, unless it is a link. -/
theorem reaches_names (tree : disk.IsTree) (links : Nat) (ofNames : OfNames location)
    (short : ∀ name ∈ location, isTooLong name = false)
    (present : (disk.get? location).isSome)
    (solid : ∀ target, disk.get? location ≠ some (.link target)) :
    Reaches disk links [] location links location := by
  induction location using List.reverseRecOn with
  | nil => exact .here _ _
  | append_singleton above name ih =>
      have inside := tree.parent above name present
      obtain ⟨mode, held⟩ := isDirectoryAt_iff.mp inside
      have early := ih (fun other listed => ofNames other (List.mem_append_left _ listed))
        (fun other listed => short other (List.mem_append_left _ listed)) (by rw [held]; rfl)
        (by simp [held])
      have last : name ∈ above ++ [name] := by simp
      have named := ofNames name last
      obtain ⟨node, found⟩ := Option.isSome_iff_exists.mp present
      refine early.append (.into inside
        ⟨Path.ne_empty named, Path.ne_dot named, Path.ne_dots named⟩ (short name last) found ?_
        (.here _ _))
      rintro target rfl
      exact solid target found

theorem locate_pathOf (tree : disk.IsTree) (ofNames : OfNames location)
    (short : ∀ name ∈ location, isTooLong name = false)
    (text : checkText (pathOf location) = .ok ()) (present : (disk.get? location).isSome)
    (solid : ∀ target, disk.get? location ≠ some (.link target)) :
    disk.locate (pathOf location) = .ok location := by
  refine locate_eq_ok_iff.mpr ⟨text, greatestLinkCount, ?_⟩
  rw [origin, isAbsolute_pathOf, if_pos rfl, pieces_pathOf ofNames]
  refine .idle rfl (.inl rfl) ?_
  split
  · rename_i root
    rw [root]
    exact .idle rfl (.inl rfl) (.here _ _)
  · exact reaches_names tree _ ofNames short present solid

theorem follow_empty {pieces : List String} (empty : ∀ piece ∈ pieces, piece = "") :
    follow location pieces = location := by
  induction pieces with
  | nil => rfl
  | cons piece rest ih =>
      rw [List.forall_mem_cons] at empty
      rw [follow, if_pos (.inl empty.1), ih empty.2]

/-- What a path names lies where the path leads. -/
theorem Names.eq_destination (linkFree : disk.LinkFree) (names : disk.Names path location) :
    location = destination disk.workingDirectory path := by
  obtain ⟨home, name, before, after, rfl, named, -, pieces_eq, empty, left, reached⟩ :=
    names.reaches
  obtain rfl := reached.eq_follow linkFree
  have head : name :: after = [name] ++ after := rfl
  rw [destination, pieces_eq, follow_append, head, follow_append, follow_name named,
    follow_empty empty]

/-! ## Private directories -/

/-- An empty path is that of no private directory. -/
theorem ne_empty_of_makePrivateDirectory {directory : Path} {after : Disk}
    (done : makePrivateDirectory directory disk = (.ok (), after)) : directory ≠ "" := by
  rintro rfl
  cases done

theorem setMode_directory {mode : Nat} {after : Disk} (located : disk.locate path = .ok location)
    (inside : disk.isDirectoryAt location = true) (done : disk.setMode path mode = .ok after) :
    after = disk.put location (.directory mode) := by
  obtain ⟨old, found⟩ := isDirectoryAt_iff.mp inside
  rw [setMode, located, ok_bind] at done
  simp only [found, pure_eq_ok, Except.ok.injEq] at done
  exact done.symm

/-- Setting the mode of a directory changes nothing elsewhere. -/
theorem get?_put_aside (disk : Disk) (node : Node) {other : Location} (aside : other ≠ location) :
    (disk.put location node).get? other = disk.get? other := by
  by_cases root : location = []
  · rw [root, get?_put_root]
  · rw [get?_put _ _ _ root, if_neg aside]

theorem KeepsWays.setMode (linkFree : disk.LinkFree) (location : Location) (mode : Nat) :
    KeepsWays disk (disk.put location (.directory mode)) where
  directory other held := by
    by_cases here : other = location
    · subst here
      by_cases root : other = []
      · rw [root]
        rfl
      · rw [isDirectoryAt, get?_put _ _ _ root, if_pos rfl]
        rfl
    · rw [isDirectoryAt, get?_put_aside _ _ here]
      exact held
  link other target found := absurd found (linkFree other target)

/-- A directory that is there and private already stays as it is. -/
theorem makePrivateDirectory_of_located (located : disk.locate path = .ok location)
    (inside : disk.isDirectoryAt location = true)
    (same : disk.put location (.directory privateDirectoryMode) = disk) :
    makePrivateDirectory path disk = (.ok (), disk) := by
  have made := makeDirectories_of_located located inside
  obtain ⟨mode, found⟩ := isDirectoryAt_iff.mp inside
  have set_ : disk.setMode path privateDirectoryMode = .ok disk := by
    rw [setMode, located, ok_bind]
    simp only [found, same, pure_eq_ok]
  rw [makePrivateDirectory]
  simp only [Failing.bind_run, made, Steps.of, Failing.get_run, set_]
  rfl

theorem makePrivateDirectory_changes (path : Path) (disk : Disk) :
    Changes disk (makePrivateDirectory path disk).2 := by
  have dug := (makeDirectories_digs path disk).changes
  rw [makePrivateDirectory]
  simp only [Failing.bind_run]
  generalize makeDirectories path disk = run at dug
  obtain ⟨result, made⟩ := run
  cases result with
  | error error => exact dug
  | ok done => exact dug.trans (stepsOf_changes (fun set => .single (setMode_change set)) made)

/-- When a private directory cannot be made, at most directories were made. -/
theorem makePrivateDirectory_error {error : IoError}
    (failed : (makePrivateDirectory path disk).1 = .error error) :
    (makePrivateDirectory path disk).2 = (makeDirectories path disk).2 := by
  rw [makePrivateDirectory] at failed ⊢
  simp only [Failing.bind_run] at failed ⊢
  generalize makeDirectories path disk = ran at failed ⊢
  obtain ⟨_ | _, made⟩ := ran
  · rfl
  · simp only [Steps.of, Failing.bind_run, Failing.get_run] at failed ⊢
    cases set_ : made.setMode path privateDirectoryMode with
    | error error => rfl
    | ok after =>
        rw [set_] at failed
        cases failed

/-- Making a private directory makes directories and sets the mode of the last one. -/
theorem makePrivateDirectory_eq_ok {directory : Path} {after : Disk}
    (done : makePrivateDirectory directory disk = (.ok (), after)) :
    ∃ made home, Digs disk made ∧ made.locate directory = .ok home ∧
      made.isDirectoryAt home = true ∧ made.setMode directory privateDirectoryMode = .ok after ∧
      after = made.put home (.directory privateDirectoryMode) := by
  have digs := makeDirectories_digs directory disk
  have some_ := ne_empty_of_makePrivateDirectory done
  rw [makePrivateDirectory] at done
  simp only [Failing.bind_run] at done
  rcases made_eq : makeDirectories directory disk with ⟨error | _, made⟩
  · rw [made_eq] at done
    cases done
  · rw [made_eq] at done digs
    obtain ⟨home, located, inside⟩ := makeDirectories_located some_ made_eq
    simp only [Steps.of, Failing.bind_run, Failing.get_run] at done
    cases set_ : made.setMode directory privateDirectoryMode with
    | error error =>
        rw [set_] at done
        cases done
    | ok other =>
        rw [set_] at done
        cases done
        exact ⟨made, home, digs, located, inside, set_, setMode_directory located inside set_⟩

/-- A private directory is there once it is made, and nothing but directories is new in it. -/
theorem makePrivateDirectory_ok {directory : Path} {after : Disk} (linkFree : disk.LinkFree)
    (done : makePrivateDirectory directory disk = (.ok (), after)) :
    ∃ made, Digs disk made ∧ Change made after ∧
      after.Leads directory (placeOf disk.workingDirectory directory) ∧
      ∀ name, after.get? (placeOf disk.workingDirectory directory ++ [name]) =
        made.get? (placeOf disk.workingDirectory directory ++ [name]) := by
  obtain ⟨made, home, digs, located, inside, changed, rfl⟩ := makePrivateDirectory_eq_ok done
  have change := setMode_change changed
  have leads := Leads.of_locate located inside
  have free := digs.changes.linkFree linkFree
  have place := leads.eq_placeOf free
  rw [digs.changes.workingDirectory] at place
  subst place
  refine ⟨made, digs, change, leads.mono (.setMode free _ _) change.workingDirectory, ?_⟩
  intro name
  exact get?_put_aside _ _ (by simp)

end Disk

end SelfUpdate
