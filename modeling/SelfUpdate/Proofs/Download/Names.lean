import SelfUpdate.Proofs.Directories
import SelfUpdate.Proofs.Download.Slots
import SelfUpdate.Proofs.SafeName

/-!
# Slots stay in their directory

The name of a slot is safe and not empty, so both of its files are entries of the directory unless the
name is a single dot. Their paths have the directory as their parent, and on no disk do they lead
anywhere else.
-/

namespace SelfUpdate

namespace Path

variable {directory name : String}

/-- The pieces that stand for something. -/
def significant (absolute : Bool) : List String → List String
  | [] => []
  | first :: rest =>
    [first].filter (fun piece => !isIdle (!absolute) piece) ++
      rest.filter fun piece => !isIdle false piece

/-- What a path consists of: whether it begins at the root, and its pieces that stand for something. Paths
with the same components are the same path written differently. -/
def components (path : Path) : Bool × List String :=
  (isAbsolute path, significant (isAbsolute path) (body path))

theorem significant_concat (absolute : Bool) (before : List String) (piece : String) :
    significant absolute (before ++ [piece]) = significant absolute before ++
      [piece].filter fun piece => !isIdle (before.isEmpty && !absolute) piece := by
  cases before with
  | nil => simp [significant]
  | cons first rest => simp [significant]

theorem significant_dropIdle (absolute : Bool) (reversed : List String) :
    significant absolute (dropIdle absolute reversed).reverse =
      significant absolute reversed.reverse := by
  induction reversed with
  | nil => rfl
  | cons piece before ih =>
      rw [dropIdle]
      split
      · rename_i idle
        rw [ih, List.reverse_cons, significant_concat, List.isEmpty_reverse]
        simp [idle]
      · rfl

theorem significant_name (absolute : Bool) (named : isName name = true) (before : List String) :
    significant absolute (before ++ [name]) = significant absolute before ++ [name] := by
  rw [significant_concat]
  simp [isIdle_name _ named]

theorem significant_append_empty (absolute : Bool) (before : List String) :
    significant absolute (before ++ [""]) = significant absolute before := by
  rw [significant_concat]
  simp [isIdle]

/-- The body of a directory is its trunk, and behind a slash at its end an empty piece. -/
theorem significant_trunk (directory : Path) :
    significant (isAbsolute directory) (trunk directory) =
      significant (isAbsolute directory) (body directory) := by
  by_cases empty : directory = ""
  · subst empty
    rfl
  · rcases pieces_eq_stem empty with same | slashed
    · rw [trunk, body, same]
    · cases absolute : isAbsolute directory with
      | false => rw [trunk, body, absolute, if_neg (by decide), if_neg (by decide), slashed,
          significant_append_empty]
      | true =>
          have several := isAbsolute_iff.mp absolute
          rw [slashed] at several
          cases early : stem directory with
          | nil =>
              obtain ⟨next, rest, begins⟩ := several
              rw [early] at begins
              cases begins
          | cons first rest =>
              rw [trunk, body, absolute, if_pos rfl, if_pos rfl, slashed, early, List.cons_append,
                List.tail_cons, List.tail_cons, significant_append_empty]

theorem components_join (directory : Path) (named : isName name = true) :
    components (join directory name) =
      ((components directory).1, (components directory).2 ++ [name]) := by
  rw [components, isAbsolute_join directory named, body_join directory named,
    significant_name _ named, significant_trunk, components]

/-- The parent of a name is its directory. -/
theorem components_parent_join (directory : Path) (named : isName name = true) :
    ∃ parent, parent? (join directory name) = some parent ∧
      components parent = components directory := by
  refine ⟨_, parent?_join directory named, ?_⟩
  have early : trunk directory <+: body (join directory name) :=
    body_join directory named ▸ List.prefix_append _ _
  have inside := dropIdle_suffix (isAbsolute directory) (trunk directory).reverse
  have same := significant_dropIdle (isAbsolute directory) (trunk directory).reverse
  rw [List.reverse_reverse, significant_trunk] at same
  rw [components.eq_def directory, ← same]
  by_cases empty : ofReversed (isAbsolute directory)
      (dropIdle (isAbsolute directory) (trunk directory).reverse) = ""
  · have plain : ∀ piece ∈ (trunk directory).reverse, '/' ∉ piece.toList := fun piece listed =>
      slash_not_mem_of_piece (body_subset _ (early.subset (List.mem_reverse.mp listed)))
    obtain ⟨relative, nothing⟩ := dropIdle_eq_nil_of_empty plain empty
    rw [empty, nothing, relative]
    rfl
  · generalize dropIdle (isAbsolute directory) (trunk directory).reverse = reversed at inside empty ⊢
    have kept : reversed.reverse <+: body (join directory name) := by
      refine List.IsPrefix.trans ?_ early
      rwa [← List.reverse_suffix, List.reverse_reverse]
    have made : ofReversed (isAbsolute directory) reversed =
        ofReversed (isAbsolute (join directory name)) reversed.reverse.reverse := by
      rw [isAbsolute_join directory named, List.reverse_reverse]
    obtain ⟨begins, parts⟩ := body_ofReversed kept made empty
    rw [isAbsolute_join directory named] at begins
    rw [components, begins]
    rcases parts with parts | ⟨nothing, parts⟩
    · rw [parts]
    · rw [parts, nothing, ← significant_append_empty _ [], List.nil_append]

/-- A path that is an entry of a directory: it is the directory with one name, and it leads to what has
this name where the directory leads, whatever is on the disk. -/
structure EntryOf (directory : Path) (name : String) (path : Path) : Prop where
  named : isName name = true
  joined : path = join directory name
  components : components path = ((components directory).1, (components directory).2 ++ [name])
  parent : ∃ parent, parent? path = some parent ∧
    Path.components parent = Path.components directory
  place (disk : Disk) (spot : Disk.Place) : disk.place path = .ok spot →
    ∃ home, disk.Leads directory home ∧ spot = ⟨home, .name name, false⟩

theorem entryOf_join (directory : Path) (named : isName name = true) :
    EntryOf directory name (join directory name) where
  named := named
  joined := rfl
  components := components_join directory named
  parent := components_parent_join directory named
  place _ _ placed := ((Disk.place_join_eq_ok_iff named).mp placed).2

end Path

namespace Slot

variable {directory namePrefix version : String}

/-- The name of a slot has the hyphen, so it is not empty, and only a single dot is no name. -/
theorem isName_safeName_iff : Path.isName (safeName (namePrefix ++ "-" ++ version)) = true ↔
    safeName (namePrefix ++ "-" ++ version) ≠ "." := by
  have safe := isSafe_safeName (namePrefix ++ "-" ++ version)
  have some_ : safeName (namePrefix ++ "-" ++ version) ≠ "" :=
    safeName_ne_empty (c := '-') (by simp) (by decide) (by decide) (by decide)
  have noDots : safeName (namePrefix ++ "-" ++ version) ≠ ".." := by
    intro dots
    exact safe.noPair (dots ▸ List.infix_refl _)
  simp [Path.isName, some_, noDots, safe.slash]

/-- A slot of a name has one file with that name and one whose name has the suffix. -/
theorem eq_named_iff {name : String} {slot : Slot} (isName : Path.isName name = true) :
    slot = named directory name ↔ Path.EntryOf directory name slot.committed ∧
      Path.EntryOf directory (name ++ stagingSuffix) slot.staging := by
  constructor
  · rintro rfl
    exact ⟨Path.entryOf_join directory isName, Path.entryOf_join directory (isName_staging isName)⟩
  · rintro ⟨committed, staging⟩
    rw [named, ← committed.joined, ← staging.joined]

/-- Names of slots are safe. Every text is made into a safe name, and that name is left as it is. A version
has no slot exactly when the safe name of its prefix and itself is a single dot, and otherwise its slot
consists of the entry of the directory with that name and the entry whose name has the suffix, both of
which have the directory as their parent and lead nowhere else. -/
theorem names_confined :
    (∀ raw, IsSafe (safeName raw).toList ∧ safeName (safeName raw) = safeName raw) ∧
      ∀ directory namePrefix version,
        let name := safeName (namePrefix ++ "-" ++ version)
        (∀ error, ofVersion directory namePrefix version = .error error ↔
          name = "." ∧ error = .invalidName version) ∧
        ∀ slot, ofVersion directory namePrefix version = .ok slot ↔
          name ≠ "." ∧ Path.EntryOf directory name slot.committed ∧
            Path.EntryOf directory (name ++ stagingSuffix) slot.staging := by
  constructor
  · intro raw
    exact ⟨isSafe_safeName raw, safeName_of_isSafe (isSafe_safeName raw)⟩
  · intro directory namePrefix version
    have isName : Path.isName (safeName (namePrefix ++ "-" ++ version)) = true ↔
        safeName (namePrefix ++ "-" ++ version) ≠ "." := isName_safeName_iff
    rw [ofVersion]
    generalize safeName (namePrefix ++ "-" ++ version) = name at isName
    by_cases dot : name = "."
    · rw [if_neg (mt isName.mp (not_not.mpr dot))]
      simp [dot, eq_comm]
    · have isName := isName.mpr dot
      rw [if_pos isName]
      refine ⟨fun error => by simp [dot], fun slot => ?_⟩
      rw [Except.ok.injEq, eq_comm, ← eq_named_iff isName]
      exact (and_iff_right dot).symm

/-- A version may end in a segment that is a single dot. -/
example : ofVersion "updates" "app" "1.0/." = .error (.invalidName "1.0/.") := by decide

end Slot

end SelfUpdate
