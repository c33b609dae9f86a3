import SelfUpdate.Proofs.Disk.Locations

/-!
# Canonical paths

Links may be anywhere on a disk. The canonical path of what a path leads to leads to the same entry,
and it ends in the name of that entry. The path itself may end in another name, but only when that is
the name of a link.
-/

namespace SelfUpdate.Disk

variable {disk : Disk} {location other home : Location} {path : Path} {name : String}
  {links left : Nat} {pieces : List String}

/-- There is an entry that is no link. -/
def IsSolid (disk : Disk) (location : Location) : Prop :=
  ∃ node, disk.get? location = some node ∧ ∀ target, node ≠ .link target

theorem isSolid_of_isDirectoryAt (inside : disk.isDirectoryAt location = true) :
    disk.IsSolid location := by
  obtain ⟨mode, found⟩ := isDirectoryAt_iff.mp inside
  exact ⟨_, found, nofun⟩

theorem IsSolid.ne_link (solid : disk.IsSolid location) (target : Path) :
    disk.get? location ≠ some (.link target) := by
  obtain ⟨node, found, noLink⟩ := solid
  rw [found, ne_eq, Option.some.injEq]
  exact noLink target

theorem IsTree.isDirectoryAt_dropLast (tree : disk.IsTree)
    (inside : disk.isDirectoryAt location = true) :
    disk.isDirectoryAt location.dropLast = true := by
  obtain ⟨mode, found⟩ := isDirectoryAt_iff.mp inside
  by_cases root : location.dropLast = location
  · rwa [root]
  · exact tree.isDirectoryAt_of_prefix (by simp [found]) (List.dropLast_prefix location) root

/-! ## Where walks end -/

theorem Reaches.ofNames (start : OfNames location)
    (names : ∀ piece ∈ pieces, piece ≠ "" → piece ≠ "." → piece ≠ ".." →
      Path.isName piece = true)
    (reached : Reaches disk links location pieces left other) : OfNames other := by
  induction reached with
  | here => exact start
  | idle inside nothing onward ih => exact ih start (List.forall_mem_cons.mp names).2
  | up inside onward ih => exact ih start.dropLast (List.forall_mem_cons.mp names).2
  | @through links left location reached piece rest target inside named short found onward ih =>
      refine ih (start.origin target) fun part listed => ?_
      rcases List.mem_append.mp listed with early | late
      · exact Path.isName_of_piece early
      · exact names part (List.mem_cons_of_mem _ late)
  | into inside named short found solid onward ih =>
      obtain ⟨first, rest⟩ := List.forall_mem_cons.mp names
      exact ih (start.concat (first named.1 named.2.1 named.2.2)) rest

/-- A walk that follows a link goes on to where the link leads, so it never ends at one. -/
theorem Reaches.isSolid (tree : disk.IsTree) (start : disk.IsSolid location)
    (reached : Reaches disk links location pieces left other) : disk.IsSolid other := by
  induction reached with
  | here => exact start
  | idle inside nothing onward ih => exact ih start
  | up inside onward ih =>
      exact ih (isSolid_of_isDirectoryAt (tree.isDirectoryAt_dropLast inside))
  | through inside named short found onward ih =>
      refine ih (isSolid_of_isDirectoryAt ?_)
      rw [origin]
      split
      · rfl
      · exact inside
  | into inside named short found solid onward ih => exact ih ⟨_, found, solid⟩

/-- Names lead to nothing but the entry that they name, unless that is a link. -/
theorem Reaches.eq_names (tree : disk.IsTree) (ofNames : OfNames location)
    (solid : disk.IsSolid location) (reached : Reaches disk links [] location left other) :
    other = location := by
  induction location using List.reverseRecOn generalizing other left with
  | nil =>
      cases reached
      rfl
  | append_singleton above name ih =>
      have noLink := solid.ne_link
      obtain ⟨node, found, -⟩ := solid
      have inside := tree.parent above name (by simp [found])
      obtain ⟨middle, between, first, second⟩ := reached.split
      have early : OfNames above := fun part listed => ofNames part (List.mem_append_left _ listed)
      obtain rfl := ih early (isSolid_of_isDirectoryAt inside) first
      exact (second.single (ofNames name (by simp))).2.2 noLink

/-! ## Canonical paths -/

theorem ofNames_of_locate (base : OfNames disk.workingDirectory)
    (located : disk.locate path = .ok location) : OfNames location := by
  obtain ⟨-, left, reached⟩ := locate_eq_ok_iff.mp located
  exact reached.ofNames (base.origin path) fun piece listed => Path.isName_of_piece listed

theorem isSolid_of_locate (tree : disk.IsTree) (located : disk.locate path = .ok location) :
    disk.IsSolid location := by
  obtain ⟨-, left, reached⟩ := locate_eq_ok_iff.mp located
  cases split_ : Path.pieces path with
  | nil => exact absurd split_ (Path.pieces_ne_nil path)
  | cons first rest =>
      rw [split_] at reached
      exact reached.isSolid tree (isSolid_of_isDirectoryAt reached.inside)

/-- A canonical path leads nowhere else. -/
theorem eq_of_locate_pathOf (tree : disk.IsTree) (ofNames : OfNames location)
    (solid : disk.IsSolid location) (located : disk.locate (pathOf location) = .ok other) :
    other = location := by
  obtain ⟨-, left, reached⟩ := locate_eq_ok_iff.mp located
  rw [origin, isAbsolute_pathOf, if_pos rfl, pieces_pathOf ofNames] at reached
  have onward := (reached.of_idle (.inl rfl)).2
  split at onward
  · rename_i root
    cases (onward.of_idle (.inl rfl)).2
    exact root.symm
  · exact onward.eq_names tree ofNames solid

/-- What is read at a canonical path is what the path itself leads to. -/
theorem get?_of_node?_pathOf (tree : disk.IsTree) (ofNames : OfNames location)
    (solid : disk.IsSolid location) {node : Node} (read : disk.node? (pathOf location) = some node) :
    disk.get? location = some node := by
  rw [node?] at read
  cases located : disk.locate (pathOf location) with
  | error error => simp [located, Except.toOption] at read
  | ok other =>
      rw [eq_of_locate_pathOf tree ofNames solid located] at located
      simpa [located, Except.toOption] using read

theorem fileName?_pathOf (ofNames : OfNames (home ++ [name])) :
    Path.fileName? (pathOf (home ++ [name])) = some name := by
  have pieces_eq := pieces_pathOf ofNames
  rw [if_neg (by simp), ← List.cons_append] at pieces_eq
  exact Path.fileName?_eq pieces_eq (ofNames name (by simp))

/-! ## The last component -/

theorem Names.of_reaches {before : List String} (text : Disk.checkText path = .ok ())
    (pieces_eq : Path.pieces path = before ++ [name]) (named : Path.isName name = true)
    (short : isTooLong name = false) (inside : disk.isDirectoryAt home = true)
    (reached : Reaches disk greatestLinkCount (origin disk.workingDirectory path) before left
      home) : disk.Names path (home ++ [name]) := by
  have trimmed : (Path.pieces path).reverse.dropWhile String.isEmpty = name :: before.reverse := by
    rw [pieces_eq, List.reverse_concat, List.dropWhile_cons_of_neg]
    simpa using Path.ne_empty named
  refine ⟨⟨home, .name name, path.toList.getLast? == some '/'⟩, name, ?_, rfl, short, rfl⟩
  rw [place, text, ok_bind]
  simp only [trimmed, List.reverse_reverse, reached.walk, ok_bind, inside, Bool.not_true,
    Bool.false_eq_true, if_false, Path.ne_dot named, Path.ne_dots named, or_self, pure_eq_ok]

/-- The last component of a path is the name of a link. -/
def EndsInLink (disk : Disk) (path : Path) : Prop :=
  ∃ location target, disk.Names path location ∧ disk.get? location = some (.link target)

theorem LinkFree.not_endsInLink (linkFree : disk.LinkFree) : ¬ disk.EndsInLink path := by
  rintro ⟨location, target, -, found⟩
  exact linkFree location target found

/-- A path that leads to a file ends in the name of the file, or else in the name of a link. -/
theorem fileName?_or_endsInLink (tree : disk.IsTree)
    (located : disk.locate path = .ok (home ++ [name]))
    (file : disk.isDirectoryAt (home ++ [name]) = false) :
    Path.fileName? path = some name ∨ disk.EndsInLink path := by
  obtain ⟨text, left, reached⟩ := locate_eq_ok_iff.mp located
  cases split_ : Path.pieces path using List.reverseRecOn with
  | nil => exact absurd split_ (Path.pieces_ne_nil path)
  | append_singleton before last =>
      rw [split_] at reached
      obtain ⟨middle, between, early, final⟩ := reached.split
      have member : last ∈ Path.pieces path := by
        rw [split_]
        simp
      generalize target : home ++ [name] = reach at final file
      -- the last piece is the only one that can lead to something that is no directory
      cases final with
      | idle inside nothing onward =>
          cases onward
          cases inside.symm.trans file
      | up inside onward =>
          cases onward
          cases (tree.isDirectoryAt_dropLast inside).symm.trans file
      | through inside named short found onward =>
          have isName := Path.isName_of_piece member named.1 named.2.1 named.2.2
          exact .inr ⟨_, _, .of_reaches text split_ isName short inside early, found⟩
      | into inside named short found solid onward =>
          cases onward
          obtain ⟨-, same⟩ := List.append_inj' target rfl
          cases same
          exact .inl (Path.fileName?_eq split_
            (Path.isName_of_piece member named.1 named.2.1 named.2.2))

end SelfUpdate.Disk
