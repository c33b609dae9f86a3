import SelfUpdate.Proofs.Disk.Canonical
import SelfUpdate.Proofs.Disk.Sizes

/-!
# Names without a file

When nothing is at the place of a path, the path leads nowhere. When a file is removed, a path that
passed it is not found any more, and every other path leads where it led.
-/

namespace SelfUpdate.Disk

variable {disk after : Disk} {location home place : Location} {directory : Path}
  {name other : String}

/-- The place of a name to which a path leads. -/
theorem Names.of_locate_join (named : Path.isName name = true)
    (located : disk.locate (Path.join directory name) = .ok location) :
    ∃ home, disk.Leads directory home ∧ disk.Names (Path.join directory name) (home ++ [name]) ∧
      (disk.get? (home ++ [name])).isSome := by
  obtain ⟨text, left, reached⟩ := locate_eq_ok_iff.mp located
  have pieces := Path.pieces_join directory named
  rw [pieces] at reached
  obtain ⟨middle, home, first, second⟩ := reached.split
  have inside := second.inside
  have short : isTooLong name = false := by
    cases second with
    | idle _ nothing =>
        rcases nothing with same | same
        · exact absurd same (Path.ne_empty named)
        · exact absurd same (Path.ne_dot named)
    | up => exact absurd rfl (Path.ne_dots named)
    | through _ _ short => exact short
    | into _ _ short => exact short
  have leads : disk.Leads directory home := by
    rw [origin_join _ _ named] at first
    exact ⟨⟨middle, first⟩, inside⟩
  exact ⟨home, leads, .of_reaches text pieces named short inside first,
    (second.single named).2.1⟩

/-- Nothing is found at a name without an entry. -/
theorem Vacant.node?_eq_none (named : Path.isName name = true)
    (vacant : disk.Vacant (Path.join directory name)) :
    disk.node? (Path.join directory name) = none := by
  rw [node?]
  cases located : disk.locate (Path.join directory name) with
  | error error => rfl
  | ok location =>
      obtain ⟨home, -, names, present⟩ := Names.of_locate_join named located
      rw [vacant _ names] at present
      cases present

/-! ## Walks past a removed file -/

/-- A walk comes to a name that is not there. -/
def Misses (disk : Disk) (links : Nat) (start : Location) (pieces : List String) : Prop :=
  disk.walk .target links start pieces = .error .notFound ∨
    ∃ directory name, disk.walk .target links start pieces = .ok (.vacant directory name)

theorem isDirectoryAt_erase (tree : disk.IsTree) (some_ : place ≠ [])
    (solid : disk.isDirectoryAt place = false) (inside : disk.isDirectoryAt location = true) :
    (disk.erase place).isDirectoryAt location = true := by
  have differ : location ≠ place := by
    rintro rfl
    cases solid.symm.trans inside
  rw [isDirectoryAt, tree.get?_erase_solid some_ solid, if_neg differ]
  exact inside

theorem misses_of_vacant {links : Nat} {piece : String} {rest : List String}
    (inside : disk.isDirectoryAt location = true) (named : piece ≠ "" ∧ piece ≠ "." ∧ piece ≠ "..")
    (short : isTooLong piece = false) (gone : disk.get? (location ++ [piece]) = none) :
    disk.Misses links location (piece :: rest) := by
  rw [Misses, Disk.walk, if_neg (by simp [inside]), if_neg (by simp [named]), if_neg named.2.2,
    if_neg (by simp), if_neg (by simp [short])]
  cases rest <;> simp [gone]

/-- Without a file or a link a walk leads where it led, unless it passed there. -/
theorem Reaches.erase {links left : Nat} {pieces : List String} (tree : disk.IsTree)
    (some_ : place ≠ []) (solid : disk.isDirectoryAt place = false)
    (reached : Reaches disk links location pieces left home) :
    Reaches (disk.erase place) links location pieces left home ∨
      (disk.erase place).Misses links location pieces := by
  have stays {location : Location} (inside : disk.isDirectoryAt location = true) :
      (disk.erase place).isDirectoryAt location = true :=
    isDirectoryAt_erase tree some_ solid inside
  have lookup := tree.get?_erase_solid some_ solid
  induction reached with
  | here => exact .inl (.here _ _)
  | idle inside nothing _ ih =>
      refine ih.imp (.idle (stays inside) nothing) fun misses => ?_
      rwa [Misses, Disk.walk, if_neg (by simp [stays inside]), if_pos nothing]
  | up inside _ ih =>
      refine ih.imp (.up (stays inside)) fun misses => ?_
      rwa [Misses, Disk.walk, if_neg (by simp [stays inside]), if_neg (by simp), if_pos rfl]
  | @through _ _ location _ piece rest target inside named short found _ ih =>
      by_cases here : location ++ [piece] = place
      · exact .inr (misses_of_vacant (stays inside) named short (by rw [lookup, if_pos here]))
      · have kept := lookup (location ++ [piece])
        rw [if_neg here, found] at kept
        refine ih.imp (.through (stays inside) named short kept) fun misses => ?_
        rw [Misses] at misses ⊢
        rw [Disk.walk, if_neg (by simp [stays inside]), if_neg (by simp [named]),
          if_neg named.2.2, if_neg (by simp), if_neg (by simp [short])]
        simpa [kept] using misses
  | @into _ _ location _ piece rest node inside named short found noLink _ ih =>
      by_cases here : location ++ [piece] = place
      · exact .inr (misses_of_vacant (stays inside) named short (by rw [lookup, if_pos here]))
      · have kept := lookup (location ++ [piece])
        rw [if_neg here, found] at kept
        refine ih.imp (.into (stays inside) named short kept noLink) fun misses => ?_
        rw [Misses] at misses ⊢
        rw [Disk.walk, if_neg (by simp [stays inside]), if_neg (by simp [named]),
          if_neg named.2.2, if_neg (by simp), if_neg (by simp [short])]
        cases node with
        | link target => exact absurd rfl (noLink target)
        | directory mode => simpa [kept] using misses
        | file identity mode bytes => simpa [kept] using misses

/-- A file without a way to it is missing. -/
theorem removeFile_of_misses (named : Path.isName name = true)
    (text : checkText (Path.join directory name) = .ok ())
    (misses : disk.Misses greatestLinkCount (origin disk.workingDirectory directory)
      (Path.stem directory)) :
    disk.removeFile (Path.join directory name) = .error .notFound := by
  have trimmed : (Path.pieces (Path.join directory name)).reverse.dropWhile String.isEmpty =
      name :: (Path.stem directory).reverse := by
    rw [Path.pieces_join directory named, List.reverse_concat, List.dropWhile_cons_of_neg]
    simpa using Path.ne_empty named
  have unplaced : disk.place (Path.join directory name) = .error .notFound := by
    rw [place, text, trimmed, origin_join _ _ named]
    rcases misses with missing | ⟨last, absent, missing⟩
    · simp only [ok_bind, List.reverse_reverse, missing]
      rfl
    · simp only [ok_bind, List.reverse_reverse, missing]
      rfl
  rw [removeFile, unplaced]
  rfl

/-- When one file of a directory could be removed, another one can be removed or is not found. -/
theorem removeFile_after_removeFile {bytes : Bytes} (tree : disk.IsTree)
    (named : Path.isName name = true) (otherNamed : Path.isName other = true)
    (differ : other ≠ name) (removed : disk.removeFile (Path.join directory other) = .ok after)
    (read : disk.readFile (Path.join directory name) = .ok bytes) {error : IoError}
    (kept : after.removeFile (Path.join directory name) = .error error) : error = .notFound := by
  obtain ⟨location, identity, mode, located, file⟩ := readFile_eq_ok_iff.mp read
  obtain ⟨home, leads, names, present⟩ := Names.of_locate_join named located
  obtain ⟨place, node, removedNames, found, solid, rfl⟩ := removeFile_eq_ok removed
  obtain ⟨home_, again, removedText, removedShort, rfl⟩ := removedNames.join otherNamed
  obtain rfl := leads.eq again
  have unsealed : disk.isSealed home = false := by
    rw [removeFile_join otherNamed removedShort removedText leads, found] at removed
    cases locked : disk.isSealed home with
    | false => rfl
    | true => simp [locked] at removed
  have noDirectory := (isDirectoryAt_of_get? found).trans solid
  obtain ⟨⟨left, reached⟩, inside⟩ := leads
  rcases reached.erase tree (by simp) noDirectory with reached | misses
  · have leads : (disk.erase (home ++ [other])).Leads directory home :=
      ⟨⟨left, reached⟩, isDirectoryAt_erase tree (by simp) noDirectory inside⟩
    have removal := removeFile_join named names.short names.checkText leads
    have lookup := get?_erase disk (home ++ [name]) (show home ++ [other] ≠ [] by simp)
    rw [if_neg (append_ne home differ)] at lookup
    obtain ⟨here, there⟩ := Option.isSome_iff_exists.mp present
    have noFolder : here.isDirectory = false := by
      cases here with
      | directory folder =>
          have same := names.locate (Path.getLast?_join _ named) there (by rintro target ⟨⟩)
          obtain rfl := Except.ok.inj (located.symm.trans same)
          cases there.symm.trans file
      | file => rfl
      | link => rfl
    have open_ : (disk.erase (home ++ [other])).isSealed home = false := unsealed
    rw [lookup, there] at removal
    simp only [open_, noFolder, Bool.false_eq_true, if_false] at removal
    cases removal.symm.trans kept
  · have missing := removeFile_of_misses named names.checkText misses
    exact Except.error.inj (kept.symm.trans missing)

end SelfUpdate.Disk
