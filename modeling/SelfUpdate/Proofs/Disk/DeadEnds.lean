import SelfUpdate.Proofs.Disk.Vacancies

/-!
# Where no way goes on

A walk never goes on past a file, nor past a link that leads to a file. So when such an entry is
removed every directory is still reached by the way that led to it.
-/

namespace SelfUpdate.Disk

variable {disk : Disk} {location other home place : Location} {directory : Path} {name : String}

/-! ## How many links may be followed -/

namespace Reaches

variable {links left more right : Nat} {pieces : List String}

/-- A walk is the same when more links may be followed. -/
theorem with_more (reached : Reaches disk links location pieces left home) (extra : Nat) :
    Reaches disk (links + extra) location pieces (left + extra) home := by
  induction reached with
  | here => exact .here _ _
  | idle inside nothing _ ih => exact .idle inside nothing ih
  | up inside _ ih => exact .up inside ih
  | through inside named short found _ ih =>
      rw [Nat.add_right_comm]
      exact .through inside named short found ih
  | into inside named short found solid _ ih => exact .into inside named short found solid ih

/-- Where pieces lead does not depend on how many links may be followed. -/
theorem unique (first : Reaches disk links location pieces left home)
    (second : Reaches disk more location pieces right other) : home = other := by
  have early := first.with_more more
  have late := second.with_more links
  rw [Nat.add_comm] at late
  exact early.eq_of_reaches late

end Reaches

/-! ## Dead ends -/

/-- No directory, and no link to one. -/
structure DeadEnd (disk : Disk) (place : Location) : Prop where
  solid : disk.isDirectoryAt place = false
  stray : ∀ target, disk.get? place = some (.link target) → ∀ links left home,
    Reaches disk links (origin place.dropLast target) (Path.pieces target) left home →
      disk.isDirectoryAt home = false

/-- Without a dead end every directory is reached as before. -/
theorem Reaches.erase_deadEnd {links left : Nat} {pieces : List String} (tree : disk.IsTree)
    (named : place ≠ []) (dead : disk.DeadEnd place)
    (reached : Reaches disk links location pieces left home)
    (inside : disk.isDirectoryAt home = true) :
    Reaches (disk.erase place) links location pieces left home := by
  have stays {location : Location} (held : disk.isDirectoryAt location = true) :
      (disk.erase place).isDirectoryAt location = true :=
    isDirectoryAt_erase tree named dead.solid held
  have lookup {other : Location} (differ : other ≠ place) :
      (disk.erase place).get? other = disk.get? other :=
    (tree.get?_erase_solid named dead.solid other).trans (if_neg differ)
  induction reached with
  | here => exact .here _ _
  | idle held nothing _ ih => exact .idle (stays held) nothing (ih inside)
  | up held _ ih => exact .up (stays held) (ih inside)
  | @through _ _ location _ piece rest target held proper short found onward ih =>
      refine .through (stays held) proper short ((lookup ?_).trans found) (ih inside)
      rintro rfl
      -- the way goes on from where the link leads, which would be a directory
      obtain ⟨middle, at_, first, second⟩ := onward.split
      have opened : (location ++ [piece]).dropLast = location := List.dropLast_concat
      rw [← opened] at first
      have astray := dead.stray target found _ _ _ first
      cases rest with
      | nil =>
          cases second
          cases astray.symm.trans inside
      | cons next rest => cases astray.symm.trans second.inside
  | @into _ _ location _ piece rest node held proper short found solid onward ih =>
      refine .into (stays held) proper short ((lookup ?_).trans found) solid (ih inside)
      rintro rfl
      cases rest with
      | nil =>
          cases onward
          cases dead.solid.symm.trans inside
      | cons next rest => cases dead.solid.symm.trans onward.inside

theorem Leads.erase_deadEnd (leads : disk.Leads directory home) (tree : disk.IsTree)
    (named : place ≠ []) (dead : disk.DeadEnd place) :
    (disk.erase place).Leads directory home := by
  obtain ⟨⟨left, reached⟩, inside⟩ := leads
  exact ⟨⟨left, reached.erase_deadEnd tree named dead inside⟩,
    isDirectoryAt_erase tree named dead.solid inside⟩

/-! ## Names that lead to files -/

theorem isFile_iff_readFile {path : Path} :
    disk.isFile path = true ↔ ∃ bytes, disk.readFile path = .ok bytes := by
  simp only [isFile_iff, readFile_eq_ok_iff, node?]
  cases disk.locate path with
  | error error => simp [Except.toOption]
  | ok location =>
      simp only [Except.toOption, Option.bind_some, Except.ok.injEq]
      constructor
      · rintro ⟨identity, mode, bytes, found⟩
        exact ⟨bytes, location, identity, mode, rfl, found⟩
      · rintro ⟨bytes, _, identity, mode, rfl, found⟩
        exact ⟨identity, mode, bytes, found⟩

/-- A name that leads to a file is that of a file, or of a link that leads to no directory. -/
theorem deadEnd_of_isFile (named : Path.isName name = true) (leads : disk.Leads directory home)
    (file : disk.isFile (Path.join directory name) = true) :
    disk.DeadEnd (home ++ [name]) ∧ (disk.get? (home ++ [name])).isSome = true ∧
      checkText (Path.join directory name) = .ok () ∧ isTooLong name = false := by
  obtain ⟨bytes, read⟩ := isFile_iff_readFile.mp file
  obtain ⟨location, identity, mode, located, found⟩ := readFile_eq_ok_iff.mp read
  have solid : disk.isDirectoryAt location = false := by
    simp [isDirectoryAt, found, Node.isDirectory]
  obtain ⟨text, left, reached⟩ := locate_eq_ok_iff.mp located
  rw [Path.pieces_join directory named, origin_join _ _ named] at reached
  obtain ⟨middle, at_, first, second⟩ := reached.split
  obtain ⟨⟨_, way⟩, -⟩ := leads
  obtain rfl := first.eq_of_reaches way
  have present := (second.single named).2.1
  cases second with
  | idle _ nothing =>
      rcases nothing with same | same
      · exact absurd same (Path.ne_empty named)
      · exact absurd same (Path.ne_dot named)
  | up => exact absurd rfl (Path.ne_dots named)
  | through _ _ short link onward =>
      rw [List.append_nil] at onward
      refine ⟨⟨by simp [isDirectoryAt, link, Node.isDirectory], ?_⟩, present, text, short⟩
      intro target same links left home other
      cases link.symm.trans same
      rw [List.dropLast_concat] at other
      rw [other.unique onward]
      exact solid
  | into _ _ short here noLink onward =>
      cases onward
      refine ⟨⟨solid, fun target same => ?_⟩, present, text, short⟩
      cases found.symm.trans same

/-- Where entries were only removed, what leads to a file led to one before. -/
theorem isFile_of_lookups {before after : Disk} {path : Path}
    (kept : ∀ other node, after.get? other = some node → before.get? other = some node)
    (base : before.workingDirectory = after.workingDirectory)
    (file : after.isFile path = true) : before.isFile path = true := by
  obtain ⟨bytes, read⟩ := isFile_iff_readFile.mp file
  have ways : KeepsWays after before := .of_lookups fun other node there _ => kept other node there
  exact isFile_iff_readFile.mpr ⟨bytes, ways.keepsFile base
    (fun location _ _ _ _ found => kept location _ found) bytes read⟩

end SelfUpdate.Disk
