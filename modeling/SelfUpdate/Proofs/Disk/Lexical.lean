import SelfUpdate.Proofs.Disk.Changes

/-!
# Disks without links

Where there are no links the text of a path alone says where it leads.
-/

namespace SelfUpdate.Disk

variable {disk : Disk} {location home : Location} {directory : Path}

/-- Where pieces lead from a location when no link is met. -/
def follow (location : Location) : List String → Location
  | [] => location
  | piece :: rest =>
    if piece = "" ∨ piece = "." then follow location rest
    else if piece = ".." then follow location.dropLast rest
    else follow (location ++ [piece]) rest

theorem follow_append (before after : List String) :
    follow location (before ++ after) = follow (follow location before) after := by
  induction before generalizing location with
  | nil => rfl
  | cons piece before ih =>
      simp only [List.cons_append, follow]
      split
      · exact ih
      · split
        · exact ih
        · exact ih

theorem follow_name {name : String} (named : Path.isName name = true) :
    follow location [name] = location ++ [name] := by
  simp [follow, Path.ne_empty named, Path.ne_dot named, Path.ne_dots named]

theorem Reaches.eq_follow (linkFree : disk.LinkFree) {links left : Nat} {pieces : List String}
    (reached : Reaches disk links location pieces left home) : home = follow location pieces := by
  induction reached with
  | here links location => rfl
  | idle inside nothing onward ih => rw [follow, if_pos nothing, ih]
  | up inside onward ih => rw [follow, if_neg (by simp), if_pos rfl, ih]
  | through inside named short found onward ih => exact absurd found (linkFree _ _)
  | into inside named short found solid onward ih =>
      rw [follow, if_neg (by simp [named]), if_neg named.2.2, ih]

/-- The place of a directory, when no link is on its path. -/
def placeOf (base : Location) (directory : Path) : Location :=
  follow (origin base directory) (Path.stem directory)

theorem Leads.eq_placeOf (linkFree : disk.LinkFree) (leads : disk.Leads directory home) :
    home = placeOf disk.workingDirectory directory := by
  obtain ⟨⟨_, reached⟩, -⟩ := leads
  exact reached.eq_follow linkFree

/-- Where a path leads, when no link is on it. -/
def destination (base : Location) (path : Path) : Location :=
  follow (origin base path) (Path.pieces path)

theorem destination_join (base : Location) (directory : Path) {name : String}
    (named : Path.isName name = true) :
    destination base (Path.join directory name) = placeOf base directory ++ [name] := by
  rw [destination, Path.pieces_join directory named, origin_join _ _ named, follow_append,
    follow_name named]
  rfl

end SelfUpdate.Disk
